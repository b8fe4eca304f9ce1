import TraceGlass.Monitor.Diff
import TraceGlass.Store.OrderIndependence
import TraceGlass.Lib.Lists

/-!
# Fallback mode with known identities

Without ETW the poller is the only producer.  When every snapshot names its processes in full,
compatible keys are equal keys, and what a run reports of one key is decided by where the key is
listed: nothing before it is, a START while it is, a START and a STOP after.  `Lists` is that
invariant.  With a key never coming back, every report is then news where it arrives, so the store
accepts them all and its active records are those of the last snapshot.
-/

namespace TraceGlass

/-- A snapshot that names its processes in full, no PID twice. -/
structure Identified (keys : List ProcessKey) : Prop where
  nodup : (keys.map ProcessKey.pid).Nodup
  known : ∀ key ∈ keys, key.pid ≠ 0 ∧ key.creationTime ≠ 0

instance (keys : List ProcessKey) : Decidable (Identified keys) :=
  decidable_of_iff ((keys.map ProcessKey.pid).Nodup ∧
      ∀ key ∈ keys, key.pid ≠ 0 ∧ key.creationTime ≠ 0)
    ⟨fun h => ⟨h.1, h.2⟩, fun h => ⟨h.nodup, h.known⟩⟩

/-! ## The difference of two identified snapshots -/

lemma any_processKeysMatch {keys : List ProcessKey} (h : ∀ k ∈ keys, k.creationTime ≠ 0)
    {key : ProcessKey} (hkey : key.creationTime ≠ 0) :
    (keys.any fun k => processKeysMatch k key) = decide (key ∈ keys) := by
  rw [Bool.eq_iff_iff, List.any_eq_true, decide_eq_true_eq]
  constructor
  · rintro ⟨k, hk, hmatch⟩
    obtain ⟨hpid, heq | hzero | hzero⟩ := processKeysMatch_iff.mp hmatch
    · exact ProcessKey.ext hpid heq ▸ hk
    · exact absurd hzero (h k hk)
    · exact absurd hzero hkey
  · exact fun hmem => ⟨key, hmem, processKeysMatch_iff.mpr ⟨rfl, .inl rfl⟩⟩

/-- The keys of one snapshot that have no counterpart in the other. -/
lemma filter_unmatched {keys others : List ProcessKey} (h : ∀ k ∈ keys, k.creationTime ≠ 0)
    (hothers : ∀ k ∈ others, k.creationTime ≠ 0) :
    (keys.filter fun key => !others.any fun k => processKeysMatch k key) =
      keys.filter fun key => decide (key ∉ others) := by
  refine List.filter_congr fun key hkey => ?_
  rw [any_processKeysMatch hothers (h key hkey), decide_not]

/-- What one kind of report says of one key. -/
lemma filter_reports {keys others : List ProcessKey} (hkeys : Identified keys) (kind : ReportKind)
    (key : ProcessKey) :
    (((keys.filter fun k => decide (k ∉ others)).map (⟨kind, ·⟩)).filter fun r : Report =>
        r.key == key) =
      if key ∈ keys ∧ key ∉ others then [⟨kind, key⟩] else [] := by
  have hnodup : (keys.filter fun k => decide (k ∉ others)).Nodup := hkeys.nodup.of_map.filter _
  rw [List.filter_map]
  have hpred : (fun r : Report => r.key == key) ∘ (fun k => (⟨kind, k⟩ : Report)) =
      fun k => k == key := rfl
  rw [hpred, ListLib.filter_beq_of_nodup hnodup]
  by_cases hmem : key ∈ keys ∧ key ∉ others <;> simp [hmem]

/-- What the difference of two identified snapshots says of one key. -/
lemma filter_snapshotDiff {previous current : List ProcessKey} (hprevious : Identified previous)
    (hcurrent : Identified current) (key : ProcessKey) :
    ((snapshotDiff previous current).filter fun r => r.key == key) =
      (if key ∈ current ∧ key ∉ previous then [⟨.start, key⟩] else []) ++
        if key ∈ previous ∧ key ∉ current then [⟨.stop, key⟩] else [] := by
  have hp : ∀ k ∈ previous, k.creationTime ≠ 0 := fun k hk => (hprevious.known k hk).2
  have hc : ∀ k ∈ current, k.creationTime ≠ 0 := fun k hk => (hcurrent.known k hk).2
  rw [snapshotDiff, filter_unmatched hc hp, filter_unmatched hp hc, List.filter_append,
    filter_reports hcurrent, filter_reports hprevious]

lemma known_snapshotDiff {previous current : List ProcessKey} (hprevious : Identified previous)
    (hcurrent : Identified current) : ∀ r ∈ snapshotDiff previous current, r.Known := by
  intro r hr
  rcases List.mem_append.mp hr with hr | hr <;>
    obtain ⟨key, hkey, rfl⟩ := List.mem_map.mp hr
  · exact hcurrent.known key (List.mem_filter.mp hkey).1
  · exact hprevious.known key (List.mem_filter.mp hkey).1

/-! ## What a run says of one key -/

/-- What the reports of a run say of each key, given the snapshots. -/
structure Lists (snapshots : List (List ProcessKey)) (reports : List Report) : Prop where
  known : ∀ r ∈ reports, r.Known
  listed : ∀ key ∈ snapshots.getLast?.getD [],
    (reports.filter fun r => r.key == key) = [⟨.start, key⟩]
  gone : ∀ key ∉ snapshots.getLast?.getD [], (∃ s ∈ snapshots, key ∈ s) →
    (reports.filter fun r => r.key == key) = [⟨.start, key⟩, ⟨.stop, key⟩]
  unseen : ∀ key, (∀ s ∈ snapshots, key ∉ s) → (reports.filter fun r => r.key == key) = []

lemma snapshotRun_last (snapshots : List (List ProcessKey)) :
    (snapshotRun snapshots).1 = snapshots.getLast?.getD [] := by
  rcases List.eq_nil_or_concat snapshots with rfl | ⟨init, last, rfl⟩
  · rfl
  · simp

lemma identified_last {snapshots : List (List ProcessKey)} (h : ∀ s ∈ snapshots, Identified s) :
    Identified (snapshots.getLast?.getD []) := by
  cases hlast : snapshots.getLast? with
  | none => exact ⟨List.nodup_nil, by simp⟩
  | some last => exact h last (List.mem_of_getLast? hlast)

/-- **What a run reports of a key is decided by where the key is listed.** -/
theorem lists_snapshotRun {snapshots : List (List ProcessKey)}
    (hid : ∀ s ∈ snapshots, Identified s) (hcont : ListLib.Contiguous snapshots) :
    Lists snapshots (snapshotRun snapshots).2 := by
  induction snapshots using List.reverseRecOn with
  | nil => exact ⟨by simp, by simp, by simp, by simp⟩
  | append_singleton snapshots current ih =>
    have hbefore : ∀ s ∈ snapshots, Identified s := fun s hs => hid s (by simp [hs])
    have hcurrent : Identified current := hid current (by simp)
    have hprevious := identified_last hbefore
    have hrun := ih hbefore hcont.left
    have hback : ∀ key ∈ current, (∃ s ∈ snapshots, key ∈ s) →
        key ∈ snapshots.getLast?.getD [] := by
      rintro key hkey ⟨s, hs, hmem⟩
      exact hcont.mem_last hkey hs hmem
    have hseen : ∀ key ∈ snapshots.getLast?.getD [], ∃ s ∈ snapshots, key ∈ s := by
      intro key hkey
      cases hlast : snapshots.getLast? with
      | none => simp [hlast] at hkey
      | some last => exact ⟨last, List.mem_of_getLast? hlast, by simpa [hlast] using hkey⟩
    have hdiff := filter_snapshotDiff hprevious hcurrent
    have hlast : (snapshots ++ [current]).getLast?.getD [] = current := by
      rw [List.getLast?_concat, Option.getD_some]
    rw [snapshotRun_snoc, snapshotRun_last]
    simp only
    constructor
    · intro r hr
      rcases List.mem_append.mp hr with hr | hr
      · exact hrun.known r hr
      · exact known_snapshotDiff hprevious hcurrent r hr
    · intro key hkey
      rw [hlast] at hkey
      rw [List.filter_append, hdiff]
      by_cases hold : key ∈ snapshots.getLast?.getD []
      · rw [hrun.listed key hold]
        simp [hkey, hold]
      · -- a new key was in no snapshot before, or it would have come back
        have hnever : ∀ s ∈ snapshots, key ∉ s := fun s hs hmem =>
          hold (hback key hkey ⟨s, hs, hmem⟩)
        rw [hrun.unseen key hnever]
        simp [hkey, hold]
    · intro key hkey hever
      rw [hlast] at hkey
      rw [List.filter_append, hdiff]
      by_cases hold : key ∈ snapshots.getLast?.getD []
      · rw [hrun.listed key hold]
        simp [hkey, hold]
      · have hearlier : ∃ s ∈ snapshots, key ∈ s := by
          obtain ⟨s, hs, hmem⟩ := hever
          rcases List.mem_append.mp hs with hs | hs
          · exact ⟨s, hs, hmem⟩
          · rw [List.mem_singleton] at hs
            exact absurd (hs ▸ hmem) hkey
        rw [hrun.gone key hold hearlier]
        simp [hkey, hold]
    · intro key hnever
      have hnew : key ∉ current := hnever current (by simp)
      have hnone : ∀ s ∈ snapshots, key ∉ s := fun s hs => hnever s (by simp [hs])
      have hold : key ∉ snapshots.getLast?.getD [] := fun hmem => by
        obtain ⟨s, hs, hin⟩ := hseen key hmem
        exact hnone s hs hin
      rw [List.filter_append, hrun.unseen key hnone, hdiff]
      simp [hnew, hold]

namespace Lists

variable {snapshots : List (List ProcessKey)} {reports : List Report}

/-- A key with a report has been listed. -/
lemma ever (h : Lists snapshots reports) {r : Report} (hr : r ∈ reports) :
    ∃ s ∈ snapshots, r.key ∈ s := by
  by_contra hnever
  have hnone := h.unseen r.key fun s hs hmem => hnever ⟨s, hs, hmem⟩
  have hmem : r ∈ reports.filter fun r' => r'.key == r.key := List.mem_filter.mpr ⟨hr, by simp⟩
  rw [hnone] at hmem
  cases hmem

/-- What the run says of the key of one of its reports. -/
lemma cases_of_mem (h : Lists snapshots reports) {r : Report} (hr : r ∈ reports) :
    (reports.filter fun r' => r'.key == r.key) = [⟨.start, r.key⟩] ∨
      (reports.filter fun r' => r'.key == r.key) = [⟨.start, r.key⟩, ⟨.stop, r.key⟩] := by
  by_cases hlast : r.key ∈ snapshots.getLast?.getD []
  · exact .inl (h.listed r.key hlast)
  · exact .inr (h.gone r.key hlast (h.ever hr))

/-- Every report of the run is news where it arrives. -/
theorem news (h : Lists snapshots reports) {before after : List Report} {r : Report}
    (hsplit : reports = before ++ r :: after) : Table.News before r := by
  have hcases := h.cases_of_mem (r := r) (by simp [hsplit])
  rw [hsplit, List.filter_append, List.filter_cons_of_pos (by simp)] at hcases
  obtain ⟨kind, key⟩ := r
  have hempty : ∀ r' ∈ before, r'.key = key →
      r' ∈ before.filter fun r => r.key == key := fun r' hr' heq =>
    List.mem_filter.mpr ⟨hr', by simpa using heq⟩
  simp only at hcases
  generalize (before.filter fun r => r.key == key) = earlier at hcases hempty
  generalize (after.filter fun r => r.key == key) = later at hcases
  cases kind with
  | start =>
    intro r' hr' heq
    have hmem := hempty r' hr' heq
    rcases earlier with _ | ⟨e, _ | ⟨e', earlier⟩⟩ <;> simp_all
  | stop =>
    intro hmem
    have hstop := hempty _ hmem rfl
    rcases earlier with _ | ⟨e, _ | ⟨e', earlier⟩⟩ <;> simp_all

end Lists

/-! ## The store -/

/-- The store after a run of polls, every event pushed having been added in order. -/
def pollStore (w : Win32) (qsort : SortedArray.QSort snapshotLe) (inputs : List PollInput) :
    EventStore :=
  addEvents eventStoreInitialize (pollRun w qsort inputs).2

/-- The store's view of a captured snapshot with known identities. -/
structure TracksExactly (store : EventStore) (snapshots : List (List ProcessKey))
    (current : List ProcessKey) : Prop where
  /-- The keys of the active records are the keys listed. -/
  active_iff : ∀ key, (∃ record ∈ store.processes, record.active = true ∧ record.key = key) ↔
    key ∈ current
  /-- The history holds one START of every key ever listed, and one STOP after it if the key is
  listed no longer. -/
  history_eq : ∀ key, (∃ s ∈ snapshots, key ∈ s) →
    (store.historyReports.filter fun r => r.key == key) =
      if key ∈ current then [⟨.start, key⟩] else [⟨.start, key⟩, ⟨.stop, key⟩]

lemma pollRun_append (w : Win32) (qsort : SortedArray.QSort snapshotLe)
    (inputs more : List PollInput) :
    ∃ pushed, (pollRun w qsort (inputs ++ more)).2 = (pollRun w qsort inputs).2 ++ pushed := by
  induction more using List.reverseRecOn with
  | nil => exact ⟨[], by simp⟩
  | append_singleton more input ih =>
    obtain ⟨pushed, hpushed⟩ := ih
    let last := processMonitorPoll w qsort (pollRun w qsort (inputs ++ more)).1 input
    refine ⟨pushed ++ last.pushed, ?_⟩
    rw [← List.append_assoc, pollRun_snoc, ← List.append_assoc, ← hpushed]
    rfl

/-- The reports of a run of polls over identified snapshots. -/
lemma lists_pollRun {w : Win32} {qsort : SortedArray.QSort snapshotLe} {inputs : List PollInput}
    (hid : ∀ s ∈ captures qsort inputs, Identified s)
    (hcont : ListLib.Contiguous (captures qsort inputs)) :
    Lists (captures qsort inputs) (reportsOf (pollRun w qsort inputs).2) := by
  rw [(pollRun_tracks w qsort inputs).reports]
  exact lists_snapshotRun hid hcont

/-- Every event a run pushed was accepted where it was added. -/
lemma accepted_pollRun {w : Win32} {qsort : SortedArray.QSort snapshotLe}
    {inputs : List PollInput} (hid : ∀ s ∈ captures qsort inputs, Identified s)
    (hcont : ListLib.Contiguous (captures qsort inputs))
    (halloc : AllocationsSucceed eventStoreInitialize (pollRun w qsort inputs).2)
    {before after : List TraceGlassEvent} {event : TraceGlassEvent}
    (hsplit : (pollRun w qsort inputs).2 = before ++ event :: after) :
    (eventStoreAdd .succeed (addEvents eventStoreInitialize before) event).accepted = true := by
  have hlists := lists_pollRun (w := w) hid hcont
  rw [hsplit] at halloc hlists
  have hknown : KeysKnown (before ++ event :: after) := by
    intro e he hrep
    obtain ⟨r, hr, hkey⟩ := exists_reportsOf_key.mpr ⟨e, he, hrep, rfl⟩
    exact hkey ▸ hlists.known r hr
  cases hreport : reportOf event with
  | none =>
    have hadd := (eventStoreAdd_succeed (allocationsSucceed_append.mp halloc).2.1 event).2.2.1
    rw [hadd, Table.add, hreport]
  | some report =>
    have hreports : reportsOf (before ++ event :: after) =
        reportsOf before ++ report :: reportsOf after := by
      rw [reportsOf_append, reportsOf, reportsOf, List.filterMap_cons_some hreport]
      rfl
    rw [accepted_at hknown halloc hreport]
    exact hlists.news hreports

/-- The store at the end of a run that captured a snapshot last. -/
lemma tracksExactly_pollStore {w : Win32} {qsort : SortedArray.QSort snapshotLe}
    {inputs : List PollInput} (hid : ∀ s ∈ captures qsort inputs, Identified s)
    (hcont : ListLib.Contiguous (captures qsort inputs))
    (halloc : AllocationsSucceed eventStoreInitialize (pollRun w qsort inputs).2) :
    TracksExactly (pollStore w qsort inputs) (captures qsort inputs)
      ((captures qsort inputs).getLast?.getD []) := by
  have hlists := lists_pollRun (w := w) hid hcont
  have htable := table_addEvents halloc
  have hsum : (pollStore w qsort inputs).table.Summarizes
      (reportsOf (pollRun w qsort inputs).2) := by
    rw [pollStore, htable]
    exact Table.summarizes_nil.applyAll hlists.known
  have hmem : ∀ r : Report, r ∈ reportsOf (pollRun w qsort inputs).2 ↔
      r ∈ (reportsOf (pollRun w qsort inputs).2).filter fun r' => r'.key == r.key := by
    simp
  constructor
  · intro key
    rw [show (∃ record ∈ (pollStore w qsort inputs).processes,
        record.active = true ∧ record.key = key) ↔
          ∃ s ∈ (pollStore w qsort inputs).table, s.active = true ∧ s.key = key from
      EventStore.exists_processes (p := fun s => s.active = true ∧ s.key = key)]
    constructor
    · rintro ⟨s, hs, hactive, rfl⟩
      obtain ⟨hstart, hstop⟩ := (hsum.active_iff s hs).mp hactive
      by_contra hlast
      refine hstop ((hmem _).mpr ?_)
      rw [hlists.gone s.key hlast (hlists.ever hstart)]
      simp
    · intro hlast
      have hfilter := hlists.listed key hlast
      have hstart : (⟨.start, key⟩ : Report) ∈ reportsOf (pollRun w qsort inputs).2 :=
        (hmem _).mpr (by simp [hfilter])
      have hstop : (⟨.stop, key⟩ : Report) ∉ reportsOf (pollRun w qsort inputs).2 :=
        fun hin => by simpa [hfilter] using (hmem _).mp hin
      obtain ⟨s, hs, hkey⟩ := (hsum.key_iff key).mpr ⟨_, hstart, rfl⟩
      exact ⟨s, hs, (hsum.active_iff s hs).mpr (hkey ▸ ⟨hstart, hstop⟩), hkey⟩
  · intro key hever
    have haccepted := Table.summarizes_nil.accepted_eq_self hlists.known
      fun before r after hsplit => by simpa using hlists.news hsplit
    have hhistory : (pollStore w qsort inputs).historyReports =
        reportsOf (pollRun w qsort inputs).2 := by
      rw [pollStore, historyReports_addEvents halloc]
      exact haccepted
    rw [hhistory]
    split
    · next hlast => exact hlists.listed key hlast
    · next hlast => exact hlists.gone key hlast hever

/-- **Fallback mode tracks the system.**  Poll any number of times, failed polls included, where
every snapshot captured names its processes in full, no PID twice, and no process comes back after
it was missing.  After every poll that captured a snapshot the active records are the processes
listed; every event pushed so far was accepted; and the history holds, of every process ever listed,
one START and, if it is listed no longer, one STOP after it. -/
theorem fallback_tracksExactly {w : Win32} {qsort : SortedArray.QSort snapshotLe}
    {inputs : List PollInput} (hid : ∀ s ∈ captures qsort inputs, Identified s)
    (hcont : ListLib.Contiguous (captures qsort inputs))
    (halloc : AllocationsSucceed eventStoreInitialize (pollRun w qsort inputs).2)
    {polls : List PollInput} {input : PollInput} {rest : List PollInput}
    (hsplit : inputs = polls ++ input :: rest) {current : List ProcessSnapshotEntry}
    (hcapture : captureProcesses qsort input = some current) :
    TracksExactly (pollStore w qsort (polls ++ [input])) (captures qsort (polls ++ [input]))
        (snapshotKeys current) ∧
      ∀ (before : List TraceGlassEvent) (event : TraceGlassEvent) (after : List TraceGlassEvent),
        (pollRun w qsort (polls ++ [input])).2 = before ++ event :: after →
          (eventStoreAdd .succeed (addEvents eventStoreInitialize before) event).accepted =
            true := by
  have hinputs : inputs = (polls ++ [input]) ++ rest := by simp [hsplit]
  have hcaptures : captures qsort inputs =
      captures qsort (polls ++ [input]) ++ captures qsort rest := by
    rw [hinputs]
    exact List.filterMap_append
  obtain ⟨pushed, hpushed⟩ := pollRun_append w qsort (polls ++ [input]) rest
  rw [hcaptures] at hid hcont
  rw [hinputs, hpushed] at halloc
  have hid' : ∀ s ∈ captures qsort (polls ++ [input]), Identified s := fun s hs =>
    hid s (List.mem_append_left _ hs)
  have halloc' := (allocationsSucceed_append.mp halloc).1
  have htracks := tracksExactly_pollStore hid' hcont.left halloc'
  rw [captures_snoc_some hcapture] at htracks ⊢
  rw [List.getLast?_append, List.getLast?_singleton] at htracks
  refine ⟨htracks, fun before event after hevents => ?_⟩
  exact accepted_pollRun hid' hcont.left halloc' hevents

/-- PID 8 passes from one process to the next between two polls. -/
def reusePolls : List PollInput :=
  [samplePoll [sampleRow 8 (some 5)], samplePoll [sampleRow 8 (some 6)]]

/-- There the START of the new process is pushed before the STOP of the old one, and both are
accepted. -/
theorem fallback_tracksExactly_reusePolls :
    TracksExactly (pollStore .sample snapshotInsertion reusePolls)
      (captures snapshotInsertion reusePolls) [⟨8, 6⟩] :=
  (@fallback_tracksExactly .sample snapshotInsertion reusePolls
    (by decide +kernel) (by decide +kernel) (by decide +kernel)
    [samplePoll [sampleRow 8 (some 5)]] (samplePoll [sampleRow 8 (some 6)]) [] rfl
    [snapshotEntry (sampleRow 8 (some 6))] (by decide +kernel)).1

end TraceGlass
