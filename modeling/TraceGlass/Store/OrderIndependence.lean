import TraceGlass.Store.Refinement
import Mathlib.Data.List.Perm.Lattice
import Mathlib.Data.List.Nodup

/-!
# Reports with known keys commute

When every report names a PID and a creation time, matching is equality of keys and the wildcard
never fires.  The table is then a summary of the set of reports seen so far: one slot per key,
active when a START and no STOP has been seen.  `Summarizes` is that invariant and
`Summarizes.apply` its step, with the verdict on the report; neither mentions the order the reports
came in, which is why any two orders agree.
-/

namespace TraceGlass

/-- A report whose key names one process instance. -/
def Report.Known (report : Report) : Prop :=
  report.key.pid ≠ 0 ∧ report.key.creationTime ≠ 0

namespace Table

/-- The table is the summary of the reports: one slot per key, active when a START and no STOP is
among them. -/
structure Summarizes (table : Table) (reports : List Report) : Prop where
  known : ∀ s ∈ table, s.key.creationTime ≠ 0
  nodup : (table.map Slot.key).Nodup
  key_iff : ∀ key, (∃ s ∈ table, s.key = key) ↔ ∃ r ∈ reports, r.key = key
  active_iff : ∀ s ∈ table,
    s.active = true ↔ ⟨.start, s.key⟩ ∈ reports ∧ ⟨.stop, s.key⟩ ∉ reports

/-- A report that is news where it arrives after the reports `before`. -/
def News (before : List Report) (report : Report) : Prop :=
  match report.kind with
  | .start => ∀ r ∈ before, r.key ≠ report.key
  | .stop => (⟨.stop, report.key⟩ : Report) ∉ before

@[simp] lemma news_start {before : List Report} {key : ProcessKey} :
    News before ⟨.start, key⟩ ↔ ∀ r ∈ before, r.key ≠ key := Iff.rfl

@[simp] lemma news_stop {before : List Report} {key : ProcessKey} :
    News before ⟨.stop, key⟩ ↔ ⟨.stop, key⟩ ∉ before := Iff.rfl

lemma summarizes_nil : Summarizes [] [] :=
  ⟨by simp, List.nodup_nil, by simp, by simp⟩

/-- Among known slots a known key refers to the slot that carries it. -/
lemma Refers.key_eq {table r : Table} {key : ProcessKey} {s : Slot} (h : Refers table key s r)
    (hs : s.key.creationTime ≠ 0) (hkey : key.creationTime ≠ 0) : s.key = key := by
  rcases h with ⟨hexact, -⟩ | ⟨-, hfall, -⟩
  · exact (Slot.exact_iff.mp hexact).2.2
  · obtain ⟨-, hpid, htime, -⟩ := Slot.fallback_iff.mp hfall
    have heq : s.key.creationTime = key.creationTime := by
      rcases htime with heq | hzero | hzero
      · exact heq
      · exact absurd hzero hs
      · exact absurd hzero hkey
    exact ProcessKey.ext hpid heq

/-- A known key that refers to nothing is carried by no slot. -/
lemma Unmatched.key_ne {table : Table} {key : ProcessKey} (h : Unmatched table key)
    (hpid : key.pid ≠ 0) (hkey : key.creationTime ≠ 0) {s : Slot} (hs : s ∈ table) :
    s.key ≠ key := by
  intro heq
  have hexact := h.1 s hs
  rw [Slot.exact_iff.mpr ⟨hpid, hkey, heq⟩] at hexact
  cases hexact

namespace Summarizes

variable {table : Table} {reports : List Report}

/-- A slot keeps its reading when a report of another key arrives. -/
private lemma active_iff_snoc_of_ne (h : Summarizes table reports) {s : Slot} (hs : s ∈ table)
    {report : Report} (hne : s.key ≠ report.key) :
    s.active = true ↔ ⟨.start, s.key⟩ ∈ reports ++ [report] ∧
      ⟨.stop, s.key⟩ ∉ reports ++ [report] := by
  have hkind : ∀ kind, (⟨kind, s.key⟩ : Report) ≠ report := by
    rintro kind rfl
    exact hne rfl
  rw [h.active_iff s hs]
  simp [hkind]

/-- The slot list of a summary with its middle element replaced by one of the same key. -/
private lemma replace {l r : Table} {s s' : Slot} {report : Report}
    (h : Summarizes (l ++ s :: r) reports) (hs : s.key = report.key) (hs' : s'.key = s.key)
    (hactive : s'.active = true ↔ ⟨.start, s.key⟩ ∈ reports ++ [report] ∧
      ⟨.stop, s.key⟩ ∉ reports ++ [report]) :
    Summarizes (l ++ s' :: r) (reports ++ [report]) := by
  have hnodup := h.nodup
  have hother : ∀ y ∈ l ++ r, y ∈ l ++ s :: r ∧ y.key ≠ s.key := by
    intro y hy
    have hmem : y ∈ l ++ s :: r := ListLib.mem_middle.mpr (.inr hy)
    refine ⟨hmem, fun heq => ?_⟩
    rw [List.map_append, List.map_cons, List.nodup_middle, List.nodup_cons,
      ← List.map_append] at hnodup
    exact hnodup.1 (List.mem_map.mpr ⟨y, hy, heq⟩)
  have hmap : (l ++ s' :: r).map Slot.key = (l ++ s :: r).map Slot.key := by
    simp [hs']
  constructor
  · intro y hy
    rcases ListLib.mem_middle.mp hy with rfl | hy
    · rw [hs']
      exact h.known s (by simp)
    · exact h.known y (hother y hy).1
  · rw [hmap]
    exact hnodup
  · intro key
    have hkeys : (∃ y ∈ l ++ s' :: r, y.key = key) ↔ ∃ y ∈ l ++ s :: r, y.key = key := by
      rw [← List.mem_map, hmap, List.mem_map]
    rw [hkeys, h.key_iff]
    constructor
    · rintro ⟨r', hr', rfl⟩
      exact ⟨r', by simp [hr'], rfl⟩
    · rintro ⟨r', hr', rfl⟩
      rcases List.mem_append.mp hr' with hr' | hr'
      · exact ⟨r', hr', rfl⟩
      · -- the new report's key is that of `s`, which an earlier report named
        obtain rfl := List.mem_singleton.mp hr'
        exact (h.key_iff _).mp ⟨s, by simp, hs⟩
  · intro y hy
    rcases ListLib.mem_middle.mp hy with rfl | hy
    · rw [hs', hactive]
    · obtain ⟨hmem, hne⟩ := hother y hy
      exact h.active_iff_snoc_of_ne hmem (hs ▸ hne)

/-- The slot list of a summary with a slot for a new key at its end. -/
private lemma snoc {report : Report} {s : Slot} (h : Summarizes table reports)
    (hknown : report.key.creationTime ≠ 0) (hs : s.key = report.key)
    (hnew : ∀ y ∈ table, y.key ≠ report.key)
    (hactive : s.active = true ↔ report.kind = .start) :
    Summarizes (table ++ [s]) (reports ++ [report]) := by
  have hunseen : ∀ kind, (⟨kind, report.key⟩ : Report) ∉ reports := by
    intro kind hmem
    obtain ⟨y, hy, heq⟩ := (h.key_iff report.key).mpr ⟨_, hmem, rfl⟩
    exact hnew y hy heq
  constructor
  · intro y hy
    rcases List.mem_append.mp hy with hy | hy
    · exact h.known y hy
    · rw [List.mem_singleton.mp hy, hs]
      exact hknown
  · rw [List.map_append, List.map_singleton, List.nodup_append]
    refine ⟨h.nodup, List.nodup_singleton _, ?_⟩
    intro key hkey key' hkey'
    obtain ⟨y, hy, rfl⟩ := List.mem_map.mp hkey
    rw [List.mem_singleton.mp hkey', hs]
    exact hnew y hy
  · intro key
    simp only [List.mem_append, List.mem_singleton, or_and_right, exists_or, exists_eq_left,
      h.key_iff, hs]
  · intro y hy
    rcases List.mem_append.mp hy with hy | hy
    · exact h.active_iff_snoc_of_ne hy (hnew y hy)
    · rw [List.mem_singleton.mp hy, hs, hactive]
      obtain ⟨kind, key⟩ := report
      cases kind <;> simp [hunseen]

/-- **One report on a summary**: the table stays a summary, and the report is news exactly when it
is the first of its key, or a STOP no STOP of its key came before. -/
theorem apply (h : Summarizes table reports) {report : Report} (hknown : report.Known) :
    Summarizes (table.apply report).1 (reports ++ [report]) ∧
      ((table.apply report).2 = true ↔ News reports report) := by
  have happ := table.applied report
  generalize table.apply report = result at happ
  obtain ⟨hpid, htime⟩ := hknown
  cases happ with
  | @coalesced l r s key hsplit hs =>
    subst hsplit
    have hmem : s ∈ l ++ s :: r := by simp
    have hkey : s.key = key := hs.key_eq (h.known s hmem) htime
    have hlearn : (s.learn key).key = s.key := by
      rw [Slot.learn_key hs.pid htime, hkey]
    obtain ⟨r', hr', hr'key⟩ := (h.key_iff key).mp ⟨s, hmem, hkey⟩
    refine ⟨h.replace hkey hlearn ?_, by simpa using ⟨r', hr', hr'key⟩⟩
    rw [Slot.learn_active, h.active_iff s hmem, hkey]
    -- a slot without a START has a STOP, so the late START cannot wake it
    have hseen : (⟨.start, key⟩ : Report) ∈ reports ∨ (⟨.stop, key⟩ : Report) ∈ reports := by
      obtain ⟨kind, key'⟩ := r'
      cases kind <;> simp_all
    simp only [List.mem_append, List.mem_singleton, reduceCtorEq, Report.mk.injEq, false_and,
      or_false, true_and, or_true]
    tauto
  | @opened key hnone =>
    have hnew : ∀ y ∈ table, y.key ≠ key := fun y hy => hnone.key_ne hpid htime hy
    refine ⟨h.snoc htime rfl hnew (by simp), ?_⟩
    simp only [true_iff]
    intro r hr heq
    obtain ⟨y, hy, hykey⟩ := (h.key_iff key).mpr ⟨r, hr, heq⟩
    exact hnew y hy hykey
  | @ignored l r s key hsplit hs hactive =>
    subst hsplit
    have hmem : s ∈ l ++ s :: r := by simp
    have hkey : s.key = key := hs.key_eq (h.known s hmem) htime
    have hread := h.active_iff s hmem
    rw [hactive, hkey] at hread
    have hstop : (⟨.stop, key⟩ : Report) ∈ reports := by
      obtain ⟨⟨kind, key'⟩, hr', rfl⟩ := (h.key_iff key).mp ⟨s, hmem, hkey⟩
      cases kind with
      | stop => exact hr'
      | start =>
        by_contra hno
        simp_all
    refine ⟨h.replace hkey rfl ?_, by simpa using hstop⟩
    simp [hactive, hkey]
  | @closed l r s key hsplit hs hactive =>
    subst hsplit
    have hmem : s ∈ l ++ s :: r := by simp
    have hkey : s.key = key := hs.key_eq (h.known s hmem) htime
    have hlearn : (s.learn key).key = s.key := by
      rw [Slot.learn_key hs.pid htime, hkey]
    have hread := (h.active_iff s hmem).mp hactive
    refine ⟨h.replace hkey hlearn (by simp [hkey]), ?_⟩
    simpa [hkey] using hread.2
  | @stopped key hnone =>
    have hnew : ∀ y ∈ table, y.key ≠ key := fun y hy => hnone.key_ne hpid htime hy
    refine ⟨h.snoc htime rfl hnew (by simp), ?_⟩
    simp only [true_iff]
    intro hmem
    obtain ⟨y, hy, hykey⟩ := (h.key_iff key).mpr ⟨_, hmem, rfl⟩
    exact hnew y hy hykey

/-- A run of known reports leaves a summary of them. -/
theorem applyAll (h : Summarizes table reports) {more : List Report}
    (hknown : ∀ r ∈ more, r.Known) : Summarizes (table.applyAll more) (reports ++ more) := by
  induction more generalizing table reports with
  | nil => simpa using h
  | cons r more ih =>
    have hstep := (h.apply (hknown r (by simp))).1
    have hrest := ih hstep fun r' hr' => hknown r' (List.mem_cons_of_mem _ hr')
    rwa [List.append_assoc, List.singleton_append] at hrest

/-- Known reports that are all news where they arrive are all accepted. -/
theorem accepted_eq_self (h : Summarizes table reports) {more : List Report}
    (hknown : ∀ r ∈ more, r.Known)
    (hnews : ∀ before r after, more = before ++ r :: after → News (reports ++ before) r) :
    table.accepted more = more := by
  induction more generalizing table reports with
  | nil => rfl
  | cons r more ih =>
    obtain ⟨hstep, hverdict⟩ := h.apply (hknown r (by simp))
    have haccept : (table.apply r).2 = true := by
      have hfirst := hnews [] r more rfl
      rw [List.append_nil] at hfirst
      exact hverdict.mpr hfirst
    rw [accepted, if_pos haccept]
    congr 1
    refine ih hstep (fun r' hr' => hknown r' (List.mem_cons_of_mem _ hr')) ?_
    rintro before r' after rfl
    have hlater := hnews (r :: before) r' after rfl
    rwa [List.append_assoc, List.singleton_append]

/-- Two summaries of the same reports hold the same slots. -/
theorem perm {table' : Table} {reports' : List Report} (h : Summarizes table reports)
    (h' : Summarizes table' reports') (hsame : ∀ r, r ∈ reports ↔ r ∈ reports') :
    table.Perm table' := by
  refine (List.perm_ext_iff_of_nodup h.nodup.of_map h'.nodup.of_map).mpr ?_
  -- the key decides the slot, and the reports decide the key and the flag
  have hsub : ∀ {t t' : Table} {rs rs' : List Report}, Summarizes t rs → Summarizes t' rs' →
      (∀ r, r ∈ rs ↔ r ∈ rs') → ∀ s ∈ t, s ∈ t' := by
    intro t t' rs rs' ht ht' hrs s hs
    obtain ⟨r, hr, hrkey⟩ := (ht.key_iff s.key).mp ⟨s, hs, rfl⟩
    obtain ⟨s', hs', hkey⟩ := (ht'.key_iff s.key).mpr ⟨r, (hrs r).mp hr, hrkey⟩
    have hactive : s.active = s'.active := by
      rw [Bool.eq_iff_iff, ht.active_iff s hs, ht'.active_iff s' hs', hkey, hrs, hrs]
    have heq : s = s' := by
      cases s
      cases s'
      simp_all
    exact heq ▸ hs'
  exact fun s => ⟨hsub h h' hsame s, hsub h' h (fun r => (hsame r).symm) s⟩

end Summarizes

end Table

/-! ## The store -/

/-- An event `event_store_add` treats as a report. -/
def IsReport (event : TraceGlassEvent) : Prop :=
  event.type = .processStart ∨ event.type = .processStop

/-- Every START and STOP among the events names one process instance. -/
def KeysKnown (events : List TraceGlassEvent) : Prop :=
  ∀ e ∈ events, IsReport e → e.process.pid ≠ 0 ∧ e.process.creationTime ≠ 0

lemma mem_reportsOf_start {events : List TraceGlassEvent} {key : ProcessKey} :
    (⟨.start, key⟩ : Report) ∈ reportsOf events ↔
      ∃ e ∈ events, e.type = .processStart ∧ e.process = key := by
  rw [reportsOf, List.mem_filterMap]
  refine exists_congr fun e => and_congr_right fun _ => ?_
  cases htype : e.type <;> simp [reportOf, htype]

lemma mem_reportsOf_stop {events : List TraceGlassEvent} {key : ProcessKey} :
    (⟨.stop, key⟩ : Report) ∈ reportsOf events ↔
      ∃ e ∈ events, e.type = .processStop ∧ e.process = key := by
  rw [reportsOf, List.mem_filterMap]
  refine exists_congr fun e => and_congr_right fun _ => ?_
  cases htype : e.type <;> simp [reportOf, htype]

lemma exists_reportsOf_key {events : List TraceGlassEvent} {key : ProcessKey} :
    (∃ r ∈ reportsOf events, r.key = key) ↔ ∃ e ∈ events, IsReport e ∧ e.process = key := by
  constructor
  · rintro ⟨⟨kind, key'⟩, hr, rfl⟩
    cases kind with
    | start =>
      obtain ⟨e, he, htype, hkey⟩ := mem_reportsOf_start.mp hr
      exact ⟨e, he, .inl htype, hkey⟩
    | stop =>
      obtain ⟨e, he, htype, hkey⟩ := mem_reportsOf_stop.mp hr
      exact ⟨e, he, .inr htype, hkey⟩
  · rintro ⟨e, he, htype | htype, rfl⟩
    · exact ⟨⟨.start, e.process⟩, mem_reportsOf_start.mpr ⟨e, he, htype, rfl⟩, rfl⟩
    · exact ⟨⟨.stop, e.process⟩, mem_reportsOf_stop.mpr ⟨e, he, htype, rfl⟩, rfl⟩

lemma KeysKnown.reports {events : List TraceGlassEvent} (h : KeysKnown events) :
    ∀ r ∈ reportsOf events, r.Known := by
  intro r hr
  obtain ⟨e, he, hrep, hkey⟩ := exists_reportsOf_key.mp ⟨r, hr, rfl⟩
  rw [Report.Known, ← hkey]
  exact h e he hrep

/-- The table a run of known reports leaves. -/
lemma summarizes_addEvents {events : List TraceGlassEvent} (hknown : KeysKnown events)
    (halloc : AllocationsSucceed eventStoreInitialize events) :
    (addEvents eventStoreInitialize events).table.Summarizes (reportsOf events) := by
  rw [table_addEvents halloc]
  exact Table.summarizes_nil.applyAll hknown.reports

lemma EventStore.exists_processes {store : EventStore} {p : Slot → Prop} :
    (∃ record ∈ store.processes, p record.slot) ↔ ∃ s ∈ store.table, p s := by
  simp [EventStore.table]

lemma activeRecords_eq_countP (store : EventStore) :
    activeRecords store = store.table.countP Slot.active := by
  rw [activeRecords, EventStore.table, List.countP_map]
  rfl

/-- The verdict of the store on the event at one position of a run. -/
lemma accepted_at {before after : List TraceGlassEvent} {event : TraceGlassEvent}
    (hknown : KeysKnown (before ++ event :: after))
    (halloc : AllocationsSucceed eventStoreInitialize (before ++ event :: after))
    {report : Report} (hreport : reportOf event = some report) :
    (eventStoreAdd .succeed (addEvents eventStoreInitialize before) event).accepted = true ↔
      Table.News (reportsOf before) report := by
  have hbefore : KeysKnown before := fun e he => hknown e (List.mem_append_left _ he)
  obtain ⟨hpre, hrest⟩ := allocationsSucceed_append.mp halloc
  have hadd := (eventStoreAdd_succeed hrest.1 event).2.2.1
  have hreportKnown : report.Known := by
    refine hknown.reports report ?_
    rw [reportsOf_append, reportsOf, reportsOf, List.filterMap_cons, hreport]
    simp
  rw [hadd, Table.add, hreport]
  exact ((summarizes_addEvents hbefore hpre).apply hreportKnown).2

/-- **Order independence of the process table.**  Add any list of events whose reports name their
process, in any order and any number of times each.  The store ends with one record per key
reported, active exactly when a START and no STOP of the key was added; each report was accepted
exactly when it was the first of its key or, for a STOP, when no STOP of its key came before; and
every permutation of the list ends with the same keys, the same flags and the same count. -/
theorem processTable_orderIndependent {events : List TraceGlassEvent} (hknown : KeysKnown events)
    (halloc : AllocationsSucceed eventStoreInitialize events) :
    ((addEvents eventStoreInitialize events).processes.map ProcessRecord.key).Nodup ∧
    (∀ key : ProcessKey,
      (∃ record ∈ (addEvents eventStoreInitialize events).processes, record.key = key) ↔
        ∃ e ∈ events, IsReport e ∧ e.process = key) ∧
    (∀ record ∈ (addEvents eventStoreInitialize events).processes,
      record.active = true ↔
        (∃ e ∈ events, e.type = .processStart ∧ e.process = record.key) ∧
          ¬ ∃ e ∈ events, e.type = .processStop ∧ e.process = record.key) ∧
    (∀ (before : List TraceGlassEvent) (event : TraceGlassEvent) (after : List TraceGlassEvent),
      events = before ++ event :: after →
        (event.type = .processStart →
          ((eventStoreAdd .succeed (addEvents eventStoreInitialize before) event).accepted = true ↔
            ∀ e ∈ before, IsReport e → e.process ≠ event.process)) ∧
        (event.type = .processStop →
          ((eventStoreAdd .succeed (addEvents eventStoreInitialize before) event).accepted = true ↔
            ∀ e ∈ before, e.type = .processStop → e.process ≠ event.process))) ∧
    ∀ events' : List TraceGlassEvent, events.Perm events' →
      AllocationsSucceed eventStoreInitialize events' →
        (addEvents eventStoreInitialize events').activeProcessCount =
          (addEvents eventStoreInitialize events).activeProcessCount ∧
        ∀ (key : ProcessKey) (active : Bool),
          (∃ record ∈ (addEvents eventStoreInitialize events').processes,
              record.key = key ∧ record.active = active) ↔
            ∃ record ∈ (addEvents eventStoreInitialize events).processes,
              record.key = key ∧ record.active = active := by
  have hsum := summarizes_addEvents hknown halloc
  refine ⟨?_, ?_, ?_, ?_, ?_⟩
  · have hnodup := hsum.nodup
    rwa [EventStore.table, List.map_map] at hnodup
  · intro key
    rw [← exists_reportsOf_key, ← hsum.key_iff]
    exact EventStore.exists_processes (p := fun s => s.key = key)
  · intro record hrecord
    have hread := hsum.active_iff record.slot (List.mem_map_of_mem hrecord)
    rw [mem_reportsOf_start, mem_reportsOf_stop] at hread
    exact hread
  · rintro before event after rfl
    constructor
    · intro htype
      rw [accepted_at hknown halloc (reportOf_start htype)]
      constructor
      · intro hfirst e he hrep heq
        obtain ⟨r, hr, hrkey⟩ := exists_reportsOf_key.mpr ⟨e, he, hrep, heq⟩
        exact hfirst r hr hrkey
      · intro hfirst r hr heq
        obtain ⟨e, he, hrep, hkey⟩ := exists_reportsOf_key.mp ⟨r, hr, heq⟩
        exact hfirst e he hrep hkey
    · intro htype
      rw [accepted_at hknown halloc (reportOf_stop htype), Table.news_stop, mem_reportsOf_stop]
      push Not
      rfl
  · intro events' hperm halloc'
    have hknown' : KeysKnown events' := fun e he => hknown e (hperm.mem_iff.mpr he)
    have hsum' := summarizes_addEvents hknown' halloc'
    have htable := hsum'.perm hsum fun r => ((hperm.filterMap reportOf).mem_iff).symm
    constructor
    · have hcount := (reachable_eventStoreInitialize.addEvents events).counted.active_eq
      have hcount' := (reachable_eventStoreInitialize.addEvents events').counted.active_eq
      rw [hcount, hcount', activeRecords_eq_countP, activeRecords_eq_countP]
      exact htable.countP_eq Slot.active
    · intro key active
      have hslots : ∀ store : EventStore, (∃ record ∈ store.processes,
          record.key = key ∧ record.active = active) ↔ ∃ s ∈ store.table,
            s.key = key ∧ s.active = active := fun store =>
        EventStore.exists_processes (p := fun s => s.key = key ∧ s.active = active)
      rw [hslots, hslots]
      exact exists_congr fun s => and_congr_left fun _ => htable.mem_iff

/-- A STOP of PID 8 that overtook its START, and the START. -/
def overtakenRun : List TraceGlassEvent :=
  [{ TraceGlassEvent.zero with type := .processStop, process := ⟨8, 5⟩ },
    { TraceGlassEvent.zero with process := ⟨8, 5⟩ }]

/-- In that run the START finds a report of its key before it, and is not accepted. -/
theorem processTable_orderIndependent_overtakenRun :
    ((eventStoreAdd .succeed (addEvents eventStoreInitialize (overtakenRun.take 1))
        (overtakenRun.getD 1 .zero)).accepted = true ↔
      ∀ e ∈ overtakenRun.take 1, IsReport e → e.process ≠ (overtakenRun.getD 1 .zero).process) :=
  ((@processTable_orderIndependent overtakenRun
    (by simp [KeysKnown, overtakenRun]) (by decide +kernel)).2.2.2.1
      (overtakenRun.take 1) (overtakenRun.getD 1 .zero) [] rfl).1 rfl

end TraceGlass
