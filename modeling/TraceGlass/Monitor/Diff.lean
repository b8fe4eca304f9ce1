import TraceGlass.Monitor.Model
import TraceGlass.Store.Refinement

/-!
# A poll reports the difference of two snapshots

`snapshotDiff` is what a poll is for, on the keys alone: a START for each key of the new snapshot
without a compatible one in the old, then a STOP for each key of the old without one in the new.
`reportsOf_processMonitorPoll` says that the events a poll pushes make exactly these reports, which
needs the snapshots sorted: the halving search of `find_entry` is a linear search only then.

`snapshotRun` is the run of the difference over a list of snapshots, and `pollRun_eq` the same
statement for a run of polls, failed ones included.
-/

namespace TraceGlass

/-! ## The order of a snapshot -/

lemma pid_lt_of_not_lt_of_lt {a b c : DWORD} (h : ¬ b < a) (hbc : b < c) : a < c := by
  rw [UInt32.lt_iff_toNat_lt] at h hbc ⊢
  omega

lemma pid_eq_of_not_lt {a b : DWORD} (h : ¬ a < b) (h' : ¬ b < a) : a = b := by
  rw [UInt32.lt_iff_toNat_lt] at h h'
  exact UInt32.toNat_inj.mp (by omega)

lemma compareSnapshotEntries_le_iff {left right : ProcessSnapshotEntry} :
    snapshotLe left right = true ↔ left.key.pid.toNat < right.key.pid.toNat ∨
      (left.key.pid.toNat = right.key.pid.toNat ∧
        left.key.creationTime.toNat ≤ right.key.creationTime.toNat) := by
  unfold snapshotLe compareSnapshotEntries
  simp only [GT.gt, UInt32.lt_iff_toNat_lt, UInt64.lt_iff_toNat_lt]
  split_ifs <;> simp <;> omega

/-- Insertion sort as the `qsort` of a snapshot. -/
def snapshotInsertion : SortedArray.QSort snapshotLe :=
  .insertion snapshotLe
    (fun a b => by
      simp only [compareSnapshotEntries_le_iff]
      omega)
    (fun a b c => by
      simp only [compareSnapshotEntries_le_iff]
      omega)

/-- The row and the answers of a process `a.exe` under PID 4. -/
def sampleRow (pid : DWORD) (creationTime : Option ULONGLONG) :
    ProcessEntry32 × Option ProcessHandle :=
  (⟨pid, 4, wide "a.exe"⟩, some ⟨creationTime, none⟩)

/-- A poll of these rows. -/
def samplePoll (rows : List (ProcessEntry32 × Option ProcessHandle)) : PollInput :=
  ⟨some rows, fun _ => true, fun _ => .zero⟩

/-- The entries are in the order of their PIDs. -/
def SortedByPid (entries : List ProcessSnapshotEntry) : Prop :=
  entries.Pairwise fun a b => ¬ b.key.pid < a.key.pid

lemma sortedByPid_nil : SortedByPid [] := List.Pairwise.nil

lemma sortedByPid_sort (qsort : SortedArray.QSort snapshotLe) (xs : List ProcessSnapshotEntry) :
    SortedByPid (qsort.sort xs) := by
  refine (qsort.sorted xs).imp fun {a b} hab => ?_
  rw [compareSnapshotEntries_le_iff] at hab
  rw [UInt32.lt_iff_toNat_lt]
  omega

/-! ## Finding an entry -/

/-- On a sorted snapshot `find_entry` is the linear search for a compatible key. -/
theorem findEntry_eq_find? {entries : List ProcessSnapshotEntry} (hsorted : SortedByPid entries)
    (key : ProcessKey) :
    findEntry entries key = entries.find? fun entry => processKeysMatch entry.key key := by
  unfold findEntry
  rw [SortedArray.scanRun_lowerBound (fun a b : DWORD => a < b)
    (fun entry : ProcessSnapshotEntry => entry.key.pid) key.pid
    (fun entry => timesCompatible entry key) hsorted (fun _ _ _ => pid_lt_of_not_lt_of_lt)
    (fun a => UInt32.lt_irrefl a) (fun _ _ => pid_eq_of_not_lt)]
  congr 1
  funext entry
  by_cases hpid : entry.key.pid = key.pid <;> simp [processKeysMatch, timesCompatible, hpid]

lemma findEntry_isNone {entries : List ProcessSnapshotEntry} (hsorted : SortedByPid entries)
    (key : ProcessKey) :
    (findEntry entries key).isNone =
      !(entries.map ProcessSnapshotEntry.key).any fun k => processKeysMatch k key := by
  rw [findEntry_eq_find? hsorted, Bool.eq_iff_iff]
  simp

/-! ## One poll -/

/-- The difference of two snapshots: STARTs for what is new, then STOPs for what is gone. -/
def snapshotDiff (previous current : List ProcessKey) : List Report :=
  (current.filter fun key => !previous.any fun k => processKeysMatch k key).map (⟨.start, ·⟩) ++
    (previous.filter fun key => !current.any fun k => processKeysMatch k key).map (⟨.stop, ·⟩)

/-- The keys of a list of entries. -/
def snapshotKeys (entries : List ProcessSnapshotEntry) : List ProcessKey :=
  entries.map ProcessSnapshotEntry.key

lemma entryEvent_process (type : EventType) (entry : ProcessSnapshotEntry)
    (entries : List ProcessSnapshotEntry) :
    (entryEvent type entry entries).process = entry.key := by
  unfold entryEvent
  split
  · rfl
  · split <;> rfl

lemma entryEvent_type (type : EventType) (entry : ProcessSnapshotEntry)
    (entries : List ProcessSnapshotEntry) : (entryEvent type entry entries).type = type := by
  unfold entryEvent
  split
  · rfl
  · split <;> rfl

lemma reportOf_emitStartEvent (w : Win32) (now : SystemTime) (entry : ProcessSnapshotEntry)
    (entries : List ProcessSnapshotEntry) (baseline : Bool) :
    reportOf (emitStartEvent w now entry entries baseline) = some ⟨.start, entry.key⟩ := by
  have htype : (emitStartEvent w now entry entries baseline).type = .processStart :=
    entryEvent_type .processStart entry entries
  have hprocess : (emitStartEvent w now entry entries baseline).process = entry.key :=
    entryEvent_process .processStart entry entries
  rw [reportOf_start htype, hprocess]

lemma reportOf_emitStopEvent (now : SystemTime) (entry : ProcessSnapshotEntry)
    (entries : List ProcessSnapshotEntry) :
    reportOf (emitStopEvent now entry entries) = some ⟨.stop, entry.key⟩ := by
  have htype : (emitStopEvent now entry entries).type = .processStop :=
    entryEvent_type .processStop entry entries
  have hprocess : (emitStopEvent now entry entries).process = entry.key :=
    entryEvent_process .processStop entry entries
  rw [reportOf_stop htype, hprocess]

/-- Events that each make one report, whatever their position, make the reports in order. -/
lemma reportsOf_mapIdx {α : Type*} {f : ℕ → α → TraceGlassEvent} (report : α → Report)
    (h : ∀ i a, reportOf (f i a) = some (report a)) (as : List α) :
    reportsOf (as.mapIdx f) = as.map report := by
  induction as generalizing f with
  | nil => rfl
  | cons a as ih =>
    rw [List.mapIdx_cons, reportsOf, List.filterMap_cons_some (h 0 a), List.map_cons]
    congr 1
    exact ih fun i a => h (i + 1) a

/-- What every monitor of a run satisfies: the snapshot it keeps is sorted, and there is none before
the first poll. -/
structure Orderly (monitor : ProcessMonitor) : Prop where
  sorted : SortedByPid monitor.previous
  initial : monitor.initialized = false → monitor.previous = []

lemma orderly_processMonitorInitialize : Orderly processMonitorInitialize :=
  ⟨sortedByPid_nil, fun _ => rfl⟩

lemma sortedByPid_captureProcesses {qsort : SortedArray.QSort snapshotLe} {input : PollInput}
    {entries : List ProcessSnapshotEntry} (h : captureProcesses qsort input = some entries) :
    SortedByPid entries := by
  obtain ⟨rows, -, -, rfl⟩ := captureProcesses_eq_some h
  exact sortedByPid_sort qsort _

/-- **A poll reports the difference of the snapshot it captures and the one it keeps.** -/
theorem reportsOf_processMonitorPoll {w : Win32} {qsort : SortedArray.QSort snapshotLe}
    {monitor : ProcessMonitor} (h : Orderly monitor) {input : PollInput}
    {current : List ProcessSnapshotEntry} (hcapture : captureProcesses qsort input = some current) :
    reportsOf (processMonitorPoll w qsort monitor input).pushed =
      snapshotDiff (snapshotKeys monitor.previous) (snapshotKeys current) := by
  have hsorted := sortedByPid_captureProcesses hcapture
  have hstarts : reportsOf (pollStarts w monitor input.clock current) =
      ((snapshotKeys current).filter fun key =>
        !(snapshotKeys monitor.previous).any fun k =>
          processKeysMatch k key).map (⟨.start, ·⟩) := by
    rw [pollStarts, reportsOf_mapIdx (fun entry => ⟨.start, entry.key⟩)
      (fun i entry => reportOf_emitStartEvent w _ entry current _)]
    simp only [findEntry_isNone h.sorted, snapshotKeys, List.filter_map, List.map_map,
      Function.comp_def]
  have hstops : ∀ clock, reportsOf (pollStops monitor clock current) =
      ((snapshotKeys monitor.previous).filter fun key =>
        !(snapshotKeys current).any fun k => processKeysMatch k key).map (⟨.stop, ·⟩) := by
    intro clock
    unfold pollStops
    split
    · rw [reportsOf_mapIdx (fun entry => ⟨.stop, entry.key⟩)
        (fun i entry => reportOf_emitStopEvent _ entry monitor.previous)]
      simp only [findEntry_isNone hsorted, snapshotKeys, List.filter_map, List.map_map,
        Function.comp_def]
    · next hinit =>
      rw [h.initial (by simpa using hinit)]
      rfl
  simp only [processMonitorPoll, hcapture, reportsOf_append, hstarts, hstops, snapshotDiff]

/-! ## Runs -/

/-- The snapshots the polls of a run captured, as keys. -/
def captures (qsort : SortedArray.QSort snapshotLe) (inputs : List PollInput) :
    List (List ProcessKey) :=
  inputs.filterMap fun input => (captureProcesses qsort input).map snapshotKeys

/-- The difference applied along a list of snapshots: the last one and the reports so far. -/
def snapshotStep (state : List ProcessKey × List Report) (current : List ProcessKey) :
    List ProcessKey × List Report :=
  (current, state.2 ++ snapshotDiff state.1 current)

/-- The run of the difference over a list of snapshots, from none. -/
def snapshotRun (snapshots : List (List ProcessKey)) : List ProcessKey × List Report :=
  snapshots.foldl snapshotStep ([], [])

@[simp] lemma snapshotRun_nil : snapshotRun [] = ([], []) := rfl

@[simp] lemma snapshotRun_snoc (snapshots : List (List ProcessKey)) (current : List ProcessKey) :
    snapshotRun (snapshots ++ [current]) =
      (current, (snapshotRun snapshots).2 ++ snapshotDiff (snapshotRun snapshots).1 current) := by
  simp [snapshotRun, snapshotStep]

lemma captures_snoc_some {qsort : SortedArray.QSort snapshotLe} {inputs : List PollInput}
    {input : PollInput} {current : List ProcessSnapshotEntry}
    (h : captureProcesses qsort input = some current) :
    captures qsort (inputs ++ [input]) = captures qsort inputs ++ [snapshotKeys current] := by
  simp [captures, h]

lemma captures_snoc_none {qsort : SortedArray.QSort snapshotLe} {inputs : List PollInput}
    {input : PollInput} (h : captureProcesses qsort input = none) :
    captures qsort (inputs ++ [input]) = captures qsort inputs := by
  simp [captures, h]

/-- A run of polls keeps the last snapshot and reports the run of the difference. -/
structure Tracks (qsort : SortedArray.QSort snapshotLe) (inputs : List PollInput)
    (state : ProcessMonitor × List TraceGlassEvent) : Prop where
  orderly : Orderly state.1
  keys : snapshotKeys state.1.previous = (snapshotRun (captures qsort inputs)).1
  reports : reportsOf state.2 = (snapshotRun (captures qsort inputs)).2

/-- **A run of polls, failed ones included, is the run of the difference over the snapshots
captured.** -/
theorem pollRun_tracks (w : Win32) (qsort : SortedArray.QSort snapshotLe)
    (inputs : List PollInput) : Tracks qsort inputs (pollRun w qsort inputs) := by
  induction inputs using List.reverseRecOn with
  | nil => exact ⟨orderly_processMonitorInitialize, rfl, rfl⟩
  | append_singleton inputs input ih =>
    rw [pollRun_snoc]
    generalize pollRun w qsort inputs = state at ih
    cases hcapture : captureProcesses qsort input with
    | none =>
      have hpoll : pollStep w qsort state input = state := by
        simp [pollStep, processMonitorPoll, hcapture]
      rw [hpoll]
      constructor
      · exact ih.orderly
      · rw [captures_snoc_none hcapture]
        exact ih.keys
      · rw [captures_snoc_none hcapture]
        exact ih.reports
    | some current =>
      have hmonitor : (pollStep w qsort state input).1 = ⟨current, true⟩ := by
        simp [pollStep, processMonitorPoll, hcapture]
      have hreports := reportsOf_processMonitorPoll (w := w) ih.orderly hcapture
      constructor
      · rw [hmonitor]
        exact ⟨sortedByPid_captureProcesses hcapture, by simp⟩
      · rw [hmonitor, captures_snoc_some hcapture, snapshotRun_snoc]
      · rw [captures_snoc_some hcapture, snapshotRun_snoc, pollStep, reportsOf_append, hreports,
          ih.keys, ih.reports]

end TraceGlass
