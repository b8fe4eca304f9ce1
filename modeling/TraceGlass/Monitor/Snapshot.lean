import TraceGlass.Monitor.Diff

/-!
# The snapshot difference is exact

A poll answers for each entry: a START for a captured entry to which the previous snapshot has no
compatible key, a STOP for a previous entry to which the new one has none.  The order the snapshots
carry from poll to poll (`Orderly`) makes the halving search of `find_entry` a search of the whole
snapshot, so neither the enumeration order nor runs of equal PIDs matter.
-/

namespace TraceGlass

/-- Two keys that may be those of one process. -/
def Compatible (a b : ProcessKey) : Prop :=
  a.pid = b.pid ∧
    (a.creationTime = b.creationTime ∨ a.creationTime = 0 ∨ b.creationTime = 0)

instance (a b : ProcessKey) : Decidable (Compatible a b) := inferInstanceAs (Decidable (_ ∧ _))

/-- The snapshot has no key compatible with this one. -/
def Unlisted (entries : List ProcessSnapshotEntry) (key : ProcessKey) : Prop :=
  ∀ entry ∈ entries, ¬ Compatible entry.key key

instance (entries : List ProcessSnapshotEntry) (key : ProcessKey) :
    Decidable (Unlisted entries key) :=
  inferInstanceAs (Decidable (∀ entry ∈ entries, _))

/-- `find_entry` fails on a sorted snapshot exactly where nothing in it is compatible. -/
lemma findEntry_isNone_iff {entries : List ProcessSnapshotEntry} (hsorted : SortedByPid entries)
    (key : ProcessKey) : (findEntry entries key).isNone = decide (Unlisted entries key) := by
  rw [findEntry_eq_find? hsorted, Bool.eq_iff_iff, Option.isNone_iff_eq_none, List.find?_eq_none,
    decide_eq_true_iff]
  simp only [processKeysMatch_iff]
  rfl

/-- The STARTs, in the order of the new snapshot. -/
lemma forall₂_pollStarts (w : Win32) {monitor : ProcessMonitor}
    (hsorted : SortedByPid monitor.previous) (clock : ℕ → SystemTime)
    (current : List ProcessSnapshotEntry) :
    List.Forall₂
      (fun entry event => event.type = .processStart ∧ event.process = entry.key ∧
        ∃ now, event = emitStartEvent w now entry current (!monitor.initialized))
      (current.filter fun entry => Unlisted monitor.previous entry.key)
      (pollStarts w monitor clock current) := by
  simp only [pollStarts, findEntry_isNone_iff hsorted]
  exact ListLib.forall₂_mapIdx (fun i entry => ⟨entryEvent_type .processStart entry current,
    entryEvent_process .processStart entry current, _, rfl⟩) _

/-- The STOPs, in the order of the previous one. -/
lemma forall₂_pollStops {monitor : ProcessMonitor} (horderly : Orderly monitor)
    (clock : ℕ → SystemTime) {current : List ProcessSnapshotEntry}
    (hsorted : SortedByPid current) :
    List.Forall₂
      (fun entry event => event.type = .processStop ∧ event.process = entry.key ∧
        ∃ now, event = emitStopEvent now entry monitor.previous)
      (monitor.previous.filter fun entry => Unlisted current entry.key)
      (pollStops monitor clock current) := by
  unfold pollStops
  cases hinit : monitor.initialized with
  | true =>
    simp only [if_true, findEntry_isNone_iff hsorted]
    exact ListLib.forall₂_mapIdx
      (fun i entry => ⟨entryEvent_type .processStop entry monitor.previous,
        entryEvent_process .processStop entry monitor.previous, _, rfl⟩) _
  | false =>
    rw [horderly.initial hinit]
    exact .nil

/-! ## A poll that captures -/

lemma captureLoop_granted {realloc : ℕ → Bool} (hgranted : ∀ capacity, realloc capacity = true)
    (rows : List (ProcessEntry32 × Option ProcessHandle)) (entries : List ProcessSnapshotEntry)
    (capacity : ℕ) :
    captureLoop realloc rows entries capacity = some (entries ++ rows.map snapshotEntry) := by
  induction rows generalizing entries capacity with
  | nil => simp [captureLoop]
  | cons row rows ih =>
    unfold captureLoop
    split <;> simp [hgranted, ih]

/-- A capture succeeds where Toolhelp has rows and every `realloc` answers a block. -/
lemma captureProcesses_granted (qsort : SortedArray.QSort snapshotLe) {input : PollInput}
    {rows : List (ProcessEntry32 × Option ProcessHandle)} (hrows : input.rows = some rows)
    (hne : rows ≠ []) (hgranted : ∀ capacity, input.realloc capacity = true) :
    captureProcesses qsort input = some (qsort.sort (rows.map snapshotEntry)) := by
  obtain ⟨row, rows, rfl⟩ := List.exists_cons_of_ne_nil hne
  simp only [captureProcesses, hrows, captureLoop_granted hgranted, List.nil_append,
    Option.map_some]

/-- The events of these entries, each of this type. -/
lemma map_of_reported {type : EventType} {P : ProcessSnapshotEntry → TraceGlassEvent → Prop}
    {entries : List ProcessSnapshotEntry} {events : List TraceGlassEvent}
    (h : List.Forall₂ (fun entry event => event.type = type ∧ event.process = entry.key ∧
      P entry event) entries events) :
    events.map (fun event => (event.type, event.process)) =
      entries.map fun entry => (type, entry.key) := by
  induction h with
  | nil => rfl
  | cons hfirst _ ih => rw [List.map_cons, List.map_cons, ih, hfirst.1, hfirst.2.1]

/-- **The snapshot difference is exact.**  After any earlier polls, a poll whose capture succeeds
pushes the START of each captured entry without a compatible key in the previous snapshot and then
the STOP of each previous entry without one in the new, each once, and no STOP when no poll
succeeded before; it keeps the captured entries, sorted by PID and creation time.  A poll whose
capture fails pushes nothing and changes nothing. -/
theorem processMonitorPoll_exact (w : Win32) (qsort : SortedArray.QSort snapshotLe)
    (earlier : List PollInput) (input : PollInput) :
    let monitor := (pollRun w qsort earlier).1
    let result := processMonitorPoll w qsort monitor input
    (captureProcesses qsort input = none →
      result.ok = false ∧ result.pushed = [] ∧ result.monitor = monitor) ∧
    ∀ current, captureProcesses qsort input = some current →
      result.ok = true ∧ result.monitor = ⟨current, true⟩ ∧
      (∃ rows, input.rows = some rows ∧ current.Perm (rows.map snapshotEntry)) ∧
      (current.Pairwise fun a b => snapshotLe a b = true) ∧
      ∃ starts stops, result.pushed = starts ++ stops ∧
        List.Forall₂
          (fun entry event => event.type = .processStart ∧ event.process = entry.key ∧
            ∃ now, event = emitStartEvent w now entry current (!monitor.initialized))
          (current.filter fun entry => Unlisted monitor.previous entry.key) starts ∧
        List.Forall₂
          (fun entry event => event.type = .processStop ∧ event.process = entry.key ∧
            ∃ now, event = emitStopEvent now entry monitor.previous)
          (monitor.previous.filter fun entry => Unlisted current entry.key) stops ∧
        (monitor.initialized = false → stops = []) := by
  intro monitor result
  have horderly : Orderly monitor := (pollRun_tracks w qsort earlier).orderly
  refine ⟨fun hcapture => ?_, fun current hcapture => ?_⟩
  · have hresult : result = ⟨false, monitor, []⟩ := by
      simp only [result, processMonitorPoll, hcapture]
    rw [hresult]
    exact ⟨rfl, rfl, rfl⟩
  · have hsorted := sortedByPid_captureProcesses hcapture
    obtain ⟨rows, hrows, -, hcurrent⟩ := captureProcesses_eq_some hcapture
    have hresult : result = ⟨true, ⟨current, true⟩,
        pollStarts w monitor input.clock current ++
          pollStops monitor
            (fun i => input.clock ((pollStarts w monitor input.clock current).length + i))
            current⟩ := by
      simp only [result, processMonitorPoll, hcapture]
    rw [hresult]
    refine ⟨rfl, rfl, ⟨rows, hrows, hcurrent ▸ qsort.perm _⟩, hcurrent ▸ qsort.sorted _,
      _, _, rfl, forall₂_pollStarts w horderly.sorted _ current,
      forall₂_pollStops horderly _ hsorted, ?_⟩
    intro hinit
    rw [pollStops, hinit]
    rfl

/-- Of two processes the one with PID 8 ends, and its PID and another one are taken anew. -/
def severalRows : List (ProcessEntry32 × Option ProcessHandle) :=
  [sampleRow 16 (some 11), sampleRow 12 (some 9), sampleRow 8 (some 6)]

/-- There are two STARTs, in the order of the PIDs, and then the STOP. -/
theorem processMonitorPoll_exact_severalRows :
    ((processMonitorPoll .sample snapshotInsertion
      (pollRun .sample snapshotInsertion
        [samplePoll [sampleRow 8 (some 5), sampleRow 12 (some 9)]]).1
      (samplePoll severalRows)).pushed.map fun event => (event.type, event.process)) =
        [(.processStart, ⟨8, 6⟩), (.processStart, ⟨16, 11⟩), (.processStop, ⟨8, 5⟩)] := by
  have hcapture := @captureProcesses_granted snapshotInsertion (samplePoll severalRows) _ rfl
    (by decide) fun _ => rfl
  obtain ⟨-, -, -, -, starts, stops, hpushed, hstarts, hstops, -⟩ :=
    (processMonitorPoll_exact .sample snapshotInsertion
      [samplePoll [sampleRow 8 (some 5), sampleRow 12 (some 9)]]
      (samplePoll severalRows)).2 _ hcapture
  rw [hpushed, List.map_append, map_of_reported hstarts, map_of_reported hstops]
  decide +kernel

end TraceGlass
