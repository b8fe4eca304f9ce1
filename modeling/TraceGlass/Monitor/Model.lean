import TraceGlass.Events
import TraceGlass.Lib.SortedArray

/-!
# The process monitor (`process_monitor.c`)

The poller lists the processes through Toolhelp, asks each for its creation time and image path,
sorts the list and compares it with the one of the poll before: an entry without a counterpart
there is a START, an old one without a counterpart here a STOP.

What a poll reads from the system is a `PollInput`: the Toolhelp rows, each with what the handle of
its process answers, whether `realloc` answers a block, and the local time at each moment it is
read.  `qsort` is any routine that sorts by `compareSnapshotEntries`.
-/

namespace TraceGlass

/-! ## Asking a process -/

/-- What the handle of a process answers: `GetProcessTimes` and `QueryFullProcessImageNameW` into a
buffer of `MAX_PATH` units, each `none` when the call fails. -/
structure ProcessHandle where
  creationTime : Option ULONGLONG
  imageName : Option (WString maxPath)
  deriving DecidableEq

/-- The results of `query_process_identity`: its return value, `*key` and `path`. -/
structure ProcessIdentity where
  obtained : Bool
  key : ProcessKey
  path : WString maxPath
  deriving DecidableEq

/-- `query_process_identity` with both out parameters, where `OpenProcess` answers `handle`. -/
def queryProcessIdentity (handle : Option ProcessHandle) (pid : DWORD) : ProcessIdentity :=
  if pid = 0 then ⟨false, ⟨pid, 0⟩, .empty⟩
  else
    match handle with
    | none => ⟨false, ⟨pid, 0⟩, .empty⟩
    | some h =>
        { obtained := h.creationTime.isSome || h.imageName.isSome
          key := ⟨pid, h.creationTime.getD 0⟩
          path := h.imageName.getD .empty }

/-- `PROCESSENTRY32W`. -/
structure ProcessEntry32 where
  th32ProcessID : DWORD
  th32ParentProcessID : DWORD
  szExeFile : List WCHAR
  deriving DecidableEq

/-- `query_process_name`: the name in the first Toolhelp row of the PID.  `none` for the rows is a
snapshot that could not be taken; the result is the return value and the buffer. -/
def queryProcessName (rows : Option (List ProcessEntry32)) (pid : DWORD) : Bool × WString maxPath :=
  match rows with
  | none => (false, .empty)
  | some rows =>
      match rows.find? fun row => row.th32ProcessID == pid with
      | none => (false, .empty)
      | some row => (true, copyWstring maxPath row.szExeFile)

/-! ## Snapshots -/

/-- `ProcessSnapshotEntry`. -/
structure ProcessSnapshotEntry where
  key : ProcessKey
  parentPid : DWORD
  name : WString maxPath
  path : WString maxPath
  deriving DecidableEq

/-- `compare_snapshot_entries`. -/
def compareSnapshotEntries (left right : ProcessSnapshotEntry) : ℤ :=
  if left.key.pid < right.key.pid then -1
  else if left.key.pid > right.key.pid then 1
  else if left.key.creationTime < right.key.creationTime then -1
  else if left.key.creationTime > right.key.creationTime then 1
  else 0

/-- The order `qsort` is given. -/
def snapshotLe (left right : ProcessSnapshotEntry) : Bool :=
  decide (compareSnapshotEntries left right ≤ 0)

/-- What one poll reads from the system. -/
structure PollInput where
  /-- The Toolhelp rows, with what `OpenProcess` answers for each; `none` when
  `CreateToolhelp32Snapshot` fails. -/
  rows : Option (List (ProcessEntry32 × Option ProcessHandle))
  /-- Whether `realloc` answers a block for this many entries. -/
  realloc : ℕ → Bool
  /-- The local time the poll's event at this position reads. -/
  clock : ℕ → SystemTime

/-- The entry `capture_processes` fills in for one row. -/
def snapshotEntry (row : ProcessEntry32 × Option ProcessHandle) : ProcessSnapshotEntry :=
  let identity := queryProcessIdentity row.2 row.1.th32ProcessID
  { key := identity.key
    parentPid := row.1.th32ParentProcessID
    name := copyWstring maxPath row.1.szExeFile
    path := identity.path }

/-- The loop of `capture_processes` over the remaining rows; `none` when an allocation fails. -/
def captureLoop (realloc : ℕ → Bool) :
    List (ProcessEntry32 × Option ProcessHandle) → List ProcessSnapshotEntry → ℕ →
      Option (List ProcessSnapshotEntry)
  | [], entries, _ => some entries
  | row :: rows, entries, capacity =>
      if entries.length = capacity then
        let capacity := if capacity = 0 then 128 else capacity * 2
        if realloc capacity then captureLoop realloc rows (entries ++ [snapshotEntry row]) capacity
        else none
      else captureLoop realloc rows (entries ++ [snapshotEntry row]) capacity

/-- `capture_processes`; `none` is the `FALSE` return.  `Process32FirstW` fails where there is no
row. -/
def captureProcesses (qsort : SortedArray.QSort snapshotLe) (input : PollInput) :
    Option (List ProcessSnapshotEntry) :=
  match input.rows with
  | none => none
  | some [] => none
  | some (row :: rows) => (captureLoop input.realloc (row :: rows) [] 0).map qsort.sort

/-- The loop takes the rows in order, whatever it has to allocate. -/
lemma captureLoop_eq_some {realloc : ℕ → Bool}
    {rows : List (ProcessEntry32 × Option ProcessHandle)}
    {entries captured : List ProcessSnapshotEntry} {capacity : ℕ}
    (h : captureLoop realloc rows entries capacity = some captured) :
    captured = entries ++ rows.map snapshotEntry := by
  induction rows generalizing entries capacity with
  | nil => simpa [captureLoop, eq_comm] using h
  | cons row rows ih =>
    unfold captureLoop at h
    split at h
    · simp only at h
      split at h <;> split at h
      · simpa using ih h
      · cases h
      · simpa using ih h
      · cases h
    · simpa using ih h

/-- A captured snapshot is the sorted list of the rows' entries, and there is at least one. -/
theorem captureProcesses_eq_some {qsort : SortedArray.QSort snapshotLe} {input : PollInput}
    {entries : List ProcessSnapshotEntry} (h : captureProcesses qsort input = some entries) :
    ∃ rows, input.rows = some rows ∧ rows ≠ [] ∧
      entries = qsort.sort (rows.map snapshotEntry) := by
  unfold captureProcesses at h
  split at h
  · cases h
  · cases h
  · next row rows hrows =>
    obtain ⟨captured, hloop, rfl⟩ := Option.map_eq_some_iff.mp h
    rw [captureLoop_eq_some hloop]
    exact ⟨row :: rows, hrows, by simp, rfl⟩

/-! ## Finding an entry -/

/-- The test `find_entry` makes on an entry of the right PID. -/
def timesCompatible (entry : ProcessSnapshotEntry) (key : ProcessKey) : Bool :=
  entry.key.creationTime == key.creationTime || entry.key.creationTime == 0 ||
    key.creationTime == 0

/-- `find_entry`: halve to the first entry of the PID, then walk the entries of the PID. -/
def findEntry (entries : List ProcessSnapshotEntry) (key : ProcessKey) :
    Option ProcessSnapshotEntry :=
  SortedArray.scanRun (fun entry => decide (entry.key.pid = key.pid))
    (fun entry => timesCompatible entry key)
    (entries.drop (SortedArray.lowerBound (fun entry => decide (entry.key.pid < key.pid)) entries))

/-- `find_entry_by_pid`. -/
def findEntryByPid (entries : List ProcessSnapshotEntry) (pid : DWORD) :
    Option ProcessSnapshotEntry :=
  let low := SortedArray.lowerBound (fun entry => decide (entry.key.pid < pid)) entries
  match entries[low]? with
  | some entry => if entry.key.pid = pid then some entry else none
  | none => none

/-! ## Emitting events -/

/-- `timestamp_from_creation_time`. -/
def timestampFromCreationTime (w : Win32) (now : SystemTime) (creationTime : ULONGLONG) :
    SystemTime :=
  (localSystemtimeFromFiletime w creationTime).getD now

/-- The fields both emitters fill in before they go their own way: the entry's own, and the parent's
where the snapshot lists one that can be the parent. -/
def entryEvent (type : EventType) (entry : ProcessSnapshotEntry)
    (entries : List ProcessSnapshotEntry) : TraceGlassEvent :=
  let event :=
    { TraceGlassEvent.zero with
      type := type
      process := entry.key
      parent := ⟨entry.parentPid, 0⟩
      processName := copyWstring maxPath entry.name.chars
      executablePath := copyWstring maxPath entry.path.chars }
  match findEntryByPid entries entry.parentPid with
  | none => event
  | some parent =>
      if parent.key.creationTime = 0 ∨ entry.key.creationTime = 0 ∨
          parent.key.creationTime ≤ entry.key.creationTime then
        { event with
          parent := parent.key
          parentName := copyWstring maxPath parent.name.chars }
      else event

/-- `emit_start_event`: the event it pushes. -/
def emitStartEvent (w : Win32) (now : SystemTime) (entry : ProcessSnapshotEntry)
    (entries : List ProcessSnapshotEntry) (baseline : Bool) : TraceGlassEvent :=
  let event := entryEvent .processStart entry entries
  { event with
    timestamp := timestampFromCreationTime w now entry.key.creationTime
    details := stringCchPrintf detailLength <|
      (if baseline then wide "Discovered at startup; parent " else wide "Started; parent ") ++
        (if event.parentName.chars ≠ [] then event.parentName.chars else wide "<unknown>") ++
        wide " (PID " ++ formatUnsigned event.parent.pid.toNat ++ wide "); path " ++
        if event.executablePath.chars ≠ [] then event.executablePath.chars
        else wide "<access denied or unavailable>" }

/-- `emit_stop_event`: the event it pushes. -/
def emitStopEvent (now : SystemTime) (entry : ProcessSnapshotEntry)
    (entries : List ProcessSnapshotEntry) : TraceGlassEvent :=
  { entryEvent .processStop entry entries with
    timestamp := now
    details := stringCchPrintf detailLength <|
      wide "Process stopped (PID " ++ formatUnsigned entry.key.pid.toNat ++ wide ")" }

/-! ## Polling -/

/-- `ProcessMonitor`; `previous` is the used part of the array. -/
structure ProcessMonitor where
  previous : List ProcessSnapshotEntry
  initialized : Bool

/-- `process_monitor_initialize`. -/
def processMonitorInitialize : ProcessMonitor := ⟨[], false⟩

/-- What a poll reports: its return value, the monitor and the events pushed, in order. -/
structure PollResult where
  ok : Bool
  monitor : ProcessMonitor
  pushed : List TraceGlassEvent

/-- The loop over the new snapshot. -/
def pollStarts (w : Win32) (monitor : ProcessMonitor) (clock : ℕ → SystemTime)
    (current : List ProcessSnapshotEntry) : List TraceGlassEvent :=
  (current.filter fun entry => (findEntry monitor.previous entry.key).isNone).mapIdx fun i entry =>
    emitStartEvent w (clock i) entry current (!monitor.initialized)

/-- The loop over the old snapshot. -/
def pollStops (monitor : ProcessMonitor) (clock : ℕ → SystemTime)
    (current : List ProcessSnapshotEntry) : List TraceGlassEvent :=
  if monitor.initialized then
    (monitor.previous.filter fun entry => (findEntry current entry.key).isNone).mapIdx
      fun i entry => emitStopEvent (clock i) entry monitor.previous
  else []

/-- `process_monitor_poll`. -/
def processMonitorPoll (w : Win32) (qsort : SortedArray.QSort snapshotLe)
    (monitor : ProcessMonitor) (input : PollInput) : PollResult :=
  match captureProcesses qsort input with
  | none => ⟨false, monitor, []⟩
  | some current =>
      let starts := pollStarts w monitor input.clock current
      let stops := pollStops monitor (fun i => input.clock (starts.length + i)) current
      ⟨true, ⟨current, true⟩, starts ++ stops⟩

/-- One poll of a run, with the events pushed so far. -/
def pollStep (w : Win32) (qsort : SortedArray.QSort snapshotLe)
    (state : ProcessMonitor × List TraceGlassEvent) (input : PollInput) :
    ProcessMonitor × List TraceGlassEvent :=
  let result := processMonitorPoll w qsort state.1 input
  (result.monitor, state.2 ++ result.pushed)

/-- A run of polls from `process_monitor_initialize`. -/
def pollRun (w : Win32) (qsort : SortedArray.QSort snapshotLe) (inputs : List PollInput) :
    ProcessMonitor × List TraceGlassEvent :=
  inputs.foldl (pollStep w qsort) (processMonitorInitialize, [])

lemma pollRun_snoc (w : Win32) (qsort : SortedArray.QSort snapshotLe) (inputs : List PollInput)
    (input : PollInput) :
    pollRun w qsort (inputs ++ [input]) = pollStep w qsort (pollRun w qsort inputs) input := by
  simp [pollRun]

end TraceGlass
