import TraceGlass.Lib.HeapLogic
import TraceGlass.Monitor.Snapshot
import TraceGlass.Network.Edges
import TraceGlass.Telemetry.Reports

/-!
# The memory of the monitors

`capture_processes`, the polls and the `destroy` functions of both monitors as programs over the C
heap: which block is allocated, read, written, moved and freed, with the sizes computed modulo
`2 ^ 64`.  Each has one triple, which says that it needs no other block than the monitor's, what it
leaves of it, and that its result is that of the function on lists.  `worker_memory` puts them
together: whatever the polls read and whichever allocations are refused, a session of polls with the
monitors destroyed at its end starts and ends with none of its blocks allocated.
-/

namespace TraceGlass

open HeapLogic HeapLogic.Assertion SortedArray

/-- What lies in a cell of one of the blocks. -/
inductive Cell
  | entry (entry : ProcessSnapshotEntry)
  /-- `dwNumEntries` of a table. -/
  | count (count : DWORD)
  | row (row : TcpRow)
  | key (key : NetworkConnectionKey)

/-- The programs of the monitors. -/
abbrev Memory (α : Type) := HeapProgram (Cells Cell) α

def entryLayout : Layout Cell ProcessSnapshotEntry where
  put := .entry
  get
    | .entry entry => some entry
    | _ => none
  get_put _ := rfl

def countLayout : Layout Cell DWORD where
  put := .count
  get
    | .count count => some count
    | _ => none
  get_put _ := rfl

def rowLayout : Layout Cell TcpRow where
  put := .row
  get
    | .row row => some row
    | _ => none
  get_put _ := rfl

def keyLayout : Layout Cell NetworkConnectionKey where
  put := .key
  get
    | .key key => some key
    | _ => none
  get_put _ := rfl

/-- The first cell of a table and the others. -/
def tableLayout : Layout Cell (DWORD ⊕ TcpRow) where
  put := Sum.elim .count .row
  get
    | .count count => some (.inl count)
    | .row row => some (.inr row)
    | _ => none
  get_put word := by cases word <;> rfl

/-- `sizeof(ProcessSnapshotEntry)` on x64. -/
def sizeofSnapshotEntry : ℕ := 1064

/-- `sizeof(NetworkConnectionKey)`. -/
def sizeofConnectionKey : ℕ := 16

/-- `sizeof(MIB_TCPROW_OWNER_PID)`. -/
def sizeofTcpRow : ℕ := 24

/-- What stands before the rows of a `MIB_TCPTABLE_OWNER_PID`. -/
def sizeofTableHeader : ℕ := 4

/-- No block is larger than what a process can address. -/
def addressSpace : ℕ := 2 ^ 47

/-! ## Looking up an entry -/

/-- The halving loop of `find_entry` and `find_entry_by_pid`. -/
def lowerBoundAt (below : ProcessSnapshotEntry → Bool) (entries : Option ℕ) :
    ℕ → ℕ → ℕ → Memory ℕ
  | 0, low, _ => pure low
  | fuel + 1, low, high =>
      if low < high then do
        let middle := low + (high - low) / 2
        let entry ← load entryLayout entries middle
        if below entry then lowerBoundAt below entries fuel (middle + 1) high
        else lowerBoundAt below entries fuel low middle
      else pure low

/-- The loop of `find_entry` over the entries of the PID. -/
def scanAt (same hit : ProcessSnapshotEntry → Bool) (entries : Option ℕ) :
    ℕ → ℕ → Memory (Option ℕ)
  | 0, _ => pure none
  | left + 1, low => do
      let entry ← load entryLayout entries low
      if same entry then
        if hit entry then pure (some low) else scanAt same hit entries left (low + 1)
      else pure none

/-- `find_entry`: where the entry is. -/
def findEntryAt (entries : Option ℕ) (count : ℕ) (key : ProcessKey) : Memory (Option ℕ) := do
  let low ← lowerBoundAt (fun entry => decide (entry.key.pid < key.pid)) entries count 0 count
  scanAt (fun entry => decide (entry.key.pid = key.pid)) (fun entry => timesCompatible entry key)
    entries (count - low) low

/-- `find_entry_by_pid`: the entry itself. -/
def findEntryByPidAt (entries : Option ℕ) (count : ℕ) (pid : DWORD) :
    Memory (Option ProcessSnapshotEntry) := do
  let low ← lowerBoundAt (fun entry => decide (entry.key.pid < pid)) entries count 0 count
  if low < count then do
    let entry ← load entryLayout entries low
    pure (if entry.key.pid = pid then some entry else none)
  else pure none

section Lookups

variable {mem : Allocator (Cells Cell)} {entries : Option ℕ} {room : ℕ}
  {xs : List ProcessSnapshotEntry}

lemma triple_lowerBoundAt (below : ProcessSnapshotEntry → Bool) {fuel low high : ℕ}
    (hhigh : high ≤ xs.length) :
    Triple mem (array entryLayout entries room xs) (lowerBoundAt below entries fuel low high)
      fun r => given (r = lowerBoundLoop below xs fuel low high)
        (array entryLayout entries room xs) := by
  induction fuel generalizing low high with
  | zero => exact Triple.ret fun s h => ⟨rfl, h⟩
  | succ fuel ih =>
    rw [lowerBoundAt, lowerBoundLoop]
    by_cases hlt : low < high
    · have hmiddle : low + (high - low) / 2 < xs.length := by omega
      simp only [if_pos hlt]
      refine (triple_load hmiddle).bind fun entry => Triple.of_given ?_
      rintro rfl
      rw [List.getElem?_eq_getElem hmiddle, Option.any_some]
      split
      · exact ih hhigh
      · exact ih (by omega)
    · simp only [if_neg hlt]
      exact Triple.ret fun s h => ⟨rfl, h⟩

lemma triple_scanAt (same hit : ProcessSnapshotEntry → Bool) {left low : ℕ}
    (hleft : left = xs.length - low) :
    Triple mem (array entryLayout entries room xs) (scanAt same hit entries left low)
      fun r => given (r.isSome = (scanRun same hit (xs.drop low)).isSome)
        (array entryLayout entries room xs) := by
  induction left generalizing low with
  | zero =>
    refine Triple.ret fun s h => ⟨?_, h⟩
    rw [List.drop_eq_nil_of_le (by omega)]
    rfl
  | succ left ih =>
    have hlow : low < xs.length := by omega
    rw [scanAt, List.drop_eq_getElem_cons hlow, scanRun]
    refine (triple_load hlow).bind fun entry => Triple.of_given ?_
    rintro rfl
    by_cases hsame : same xs[low] = true
    · by_cases hhit : hit xs[low] = true
      · simp only [hsame, hhit, if_true]
        exact Triple.ret fun s h => ⟨rfl, h⟩
      · simp only [hsame, hhit, if_true, Bool.false_eq_true, if_false]
        exact ih (by omega)
    · simp only [hsame, Bool.false_eq_true, if_false]
      exact Triple.ret fun s h => ⟨rfl, h⟩

lemma triple_findEntryAt (key : ProcessKey) :
    Triple mem (array entryLayout entries room xs) (findEntryAt entries xs.length key)
      fun r => given (r.isSome = (findEntry xs key).isSome) (array entryLayout entries room xs) :=
  (triple_lowerBoundAt _ (Nat.le_refl _)).bind fun _ => Triple.of_given fun hlow => by
    subst hlow
    exact triple_scanAt _ _ rfl

lemma triple_findEntryByPidAt (pid : DWORD) :
    Triple mem (array entryLayout entries room xs) (findEntryByPidAt entries xs.length pid)
      fun r => given (r = findEntryByPid xs pid) (array entryLayout entries room xs) := by
  refine (triple_lowerBoundAt _ (Nat.le_refl _)).bind fun low => Triple.of_given fun hlow => ?_
  have hbound : low = lowerBound (fun entry => decide (entry.key.pid < pid)) xs := hlow
  simp only [findEntryByPid, ← hbound]
  split
  · next hlt =>
    refine (triple_load hlt).bind fun entry => Triple.of_given ?_
    rintro rfl
    rw [List.getElem?_eq_getElem hlt]
    exact Triple.ret fun s h => ⟨rfl, h⟩
  · next hge =>
    rw [List.getElem?_eq_none (by omega)]
    exact Triple.ret fun s h => ⟨rfl, h⟩

end Lookups

/-! ## Capturing -/

/-- Room for one entry more: whether there is, where the entries are, and for how many there is. -/
def reserveEntry (entries : Option ℕ) (count capacity : ℕ) : Memory (Bool × Option ℕ × ℕ) :=
  if count = capacity then do
    let capacity := if capacity = 0 then 128 else capacity * 2 % 2 ^ 64
    let bytes := capacity * sizeofSnapshotEntry % 2 ^ 64
    let resized ← grow entries bytes (bytes / sizeofSnapshotEntry)
    pure (resized.isSome, resized.or entries, capacity)
  else pure (true, entries, capacity)

/-- The loop of `capture_processes` over the remaining rows. -/
def captureAt : List (ProcessEntry32 × Option ProcessHandle) → Option ℕ → ℕ → ℕ →
    Memory (Option (Option ℕ × ℕ))
  | [], entries, count, _ => pure (some (entries, count))
  | row :: rows, entries, count, capacity => do
      let (reserved, entries, capacity) ← reserveEntry entries count capacity
      if reserved then do
        store entryLayout entries count (snapshotEntry row)
        captureAt rows entries (count + 1) capacity
      else do
        free entries
        pure none

/-- `capture_processes`: the entries and how many there are. -/
def captureProcessesAt (qsort : QSort snapshotLe) (input : PollInput) :
    Memory (Option (Option ℕ × ℕ)) :=
  let rows := input.rows.getD []
  if rows.isEmpty then pure none
  else do
    let captured ← captureAt rows none 0 0
    captured.elim (pure none) fun result => do
      rearrange entryLayout qsort.sort result.1 result.2
      pure (some result)

section Captures

variable {mem : Allocator (Cells Cell)} {entries : Option ℕ} {capacity : ℕ}
  {xs : List ProcessSnapshotEntry} {rows : List (ProcessEntry32 × Option ProcessHandle)}

/-- A block of this capacity has no more bytes than there are addresses. -/
def FitsMemory (capacity : ℕ) : Prop := capacity * sizeofSnapshotEntry ≤ addressSpace

lemma triple_reserveEntry (hmem : mem.limit ≤ addressSpace) (hfits : FitsMemory capacity)
    (hlength : xs.length ≤ capacity) :
    Triple mem (array entryLayout entries capacity xs) (reserveEntry entries xs.length capacity)
      fun r => given (r.1 = true → xs.length < r.2.2 ∧ FitsMemory r.2.2) <| any fun room =>
        given (r.1 = true → room = r.2.2) (array entryLayout r.2.1 room xs) := by
  unfold reserveEntry
  split
  · next hfull =>
    simp only [FitsMemory, addressSpace, sizeofSnapshotEntry] at hfits
    -- neither the doubled capacity nor its size in bytes wraps around
    have hcapacity : ∃ c, (if capacity = 0 then 128 else capacity * 2 % 2 ^ 64) = c ∧
        capacity < c ∧ c * 1064 < 2 ^ 64 := by
      refine ⟨_, rfl, ?_⟩
      split <;> omega
    obtain ⟨c, hc, hlt, hbytes⟩ := hcapacity
    have hsize : c * sizeofSnapshotEntry % 2 ^ 64 = c * sizeofSnapshotEntry :=
      Nat.mod_eq_of_lt hbytes
    have hroom : c * sizeofSnapshotEntry / sizeofSnapshotEntry = c :=
      Nat.mul_div_cancel c (by decide)
    simp only [hc, hsize, hroom]
    refine (triple_grow (by omega)).bind fun answer => ?_
    cases answer with
    | none => exact Triple.ret fun s h => ⟨nofun, capacity, nofun, h⟩
    | some address =>
      refine Triple.of_given fun hlimit => Triple.ret fun s h => ⟨fun _ => ?_, c, fun _ => rfl, h⟩
      exact ⟨hlength.trans_lt hlt, hlimit.trans hmem⟩
  · next hspare =>
    have hlt : xs.length < capacity := by omega
    exact Triple.ret fun s h => ⟨fun _ => ⟨hlt, hfits⟩, capacity, fun _ => rfl, h⟩

lemma triple_captureAt (hmem : mem.limit ≤ addressSpace) (hfits : FitsMemory capacity)
    (hlength : xs.length ≤ capacity) :
    Triple mem (array entryLayout entries capacity xs) (captureAt rows entries xs.length capacity)
      fun r => r.elim 1 fun result => given (result.2 = (xs ++ rows.map snapshotEntry).length)
        (owned entryLayout result.1 (xs ++ rows.map snapshotEntry)) := by
  induction rows generalizing xs entries capacity with
  | nil =>
    refine Triple.ret fun s h => ?_
    simp only [List.map_nil, List.append_nil]
    exact ⟨rfl, capacity, h⟩
  | cons row rows ih =>
    rw [captureAt]
    refine (triple_reserveEntry hmem hfits hlength).bind fun reserved => ?_
    obtain ⟨ok, entries', capacity'⟩ := reserved
    refine Triple.of_given fun hreserved => Triple.of_any fun room =>
      Triple.of_given fun hroom => ?_
    cases ok with
    | false => exact triple_free.bind fun _ => Triple.ret fun s h => h
    | true =>
      obtain ⟨hlt, hfits'⟩ := hreserved rfl
      obtain rfl : room = capacity' := hroom rfl
      refine (triple_store _ hlt).bind fun _ => ?_
      have hsnoc : (xs ++ [snapshotEntry row]).length = xs.length + 1 := by simp
      have hrest := @ih entries' room (xs ++ [snapshotEntry row]) hfits' (hsnoc ▸ hlt)
      rw [hsnoc] at hrest
      simpa using hrest

/-- What the poll reads where `realloc` always answers like this. -/
def PollInput.answered (input : PollInput) (ok : Bool) : PollInput :=
  { input with realloc := fun _ => ok }

lemma captureProcesses_refused (qsort : QSort snapshotLe) (input : PollInput) :
    captureProcesses qsort (input.answered false) = none := by
  unfold captureProcesses PollInput.answered
  split <;> simp [captureLoop]

lemma captureProcesses_answered (qsort : QSort snapshotLe) (input : PollInput)
    (hrows : input.rows.getD [] ≠ []) : captureProcesses qsort (input.answered true) =
      some (qsort.sort ((input.rows.getD []).map snapshotEntry)) := by
  cases hsome : input.rows with
  | none => simp [hsome] at hrows
  | some rows =>
    exact @captureProcesses_granted qsort (input.answered true) rows hsome
      (by simpa [hsome] using hrows) fun _ => rfl

/-- `capture_processes` leaves its snapshot, or nothing. -/
lemma triple_captureProcessesAt (hmem : mem.limit ≤ addressSpace) (qsort : QSort snapshotLe)
    (input : PollInput) :
    Triple mem 1 (captureProcessesAt qsort input) fun r => r.elim 1 fun result => any fun current =>
      given (captureProcesses qsort (input.answered true) = some current ∧
        result.2 = current.length) (owned entryLayout result.1 current) := by
  unfold captureProcessesAt
  dsimp only
  split
  · exact Triple.ret fun s h => h
  · next hrows =>
    have hne : input.rows.getD [] ≠ [] := by simpa using hrows
    have hstart := @triple_captureAt mem none 0 [] (input.rows.getD []) hmem (by simp [FitsMemory])
      (Nat.le_refl _)
    refine (hstart.pre fun s h => ⟨⟨rfl, rfl⟩, h⟩).bind fun captured => ?_
    cases captured with
    | none => exact Triple.ret fun s h => h
    | some result =>
      refine Triple.of_given fun hcount => Triple.of_any fun room => ?_
      obtain ⟨entries, count⟩ := result
      obtain rfl : count = ((input.rows.getD []).map snapshotEntry).length := hcount
      refine (triple_rearrange (by simpa using hne) (qsort.perm _).length_eq).bind fun _ => ?_
      refine Triple.ret fun s h => ⟨_, ⟨captureProcesses_answered qsort input hne, ?_⟩, room, h⟩
      exact (qsort.perm _).length_eq.symm

end Captures

/-! ## The process monitor -/

/-- `ProcessMonitor` as it is in memory. -/
structure ProcessMonitorAt where
  previous : Option ℕ
  previousCount : ℕ
  initialized : Bool

/-- `process_monitor_initialize`. -/
def processMonitorInitializeAt : ProcessMonitorAt := ⟨none, 0, false⟩

/-- `process_monitor_destroy`, which zeroes the monitor. -/
def processMonitorDestroyAt (monitor : ProcessMonitorAt) : Memory ProcessMonitorAt := do
  free monitor.previous
  pure processMonitorInitializeAt

/-- Either loop of `process_monitor_poll`: the entries of one snapshot the other does not have,
where `emit` makes the event of an entry and of the parent found for it. -/
def reportMissingAt (emit : ℕ → ProcessSnapshotEntry → List ProcessSnapshotEntry → TraceGlassEvent)
    (source : Option ℕ) (count : ℕ) (other : Option ℕ) (otherCount : ℕ) :
    ℕ → ℕ → List TraceGlassEvent → Memory (List TraceGlassEvent)
  | 0, _, pushed => pure pushed
  | left + 1, index, pushed => do
      let entry ← load entryLayout source index
      let found ← findEntryAt other otherCount entry.key
      if found.isSome then
        reportMissingAt emit source count other otherCount left (index + 1) pushed
      else do
        let parent ← findEntryByPidAt source count entry.parentPid
        reportMissingAt emit source count other otherCount left (index + 1)
          (pushed ++ [emit pushed.length entry parent.toList])

/-- The second loop, which the first poll leaves out. -/
def reportStopsAt (clock : ℕ → SystemTime) (monitor : ProcessMonitorAt) (current : Option ℕ)
    (count : ℕ) : Memory (List TraceGlassEvent) :=
  if monitor.initialized then
    reportMissingAt (fun i entry entries => emitStopEvent (clock i) entry entries)
      monitor.previous monitor.previousCount current count monitor.previousCount 0 []
  else pure []

/-- `process_monitor_poll`: its return value, the monitor and the events pushed. -/
def processMonitorPollAt (w : Win32) (qsort : QSort snapshotLe) (monitor : ProcessMonitorAt)
    (input : PollInput) : Memory (Bool × ProcessMonitorAt × List TraceGlassEvent) := do
  let captured ← captureProcessesAt qsort input
  captured.elim (pure (false, monitor, [])) fun current => do
    let starts ← reportMissingAt
      (fun i entry entries => emitStartEvent w (input.clock i) entry entries (!monitor.initialized))
      current.1 current.2 monitor.previous monitor.previousCount current.2 0 []
    let stops ← reportStopsAt (fun i => input.clock (starts.length + i)) monitor current.1 current.2
    free monitor.previous
    pure (true, ⟨current.1, current.2, true⟩, starts ++ stops)

/-- The monitor in memory holds what the monitor holds. -/
def ProcessMonitorAt.Holds (monitorAt : ProcessMonitorAt) (monitor : ProcessMonitor) :
    Assertion (Cells Cell) :=
  given (monitorAt.previousCount = monitor.previous.length ∧
    monitorAt.initialized = monitor.initialized)
    (owned entryLayout monitorAt.previous monitor.previous)

/-- The poll in memory has come to this result. -/
def PollResult.At (result : PollResult) (r : Bool × ProcessMonitorAt × List TraceGlassEvent) :
    Assertion (Cells Cell) :=
  given (r.1 = result.ok ∧ r.2.2 = result.pushed) (r.2.1.Holds result.monitor)

section ProcessMonitors

variable {mem : Allocator (Cells Cell)} {source other : Option ℕ}
  {xs ys : List ProcessSnapshotEntry}

/-- The parent found is all an event needs of a snapshot. -/
lemma findEntryByPid_parent (pid : DWORD) :
    findEntryByPid (findEntryByPid xs pid).toList pid = findEntryByPid xs pid := by
  cases hfound : findEntryByPid xs pid with
  | none => rfl
  | some parent =>
    have hpid : parent.key.pid = pid := by
      unfold findEntryByPid at hfound
      dsimp only at hfound
      split at hfound
      · split at hfound
        · next hpid => exact Option.some.inj hfound ▸ hpid
        · cases hfound
      · cases hfound
    simp [findEntryByPid, lowerBound, lowerBoundLoop, hpid]

lemma entryEvent_parent (type : EventType) (entry : ProcessSnapshotEntry) :
    entryEvent type entry (findEntryByPid xs entry.parentPid).toList =
      entryEvent type entry xs := by
  simp only [entryEvent, findEntryByPid_parent]

lemma triple_reportMissingAt
    (emit : ℕ → ProcessSnapshotEntry → List ProcessSnapshotEntry → TraceGlassEvent)
    {left index : ℕ} {pushed : List TraceGlassEvent} (hleft : left = xs.length - index) :
    Triple mem (owned entryLayout source xs * owned entryLayout other ys)
      (reportMissingAt emit source xs.length other ys.length left index pushed) fun r =>
        given (r = pushed ++ ((xs.drop index).filter fun entry =>
            (findEntry ys entry.key).isNone).mapIdx fun i entry =>
              emit (pushed.length + i) entry (findEntryByPid xs entry.parentPid).toList)
          (owned entryLayout source xs * owned entryLayout other ys) := by
  induction left generalizing index pushed with
  | zero =>
    refine Triple.ret fun s h => ⟨?_, h⟩
    simp [List.drop_eq_nil_of_le (show xs.length ≤ index by omega)]
  | succ left ih =>
    have hindex : index < xs.length := by omega
    rw [reportMissingAt, List.drop_eq_getElem_cons hindex]
    refine (Triple.reads fun room => triple_load hindex).frame_given _ |>.bind fun entry =>
      Triple.of_given ?_
    rintro rfl
    refine (Triple.reads fun room => triple_findEntryAt _).frame_given_left _ |>.bind fun found =>
      Triple.of_given fun hfound => ?_
    cases hmissing : findEntry ys xs[index].key with
    | some entry =>
      rw [hmissing] at hfound
      rw [if_pos (by simpa using hfound), List.filter_cons_of_neg (by simp [hmissing])]
      exact ih (by omega)
    | none =>
      rw [hmissing] at hfound
      rw [if_neg (by simp [show found.isSome = false from hfound]),
        List.filter_cons_of_pos (by simp [hmissing])]
      refine (Triple.reads fun room => triple_findEntryByPidAt _).frame_given _ |>.bind
        fun parent => Triple.of_given ?_
      rintro rfl
      refine (ih (by omega)).post fun r s h => ⟨?_, h.2⟩
      rw [h.1]
      simp [List.mapIdx_cons, Nat.add_assoc, Nat.add_comm 1]

lemma triple_reportStopsAt (clock : ℕ → SystemTime) {monitorAt : ProcessMonitorAt}
    {monitor : ProcessMonitor} (hcount : monitorAt.previousCount = monitor.previous.length)
    (hinitialized : monitorAt.initialized = monitor.initialized) :
    Triple mem (owned entryLayout source xs * owned entryLayout monitorAt.previous monitor.previous)
      (reportStopsAt clock monitorAt source xs.length) fun stops =>
        given (stops = pollStops monitor clock xs)
          (owned entryLayout monitorAt.previous monitor.previous *
            owned entryLayout source xs) := by
  rw [mul_comm, reportStopsAt, pollStops, hcount, hinitialized]
  split
  · refine (triple_reportMissingAt _ (Nat.sub_zero _).symm).post fun stops s h => ⟨?_, h.2⟩
    rw [h.1]
    simp only [emitStopEvent, entryEvent_parent, List.drop_zero, List.nil_append, List.length_nil,
      Nat.zero_add]
  · exact Triple.ret fun s h => ⟨rfl, h⟩

/-- `process_monitor_poll` in memory is `process_monitor_poll` on lists. -/
lemma triple_processMonitorPollAt (hmem : mem.limit ≤ addressSpace) (w : Win32)
    (qsort : QSort snapshotLe) (monitorAt : ProcessMonitorAt) (monitor : ProcessMonitor)
    (input : PollInput) :
    Triple mem (monitorAt.Holds monitor) (processMonitorPollAt w qsort monitorAt input)
      fun r => any fun ok => (processMonitorPoll w qsort monitor (input.answered ok)).At r := by
  refine Triple.of_given fun hmonitor => ?_
  obtain ⟨previous, count, initialized⟩ := monitorAt
  obtain ⟨rfl, rfl⟩ : count = monitor.previous.length ∧ initialized = monitor.initialized :=
    hmonitor
  have hcapture := ((triple_captureProcessesAt hmem qsort input).frame
    (owned entryLayout previous monitor.previous))
  rw [one_mul] at hcapture
  refine hcapture.bind fun captured => ?_
  cases captured with
  | none =>
    refine Triple.ret fun s h => ⟨false, ?_⟩
    have h : owned entryLayout previous monitor.previous s := by simpa using h
    simp only [processMonitorPoll, captureProcesses_refused]
    exact ⟨⟨rfl, rfl⟩, ⟨rfl, rfl⟩, h⟩
  | some current =>
    obtain ⟨address, count⟩ := current
    rw [Option.elim_some, any_mul]
    refine Triple.of_any fun current => ?_
    rw [given_mul]
    refine Triple.of_given fun hcurrent => ?_
    obtain ⟨hcaptured, rfl⟩ : _ ∧ count = current.length := hcurrent
    refine (triple_reportMissingAt _ (Nat.sub_zero _).symm).bind fun starts =>
      Triple.of_given fun hstarts => ?_
    have hstops := @triple_reportStopsAt mem address current
      (fun i => input.clock (starts.length + i))
      ⟨previous, monitor.previous.length, monitor.initialized⟩ monitor rfl rfl
    refine hstops.bind fun stops => Triple.of_given fun hstop => ?_
    refine (triple_freeOwned.frame _).bind fun _ =>
      Triple.ret fun s h => ⟨true, ?_⟩
    rw [one_mul] at h
    simp only [processMonitorPoll, hcaptured]
    refine ⟨⟨rfl, ?_⟩, ⟨rfl, rfl⟩, h⟩
    have hstarts' : starts = pollStarts w monitor input.clock current := by
      rw [hstarts, pollStarts]
      simp only [emitStartEvent, entryEvent_parent, List.drop_zero, List.nil_append,
        List.length_nil, Nat.zero_add]
    rw [hstop, hstarts']
    rfl

lemma triple_processMonitorDestroyAt (monitorAt : ProcessMonitorAt) (monitor : ProcessMonitor) :
    Triple mem (monitorAt.Holds monitor) (processMonitorDestroyAt monitorAt) fun zeroed =>
      given (zeroed = processMonitorInitializeAt) 1 :=
  Triple.of_given fun _ => triple_freeOwned.bind fun _ => Triple.ret fun _ h => ⟨rfl, h⟩

end ProcessMonitors

/-! ## The network monitor -/

/-- `NetworkMonitor` as it is in memory. -/
structure NetworkMonitorAt where
  previous : Option ℕ
  previousCount : ℕ

/-- `network_monitor_initialize`. -/
def networkMonitorInitializeAt : NetworkMonitorAt := ⟨none, 0⟩

/-- `network_monitor_destroy`, which zeroes the monitor. -/
def networkMonitorDestroyAt (monitor : NetworkMonitorAt) : Memory NetworkMonitorAt := do
  free monitor.previous
  pure networkMonitorInitializeAt

/-- `connection_exists`. -/
def connectionExistsAt (bsearch : CompareSearch NetworkConnectionKey) (monitor : NetworkMonitorAt)
    (key : NetworkConnectionKey) : Memory Bool :=
  if monitor.previousCount > 0 then do
    let entries ← loadAll keyLayout monitor.previous monitor.previousCount
    pure (connectionExists bsearch entries key)
  else pure false

/-- How many cells a block of this size has for a table. -/
def tableRoom (size : ℕ) : ℕ :=
  if size < sizeofTableHeader then 0 else 1 + (size - sizeofTableHeader) / sizeofTcpRow

/-- What a table with these rows consists of. -/
def tableWords (rows : List TcpRow) : List (DWORD ⊕ TcpRow) :=
  .inl (.ofNat rows.length) :: rows.map .inr

/-- The second call of `GetExtendedTcpTable` writes the table into its block. -/
def writeTable (table : Option ℕ) (rows : List TcpRow) : Memory Unit :=
  access table fun cells =>
    if (tableWords rows).length ≤ cells.length then
      some ((), tableLayout.cells (tableWords rows) ++ cells.drop (tableWords rows).length)
    else none

/-- `table->dwNumEntries`. -/
def numEntriesAt (table : Option ℕ) : Memory DWORD := load countLayout table 0

/-- `table->table[row_index]`. -/
def tableRowAt (table : Option ℕ) (index : ℕ) : Memory TcpRow := load rowLayout table (index + 1)

/-- The loop of `network_monitor_poll` over the rows: the count of the keys kept, and the events. -/
def pollRowsAt (bsearch : CompareSearch NetworkConnectionKey) (monitor : NetworkMonitorAt)
    (answers : ℕ → ConnectionEnv) (table current : Option ℕ) :
    ℕ → ℕ → ℕ → List TraceGlassEvent → Memory (ℕ × List TraceGlassEvent)
  | 0, _, count, pushed => pure (count, pushed)
  | fuel + 1, index, count, pushed => do
      let entries ← numEntriesAt table
      if index < entries.toNat then do
        let row ← tableRowAt table index
        if row.dwState ≠ mibTcpStateEstab then
          pollRowsAt bsearch monitor answers table current fuel (index + 1) count pushed
        else do
          store keyLayout current count (connectionKey row)
          let seen ← connectionExistsAt bsearch monitor (connectionKey row)
          pollRowsAt bsearch monitor answers table current fuel (index + 1) (count + 1)
            (if !seen then pushed ++ [emitNetworkEvent (answers pushed.length) (connectionKey row)]
            else pushed)
      else pure (count, pushed)

/-- `calloc` of the keys, which is left out where there is no row. -/
def callocKeys (count : ℕ) : Memory (Option ℕ) :=
  if count > 0 then alloc (count * sizeofConnectionKey) (List.replicate count none) else pure none

/-- `qsort` on the keys, where there are two. -/
def sortKeysAt (qsort : CompareSort NetworkConnectionKey) (current : Option ℕ) (count : ℕ) :
    Memory Unit :=
  if count > 1 then rearrange keyLayout (qsort.sort compareConnectionKeys) current count
  else pure ()

/-- `network_monitor_poll` from the second call of `GetExtendedTcpTable` on. -/
def readTableAt (qsort : CompareSort NetworkConnectionKey)
    (bsearch : CompareSearch NetworkConnectionKey) (monitor : NetworkMonitorAt)
    (input : TcpPollInput) (table : Option ℕ) :
    Memory (Bool × NetworkMonitorAt × List TraceGlassEvent) := do
  writeTable table input.table
  let entries ← numEntriesAt table
  let current ← callocKeys entries.toNat
  if entries.toNat > 0 && current.isNone then do
    free table
    pure (false, monitor, [])
  else do
    -- one turn for each row, and one that ends the loop
    let kept ← pollRowsAt bsearch monitor input.answers table current (entries.toNat + 1) 0 0 []
    sortKeysAt qsort current kept.1
    free table
    free monitor.previous
    pure (true, ⟨current, kept.1⟩, kept.2)

/-- `network_monitor_poll`: its return value, the monitor and the events pushed. -/
def networkMonitorPollAt (qsort : CompareSort NetworkConnectionKey)
    (bsearch : CompareSearch NetworkConnectionKey) (monitor : NetworkMonitorAt)
    (input : TcpPollInput) : Memory (Bool × NetworkMonitorAt × List TraceGlassEvent) :=
  if input.sizeStatus ≠ errorInsufficientBuffer ∨ input.tableSize = 0 then
    pure (false, monitor, [])
  else do
    let table ← alloc input.tableSize.toNat
      (List.replicate (tableRoom input.tableSize.toNat) none)
    if table.isNone then pure (false, monitor, [])
    else if input.tableStatus ≠ noError then do
      free table
      pure (false, monitor, [])
    else readTableAt qsort bsearch monitor input table

/-- A table that has been read fits, with its header, into the size asked for. -/
def TcpPollInput.Fits (input : TcpPollInput) : Prop :=
  input.tableStatus = noError → sizeofTableHeader ≤ input.tableSize.toNat ∧
    input.table.length ≤ (input.tableSize.toNat - sizeofTableHeader) / sizeofTcpRow

/-- What the poll reads where `malloc` and `calloc` answer like this. -/
def TcpPollInput.answered (input : TcpPollInput) (malloc calloc : Bool) : TcpPollInput :=
  { input with malloc := malloc, calloc := calloc }

/-- The monitor in memory holds what the monitor holds. -/
def NetworkMonitorAt.Holds (monitorAt : NetworkMonitorAt) (monitor : NetworkMonitor) :
    Assertion (Cells Cell) :=
  given (monitorAt.previousCount = monitor.previous.length)
    (owned keyLayout monitorAt.previous monitor.previous)

/-- The poll in memory has come to this result. -/
def TcpPollResult.At (result : TcpPollResult)
    (r : Bool × NetworkMonitorAt × List TraceGlassEvent) : Assertion (Cells Cell) :=
  given (r.1 = result.ok ∧ r.2.2 = result.pushed) (r.2.1.Holds result.monitor)

section NetworkMonitors

variable {mem : Allocator (Cells Cell)} {qsort : CompareSort NetworkConnectionKey}
  {bsearch : CompareSearch NetworkConnectionKey} {monitorAt : NetworkMonitorAt}
  {monitor : NetworkMonitor}

lemma triple_connectionExistsAt (key : NetworkConnectionKey)
    (hcount : monitorAt.previousCount = monitor.previous.length) :
    Triple mem (owned keyLayout monitorAt.previous monitor.previous)
      (connectionExistsAt bsearch monitorAt key) fun seen =>
        given (seen = connectionExists bsearch monitor.previous key)
          (owned keyLayout monitorAt.previous monitor.previous) := by
  unfold connectionExistsAt
  rw [hcount]
  split
  · next hpos =>
    have hne : monitor.previous ≠ [] := List.ne_nil_of_length_pos hpos
    refine (Triple.reads fun room => triple_loadAll hne).bind fun entries => Triple.of_given ?_
    rintro rfl
    exact Triple.ret fun s h => ⟨rfl, h⟩
  · next hzero =>
    have hnone : connectionExists bsearch monitor.previous key = false := by
      simp [connectionExists, show ¬ monitor.previous.length > 0 from hzero]
    exact Triple.ret fun s h => ⟨hnone.symm, h⟩

/-- A table that is in memory. -/
abbrev tableOwned (table : Option ℕ) (rows : List TcpRow) : Assertion (Cells Cell) :=
  owned tableLayout table (tableWords rows)

/-- The header is the number of the rows. -/
lemma triple_numEntriesAt {table : Option ℕ} {rows : List TcpRow} (hcount : rows.length < 2 ^ 32) :
    Triple mem (tableOwned table rows) (numEntriesAt table) fun entries =>
      given (entries.toNat = rows.length) (tableOwned table rows) := by
  have hindex : 0 < (tableWords rows).length := Nat.succ_pos _
  have hget : countLayout.get (tableLayout.put (tableWords rows)[0]) = some (.ofNat rows.length) :=
    rfl
  refine (Triple.reads fun room => triple_loadAs hindex hget).post fun entries s h => ⟨?_, h.2⟩
  rw [h.1]
  exact UInt32.toNat_ofNat_of_lt' hcount

lemma triple_tableRowAt {table : Option ℕ} {rows : List TcpRow} {index : ℕ}
    (hindex : index < rows.length) :
    Triple mem (tableOwned table rows) (tableRowAt table index) fun row =>
      given (row = rows[index]) (tableOwned table rows) := by
  have hlt : index + 1 < (tableWords rows).length := by simpa [tableWords] using hindex
  have hget : rowLayout.get (tableLayout.put (tableWords rows)[index + 1]) = some rows[index] := by
    simp [tableWords, tableLayout, rowLayout]
  exact Triple.reads fun room => triple_loadAs hlt hget

lemma triple_pollRowsAt {answers : ℕ → ConnectionEnv} {table current : Option ℕ}
    {rows : List TcpRow} {keys : List NetworkConnectionKey} {pushed : List TraceGlassEvent}
    {fuel index room : ℕ} (hcount : monitorAt.previousCount = monitor.previous.length)
    (hrows : rows.length < 2 ^ 32) (hfuel : rows.length - index < fuel)
    (hroom : keys.length + (rows.length - index) ≤ room) :
    Triple mem (tableOwned table rows * (array keyLayout current room keys *
        owned keyLayout monitorAt.previous monitor.previous))
      (pollRowsAt bsearch monitorAt answers table current fuel index keys.length pushed) fun r =>
        any fun keys' => given ((keys', r.2) =
            pollRows bsearch monitor.previous answers (rows.drop index) keys pushed ∧
            r.1 = keys'.length)
          (tableOwned table rows * (array keyLayout current room keys' *
            owned keyLayout monitorAt.previous monitor.previous)) := by
  induction fuel generalizing index keys pushed with
  | zero => omega
  | succ fuel ih =>
    rw [pollRowsAt]
    refine ((triple_numEntriesAt hrows).frame_given _).bind fun entries =>
      Triple.of_given fun hentries => ?_
    rw [hentries]
    by_cases hindex : index < rows.length
    swap
    · rw [if_neg hindex, List.drop_eq_nil_of_le (by omega)]
      exact Triple.ret fun s h => ⟨keys, ⟨rfl, rfl⟩, h⟩
    rw [if_pos hindex, List.drop_eq_getElem_cons hindex, pollRows]
    refine ((triple_tableRowAt hindex).frame_given _).bind fun row => Triple.of_given ?_
    rintro rfl
    split
    · exact ih (by omega) (by omega)
    · have hlt : keys.length < room := by omega
      refine ((triple_store (connectionKey rows[index]) hlt).frame _ |>.frame_left _).bind
        fun _ => ?_
      have hexists := @triple_connectionExistsAt mem bsearch monitorAt monitor
        (connectionKey rows[index]) hcount
      refine (hexists.frame_given_left _ |>.frame_given_left _).bind fun seen => Triple.of_given ?_
      rintro rfl
      have hsnoc : (keys ++ [connectionKey rows[index]]).length = keys.length + 1 := by simp
      rw [← hsnoc]
      exact ih (by omega) (by omega)

/-- The table is written into its block. -/
lemma triple_writeTable {address room : ℕ} {rows : List TcpRow}
    (hfits : (tableWords rows).length ≤ room) :
    Triple mem (array tableLayout (some address) room []) (writeTable (some address) rows) fun _ =>
      array tableLayout (some address) room (tableWords rows) := by
  refine Triple.of_any fun cells => Triple.of_given fun hcells => ?_
  have hlength : (tableWords rows).length ≤ cells.length := hcells.2 ▸ hfits
  unfold writeTable
  refine Triple.post (Triple.access (x := ())
    (c := tableLayout.cells (tableWords rows) ++ cells.drop (tableWords rows).length)
    (if_pos hlength)) ?_
  rintro _ s ⟨-, hs⟩
  refine ⟨_, ⟨List.prefix_append _ _, ?_⟩, hs⟩
  rw [List.length_append, Layout.length_cells, List.length_drop, ← hcells.2]
  omega

lemma triple_callocKeys (count : ℕ) :
    Triple mem 1 (callocKeys count) fun current =>
      if count > 0 && current.isNone then 1 else array keyLayout current count [] := by
  unfold callocKeys
  split
  · next hpos =>
    refine (Triple.alloc _ _).post fun current s h => ?_
    cases current with
    | none => simpa [hpos] using h
    | some address =>
      rw [if_neg (by simp)]
      exact ⟨_, ⟨List.nil_prefix, List.length_replicate⟩, h.2⟩
  · next hzero =>
    refine Triple.ret fun s h => ?_
    rw [if_neg (by simp [hzero])]
    exact ⟨⟨rfl, by omega⟩, h⟩

/-- The keys are sorted where there are two of them. -/
lemma triple_sortKeysAt {current : Option ℕ} {room : ℕ} (keys : List NetworkConnectionKey) :
    Triple mem (array keyLayout current room keys) (sortKeysAt qsort current keys.length) fun _ =>
      array keyLayout current room
        (if keys.length > 1 then qsort.sort compareConnectionKeys keys else keys) := by
  unfold sortKeysAt
  split
  · next hlength =>
    exact triple_rearrange (List.ne_nil_of_length_pos (by omega)) (qsort.perm _ _).length_eq
  · exact Triple.ret fun s h => h

/-- A poll fails where it fails on lists with its allocations answered like this. -/
lemma triple_failedPoll {input : TcpPollInput} (answers : Bool × Bool)
    (h : ¬ (input.answered answers.1 answers.2).Succeeds) :
    Triple mem (monitorAt.Holds monitor) (pure (false, monitorAt, [])) fun r =>
      any fun answers : Bool × Bool =>
        (networkMonitorPoll qsort bsearch monitor (input.answered answers.1 answers.2)).At r := by
  refine Triple.ret fun s hs => any_intro answers ?_
  rw [networkMonitorPoll_of_not_succeeds h]
  exact ⟨⟨rfl, rfl⟩, hs⟩

/-- What fits into the size asked for has room in the block, and its count in the header. -/
lemma TcpPollInput.Fits.room {input : TcpPollInput} (h : input.Fits)
    (hstatus : input.tableStatus = noError) :
    (tableWords input.table).length ≤ tableRoom input.tableSize.toNat ∧
      input.table.length < 2 ^ 32 := by
  obtain ⟨hheader, hrows⟩ := h hstatus
  have hsize := input.tableSize.toNat_lt
  simp only [tableWords, tableRoom, if_neg (Nat.not_lt.mpr hheader), List.length_cons,
    List.length_map]
  simp only [sizeofTableHeader, sizeofTcpRow] at hrows ⊢
  omega

lemma triple_readTableAt {input : TcpPollInput} {address room : ℕ}
    (hsize : ¬(input.sizeStatus ≠ errorInsufficientBuffer ∨ input.tableSize = 0))
    (hstatus : input.tableStatus = noError) (hfits : (tableWords input.table).length ≤ room)
    (hrows : input.table.length < 2 ^ 32) :
    Triple mem (array tableLayout (some address) room [] * monitorAt.Holds monitor)
      (readTableAt qsort bsearch monitorAt input (some address)) fun r =>
        any fun answers : Bool × Bool =>
          (networkMonitorPoll qsort bsearch monitor (input.answered answers.1 answers.2)).At r := by
  refine ((triple_writeTable hfits).frame _).bind fun _ => ?_
  refine Triple.pre ?_ fun s h => mul_mono (fun _ => owned_of_array) (fun _ h => h) h
  refine ((triple_numEntriesAt hrows).frame_given _).bind fun entries =>
    Triple.of_given fun hentries => ?_
  simp only [hentries]
  have hcalloc := (@triple_callocKeys mem input.table.length).frame
    (tableOwned (some address) input.table * monitorAt.Holds monitor)
  rw [one_mul] at hcalloc
  refine hcalloc.bind fun current => ?_
  split
  · next hnone =>
    have hne : input.table ≠ [] := List.ne_nil_of_length_pos (by simp at hnone; omega)
    rw [one_mul]
    refine (triple_freeOwned.frame _).bind fun _ => ?_
    rw [one_mul]
    exact triple_failedPoll (true, false) fun h => Bool.false_ne_true (h.2.2.2.2 hne)
  · next hsome =>
    have hpoll : networkMonitorPoll qsort bsearch monitor (input.answered true true) =
        let kept := pollRows bsearch monitor.previous input.answers input.table [] []
        ⟨true, ⟨if kept.1.length > 1 then qsort.sort compareConnectionKeys kept.1 else kept.1⟩,
          kept.2⟩ := by
      simp [networkMonitorPoll, TcpPollInput.answered, hstatus, hsize]
    rw [NetworkMonitorAt.Holds, mul_given, mul_given, mul_left_comm]
    refine Triple.of_given fun hcount => ?_
    refine (@triple_pollRowsAt mem bsearch monitorAt monitor input.answers (some address) current
      input.table [] [] (input.table.length + 1) 0 input.table.length hcount hrows (by omega)
      (by simp)).bind fun kept => Triple.of_any fun keys => Triple.of_given fun hkept => ?_
    obtain ⟨hkeys, hlength⟩ := hkept
    obtain ⟨count, pushed⟩ := kept
    obtain rfl : count = keys.length := hlength
    refine ((triple_sortKeysAt keys).frame _ |>.frame_left _).bind fun _ => ?_
    refine (triple_freeOwned.frame _).bind fun _ => ?_
    rw [one_mul]
    refine (triple_freeOwned.frame_left _).bind fun _ =>
      Triple.ret fun s h => any_intro (true, true) ?_
    rw [mul_one] at h
    rw [List.drop_zero] at hkeys
    rw [hpoll, ← hkeys]
    refine ⟨⟨rfl, rfl⟩, ?_, owned_of_array h⟩
    dsimp only
    split
    · exact (qsort.perm _ _).length_eq.symm
    · rfl

/-- `network_monitor_poll` in memory is `network_monitor_poll` on lists. -/
lemma triple_networkMonitorPollAt {input : TcpPollInput} (hfits : input.Fits) :
    Triple mem (monitorAt.Holds monitor) (networkMonitorPollAt qsort bsearch monitorAt input)
      fun r => any fun answers : Bool × Bool =>
        (networkMonitorPoll qsort bsearch monitor (input.answered answers.1 answers.2)).At r := by
  unfold networkMonitorPollAt
  split
  · next hsize =>
    exact triple_failedPoll (true, true) fun h => hsize.elim (fun hne => hne h.1) h.2.1
  · next hsize =>
    have halloc := (@Triple.alloc _ mem input.tableSize.toNat (List.replicate
      (tableRoom input.tableSize.toNat) (none : Option Cell))).frame (monitorAt.Holds monitor)
    rw [one_mul] at halloc
    refine halloc.bind fun table => ?_
    cases table with
    | none =>
      rw [Option.elim_none, one_mul]
      exact triple_failedPoll (false, false) fun h => Bool.false_ne_true h.2.2.1
    | some address =>
      have hroom : ∀ s, (given (input.tableSize.toNat ≤ mem.limit) (block address (List.replicate
          (tableRoom input.tableSize.toNat) (none : Option Cell)))) s →
          array tableLayout (some address) (tableRoom input.tableSize.toNat) [] s :=
        fun s h => ⟨_, ⟨List.nil_prefix, List.length_replicate⟩, h.2⟩
      refine Triple.pre ?_ fun s h => mul_mono hroom (fun _ h => h) h
      simp only [Option.isNone_some, Bool.false_eq_true, if_false]
      split
      · next hstatus =>
        refine (triple_free.frame _).bind fun _ => ?_
        rw [one_mul]
        exact triple_failedPoll (true, true) fun h => hstatus h.2.2.2.1
      · next hstatus =>
        have hok : input.tableStatus = noError := not_not.mp hstatus
        exact triple_readTableAt hsize hok (hfits.room hok).1 (hfits.room hok).2

lemma triple_networkMonitorDestroyAt (monitorAt : NetworkMonitorAt) (monitor : NetworkMonitor) :
    Triple mem (monitorAt.Holds monitor) (networkMonitorDestroyAt monitorAt) fun zeroed =>
      given (zeroed = networkMonitorInitializeAt) 1 :=
  Triple.of_given fun _ => triple_freeOwned.bind fun _ => Triple.ret fun _ h => ⟨rfl, h⟩

end NetworkMonitors

/-! ## The polls of a session -/

/-- Both monitors as they are in memory, with the events pushed. -/
structure MonitorsAt where
  processes : ProcessMonitorAt
  network : NetworkMonitorAt
  pushed : List TraceGlassEvent

/-- Initialized or destroyed monitors, with these events pushed before. -/
def MonitorsAt.zeroed (pushed : List TraceGlassEvent) : MonitorsAt :=
  ⟨processMonitorInitializeAt, networkMonitorInitializeAt, pushed⟩

/-- One poll of the worker. -/
def pollAt (setting : Setting) (state : MonitorsAt) : PollInput ⊕ TcpPollInput → Memory MonitorsAt
  | .inl input => do
      let result ← processMonitorPollAt setting.win32 setting.processSort state.processes input
      pure ⟨result.2.1, state.network, state.pushed ++ result.2.2⟩
  | .inr input => do
      let result ← networkMonitorPollAt setting.connectionSort setting.connectionSearch
        state.network input
      pure ⟨state.processes, result.2.1, state.pushed ++ result.2.2⟩

/-- Polls, one after the other. -/
def pollsAt (setting : Setting) (state : MonitorsAt) :
    List (PollInput ⊕ TcpPollInput) → Memory MonitorsAt
  | [] => pure state
  | poll :: polls => do
      let state ← pollAt setting state poll
      pollsAt setting state polls

/-- The monitors are initialized, polled and destroyed. -/
def sessionAt (setting : Setting) (polls : List (PollInput ⊕ TcpPollInput)) :
    Memory MonitorsAt := do
  let state ← pollsAt setting (.zeroed []) polls
  let processes ← processMonitorDestroyAt state.processes
  let network ← networkMonitorDestroyAt state.network
  pure ⟨processes, network, state.pushed⟩

/-- What the poll has found, but for what its allocations were answered. -/
def Answered : PollInput ⊕ TcpPollInput → Finding → Prop
  | .inl input, found => ∃ ok, found = .processes (input.answered ok)
  | .inr input, found => ∃ malloc calloc, found = .connections (input.answered malloc calloc)

/-- The memory holds what has been collected. -/
def MonitorsAt.Holds (state : MonitorsAt) (collected : Collected) : Assertion (Cells Cell) :=
  given (state.pushed = collected.reported)
    (state.processes.Holds collected.monitors.processes *
      state.network.Holds collected.monitors.network)

section Sessions

variable {setting : Setting} {mem : Allocator (Cells Cell)}

lemma triple_pollAt (hmem : mem.limit ≤ addressSpace) {state : MonitorsAt} {before : Collected}
    {poll : PollInput ⊕ TcpPollInput} (hfits : ∀ input, poll = .inr input → input.Fits) :
    Triple mem (state.Holds before) (pollAt setting state poll) fun state' => any fun found =>
      given (Answered poll found) (state'.Holds (collect setting before found)) := by
  refine Triple.of_given fun hpushed => ?_
  cases poll with
  | inl input =>
    refine ((triple_processMonitorPollAt hmem _ _ _ _ input).frame _).bind fun result => ?_
    rw [any_mul]
    refine Triple.of_any fun ok => ?_
    rw [PollResult.At, given_mul]
    refine Triple.of_given fun hresult => Triple.ret fun s h =>
      any_intro (.processes (input.answered ok)) ⟨⟨ok, rfl⟩, ?_, h⟩
    simp only [hresult.2, hpushed, collect]
  | inr input =>
    refine ((triple_networkMonitorPollAt (hfits input rfl)).frame_left _).bind fun result => ?_
    rw [mul_comm, any_mul]
    refine Triple.of_any fun answers => ?_
    rw [TcpPollResult.At, given_mul]
    refine Triple.of_given fun hresult => Triple.ret fun s h =>
      any_intro (.connections (input.answered answers.1 answers.2)) ⟨⟨_, _, rfl⟩, ?_, ?_⟩
    · simp only [hresult.2, hpushed, collect]
    · rwa [mul_comm] at h

lemma triple_pollsAt (hmem : mem.limit ≤ addressSpace) {state : MonitorsAt} {before : Collected}
    {polls : List (PollInput ⊕ TcpPollInput)} (hfits : ∀ input, .inr input ∈ polls → input.Fits) :
    Triple mem (state.Holds before) (pollsAt setting state polls) fun state' => any fun found =>
      given (List.Forall₂ Answered polls found)
        (state'.Holds (found.foldl (collect setting) before)) := by
  induction polls generalizing state before with
  | nil => exact Triple.ret fun s h => any_intro [] ⟨.nil, h⟩
  | cons poll polls ih =>
    refine (triple_pollAt hmem fun input h => hfits input (h ▸ List.mem_cons_self)).bind
      fun state' => Triple.of_any fun first => Triple.of_given fun hfirst => ?_
    refine (ih fun input h => hfits input (List.mem_cons_of_mem _ h)).post fun state'' s h => ?_
    obtain ⟨found, hfound, h⟩ := h
    exact ⟨first :: found, .cons hfirst hfound, h⟩

/-- A session takes nothing from the heap and leaves nothing in it. -/
lemma triple_sessionAt (hmem : mem.limit ≤ addressSpace) {polls : List (PollInput ⊕ TcpPollInput)}
    (hfits : ∀ input, .inr input ∈ polls → input.Fits) :
    Triple mem 1 (sessionAt setting polls) fun state => any fun found =>
      given (List.Forall₂ Answered polls found ∧
        state = .zeroed (collected setting found).reported) 1 := by
  have hstart : ∀ s, (1 : Assertion (Cells Cell)) s →
      (MonitorsAt.zeroed []).Holds ⟨Monitors.initial, []⟩ s := by
    intro s h
    refine ⟨rfl, ?_⟩
    rw [← one_mul (1 : Assertion (Cells Cell))] at h
    exact mul_mono (fun _ h => ⟨⟨rfl, rfl⟩, 0, ⟨rfl, rfl⟩, h⟩)
      (fun _ h => ⟨rfl, 0, ⟨rfl, rfl⟩, h⟩) h
  refine ((triple_pollsAt hmem hfits).pre hstart).bind fun state => Triple.of_any fun found =>
    Triple.of_given fun hfound => Triple.of_given fun hpushed => ?_
  refine ((triple_processMonitorDestroyAt _ _).frame_given _).bind fun processes =>
    Triple.of_given fun hprocesses => ?_
  rw [one_mul]
  refine (triple_networkMonitorDestroyAt _ _).bind fun network =>
    Triple.of_given fun hnetwork => Triple.ret fun s h => ⟨found, ⟨hfound, ?_⟩, h⟩
  rw [hprocesses, hnetwork, hpushed]
  rfl

/-- **The monitors own their memory.**  Whatever the polls of a session read, in any order, and
whichever of their allocations are refused: the session runs through without an access outside its
own blocks, leaves the heap as it was and no pointer in the monitors, and pushes what the polls make
the worker report where the allocations are answered in some way. -/
theorem worker_memory (hmem : mem.limit ≤ addressSpace) (polls : List (PollInput ⊕ TcpPollInput))
    (hfits : ∀ input, .inr input ∈ polls → input.Fits) (heap : Heap (Cells Cell)) (calls : ℕ) :
    ∃ found calls', List.Forall₂ Answered polls found ∧
      sessionAt setting polls mem ⟨heap, calls⟩ =
        some (.zeroed (collected setting found).reported, ⟨heap, calls'⟩) := by
  obtain ⟨state, rest, calls', hrun, -, found, ⟨hfound, rfl⟩, rfl⟩ :=
    @triple_sessionAt setting mem hmem polls hfits ∅ heap calls rfl (Finmap.disjoint_empty heap)
  rw [Finmap.empty_union] at hrun
  exact ⟨found, calls', hfound, hrun⟩

/-- An allocator that counts its addresses up, and refuses the third block it is asked for. -/
def sampleAllocator : Allocator (Cells Cell) where
  limit := addressSpace
  answer calls heap bytes :=
    if calls ∉ heap ∧ bytes ≤ addressSpace ∧ calls ≠ 2 then some calls else none
  fresh := by
    intro calls heap bytes address h
    split at h
    · next hanswer => exact Option.some.inj h ▸ hanswer.1
    · cases h
  bounded := by
    intro calls heap bytes address h
    split at h
    · next hanswer => exact hanswer.2.1
    · cases h

/-- A poll of either monitor, and both once more. -/
def samplePolls : List (PollInput ⊕ TcpPollInput) :=
  [.inl (samplePoll [sampleRow 8 (some 5)]), .inr (.reading [⟨mibTcpStateEstab, 1, 80, 2, 443, 8⟩]),
    .inr (.reading []), .inl (samplePoll [sampleRow 8 (some 5), sampleRow 12 (some 9)])]

theorem worker_memory_samplePolls :
    sampleAllocator.limit ≤ addressSpace ∧
      (∀ input, .inr input ∈ samplePolls → input.Fits) ∧
      ∃ found calls', List.Forall₂ Answered samplePolls found ∧
        sessionAt .sample samplePolls sampleAllocator ⟨∅, 0⟩ =
          some (.zeroed (collected .sample found).reported, ⟨∅, calls'⟩) := by
  have hfits : ∀ input, .inr input ∈ samplePolls → input.Fits := by
    intro input h
    have hinput : input = .reading [⟨mibTcpStateEstab, 1, 80, 2, 443, 8⟩] ∨
        input = .reading [] := by simpa [samplePolls] using h
    rcases hinput with rfl | rfl <;> exact fun _ => by decide
  exact ⟨Nat.le_refl _, hfits, worker_memory (Nat.le_refl _) samplePolls hfits ∅ 0⟩

end Sessions

end TraceGlass
