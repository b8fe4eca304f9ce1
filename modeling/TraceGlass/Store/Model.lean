import TraceGlass.Events
import TraceGlass.Lib.Run

/-!
# The event store (`event_store.c`)

The store keeps the history of accepted events and one `ProcessRecord` per process instance it has
heard of.  `eventStoreAdd` is the only operation that changes it.

An array with its count is a list; its capacity is kept, since `reserve_events` and
`reserve_processes` decide on it.  Whether `realloc` answers a block is an input of each call, a
`ReallocOutcome`.  `event_store_add` mutates the event it is given (it stamps the sequence number)
and reports through a return value and an out parameter, so its result is an `AddResult`.

`eventStoreAdd` is written in the two halves of its body: `stageEvent` is the chain over the event
type, which either returns early or falls through, and `appendEvent` is the growth of the history
at the end.  `Staging` is the inversion of the first half, `AddCase` of the whole.
-/

namespace TraceGlass

/-- `ProcessRecord`. -/
structure ProcessRecord where
  key : ProcessKey
  parent : ProcessKey
  active : Bool
  name : WString maxPath
  parentName : WString maxPath
  path : WString maxPath
  startTime : SystemTime
  stopTime : SystemTime
  deriving DecidableEq

/-- The record `ZeroMemory` leaves behind. -/
def ProcessRecord.zero : ProcessRecord where
  key := ⟨0, 0⟩
  parent := ⟨0, 0⟩
  active := false
  name := .empty
  parentName := .empty
  path := .empty
  startTime := .zero
  stopTime := .zero

/-- `EventStore`; `events` and `processes` are the used parts of the two arrays. -/
structure EventStore where
  events : List TraceGlassEvent
  eventCapacity : ℕ
  processes : List ProcessRecord
  processCapacity : ℕ
  activeProcessCount : ℕ
  networkCount : ℕ
  alertCount : ℕ
  nextSequence : ULONGLONG
  deriving DecidableEq

/-- `event_store_initialize`. -/
def eventStoreInitialize : EventStore where
  events := []
  eventCapacity := 0
  processes := []
  processCapacity := 0
  activeProcessCount := 0
  networkCount := 0
  alertCount := 0
  nextSequence := 1

namespace EventStore

variable (store : EventStore)

/-- `event_count`. -/
def eventCount : ℕ := store.events.length

/-- `process_count`. -/
def processCount : ℕ := store.processes.length

/-- The record a pointer into `processes` refers to. -/
def record (index : ℕ) : ProcessRecord := store.processes.getD index .zero

end EventStore

/-! ## Growing the arrays -/

/-- `sizeof(TraceGlassEvent)` on x64. -/
def sizeofTraceGlassEvent : ℕ := 4224

/-- `sizeof(ProcessRecord)` on x64. -/
def sizeofProcessRecord : ℕ := 1632

/-- How the doubling loop ends. -/
inductive Growth
  | reached (capacity : ℕ)
  | overflow
  | outOfFuel
  deriving DecidableEq

/-- `while (capacity < required)`: double, unless that would wrap. -/
def growLoop (required : ℕ) : ℕ → ℕ → Growth
  | 0, _ => .outOfFuel
  | fuel + 1, capacity =>
      if capacity < required then
        if capacity > sizeMax / 2 then .overflow
        else growLoop required fuel (capacity * 2 % (sizeMax + 1))
      else .reached capacity

/-- The common body of `reserve_events` and `reserve_processes`: the capacity afterwards, or `none`
for the `FALSE` return, which leaves the array alone.  A doubled `size_t` passes `SIZE_MAX / 2`
within 64 rounds, so the fuel never runs out. -/
def reserve (itemSize initial : ℕ) (realloc : Bool) (capacity required : ℕ) : Option ℕ :=
  if required ≤ capacity then some capacity
  else if capacity ≠ 0 ∧ capacity > sizeMax / 2 then none
  else
    match growLoop required 65 (if capacity = 0 then initial else capacity * 2 % (sizeMax + 1)) with
    | .reached grown =>
        if grown > sizeMax / itemSize then none
        else if realloc then some grown
        else none
    | .overflow => none
    | .outOfFuel => none

/-- Whether the `realloc` of each of the two reservations answers a block. -/
structure ReallocOutcome where
  processes : Bool
  events : Bool
  deriving DecidableEq

/-- Every allocation succeeds. -/
def ReallocOutcome.succeed : ReallocOutcome := ⟨true, true⟩

/-- `reserve_events`. -/
def reserveEvents (realloc : Bool) (store : EventStore) (required : ℕ) : Option EventStore :=
  (reserve sizeofTraceGlassEvent 256 realloc store.eventCapacity required).map fun capacity =>
    { store with eventCapacity := capacity }

/-- `reserve_processes`. -/
def reserveProcesses (realloc : Bool) (store : EventStore) (required : ℕ) : Option EventStore :=
  (reserve sizeofProcessRecord 128 realloc store.processCapacity required).map fun capacity =>
    { store with processCapacity := capacity }

/-! ## Finding a record -/

/-- `process_keys_match`: an unknown creation time matches any. -/
def processKeysMatch (left right : ProcessKey) : Bool :=
  if left.pid != right.pid then false
  else left.creationTime == right.creationTime || left.creationTime == 0 ||
    right.creationTime == 0

/-- `event_store_find_process`: scan from the newest record; an exact match returns at once, and
otherwise the first active match met is the answer. -/
def eventStoreFindProcess (store : EventStore) (key : ProcessKey) : Option ℕ :=
  if key.pid = 0 then none
  else
    BackScan.backScan
      (fun record => processKeysMatch record.key key &&
        (record.key.creationTime == key.creationTime && key.creationTime != 0))
      (fun record => processKeysMatch record.key key && record.active)
      store.processes

/-! ## Updating a record -/

/-- `update_record_from_event`: what the event does not know is not taken over. -/
def updateRecordFromEvent (record : ProcessRecord) (event : TraceGlassEvent) : ProcessRecord :=
  { record with
    key :=
      if event.process.creationTime ≠ 0 then
        { record.key with creationTime := event.process.creationTime }
      else record.key
    parent := if event.parent.pid ≠ 0 then event.parent else record.parent
    name :=
      if event.processName.chars ≠ [] then copyWstring maxPath event.processName.chars
      else record.name
    parentName :=
      if event.parentName.chars ≠ [] then copyWstring maxPath event.parentName.chars
      else record.parentName
    path :=
      if event.executablePath.chars ≠ [] then copyWstring maxPath event.executablePath.chars
      else record.path }

/-- The record both branches append: zeroed, keyed by the event and filled in from it. -/
def newRecord (event : TraceGlassEvent) : ProcessRecord :=
  updateRecordFromEvent { ProcessRecord.zero with key := event.process, parent := event.parent }
    event

/-- `update_record_from_event` on the record at `index`. -/
def mergeRecord (store : EventStore) (index : ℕ) (event : TraceGlassEvent) : EventStore :=
  { store with
    processes := store.processes.set index (updateRecordFromEvent (store.record index) event) }

/-- The new record, at index `process_count`. -/
def appendRecord (store : EventStore) (event : TraceGlassEvent) : EventStore :=
  { store with processes := store.processes ++ [newRecord event] }

/-- The end of the START branch, on the record at `index`. -/
def startRecord (store : EventStore) (index : ℕ) (timestamp : SystemTime) : EventStore :=
  { store with
    processes :=
      store.processes.set index
        { store.record index with active := true, startTime := timestamp }
    activeProcessCount := sizeAdd store.activeProcessCount 1 }

/-- The end of the STOP branch, on the record at `index`. -/
def stopRecord (store : EventStore) (index : ℕ) (timestamp : SystemTime) : EventStore :=
  { store with
    processes :=
      store.processes.set index
        { store.record index with active := false, stopTime := timestamp }
    activeProcessCount :=
      if (store.record index).active && decide (store.activeProcessCount > 0) then
        store.activeProcessCount - 1
      else store.activeProcessCount }

/-! ## Adding an event -/

/-- Where the chain over the event type leaves off: an early return, or falling through to the
history with the changes made so far. -/
inductive Staged
  | returned (ok : Bool) (store : EventStore)
  | staged (store : EventStore)

/-- The START branch. -/
def stageStart (alloc : ReallocOutcome) (store : EventStore) (event : TraceGlassEvent) : Staged :=
  match eventStoreFindProcess store event.process with
  | some index =>
      -- ETW and the reconciliation poller may report the same identity.
      .returned true (mergeRecord store index event)
  | none =>
      match reserveProcesses alloc.processes store (sizeAdd store.processCount 1) with
      | none => .returned false store
      | some store =>
          .staged (startRecord (appendRecord store event) store.processCount event.timestamp)

/-- The STOP branch. -/
def stageStop (alloc : ReallocOutcome) (store : EventStore) (event : TraceGlassEvent) : Staged :=
  match eventStoreFindProcess store event.process with
  | some index =>
      if !(store.record index).active then .returned true store
      else .staged (stopRecord (mergeRecord store index event) index event.timestamp)
  | none =>
      match reserveProcesses alloc.processes store (sizeAdd store.processCount 1) with
      | none => .returned false store
      | some store =>
          .staged (stopRecord (appendRecord store event) store.processCount event.timestamp)

/-- The chain over the event type. -/
def stageEvent (alloc : ReallocOutcome) (store : EventStore) (event : TraceGlassEvent) : Staged :=
  match event.type with
  | .processStart => stageStart alloc store event
  | .processStop => stageStop alloc store event
  | .network => .staged { store with networkCount := sizeAdd store.networkCount 1 }
  | .alert => .staged { store with alertCount := sizeAdd store.alertCount 1 }
  | .file => .staged store
  | .registry => .staged store

/-- What a call reports: the return value, `*accepted`, the event with its sequence number, and the
store. -/
structure AddResult where
  ok : Bool
  accepted : Bool
  event : TraceGlassEvent
  store : EventStore

/-- The growth of the history. -/
def appendEvent (alloc : ReallocOutcome) (store : EventStore) (event : TraceGlassEvent) :
    AddResult :=
  match reserveEvents alloc.events store (sizeAdd store.eventCount 1) with
  | none => ⟨false, false, event, store⟩
  | some store =>
      let event := { event with sequence := store.nextSequence }
      ⟨true, true, event,
        { store with
          events := store.events ++ [event]
          nextSequence := store.nextSequence + 1 }⟩

/-- `event_store_add`. -/
def eventStoreAdd (alloc : ReallocOutcome) (store : EventStore) (event : TraceGlassEvent) :
    AddResult :=
  match stageEvent alloc store event with
  | .returned ok store => ⟨ok, false, event, store⟩
  | .staged store => appendEvent alloc store event

/-! ## Runs -/

/-- One call, with its allocation outcomes. -/
def addCall (store : EventStore) (call : ReallocOutcome × TraceGlassEvent) : EventStore :=
  (eventStoreAdd call.1 store call.2).store

/-- The stores any sequence of calls can lead to, with allocation failing at any of them. -/
def Reachable (store : EventStore) : Prop :=
  ∃ calls : List (ReallocOutcome × TraceGlassEvent),
    calls.foldl addCall eventStoreInitialize = store

lemma reachable_eventStoreInitialize : Reachable eventStoreInitialize := ⟨[], rfl⟩

lemma Reachable.add {store : EventStore} (h : Reachable store) (alloc : ReallocOutcome)
    (event : TraceGlassEvent) : Reachable (eventStoreAdd alloc store event).store := by
  obtain ⟨calls, rfl⟩ := h
  exact ⟨calls ++ [(alloc, event)], by simp [addCall]⟩

/-- The rule for an invariant of the store: it holds at the start and every call keeps it. -/
lemma Reachable.invariant {I : EventStore → Prop} {store : EventStore} (h : Reachable store)
    (hinit : I eventStoreInitialize)
    (hadd : ∀ s alloc event, I s → I (eventStoreAdd alloc s event).store) : I store := by
  obtain ⟨calls, rfl⟩ := h
  exact List.foldlRecOn calls addCall hinit fun s hs call _ => hadd s call.1 call.2 hs

/-- One call whose `realloc`s answer a block. -/
def addEvent (store : EventStore) (event : TraceGlassEvent) : EventStore :=
  (eventStoreAdd .succeed store event).store

/-- The store after adding the events in order, every `realloc` answering a block. -/
def addEvents (store : EventStore) (events : List TraceGlassEvent) : EventStore :=
  events.foldl addEvent store

/-- Both reservations succeed in this store: the arrays can take one more element each. -/
def ReservationsSucceed (store : EventStore) : Prop :=
  (reserveProcesses true store (sizeAdd store.processCount 1)).isSome = true ∧
    (reserveEvents true store (sizeAdd store.eventCount 1)).isSome = true

instance (store : EventStore) : Decidable (ReservationsSucceed store) :=
  inferInstanceAs (Decidable (_ ∧ _))

/-- Allocations succeed throughout the run of these events. -/
def AllocationsSucceed (store : EventStore) (events : List TraceGlassEvent) : Prop :=
  Machine.Along addEvent (fun s _ => ReservationsSucceed s) store events

instance (store : EventStore) (events : List TraceGlassEvent) :
    Decidable (AllocationsSucceed store events) :=
  Machine.Along.decidable addEvent (fun s _ => ReservationsSucceed s) events store

lemma Reachable.addEvents {store : EventStore} (h : Reachable store)
    (events : List TraceGlassEvent) : Reachable (addEvents store events) :=
  List.foldlRecOn events addEvent h fun _ hs event _ => hs.add .succeed event

end TraceGlass
