import TraceGlass.Store.Model
import Mathlib.Tactic.Cases

/-!
# What one call of `event_store_add` can do

`Staging` lists the ways through the chain over the event type with the resulting store written
out, and `staging` is the inversion of `stageEvent`.  Every invariant of the store is a case
analysis over it, so nothing downstream unfolds the branches again.

`appendEvent` either stamps and appends or leaves the store it got; `eventStoreAdd_processes` and
its siblings say that it never touches the process table or the counters.
-/

namespace TraceGlass

/-! ## Finding -/

/-- The exact test of `event_store_find_process`, with its guard on the PID. -/
def exactMatch (key : ProcessKey) (record : ProcessRecord) : Bool :=
  key.pid != 0 && (processKeysMatch record.key key &&
    (record.key.creationTime == key.creationTime && key.creationTime != 0))

/-- The fallback test, with its guard on the PID. -/
def activeMatch (key : ProcessKey) (record : ProcessRecord) : Bool :=
  key.pid != 0 && (processKeysMatch record.key key && record.active)

/-- With the guard on the PID moved into the tests, finding is one backward scan. -/
lemma eventStoreFindProcess_eq_backScan (store : EventStore) (key : ProcessKey) :
    eventStoreFindProcess store key =
      BackScan.backScan (exactMatch key) (activeMatch key) store.processes := by
  unfold eventStoreFindProcess
  by_cases hpid : key.pid = 0
  · rw [if_pos hpid]
    refine (BackScan.Outcome.missing ?_ ?_).eq_backScan.symm <;> intro y _ <;>
      simp [exactMatch, activeMatch, hpid]
  · rw [if_neg hpid]
    congr 1 <;> funext record <;> simp [exactMatch, activeMatch, hpid]

lemma eventStoreFindProcess_outcome (store : EventStore) (key : ProcessKey) :
    BackScan.Outcome (exactMatch key) (activeMatch key) store.processes
      (eventStoreFindProcess store key) := by
  rw [eventStoreFindProcess_eq_backScan]
  exact BackScan.outcome_backScan _ _ _

lemma eventStoreFindProcess_lt {store : EventStore} {key : ProcessKey} {index : ℕ}
    (h : eventStoreFindProcess store key = some index) : index < store.processes.length := by
  have hout := eventStoreFindProcess_outcome store key
  rw [h] at hout
  generalize store.processes = processes at hout
  cases hout <;> simp

/-! ## The chain over the event type -/

/-- The START branch on a new record, once the array can take it. -/
def openedStore (store : EventStore) (capacity : ℕ) (event : TraceGlassEvent) : EventStore :=
  { store with
    processCapacity := capacity
    processes := store.processes ++
      [{ newRecord event with active := true, startTime := event.timestamp }]
    activeProcessCount := sizeAdd store.activeProcessCount 1 }

/-- The STOP branch on an active record. -/
def closedStore (store : EventStore) (index : ℕ) (event : TraceGlassEvent) : EventStore :=
  { store with
    processes := store.processes.set index
      { updateRecordFromEvent (store.record index) event with
        active := false, stopTime := event.timestamp }
    activeProcessCount := store.activeProcessCount - 1 }

/-- The STOP branch on a new record, once the array can take it. -/
def stoppedStore (store : EventStore) (capacity : ℕ) (event : TraceGlassEvent) : EventStore :=
  { store with
    processCapacity := capacity
    processes := store.processes ++
      [{ newRecord event with active := false, stopTime := event.timestamp }] }

/-- The ways through `stageEvent`. -/
inductive Staging (alloc : ReallocOutcome) (store : EventStore) (event : TraceGlassEvent) :
    Staged → Prop
  | startCoalesced {index : ℕ} (htype : event.type = .processStart)
      (hfind : eventStoreFindProcess store event.process = some index) :
      Staging alloc store event (.returned true (mergeRecord store index event))
  | startUnreserved (htype : event.type = .processStart)
      (hfind : eventStoreFindProcess store event.process = none)
      (hreserve : reserveProcesses alloc.processes store (sizeAdd store.processCount 1) = none) :
      Staging alloc store event (.returned false store)
  | startOpened {capacity : ℕ} (htype : event.type = .processStart)
      (hfind : eventStoreFindProcess store event.process = none)
      (hreserve : reserveProcesses alloc.processes store (sizeAdd store.processCount 1) =
        some { store with processCapacity := capacity }) :
      Staging alloc store event (.staged (openedStore store capacity event))
  | stopIgnored {index : ℕ} (htype : event.type = .processStop)
      (hfind : eventStoreFindProcess store event.process = some index)
      (hactive : (store.record index).active = false) :
      Staging alloc store event (.returned true store)
  | stopUnreserved (htype : event.type = .processStop)
      (hfind : eventStoreFindProcess store event.process = none)
      (hreserve : reserveProcesses alloc.processes store (sizeAdd store.processCount 1) = none) :
      Staging alloc store event (.returned false store)
  | stopClosed {index : ℕ} (htype : event.type = .processStop)
      (hfind : eventStoreFindProcess store event.process = some index)
      (hactive : (store.record index).active = true) :
      Staging alloc store event (.staged (closedStore store index event))
  | stopRecorded {capacity : ℕ} (htype : event.type = .processStop)
      (hfind : eventStoreFindProcess store event.process = none)
      (hreserve : reserveProcesses alloc.processes store (sizeAdd store.processCount 1) =
        some { store with processCapacity := capacity }) :
      Staging alloc store event (.staged (stoppedStore store capacity event))
  | network (htype : event.type = .network) :
      Staging alloc store event
        (.staged { store with networkCount := sizeAdd store.networkCount 1 })
  | alert (htype : event.type = .alert) :
      Staging alloc store event (.staged { store with alertCount := sizeAdd store.alertCount 1 })
  | other (htype : event.type = .file ∨ event.type = .registry) :
      Staging alloc store event (.staged store)

/-- `reserve_processes` changes nothing but the capacity. -/
lemma reserveProcesses_eq_some {realloc : Bool} {store store' : EventStore} {required : ℕ}
    (h : reserveProcesses realloc store required = some store') :
    ∃ capacity, store' = { store with processCapacity := capacity } := by
  obtain ⟨capacity, -, rfl⟩ := Option.map_eq_some_iff.mp h
  exact ⟨capacity, rfl⟩

@[simp] lemma updateRecordFromEvent_active (record : ProcessRecord) (event : TraceGlassEvent) :
    (updateRecordFromEvent record event).active = record.active := rfl

@[simp] lemma newRecord_active (event : TraceGlassEvent) : (newRecord event).active = false := rfl

lemma startRecord_appendRecord (store : EventStore) (capacity : ℕ) (event : TraceGlassEvent) :
    startRecord (appendRecord { store with processCapacity := capacity } event)
        store.processCount event.timestamp =
      openedStore store capacity event := by
  simp [startRecord, appendRecord, openedStore, EventStore.record, EventStore.processCount]

lemma stopRecord_appendRecord (store : EventStore) (capacity : ℕ) (event : TraceGlassEvent) :
    stopRecord (appendRecord { store with processCapacity := capacity } event)
        store.processCount event.timestamp =
      stoppedStore store capacity event := by
  simp [stopRecord, appendRecord, stoppedStore, EventStore.record, EventStore.processCount]

lemma stopRecord_mergeRecord {store : EventStore} {index : ℕ} {event : TraceGlassEvent}
    (hlt : index < store.processes.length) (hactive : (store.record index).active = true) :
    stopRecord (mergeRecord store index event) index event.timestamp =
      closedStore store index event := by
  have hrecord : (mergeRecord store index event).record index =
      updateRecordFromEvent (store.record index) event := by
    simp [mergeRecord, EventStore.record, hlt]
  unfold stopRecord closedStore
  rw [hrecord, updateRecordFromEvent_active, hactive]
  rcases Nat.eq_zero_or_pos store.activeProcessCount with hzero | hpos
  · simp [mergeRecord, hzero]
  · simp [mergeRecord, hpos]

lemma staging_start {alloc : ReallocOutcome} {store : EventStore} {event : TraceGlassEvent}
    (htype : event.type = .processStart) :
    Staging alloc store event (stageStart alloc store event) := by
  unfold stageStart
  split
  · next index hfind => exact .startCoalesced htype hfind
  · next hfind =>
    split
    · next hreserve => exact .startUnreserved htype hfind hreserve
    · next store' hreserve =>
      obtain ⟨capacity, rfl⟩ := reserveProcesses_eq_some hreserve
      have h := startRecord_appendRecord store capacity event
      exact h ▸ .startOpened htype hfind hreserve

lemma staging_stop {alloc : ReallocOutcome} {store : EventStore} {event : TraceGlassEvent}
    (htype : event.type = .processStop) :
    Staging alloc store event (stageStop alloc store event) := by
  unfold stageStop
  split
  · next index hfind =>
    by_cases hactive : (store.record index).active = true
    · rw [if_neg (by simp [hactive]),
        stopRecord_mergeRecord (eventStoreFindProcess_lt hfind) hactive]
      exact .stopClosed htype hfind hactive
    · rw [if_pos (by simpa using hactive)]
      exact .stopIgnored htype hfind (by simpa using hactive)
  · next hfind =>
    split
    · next hreserve => exact .stopUnreserved htype hfind hreserve
    · next store' hreserve =>
      obtain ⟨capacity, rfl⟩ := reserveProcesses_eq_some hreserve
      have h := stopRecord_appendRecord store capacity event
      exact h ▸ .stopRecorded htype hfind hreserve

/-- **The inversion of the first half of `event_store_add`.** -/
theorem staging (alloc : ReallocOutcome) (store : EventStore) (event : TraceGlassEvent) :
    Staging alloc store event (stageEvent alloc store event) := by
  unfold stageEvent
  cases htype : event.type with
  | processStart => exact staging_start htype
  | processStop => exact staging_stop htype
  | network => exact .network htype
  | alert => exact .alert htype
  | file => exact .other (.inl htype)
  | registry => exact .other (.inr htype)

/-! ## The growth of the history -/

/-- The event as `event_store_add` stores it. -/
def stamped (store : EventStore) (event : TraceGlassEvent) : TraceGlassEvent :=
  { event with sequence := store.nextSequence }

/-- The store after a successful growth of the history. -/
def appendedStore (store : EventStore) (capacity : ℕ) (event : TraceGlassEvent) : EventStore :=
  { store with
    eventCapacity := capacity
    events := store.events ++ [stamped store event]
    nextSequence := store.nextSequence + 1 }

/-- The two ways through `appendEvent`. -/
inductive Appending (alloc : ReallocOutcome) (store : EventStore) (event : TraceGlassEvent) :
    AddResult → Prop
  | unreserved
      (hreserve : reserveEvents alloc.events store (sizeAdd store.eventCount 1) = none) :
      Appending alloc store event ⟨false, false, event, store⟩
  | appended {capacity : ℕ}
      (hreserve : reserveEvents alloc.events store (sizeAdd store.eventCount 1) =
        some { store with eventCapacity := capacity }) :
      Appending alloc store event
        ⟨true, true, stamped store event, appendedStore store capacity event⟩

lemma appending (alloc : ReallocOutcome) (store : EventStore) (event : TraceGlassEvent) :
    Appending alloc store event (appendEvent alloc store event) := by
  unfold appendEvent
  cases hreserve : reserveEvents alloc.events store (sizeAdd store.eventCount 1) with
  | none => exact .unreserved hreserve
  | some store' =>
    obtain ⟨capacity, -, rfl⟩ := Option.map_eq_some_iff.mp hreserve
    exact .appended hreserve

/-- The ways through a whole call. -/
inductive AddCase (alloc : ReallocOutcome) (store : EventStore) (event : TraceGlassEvent) :
    AddResult → Prop
  | returned {ok : Bool} {store' : EventStore}
      (hstage : Staging alloc store event (.returned ok store')) :
      AddCase alloc store event ⟨ok, false, event, store'⟩
  | appended {store' : EventStore} {result : AddResult}
      (hstage : Staging alloc store event (.staged store'))
      (happend : Appending alloc store' event result) :
      AddCase alloc store event result

theorem eventStoreAdd_case (alloc : ReallocOutcome) (store : EventStore)
    (event : TraceGlassEvent) : AddCase alloc store event (eventStoreAdd alloc store event) := by
  have hstage := staging alloc store event
  unfold eventStoreAdd
  cases hs : stageEvent alloc store event with
  | returned ok store' => exact .returned (hs ▸ hstage)
  | staged store' => exact .appended (hs ▸ hstage) (appending alloc store' event)

/-- A property of the store that neither half breaks is kept by the call. -/
lemma eventStoreAdd_preserves {I : EventStore → Prop} {alloc : ReallocOutcome}
    {store : EventStore} {event : TraceGlassEvent}
    (hreturned : ∀ ok s, Staging alloc store event (.returned ok s) → I s)
    (hstaged : ∀ s, Staging alloc store event (.staged s) → I s)
    (happended : ∀ s capacity, I s →
      reserveEvents alloc.events s (sizeAdd s.eventCount 1) =
        some { s with eventCapacity := capacity } → I (appendedStore s capacity event)) :
    I (eventStoreAdd alloc store event).store := by
  have hcase := eventStoreAdd_case alloc store event
  generalize eventStoreAdd alloc store event = result at hcase
  cases hcase with
  | returned hstage => exact hreturned _ _ hstage
  | appended hstage happend =>
    cases happend with
    | unreserved => exact hstaged _ hstage
    | appended hreserve => exact happended _ _ (hstaged _ hstage) hreserve

end TraceGlass
