import TraceGlass.Store.Cases
import TraceGlass.Lib.Lists
import Mathlib.Data.List.Count
import Mathlib.Tactic.Linarith

/-!
# Capacities and counters of a reachable store

`Bounded` says that both arrays fit their capacities and that no capacity exceeds what its byte
size allows, so that no `count + 1` wraps.  With it, `Counted` makes `active_process_count` the
number of active records: the counter moves on every branch the flag moves on, whatever the
allocator does.

`Doubled` says that no capacity is more than twice what the array holds, from its first one on.
With it a reservation fails in no store of a size there can be unless `realloc` refuses
(`Reachable.allocationsSucceed`).
-/

namespace TraceGlass

/-! ## One reservation -/

lemma growLoop_reached {required fuel capacity grown : ℕ}
    (h : growLoop required fuel capacity = .reached grown) : required ≤ grown := by
  induction fuel generalizing capacity with
  | zero => simp [growLoop] at h
  | succ fuel ih =>
    unfold growLoop at h
    split at h
    · split at h
      · simp at h
      · exact ih h
    · rw [Growth.reached.injEq] at h
      omega

/-- What a successful reservation guarantees. -/
lemma reserve_eq_some {itemSize initial capacity required grown : ℕ} {realloc : Bool}
    (h : reserve itemSize initial realloc capacity required = some grown) :
    required ≤ grown ∧ (grown = capacity ∨ grown ≤ sizeMax / itemSize) := by
  unfold reserve at h
  split at h
  · obtain rfl := Option.some.inj h
    exact ⟨by assumption, .inl rfl⟩
  · split at h
    · simp at h
    · split at h
      · next c hgrow =>
        have hreq := growLoop_reached hgrow
        split at h
        · simp at h
        · split at h
          · obtain rfl := Option.some.inj h
            exact ⟨hreq, .inr (by omega)⟩
          · simp at h
      · simp at h
      · simp at h

lemma reserveEvents_eq_some {realloc : Bool} {store : EventStore} {required capacity : ℕ}
    (h : reserveEvents realloc store required = some { store with eventCapacity := capacity }) :
    required ≤ capacity ∧
      (capacity = store.eventCapacity ∨ capacity ≤ sizeMax / sizeofTraceGlassEvent) := by
  obtain ⟨grown, hgrown, heq⟩ := Option.map_eq_some_iff.mp h
  obtain rfl : grown = capacity := congrArg EventStore.eventCapacity heq
  exact reserve_eq_some hgrown

lemma reserveProcesses_spec {realloc : Bool} {store : EventStore} {required capacity : ℕ}
    (h : reserveProcesses realloc store required =
      some { store with processCapacity := capacity }) :
    required ≤ capacity ∧
      (capacity = store.processCapacity ∨ capacity ≤ sizeMax / sizeofProcessRecord) := by
  obtain ⟨grown, hgrown, heq⟩ := Option.map_eq_some_iff.mp h
  obtain rfl : grown = capacity := congrArg EventStore.processCapacity heq
  exact reserve_eq_some hgrown

/-! ## Both arrays stay within their capacities -/

/-- The arrays fit their capacities, and the capacities their byte sizes. -/
structure Bounded (store : EventStore) : Prop where
  eventCount_le : store.eventCount ≤ store.eventCapacity
  eventCapacity_le : store.eventCapacity ≤ sizeMax / sizeofTraceGlassEvent
  processCount_le : store.processCount ≤ store.processCapacity
  processCapacity_le : store.processCapacity ≤ sizeMax / sizeofProcessRecord

namespace Bounded

variable {store : EventStore}

lemma eventCount_lt (h : Bounded store) : store.eventCount < sizeMax := by
  have hcount := h.eventCount_le
  have hcap := h.eventCapacity_le
  simp only [sizeMax, sizeofTraceGlassEvent] at hcap ⊢
  omega

lemma processCount_lt (h : Bounded store) : store.processCount < sizeMax := by
  have hcount := h.processCount_le
  have hcap := h.processCapacity_le
  simp only [sizeMax, sizeofProcessRecord] at hcap ⊢
  omega

/-- Neither half of `event_store_add` computes a wrapped count. -/
lemma sizeAdd_eventCount (h : Bounded store) : sizeAdd store.eventCount 1 = store.eventCount + 1 :=
  sizeAdd_eq h.eventCount_lt

lemma sizeAdd_processCount (h : Bounded store) :
    sizeAdd store.processCount 1 = store.processCount + 1 :=
  sizeAdd_eq h.processCount_lt

/-- A grown process table holds one record more. -/
private lemma grow_processes (h : Bounded store) {realloc : Bool} {capacity : ℕ}
    (hreserve : reserveProcesses realloc store (sizeAdd store.processCount 1) =
      some { store with processCapacity := capacity }) :
    store.processCount + 1 ≤ capacity ∧ capacity ≤ sizeMax / sizeofProcessRecord := by
  obtain ⟨hreq, hcap⟩ := reserveProcesses_spec hreserve
  rw [h.sizeAdd_processCount] at hreq
  refine ⟨hreq, ?_⟩
  rcases hcap with rfl | hcap
  · exact h.processCapacity_le
  · exact hcap

/-- The first half of a call that goes on to the history. -/
lemma staged (h : Bounded store) {alloc : ReallocOutcome} {event : TraceGlassEvent}
    {store' : EventStore} (hstage : Staging alloc store event (.staged store')) :
    Bounded store' := by
  cases hstage with
  | startOpened _ _ hreserve =>
    obtain ⟨hlen, hcap⟩ := h.grow_processes hreserve
    exact ⟨h.eventCount_le, h.eventCapacity_le,
      by simpa [openedStore, EventStore.processCount] using hlen, hcap⟩
  | stopClosed =>
    exact ⟨h.eventCount_le, h.eventCapacity_le,
      by simpa [closedStore, EventStore.processCount] using h.processCount_le,
      h.processCapacity_le⟩
  | stopRecorded _ _ hreserve =>
    obtain ⟨hlen, hcap⟩ := h.grow_processes hreserve
    exact ⟨h.eventCount_le, h.eventCapacity_le,
      by simpa [stoppedStore, EventStore.processCount] using hlen, hcap⟩
  | network | alert => exact ⟨h.eventCount_le, h.eventCapacity_le, h.processCount_le,
      h.processCapacity_le⟩
  | other => exact h

theorem add (h : Bounded store) (alloc : ReallocOutcome) (event : TraceGlassEvent) :
    Bounded (eventStoreAdd alloc store event).store := by
  refine eventStoreAdd_preserves ?_ (fun s => h.staged) ?_
  · intro ok s hstage
    cases hstage with
    | startCoalesced =>
      exact ⟨h.eventCount_le, h.eventCapacity_le,
        by simpa [mergeRecord, EventStore.processCount] using h.processCount_le,
        h.processCapacity_le⟩
    | startUnreserved | stopIgnored | stopUnreserved => exact h
  · intro s capacity hs hreserve
    obtain ⟨hreq, hcap⟩ := reserveEvents_eq_some hreserve
    rw [hs.sizeAdd_eventCount] at hreq
    refine ⟨by simpa [appendedStore, EventStore.eventCount] using hreq, ?_, hs.processCount_le,
      hs.processCapacity_le⟩
    rcases hcap with rfl | hcap
    · exact hs.eventCapacity_le
    · exact hcap

end Bounded

lemma bounded_eventStoreInitialize : Bounded eventStoreInitialize :=
  ⟨Nat.le_refl _, Nat.zero_le _, Nat.le_refl _, Nat.zero_le _⟩

lemma Reachable.bounded {store : EventStore} (h : Reachable store) : Bounded store :=
  h.invariant bounded_eventStoreInitialize fun _ alloc event hs => hs.add alloc event

/-! ## When a reservation succeeds -/

/-- The capacity once there is room for one element more: a full array doubles. -/
def nextCapacity (initial capacity count : ℕ) : ℕ :=
  if count < capacity then capacity else if capacity = 0 then initial else capacity * 2

lemma nextCapacity_le {initial capacity count bound : ℕ} (hcount : count ≤ capacity)
    (hcapacity : capacity ≤ max initial (bound * 2)) (hbound : count ≤ bound) :
    nextCapacity initial capacity count ≤ max initial (bound * 2) := by
  unfold nextCapacity
  split_ifs <;> omega

/-- **A reservation for one element more** fails only where there is no room, and `realloc` refuses
or the doubled array has more bytes than a `size_t` counts. -/
lemma reserve_succ {itemSize initial capacity count : ℕ} (hitem : 2 ≤ itemSize)
    (hinitial : 0 < initial) (hcount : count ≤ capacity) (hcapacity : capacity ≤ sizeMax / itemSize)
    (realloc : Bool) :
    reserve itemSize initial realloc capacity (count + 1) =
      if count < capacity ∨
          realloc = true ∧ nextCapacity initial capacity count ≤ sizeMax / itemSize then
        some (nextCapacity initial capacity count)
      else none := by
  unfold reserve nextCapacity
  by_cases hroom : count < capacity
  · rw [if_pos (Nat.succ_le_of_lt hroom), if_pos (.inl hroom), if_pos hroom]
  obtain rfl : count = capacity := by omega
  have hhalf : count ≤ sizeMax / 2 := hcapacity.trans (Nat.div_le_div_left hitem (by decide))
  have hwrap : count * 2 % (sizeMax + 1) = count * 2 := Nat.mod_eq_of_lt (by omega)
  -- the first capacity tried is large enough
  have hgrow : ∀ c, count + 1 ≤ c → growLoop (count + 1) 65 c = .reached c := fun c hc => by
    rw [growLoop, if_neg (Nat.not_lt.mpr hc)]
  rw [if_neg (by omega), if_neg (by omega), hwrap, hgrow _ (by split <;> omega)]
  simp only [hroom, if_false, false_or]
  cases realloc <;>
    by_cases hsize : (if count = 0 then initial else count * 2) > sizeMax / itemSize <;>
    simp [hsize, Nat.not_le.mpr, Nat.not_lt.mp]

namespace Bounded

variable {store : EventStore}

lemma reserveEvents_eq (h : Bounded store) (realloc : Bool) :
    reserve sizeofTraceGlassEvent 256 realloc store.eventCapacity (sizeAdd store.eventCount 1) =
      if store.eventCount < store.eventCapacity ∨ realloc = true ∧
          nextCapacity 256 store.eventCapacity store.eventCount ≤
            sizeMax / sizeofTraceGlassEvent then
        some (nextCapacity 256 store.eventCapacity store.eventCount)
      else none := by
  rw [h.sizeAdd_eventCount]
  exact reserve_succ (by decide) (by decide) h.eventCount_le h.eventCapacity_le realloc

lemma reserveProcesses_eq (h : Bounded store) (realloc : Bool) :
    reserve sizeofProcessRecord 128 realloc store.processCapacity (sizeAdd store.processCount 1) =
      if store.processCount < store.processCapacity ∨ realloc = true ∧
          nextCapacity 128 store.processCapacity store.processCount ≤
            sizeMax / sizeofProcessRecord then
        some (nextCapacity 128 store.processCapacity store.processCount)
      else none := by
  rw [h.sizeAdd_processCount]
  exact reserve_succ (by decide) (by decide) h.processCount_le h.processCapacity_le realloc

/-- **Both reservations succeed** where each array has room, or has its doubled size in bytes. -/
lemma reservationsSucceed_iff (h : Bounded store) :
    ReservationsSucceed store ↔
      (store.processCount < store.processCapacity ∨
        nextCapacity 128 store.processCapacity store.processCount ≤ sizeMax / sizeofProcessRecord) ∧
      (store.eventCount < store.eventCapacity ∨
        nextCapacity 256 store.eventCapacity store.eventCount ≤
          sizeMax / sizeofTraceGlassEvent) := by
  simp only [ReservationsSucceed, reserveProcesses, reserveEvents, Option.isSome_map,
    h.reserveEvents_eq, h.reserveProcesses_eq, true_and]
  refine and_congr ?_ ?_ <;> split <;> simp_all

end Bounded

/-- The arrays have grown by doubling only. -/
structure Doubled (store : EventStore) : Prop where
  events : store.eventCapacity ≤ max 256 (store.eventCount * 2)
  processes : store.processCapacity ≤ max 128 (store.processCount * 2)

namespace Doubled

variable {store : EventStore}

/-- A process table grown for a record more. -/
private lemma processes_grown (h : Doubled store) (hb : Bounded store) {realloc : Bool}
    {capacity : ℕ} (hreserve : reserveProcesses realloc store (sizeAdd store.processCount 1) =
      some { store with processCapacity := capacity }) :
    capacity ≤ max 128 ((store.processCount + 1) * 2) := by
  obtain ⟨grown, hgrown, heq⟩ := Option.map_eq_some_iff.mp hreserve
  obtain rfl : grown = capacity := congrArg EventStore.processCapacity heq
  rw [hb.reserveProcesses_eq, Option.ite_none_right_eq_some] at hgrown
  have hnext := nextCapacity_le hb.processCount_le h.processes (Nat.le_refl _)
  have hsome := Option.some.inj hgrown.2
  omega

/-- A history grown for an event more. -/
private lemma events_grown (h : Doubled store) (hb : Bounded store) {realloc : Bool}
    {capacity : ℕ} (hreserve : reserveEvents realloc store (sizeAdd store.eventCount 1) =
      some { store with eventCapacity := capacity }) :
    capacity ≤ max 256 ((store.eventCount + 1) * 2) := by
  obtain ⟨grown, hgrown, heq⟩ := Option.map_eq_some_iff.mp hreserve
  obtain rfl : grown = capacity := congrArg EventStore.eventCapacity heq
  rw [hb.reserveEvents_eq, Option.ite_none_right_eq_some] at hgrown
  have hnext := nextCapacity_le hb.eventCount_le h.events (Nat.le_refl _)
  have hsome := Option.some.inj hgrown.2
  omega

/-- The first half of a call keeps the history, and takes one record more at most. -/
lemma staged (h : Doubled store) (hb : Bounded store) {alloc : ReallocOutcome}
    {event : TraceGlassEvent} {staged : Staged} {store' : EventStore}
    (hstage : Staging alloc store event staged)
    (hs : (∃ ok, staged = .returned ok store') ∨ staged = .staged store') :
    Doubled store' ∧ store'.eventCount = store.eventCount ∧
      store'.processCount ≤ store.processCount + 1 := by
  have hkept : ∀ s : EventStore, s.events = store.events → s.eventCapacity = store.eventCapacity →
      s.processCapacity = store.processCapacity → s.processCount = store.processCount →
      Doubled s ∧ s.eventCount = store.eventCount ∧ s.processCount ≤ store.processCount + 1 :=
    fun s hevents hecap hpcap hcount => ⟨⟨by simpa [EventStore.eventCount, hevents, hecap] using
      h.events, by rw [hpcap, hcount]; exact h.processes⟩, by simp [EventStore.eventCount, hevents],
      by omega⟩
  have hgrown : ∀ s : EventStore, s.events = store.events → s.eventCapacity = store.eventCapacity →
      s.processCapacity ≤ max 128 ((store.processCount + 1) * 2) →
      s.processCount = store.processCount + 1 →
      Doubled s ∧ s.eventCount = store.eventCount ∧ s.processCount ≤ store.processCount + 1 :=
    fun s hevents hecap hpcap hcount => ⟨⟨by simpa [EventStore.eventCount, hevents, hecap] using
      h.events, by rwa [hcount]⟩, by simp [EventStore.eventCount, hevents], hcount.le⟩
  cases hstage with
  | startCoalesced | stopClosed =>
    rcases hs with ⟨ok, hs⟩ | hs <;> cases hs
    exact hkept _ rfl rfl rfl List.length_set
  | startOpened _ _ hreserve | stopRecorded _ _ hreserve =>
    rcases hs with ⟨ok, hs⟩ | hs <;> cases hs
    exact hgrown _ rfl rfl (h.processes_grown hb hreserve) List.length_append
  | startUnreserved | stopIgnored | stopUnreserved | network | alert | other =>
    rcases hs with ⟨ok, hs⟩ | hs <;> cases hs
    exact hkept _ rfl rfl rfl rfl

theorem add (h : Doubled store) (hb : Bounded store) (alloc : ReallocOutcome)
    (event : TraceGlassEvent) : Doubled (eventStoreAdd alloc store event).store ∧
      (eventStoreAdd alloc store event).store.eventCount ≤ store.eventCount + 1 ∧
      (eventStoreAdd alloc store event).store.processCount ≤ store.processCount + 1 := by
  have hcase := eventStoreAdd_case alloc store event
  generalize eventStoreAdd alloc store event = result at hcase
  cases hcase with
  | @returned ok store' hstage =>
    obtain ⟨hdoubled, hevents, hprocesses⟩ := h.staged hb hstage (.inl ⟨ok, rfl⟩)
    exact ⟨hdoubled, by simp only; omega, hprocesses⟩
  | @appended store' result hstage happend =>
    obtain ⟨hdoubled, hevents, hprocesses⟩ := h.staged hb hstage (.inr rfl)
    cases happend with
    | unreserved => exact ⟨hdoubled, by simp only; omega, hprocesses⟩
    | @appended capacity hreserve =>
      have hcapacity := hdoubled.events_grown (hb.staged hstage) hreserve
      have hcount : (appendedStore store' capacity event).eventCount = store'.eventCount + 1 := by
        simp [appendedStore, EventStore.eventCount]
      exact ⟨⟨hcount ▸ hcapacity, hdoubled.processes⟩, by rw [hcount, hevents], hprocesses⟩

end Doubled

lemma doubled_eventStoreInitialize : Doubled eventStoreInitialize :=
  ⟨Nat.zero_le _, Nat.zero_le _⟩

lemma Reachable.doubled {store : EventStore} (h : Reachable store) : Doubled store :=
  (h.invariant (I := fun s => Bounded s ∧ Doubled s)
    ⟨bounded_eventStoreInitialize, doubled_eventStoreInitialize⟩
    fun _ alloc event hs => ⟨hs.1.add alloc event, (hs.2.add hs.1 alloc event).1⟩).2

/-- So many elements that the arrays can still double. -/
def maxElements : ℕ := 2 ^ 49

/-- **Reservations succeed in a store of reachable size.** -/
lemma Doubled.reservationsSucceed {store : EventStore} (h : Doubled store) (hb : Bounded store)
    (hevents : store.eventCount < maxElements) (hprocesses : store.processCount < maxElements) :
    ReservationsSucceed store := by
  have hnextEvents := nextCapacity_le hb.eventCount_le h.events (Nat.le_refl _)
  have hnextProcesses := nextCapacity_le hb.processCount_le h.processes (Nat.le_refl _)
  rw [hb.reservationsSucceed_iff]
  simp only [maxElements, sizeMax, sizeofTraceGlassEvent, sizeofProcessRecord] at *
  omega

/-- **Allocations succeed throughout a run** of fewer events than the arrays can hold, where
`realloc` answers a block. -/
theorem Reachable.allocationsSucceed {store : EventStore} (h : Reachable store)
    {events : List TraceGlassEvent} (hevents : store.eventCount + events.length ≤ maxElements)
    (hprocesses : store.processCount + events.length ≤ maxElements) :
    AllocationsSucceed store events := by
  induction events generalizing store with
  | nil => trivial
  | cons event events ih =>
    rw [List.length_cons] at hevents hprocesses
    obtain ⟨-, hcount, hrecords⟩ := h.doubled.add h.bounded .succeed event
    refine ⟨h.doubled.reservationsSucceed h.bounded (by omega) (by omega), ih (h.add .succeed event)
      ?_ ?_⟩
    · simp only [addEvent]
      omega
    · simp only [addEvent]
      omega

/-! ## The active counter -/

/-- The number of active records. -/
def activeRecords (store : EventStore) : ℕ := store.processes.countP fun record => record.active

lemma EventStore.record_eq_getElem {store : EventStore} {index : ℕ}
    (h : index < store.processes.length) : store.record index = store.processes[index] := by
  simp [EventStore.record, h]

/-- Rewriting a record without moving its flag does not move the number of active records. -/
lemma countP_active_set {store : EventStore} {index : ℕ} {record : ProcessRecord}
    (hlt : index < store.processes.length)
    (hactive : record.active = (store.record index).active) :
    (store.processes.set index record).countP (fun record => record.active) =
      activeRecords store := by
  have hrecord : store.processes[index]? = some (store.record index) := by
    simp [EventStore.record, hlt]
  have hcount := ListLib.countP_set_add (p := fun r => r.active) record hrecord
  simp only [hactive] at hcount
  exact Nat.add_right_cancel hcount

/-- The counter agrees with the flags. -/
structure Counted (store : EventStore) : Prop where
  active_eq : store.activeProcessCount = activeRecords store

namespace Counted

variable {store : EventStore}

theorem add (h : Counted store) (hb : Bounded store) (alloc : ReallocOutcome)
    (event : TraceGlassEvent) : Counted (eventStoreAdd alloc store event).store := by
  have hle : activeRecords store ≤ store.processCount := List.countP_le_length
  refine eventStoreAdd_preserves ?_ ?_ ?_
  · intro ok s hstage
    cases hstage with
    | @startCoalesced index _ hfind =>
      have hcount := countP_active_set (eventStoreFindProcess_lt hfind)
        (updateRecordFromEvent_active (store.record index) event)
      exact ⟨h.active_eq.trans hcount.symm⟩
    | startUnreserved | stopIgnored | stopUnreserved => exact h
  · intro s hstage
    cases hstage with
    | startOpened =>
      have hcount := hb.processCount_lt
      have hactive := h.active_eq
      constructor
      simp only [openedStore, activeRecords, List.countP_append]
      rw [sizeAdd_eq (by omega)]
      simpa [activeRecords] using hactive
    | @stopClosed index _ hfind hactive =>
      have hlt := eventStoreFindProcess_lt hfind
      constructor
      simp only [closedStore, activeRecords]
      rw [List.countP_set hlt, ← EventStore.record_eq_getElem hlt, hactive, h.active_eq]
      simp [activeRecords]
    | stopRecorded =>
      constructor
      simpa [stoppedStore, activeRecords] using h.active_eq
    | network | alert => exact ⟨h.active_eq⟩
    | other => exact h
  · exact fun s capacity hs _ => ⟨hs.active_eq⟩

end Counted

lemma Reachable.counted {store : EventStore} (h : Reachable store) : Counted store :=
  (h.invariant (I := fun s => Bounded s ∧ Counted s) ⟨bounded_eventStoreInitialize, ⟨rfl⟩⟩
    fun _ alloc event hs => ⟨hs.1.add alloc event, hs.2.add hs.1 alloc event⟩).2

end TraceGlass
