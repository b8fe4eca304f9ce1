import TraceGlass.Store.Refinement
import Mathlib.Data.List.GetD

/-!
# The history and the live count of a reachable store

Views, export and alerts name an event by its position in the history, and the totals come from the
counter.  `Sequenced` ties the stamped sequence numbers to the positions; it needs no more of a call
than that it appends one stamped event or none (`eventStoreAdd_history`), so it holds whichever
branch returns early and whichever allocation fails.
-/

namespace TraceGlass

/-- The sequence numbers count the history from one. -/
structure Sequenced (store : EventStore) : Prop where
  sequence_eq : ∀ i < store.eventCount, (store.events.getD i .zero).sequence.toNat = i + 1
  nextSequence_eq : store.nextSequence.toNat = store.eventCount + 1

lemma sequenced_eventStoreInitialize : Sequenced eventStoreInitialize where
  sequence_eq i hi := by simp [EventStore.eventCount, eventStoreInitialize] at hi
  nextSequence_eq := rfl

namespace Sequenced

variable {store : EventStore}

/-- Appending the stamped event goes on counting; the next number does not wrap, since the history
has to fit into memory. -/
private lemma append (h : Sequenced store) (hb : Bounded store)
    {store' : EventStore} {event : TraceGlassEvent}
    (hevents : store'.events = store.events ++ [stamped store event])
    (hnext : store'.nextSequence = store.nextSequence + 1) : Sequenced store' := by
  have hlength : store'.eventCount = store.eventCount + 1 := by
    simp [EventStore.eventCount, hevents]
  constructor
  · intro i hi
    rw [hevents]
    rw [hlength] at hi
    rcases Nat.lt_or_ge i store.eventCount with hold | hnew
    · rw [List.getD_append _ _ _ _ hold]
      exact h.sequence_eq i hold
    · obtain rfl : i = store.eventCount := by omega
      rw [List.getD_append_right _ _ _ _ hnew, EventStore.eventCount, Nat.sub_self]
      exact h.nextSequence_eq
  · have hnumber := h.nextSequence_eq
    have hcount := hb.eventCount_le
    have hcapacity := hb.eventCapacity_le
    simp only [sizeMax, sizeofTraceGlassEvent] at hcapacity
    rw [hnext, hlength, UInt64.toNat_add, hnumber, UInt64.toNat_one, Nat.mod_eq_of_lt]
    omega

theorem add (h : Sequenced store) (hb : Bounded store) (alloc : ReallocOutcome)
    (event : TraceGlassEvent) : Sequenced (eventStoreAdd alloc store event).store := by
  obtain ⟨-, -, hevents, hnext⟩ | ⟨-, -, -, hevents, hnext⟩ :=
    eventStoreAdd_history alloc store event
  · constructor
    · intro i hi
      rw [EventStore.eventCount, hevents] at hi
      rw [hevents]
      exact h.sequence_eq i hi
    · rw [hnext, EventStore.eventCount, hevents]
      exact h.nextSequence_eq
  · exact h.append hb hevents hnext

end Sequenced

lemma Reachable.sequenced {store : EventStore} (h : Reachable store) : Sequenced store :=
  (h.invariant (I := fun s => Bounded s ∧ Sequenced s)
    ⟨bounded_eventStoreInitialize, sequenced_eventStoreInitialize⟩
    fun _ alloc event hs => ⟨hs.1.add alloc event, hs.2.add hs.1 alloc event⟩).2

/-- An active record is counted. -/
lemma Counted.pos_of_active {store : EventStore} (h : Counted store) {index : ℕ}
    (hlt : index < store.processCount) (hactive : (store.record index).active = true) :
    0 < store.activeProcessCount := by
  have hmem : store.record index ∈ store.processes := by
    rw [EventStore.record_eq_getElem hlt]
    exact List.getElem_mem hlt
  rw [h.active_eq]
  exact List.countP_pos_iff.mpr ⟨_, hmem, hactive⟩

/-- **History and live count.**  In every reachable store, whichever allocations failed on the way:
the event at position `i` carries the number `i + 1` and the next number is one more than the count;
the active counter is the number of active records, so the guard of the decrement holds whenever the
record being stopped is active; and a call either appends the given event with its number and
reports it accepted, or leaves the history alone and reports it not accepted. -/
theorem reachable_history_and_liveCount {store : EventStore} (h : Reachable store) :
    (∀ i < store.eventCount, (store.events.getD i .zero).sequence.toNat = i + 1) ∧
    store.nextSequence.toNat = store.eventCount + 1 ∧
    store.activeProcessCount = activeRecords store ∧
    (∀ event index, eventStoreFindProcess store event.process = some index →
      ((mergeRecord store index event).record index).active = true →
        (mergeRecord store index event).activeProcessCount > 0) ∧
    ∀ alloc event,
      ((eventStoreAdd alloc store event).accepted = true ∧
        (eventStoreAdd alloc store event).event = { event with sequence := store.nextSequence } ∧
        (eventStoreAdd alloc store event).store.events =
          store.events ++ [{ event with sequence := store.nextSequence }]) ∨
      ((eventStoreAdd alloc store event).accepted = false ∧
        (eventStoreAdd alloc store event).store.events = store.events) := by
  have hsequenced := h.sequenced
  refine ⟨hsequenced.sequence_eq, hsequenced.nextSequence_eq, h.counted.active_eq, ?_, ?_⟩
  · intro event index hfind hactive
    have hlt := eventStoreFindProcess_lt hfind
    have hsame : ((mergeRecord store index event).record index).active =
        (store.record index).active := by
      simp [mergeRecord, EventStore.record, hlt]
    rw [hsame] at hactive
    exact h.counted.pos_of_active hlt hactive
  · intro alloc event
    obtain ⟨haccepted, -, hevents, -⟩ | ⟨haccepted, -, hevent, hevents, -⟩ :=
      eventStoreAdd_history alloc store event
    · exact .inr ⟨haccepted, hevents⟩
    · exact .inl ⟨haccepted, hevent, hevents⟩

/-- A START whose history could not grow, then the same START again, then a STOP. -/
theorem reachable_history_and_liveCount_sample :
    (addCall (addCall (addCall eventStoreInitialize
      (⟨true, false⟩, { TraceGlassEvent.zero with process := ⟨8, 5⟩ }))
      (.succeed, { TraceGlassEvent.zero with process := ⟨8, 5⟩ }))
      (.succeed, { TraceGlassEvent.zero with type := .processStop, process := ⟨8, 5⟩ })
      ).nextSequence.toNat = 2 :=
  (reachable_history_and_liveCount (((reachable_eventStoreInitialize.add ⟨true, false⟩ _).add
    .succeed _).add .succeed _)).2.1

end TraceGlass
