import TraceGlass.Lib.MovingArray
import TraceGlass.Store.Refinement

/-!
# Where the history lies

`store->events` points to a block of `event_capacity` events.  `reserve_events` leaves it where it
is as long as there is room, and otherwise gives it to `realloc`, which moves the events to another
block and frees the old one.  A `PlacedStore` is a store with the buffer its history is in;
`PlacedStore.add` is `event_store_add` on it, and `PlacedStore.add_store` says that the store it
leaves is the same.

`FindsRoom` is the call that does not make the history grow.  `PlacedStore.run_cases` is the
consequence for a pointer into the history: it outlives a sequence of calls exactly if each of them
finds room, which by `along_findsRoom_iff` means that the events appended fit the capacity at the
beginning.
-/

namespace TraceGlass

open MovingArray

/-! ## One call -/

/-- What `reserve_events` does to the buffer of the history where it returns `TRUE`. -/
def reserveHistory (store : EventStore) (required : ℕ) (history : MovingArray TraceGlassEvent) :
    MovingArray TraceGlassEvent :=
  if required ≤ store.eventCapacity then history else history.grow

/-- What `event_store_add` does to it. -/
def addToHistory (alloc : ReallocOutcome) (store : EventStore)
    (history : MovingArray TraceGlassEvent) (event : TraceGlassEvent) :
    MovingArray TraceGlassEvent :=
  match stageEvent alloc store event with
  | .returned _ _ => history
  | .staged store =>
      match reserveEvents alloc.events store (sizeAdd store.eventCount 1) with
      | none => history
      | some grown =>
          (reserveHistory store (sizeAdd store.eventCount 1) history).push
            { event with sequence := grown.nextSequence }

/-- The second half of the call does not make the history grow: the first half has returned, or
there is room, or the growth fails. -/
def Staged.FindsRoom (realloc : Bool) : Staged → Prop
  | .returned _ _ => True
  | .staged store =>
      sizeAdd store.eventCount 1 ≤ store.eventCapacity ∨
        reserveEvents realloc store (sizeAdd store.eventCount 1) = none

instance (realloc : Bool) : ∀ staged : Staged, Decidable (staged.FindsRoom realloc)
  | .returned _ _ => inferInstanceAs (Decidable True)
  | .staged _ => inferInstanceAs (Decidable (_ ∨ _))

/-- The call does not make the history grow. -/
def FindsRoom (store : EventStore) (call : ReallocOutcome × TraceGlassEvent) : Prop :=
  (stageEvent call.1 store call.2).FindsRoom call.1.events

instance (store : EventStore) (call : ReallocOutcome × TraceGlassEvent) :
    Decidable (FindsRoom store call) :=
  inferInstanceAs (Decidable (Staged.FindsRoom _ _))

variable {store : EventStore} {history : MovingArray TraceGlassEvent}
  {call : ReallocOutcome × TraceGlassEvent}

/-- A call that finds room leaves the history alone or pushes one event; every other moves it first.
-/
lemma addToHistory_cases (store : EventStore) (history : MovingArray TraceGlassEvent)
    (call : ReallocOutcome × TraceGlassEvent) :
    (FindsRoom store call ∧ (addToHistory call.1 store history call.2 = history ∨
        ∃ event, addToHistory call.1 store history call.2 = history.push event)) ∨
      (¬FindsRoom store call ∧
        ∃ event, addToHistory call.1 store history call.2 = history.grow.push event) := by
  unfold FindsRoom addToHistory
  cases stageEvent call.1 store call.2 with
  | returned ok store => exact Or.inl ⟨trivial, Or.inl rfl⟩
  | staged store =>
    simp only []
    cases hreserve : reserveEvents call.1.events store (sizeAdd store.eventCount 1) with
    | none => exact Or.inl ⟨Or.inr hreserve, Or.inl rfl⟩
    | some grown =>
      simp only [reserveHistory]
      by_cases hroom : sizeAdd store.eventCount 1 ≤ store.eventCapacity
      · rw [if_pos hroom]
        exact Or.inl ⟨Or.inl hroom, Or.inr ⟨_, rfl⟩⟩
      · rw [if_neg hroom]
        refine Or.inr ⟨?_, _, rfl⟩
        rintro (h | hnone)
        · exact hroom h
        · rw [hreserve] at hnone
          cases hnone

/-- The buffer holds the history after the call as before. -/
lemma elements_addToHistory (h : history.elements = store.events) (alloc : ReallocOutcome)
    (event : TraceGlassEvent) :
    (addToHistory alloc store history event).elements =
      (eventStoreAdd alloc store event).store.events := by
  have hstage := staging alloc store event
  unfold addToHistory eventStoreAdd
  cases hs : stageEvent alloc store event with
  | returned ok returned =>
    rw [hs] at hstage
    exact h.trans (hstage.history_eq (.inl ⟨ok, rfl⟩)).1.symm
  | staged staged =>
    rw [hs] at hstage
    have hevents : history.elements = staged.events :=
      h.trans (hstage.history_eq (.inr rfl)).1.symm
    simp only [appendEvent]
    cases hreserve : reserveEvents alloc.events staged (sizeAdd staged.eventCount 1) with
    | none => exact hevents
    | some grown =>
      obtain ⟨capacity, -, rfl⟩ := Option.map_eq_some_iff.mp hreserve
      simp only [reserveHistory]
      split
      · rw [elements_push, hevents]
      · rw [elements_push, elements_grow, hevents]

/-- Events are never taken out of the history. -/
lemma eventCount_le_addCall (store : EventStore) (call : ReallocOutcome × TraceGlassEvent) :
    store.eventCount ≤ (addCall store call).eventCount := by
  rcases eventStoreAdd_history call.1 store call.2 with
    ⟨-, -, hevents, -⟩ | ⟨-, -, -, hevents, -⟩
  · rw [EventStore.eventCount, EventStore.eventCount, addCall, hevents]
  · rw [EventStore.eventCount, EventStore.eventCount, addCall, hevents, List.length_append]
    exact Nat.le_add_right _ _

/-- What the call does to the capacity: nothing if it finds room, and otherwise the history outgrows
the one before. -/
lemma eventCapacity_addCall (hb : Bounded store) (call : ReallocOutcome × TraceGlassEvent) :
    (FindsRoom store call → (addCall store call).eventCapacity = store.eventCapacity) ∧
      (¬FindsRoom store call → store.eventCapacity < (addCall store call).eventCount) := by
  have hstage := staging call.1 store call.2
  unfold FindsRoom addCall eventStoreAdd
  cases hs : stageEvent call.1 store call.2 with
  | returned ok returned =>
    rw [hs] at hstage
    exact ⟨fun _ => (hstage.history_eq (.inl ⟨ok, rfl⟩)).2.1, fun h => absurd trivial h⟩
  | staged staged =>
    rw [hs] at hstage
    obtain ⟨hevents, hcapacity, -⟩ := hstage.history_eq (.inr rfl)
    simp only [appendEvent]
    cases hreserve : reserveEvents call.1.events staged (sizeAdd staged.eventCount 1) with
    | none => exact ⟨fun _ => hcapacity, fun h => absurd (Or.inr hreserve) h⟩
    | some grown =>
      obtain ⟨capacity, hgrown, rfl⟩ := Option.map_eq_some_iff.mp hreserve
      have hcount : sizeAdd staged.eventCount 1 = staged.events.length + 1 := by
        rw [EventStore.eventCount, hevents]
        exact hb.sizeAdd_eventCount
      constructor
      · rintro (hroom | hnone)
        · rw [reserve, if_pos hroom] at hgrown
          exact (Option.some.inj hgrown).symm.trans hcapacity
        · rw [hreserve] at hnone
          cases hnone
      · intro hfull
        have hfull : staged.eventCapacity < staged.events.length + 1 := by
          rw [← hcount]
          exact Nat.lt_of_not_le fun h => hfull (Or.inl h)
        rw [← hcapacity]
        simpa [EventStore.eventCount] using hfull

/-! ## A store in memory -/

/-- A store and the buffer its history is in. -/
@[ext] structure PlacedStore where
  store : EventStore
  history : MovingArray TraceGlassEvent
  placed : history.elements = store.events

namespace PlacedStore

/-- `event_store_add`. -/
def add (place : PlacedStore) (call : ReallocOutcome × TraceGlassEvent) : PlacedStore where
  store := addCall place.store call
  history := addToHistory call.1 place.store place.history call.2
  placed := elements_addToHistory place.placed call.1 call.2

@[simp] lemma add_store (place : PlacedStore) (call : ReallocOutcome × TraceGlassEvent) :
    (place.add call).store = addCall place.store call := rfl

@[simp] lemma add_history (place : PlacedStore) (call : ReallocOutcome × TraceGlassEvent) :
    (place.add call).history = addToHistory call.1 place.store place.history call.2 := rfl

/-- A sequence of calls. -/
def run (place : PlacedStore) (calls : List (ReallocOutcome × TraceGlassEvent)) : PlacedStore :=
  calls.foldl add place

lemma run_append (place : PlacedStore) (calls calls' : List (ReallocOutcome × TraceGlassEvent)) :
    place.run (calls ++ calls') = (place.run calls).run calls' :=
  List.foldl_append

lemma run_store (place : PlacedStore) (calls : List (ReallocOutcome × TraceGlassEvent)) :
    (place.run calls).store = calls.foldl addCall place.store := by
  induction calls generalizing place with
  | nil => rfl
  | cons call calls ih => exact ih (place.add call)

variable {place : PlacedStore} {r : Ref} {event : TraceGlassEvent}

/-- A reference keeps its event through a call that finds room. -/
lemma denotes_add (h : place.history.Denotes r event) (hroom : FindsRoom place.store call) :
    (place.add call).history.Denotes r event := by
  rcases addToHistory_cases place.store place.history call with
    ⟨-, hkept | ⟨pushed, hpushed⟩⟩ | ⟨hfull, -⟩
  · rw [add_history, hkept]
    exact h
  · rw [add_history, hpushed]
    exact h.push pushed
  · exact absurd hroom hfull

/-- Every other call frees the buffer under it. -/
lemma dangles_add (h : place.history.Denotes r event) (hfull : ¬FindsRoom place.store call) :
    (place.add call).history.Dangles r := by
  rcases addToHistory_cases place.store place.history call with ⟨hroom, -⟩ | ⟨-, pushed, hmoved⟩
  · exact absurd hroom hfull
  · rw [add_history, hmoved]
    exact h.grow.push pushed

/-- No call brings a freed buffer back. -/
lemma dangles_add_of_dangles (h : place.history.Dangles r)
    (call : ReallocOutcome × TraceGlassEvent) : (place.add call).history.Dangles r := by
  rcases addToHistory_cases place.store place.history call with
    ⟨-, hkept | ⟨pushed, hpushed⟩⟩ | ⟨-, pushed, hmoved⟩
  · rw [add_history, hkept]
    exact h
  · rw [add_history, hpushed]
    exact h.push pushed
  · rw [add_history, hmoved]
    exact h.grow.push pushed

/-- **A reference through a sequence of calls**: it denotes its event if every call finds room, and
dangles otherwise. -/
lemma run_cases (h : place.history.Denotes r event)
    (calls : List (ReallocOutcome × TraceGlassEvent)) :
    (Machine.Along addCall FindsRoom place.store calls ∧
        (place.run calls).history.Denotes r event) ∨
      (¬Machine.Along addCall FindsRoom place.store calls ∧
        (place.run calls).history.Dangles r) := by
  rw [← Machine.along_comap store add_store]
  exact Machine.along_or_left (I := fun place : PlacedStore => place.history.Denotes r event)
    (J := fun place : PlacedStore => place.history.Dangles r)
    (fun _ _ h hroom => denotes_add h hroom) (fun _ _ h hfull => dangles_add h hfull)
    (fun _ call h => dangles_add_of_dangles h call) h calls

end PlacedStore

/-! ## Room for a sequence of calls -/

/-- **The calls all find room exactly if what they append fits the capacity before them.** -/
theorem along_findsRoom_iff (hb : Bounded store)
    (calls : List (ReallocOutcome × TraceGlassEvent)) :
    Machine.Along addCall FindsRoom store calls ↔
      (calls.foldl addCall store).eventCount ≤ store.eventCapacity := by
  have hcases := Machine.along_or_left (P := FindsRoom)
    (I := fun s => Bounded s ∧ s.eventCapacity = store.eventCapacity)
    (J := fun s => Bounded s ∧ store.eventCapacity < s.eventCount)
    (fun s call h hroom =>
      ⟨h.1.add call.1 call.2, ((eventCapacity_addCall h.1 call).1 hroom).trans h.2⟩)
    (fun s call h hfull =>
      ⟨h.1.add call.1 call.2, h.2 ▸ (eventCapacity_addCall h.1 call).2 hfull⟩)
    (fun s call h => ⟨h.1.add call.1 call.2, h.2.trans_le (eventCount_le_addCall s call)⟩)
    ⟨hb, rfl⟩ calls
  rcases hcases with ⟨halong, hlast, hcapacity⟩ | ⟨hfull, -, hlt⟩
  · exact iff_of_true halong (hcapacity ▸ hlast.eventCount_le)
  · exact iff_of_false hfull (Nat.not_le_of_lt hlt)

end TraceGlass
