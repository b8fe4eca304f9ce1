import TraceGlass.Store.Refinement

/-!
# Calls that return `FALSE`

`event_store_add` reserves the history last, after the process table and the counters have been
changed, so a call that fails there leaves its change behind.  `FailsClean` is the exact condition
under which a call that returns `FALSE` leaves the store alone: the history can grow, or the event
is one whose branch has changed nothing by then.

In a run of such calls the failed ones might as well not have been made (`answered_foldl`), so the
counters count the history and a dropped report can be added again.  The neighbouring
`reserve_processes` shows the order that would make the condition unnecessary: both branches reserve
their record before they touch anything.
-/

namespace TraceGlass

/-! ## The condition -/

/-- The history has room for one more event, or can be grown. -/
def HistoryCanGrow (alloc : ReallocOutcome) (store : EventStore) : Prop :=
  (reserveEvents alloc.events store (sizeAdd store.eventCount 1)).isSome = true

/-- The process table has room for one more record, or can be grown. -/
def TableCanGrow (alloc : ReallocOutcome) (store : EventStore) : Prop :=
  (reserveProcesses alloc.processes store (sizeAdd store.processCount 1)).isSome = true

instance (alloc : ReallocOutcome) (store : EventStore) : Decidable (HistoryCanGrow alloc store) :=
  inferInstanceAs (Decidable (_ = true))

instance (alloc : ReallocOutcome) (store : EventStore) : Decidable (TableCanGrow alloc store) :=
  inferInstanceAs (Decidable (_ = true))

/-- The branch of the event changes nothing that outlives a failure to grow the history: FILE and
REGISTRY events change nothing; a START or STOP that returns early never gets there. -/
def BranchHarmless (alloc : ReallocOutcome) (store : EventStore) (event : TraceGlassEvent) : Prop :=
  match event.type with
  | .file | .registry => True
  | .network | .alert => False
  | .processStart =>
      eventStoreFindProcess store event.process = none → ¬ TableCanGrow alloc store
  | .processStop =>
      match eventStoreFindProcess store event.process with
      | some index => (store.record index).active = false
      | none => ¬ TableCanGrow alloc store

/-- A `FALSE` return from this call leaves the store as it was. -/
def FailsClean (store : EventStore) (call : ReallocOutcome × TraceGlassEvent) : Prop :=
  HistoryCanGrow call.1 store ∨ BranchHarmless call.1 store call.2

/-! ## One call -/

lemma tableCanGrow_of_eq_some {alloc : ReallocOutcome} {store store' : EventStore}
    (h : reserveProcesses alloc.processes store (sizeAdd store.processCount 1) = some store') :
    TableCanGrow alloc store := by
  rw [TableCanGrow, h]
  rfl

lemma not_tableCanGrow_of_eq_none {alloc : ReallocOutcome} {store : EventStore}
    (h : reserveProcesses alloc.processes store (sizeAdd store.processCount 1) = none) :
    ¬ TableCanGrow alloc store := by
  rw [TableCanGrow, h]
  simp

/-- An early return is harmless. -/
lemma Staging.harmless_of_returned {alloc : ReallocOutcome} {store store' : EventStore}
    {event : TraceGlassEvent} {ok : Bool} (h : Staging alloc store event (.returned ok store')) :
    BranchHarmless alloc store event := by
  unfold BranchHarmless
  cases h with
  | startCoalesced htype hfind => simp [htype, hfind]
  | startUnreserved htype hfind hreserve =>
    simpa [htype, hfind] using not_tableCanGrow_of_eq_none hreserve
  | stopIgnored htype hfind hactive => simpa [htype, hfind] using hactive
  | stopUnreserved htype hfind hreserve =>
    simpa [htype, hfind] using not_tableCanGrow_of_eq_none hreserve

/-- A branch that goes on to the history is harmless exactly when it has changed nothing. -/
lemma Staging.harmless_iff_of_staged {alloc : ReallocOutcome} {store store' : EventStore}
    {event : TraceGlassEvent} (h : Staging alloc store event (.staged store')) :
    BranchHarmless alloc store event ↔ store' = store := by
  unfold BranchHarmless
  cases h with
  | @startOpened capacity htype hfind hreserve =>
    have hgrow := tableCanGrow_of_eq_some hreserve
    have hne : openedStore store capacity event ≠ store := fun heq => by
      simpa [openedStore] using congrArg (fun s => s.processes.length) heq
    simp [htype, hfind, hgrow, hne]
  | @stopClosed index htype hfind hactive =>
    have hlt := eventStoreFindProcess_lt hfind
    have hne : closedStore store index event ≠ store := fun heq => by
      have hclosed : ((closedStore store index event).record index).active = false := by
        simp [closedStore, EventStore.record, hlt]
      rw [heq, hactive] at hclosed
      cases hclosed
    simp [htype, hfind, hactive, hne]
  | @stopRecorded capacity htype hfind hreserve =>
    have hgrow := tableCanGrow_of_eq_some hreserve
    have hne : stoppedStore store capacity event ≠ store := fun heq => by
      simpa [stoppedStore] using congrArg (fun s => s.processes.length) heq
    simp [htype, hfind, hgrow, hne]
  | network htype =>
    have hne : { store with networkCount := sizeAdd store.networkCount 1 } ≠ store := fun heq =>
      sizeAdd_one_ne (congrArg EventStore.networkCount heq)
    simp [htype, hne]
  | alert htype =>
    have hne : { store with alertCount := sizeAdd store.alertCount 1 } ≠ store := fun heq =>
      sizeAdd_one_ne (congrArg EventStore.alertCount heq)
    simp [htype, hne]
  | other htype => rcases htype with htype | htype <;> simp [htype]

/-- **When a failed call changes nothing.** -/
theorem eventStoreAdd_clean_iff (alloc : ReallocOutcome) (store : EventStore)
    (event : TraceGlassEvent) :
    ((eventStoreAdd alloc store event).ok = false →
        (eventStoreAdd alloc store event).store = store) ↔ FailsClean store (alloc, event) := by
  have hcase := eventStoreAdd_case alloc store event
  generalize eventStoreAdd alloc store event = result at hcase
  unfold FailsClean
  cases hcase with
  | @returned ok store' hstage =>
    refine iff_of_true (fun hok => ?_) (.inr hstage.harmless_of_returned)
    obtain rfl : ok = false := hok
    exact hstage.eq_of_returned_false
  | @appended store' result hstage happend =>
    obtain ⟨hevents, hcapacity, -⟩ := hstage.history_eq (.inr rfl)
    have hgrow := reserveEvents_isSome_congr alloc.events hevents hcapacity
    rw [hstage.harmless_iff_of_staged]
    cases happend with
    | unreserved hreserve =>
      have hfull : ¬ HistoryCanGrow alloc store := by
        rw [HistoryCanGrow, ← hgrow, hreserve]
        simp
      simp [hfull]
    | appended hreserve =>
      have hroom : HistoryCanGrow alloc store := by
        rw [HistoryCanGrow, ← hgrow, hreserve]
        rfl
      simp [hroom]

/-! ## Runs -/

/-- The calls of a run that return `TRUE`. -/
def answered : EventStore → List (ReallocOutcome × TraceGlassEvent) →
    List (ReallocOutcome × TraceGlassEvent)
  | _, [] => []
  | store, call :: calls =>
      if (eventStoreAdd call.1 store call.2).ok then call :: answered (addCall store call) calls
      else answered (addCall store call) calls

lemma addCall_eq_of_failed {store : EventStore} {call : ReallocOutcome × TraceGlassEvent}
    (hclean : FailsClean store call) (hfail : (eventStoreAdd call.1 store call.2).ok = false) :
    addCall store call = store :=
  (eventStoreAdd_clean_iff call.1 store call.2).mpr hclean hfail

/-- Where every failure is clean, the failed calls of a run might as well not have been made. -/
theorem answered_foldl {store : EventStore} {calls : List (ReallocOutcome × TraceGlassEvent)}
    (hclean : Machine.Along addCall FailsClean store calls) :
    (answered store calls).foldl addCall store = calls.foldl addCall store := by
  induction calls generalizing store with
  | nil => rfl
  | cons call calls ih =>
    unfold answered
    by_cases hok : (eventStoreAdd call.1 store call.2).ok = true
    · rw [if_pos hok, List.foldl_cons, List.foldl_cons]
      exact ih hclean.2
    · have hsame := addCall_eq_of_failed hclean.1 (by simpa using hok)
      have hrest := hclean.2
      rw [if_neg hok, List.foldl_cons]
      rw [hsame] at hrest ⊢
      exact ih hrest

/-- The number of events of one type in the history. -/
def typeCount (store : EventStore) (type : EventType) : ℕ :=
  store.events.countP fun e => decide (e.type = type)

/-- The NETWORK and ALERT counters agree with the history. -/
structure Tallied (store : EventStore) : Prop where
  network_eq : store.networkCount = typeCount store .network
  alert_eq : store.alertCount = typeCount store .alert

lemma typeCount_le (store : EventStore) (type : EventType) :
    typeCount store type ≤ store.eventCount :=
  List.countP_le_length

lemma typeCount_appendedStore (store : EventStore) (capacity : ℕ) (event : TraceGlassEvent)
    (type : EventType) :
    typeCount (appendedStore store capacity event) type =
      typeCount store type + if event.type = type then 1 else 0 := by
  by_cases htype : event.type = type <;>
    simp [typeCount, appendedStore, stamped, List.countP_append, htype]

/-- The step of a counter with the history it counts. -/
lemma sizeAdd_typeCount {store : EventStore} (hb : Bounded store) (type : EventType) :
    sizeAdd (typeCount store type) 1 = typeCount store type + 1 := by
  have hle := typeCount_le store type
  have hlt := hb.eventCount_lt
  exact sizeAdd_eq (by omega)

/-- A call that fails cleanly or not at all keeps the counters in step with the history. -/
lemma Tallied.addCall {store : EventStore} (h : Tallied store) (hb : Bounded store)
    {call : ReallocOutcome × TraceGlassEvent} (hclean : FailsClean store call) :
    Tallied (addCall store call) := by
  by_cases hok : (eventStoreAdd call.1 store call.2).ok = true
  · have hnetwork := sizeAdd_typeCount hb .network
    have halert := sizeAdd_typeCount hb .alert
    rw [TraceGlass.addCall]
    have hcase := eventStoreAdd_case call.1 store call.2
    generalize eventStoreAdd call.1 store call.2 = result at hcase hok
    cases hcase with
    | returned hstage =>
      cases hstage with
      | startCoalesced | stopIgnored => exact ⟨h.network_eq, h.alert_eq⟩
      | startUnreserved | stopUnreserved => cases hok
    | @appended store' result hstage happend =>
      cases happend with
      | unreserved => cases hok
      | appended hreserve =>
        have htype : ∀ type, typeCount store' type = typeCount store type := fun type => by
          rw [typeCount, (hstage.history_eq (.inr rfl)).1]
          rfl
        constructor
        · rw [typeCount_appendedStore, htype]
          cases hstage with
          | network ht => simp [appendedStore, ht, h.network_eq, hnetwork]
          | startOpened ht | stopClosed ht | stopRecorded ht | alert ht =>
            simp [appendedStore, openedStore, closedStore, stoppedStore, ht, h.network_eq]
          | other ht => rcases ht with ht | ht <;> simp [appendedStore, ht, h.network_eq]
        · rw [typeCount_appendedStore, htype]
          cases hstage with
          | alert ht => simp [appendedStore, ht, h.alert_eq, halert]
          | startOpened ht | stopClosed ht | stopRecorded ht | network ht =>
            simp [appendedStore, openedStore, closedStore, stoppedStore, ht, h.alert_eq]
          | other ht => rcases ht with ht | ht <;> simp [appendedStore, ht, h.alert_eq]
  · rw [addCall_eq_of_failed hclean (by simpa using hok)]
    exact h

/-- The counters of a run whose failures are clean. -/
lemma tallied_of_along {calls : List (ReallocOutcome × TraceGlassEvent)}
    (hclean : Machine.Along addCall FailsClean eventStoreInitialize calls) :
    Tallied (calls.foldl addCall eventStoreInitialize) :=
  (hclean.invariant (I := fun s => Bounded s ∧ Tallied s)
    (fun _ call hs hcall => ⟨hs.1.add call.1 call.2, hs.2.addCall hs.1 hcall⟩)
    ⟨bounded_eventStoreInitialize, ⟨rfl, rfl⟩⟩).2

/-- **Failed calls.**  A call that returns `FALSE` leaves the store alone exactly when it fails
clean.  In a run of calls that do, the counters count the history, the store is the one the calls
that returned `TRUE` build alone, and a call after a failed one is answered as if that one had not
been made. -/
theorem failedAdd_clean_iff_and_runs (store : EventStore) (alloc : ReallocOutcome)
    (event : TraceGlassEvent) :
    (((eventStoreAdd alloc store event).ok = false →
        (eventStoreAdd alloc store event).store = store) ↔ FailsClean store (alloc, event)) ∧
    ∀ calls : List (ReallocOutcome × TraceGlassEvent),
      calls.foldl addCall eventStoreInitialize = store →
      Machine.Along addCall FailsClean eventStoreInitialize calls →
        store.networkCount = typeCount store .network ∧
        store.alertCount = typeCount store .alert ∧
        (answered eventStoreInitialize calls).foldl addCall eventStoreInitialize = store ∧
        (FailsClean store (alloc, event) → (eventStoreAdd alloc store event).ok = false →
          ∀ again : ReallocOutcome,
            eventStoreAdd again (addCall store (alloc, event)) event =
              eventStoreAdd again store event) := by
  refine ⟨eventStoreAdd_clean_iff alloc store event, ?_⟩
  rintro calls rfl hclean
  have htallied := tallied_of_along hclean
  refine ⟨htallied.network_eq, htallied.alert_eq, answered_foldl hclean, ?_⟩
  intro hcall hfail again
  rw [addCall_eq_of_failed hcall hfail]

/-- A history that cannot grow. -/
def noHistory : ReallocOutcome := ⟨true, false⟩

/-- On a store whose history cannot grow, a NETWORK event is dropped and still counted, and a START
is dropped and its record stays, so that adding it again is coalesced. -/
theorem failedAdd_leaves_change :
    ((eventStoreAdd noHistory eventStoreInitialize
          { TraceGlassEvent.zero with type := .network }).ok = false ∧
        (eventStoreAdd noHistory eventStoreInitialize
          { TraceGlassEvent.zero with type := .network }).store.networkCount = 1 ∧
        (eventStoreAdd noHistory eventStoreInitialize
          { TraceGlassEvent.zero with type := .network }).store.events = []) ∧
      (eventStoreAdd noHistory eventStoreInitialize
        { TraceGlassEvent.zero with process := ⟨8, 5⟩ }).ok = false ∧
      (eventStoreAdd .succeed
        (addCall eventStoreInitialize (noHistory, { TraceGlassEvent.zero with process := ⟨8, 5⟩ }))
        { TraceGlassEvent.zero with process := ⟨8, 5⟩ }).accepted = false ∧
      (eventStoreAdd .succeed eventStoreInitialize
        { TraceGlassEvent.zero with process := ⟨8, 5⟩ }).accepted = true := by
  refine ⟨⟨?_, ?_, ?_⟩, ?_, ?_, ?_⟩ <;> decide +kernel

/-- A FILE event dropped for want of history, in a run that meets the condition. -/
theorem failedAdd_clean_of_file :
    (addCall eventStoreInitialize (noHistory, { TraceGlassEvent.zero with type := .file })
      ).networkCount =
      typeCount (addCall eventStoreInitialize
        (noHistory, { TraceGlassEvent.zero with type := .file })) .network :=
  ((failedAdd_clean_iff_and_runs _ noHistory .zero).2
    [(noHistory, { TraceGlassEvent.zero with type := .file })] rfl ⟨.inr trivial, trivial⟩).1

end TraceGlass
