import TraceGlass.Gui.Model
import TraceGlass.Store.Refinement

/-!
# What the window does to the store

Only the drain touches the store.  `uiStep_store` and `finishDrain_store` are the frame facts for
everything else; `drainIteration_store` says that one turn of the drain loop is `ingest`: add the
event and, if it is accepted, add its alerts.

`session` is the run of `ingest`, and `session_events` what it leaves in the history: the accepted
events in order, each followed at once by its alerts.
-/

namespace TraceGlass

open SortedArray

variable {w : Win32} {sorter : CompareSort ℕ}

/-! ## Everything but the drain -/

@[simp] lemma GuiState.setRows_store (gui : GuiState) (list : ListControl) (rows : List ℕ) :
    (gui.setRows list rows).store = gui.store := rfl

@[simp] lemma insertListItem_store (env : UiEnv) (gui : GuiState) (list : ListControl)
    (index : ℕ) : (insertListItem env gui list index).store = gui.store := by
  unfold insertListItem
  split <;> rfl

@[simp] lemma addTimelineRow_store (env : UiEnv) (gui : GuiState) (index : ℕ) :
    (addTimelineRow w env gui index).store = gui.store := by
  unfold addTimelineRow
  split <;> simp

@[simp] lemma addNetworkRow_store (env : UiEnv) (gui : GuiState) (index : ℕ) :
    (addNetworkRow w env gui index).store = gui.store := by
  unfold addNetworkRow
  split <;> simp

@[simp] lemma addAlertRow_store (env : UiEnv) (gui : GuiState) (index : ℕ) :
    (addAlertRow w env gui index).store = gui.store := by
  unfold addAlertRow
  split <;> simp

@[simp] lemma addEventRows_store (env : UiEnv) (gui : GuiState) (index : ℕ) :
    (addEventRows w env gui index).store = gui.store := by
  simp only [addEventRows]
  repeat' split
  all_goals simp

@[simp] lemma sortView_store (gui : GuiState) (view : GuiView) (forceDefault : Bool) :
    (sortView w sorter gui view forceDefault).store = gui.store := by
  unfold sortView
  split
  · rfl
  · simp only []
    split <;> rfl

@[simp] lemma handleColumnClick_store (gui : GuiState) (list : ListControl) (column : ℤ) :
    (handleColumnClick w sorter gui list column).store = gui.store := by
  cases list <;> simp [handleColumnClick]

@[simp] lemma rebuildEventLists_store (env : UiEnv) (gui : GuiState) :
    (rebuildEventLists w sorter env gui).store = gui.store := by
  have hrows : ∀ (indices : List ℕ) (gui : GuiState),
      (indices.foldl (addEventRows w env) gui).store = gui.store := by
    intro indices
    induction indices with
    | nil => exact fun _ => rfl
    | cons index indices ih => exact fun gui => by rw [List.foldl_cons, ih, addEventRows_store]
  simp [rebuildEventLists, hrows]

@[simp] lemma rebuildOverviewLists_store (env : UiEnv) (gui : GuiState) :
    (rebuildOverviewLists w env gui).store = gui.store := rfl

@[simp] lemma rebuildProcessTree_store (env : UiEnv) (gui : GuiState) :
    (rebuildProcessTree env gui).store = gui.store := rfl

@[simp] lemma rebuildFilteredViews_store (env : UiEnv) (gui : GuiState) :
    (rebuildFilteredViews w sorter env gui).store = gui.store := by
  unfold rebuildFilteredViews
  split <;> simp

@[simp] lemma togglePause_store (env : UiEnv) (gui : GuiState) :
    (togglePause w sorter env gui).store = gui.store := by
  simp only [togglePause]
  split <;> simp

@[simp] lemma clearCurrentView_store (gui : GuiState) :
    (clearCurrentView gui).store = gui.store := by
  simp only [clearCurrentView]
  split
  · rfl
  · cases currentView gui <;> rfl

/-- **No operation of the user touches the store.** -/
theorem uiStep_store (env : UiEnv) (gui : GuiState) (input : UiInput) :
    (uiStep w sorter env gui input).store = gui.store := by
  cases input <;> simp [uiStep]

/-- Nor does what follows the drain loop. -/
theorem finishDrain_store (env : UiEnv) (gui : GuiState) (locals : DrainLocals) :
    (finishDrain w sorter env gui locals).store = gui.store := by
  simp only [finishDrain]
  split
  · rfl
  · split
    · rfl
    · split <;> simp

/-! ## One turn of the drain loop -/

/-- Add the event and, if it is accepted, its alerts. -/
def ingest (w : Win32) (store : EventStore) (event : TraceGlassEvent) : EventStore :=
  let result := eventStoreAdd .succeed store event
  if result.accepted then
    addEvents result.store (detectionEvaluate w result.event maxAlertsPerEvent)
  else result.store

lemma addAcceptedEvent_store (alloc : ReallocOutcome) (env : UiEnv) (gui : GuiState)
    (event : TraceGlassEvent) :
    (addAcceptedEvent w alloc env gui event).2.2.store =
      (eventStoreAdd alloc gui.store event).store := by
  simp only [addAcceptedEvent]
  repeat' split
  all_goals simp

lemma addAcceptedEvent_event (alloc : ReallocOutcome) (env : UiEnv) (gui : GuiState)
    (event : TraceGlassEvent) :
    (addAcceptedEvent w alloc env gui event).2.1 = (eventStoreAdd alloc gui.store event).event := by
  simp only [addAcceptedEvent]
  split
  · rfl
  · split <;> rfl

lemma addAcceptedEvent_accepted (alloc : ReallocOutcome) (env : UiEnv) (gui : GuiState)
    (event : TraceGlassEvent) :
    (addAcceptedEvent w alloc env gui event).1 =
      (eventStoreAdd alloc gui.store event).accepted := by
  rcases eventStoreAdd_history alloc gui.store event with ⟨hrejected, -⟩ | ⟨haccepted, hok, -⟩
  · simp only [addAcceptedEvent, hrejected]
    split <;> rfl
  · simp [addAcceptedEvent, haccepted, hok]

/-- The alert loop adds the alerts. -/
lemma addAlerts_store {env : DrainEnv} (halloc : ∀ turn, env.alloc turn = .succeed) (turn : ℕ)
    (gui : GuiState) (locals : DrainLocals) (alerts : List TraceGlassEvent) :
    (addAlerts w env turn (gui, locals) alerts).1.store = addEvents gui.store alerts := by
  induction alerts generalizing turn gui locals with
  | nil => rfl
  | cons alert alerts ih =>
    simp only [addAlerts]
    rw [ih, addAcceptedEvent_store, halloc]
    rfl

/-- **One turn of the loop is `ingest`**, whatever is displayed. -/
theorem drainIteration_store {env : DrainEnv} (halloc : ∀ turn, env.alloc turn = .succeed)
    (gui : GuiState) (locals : DrainLocals) (event : TraceGlassEvent) :
    (drainIteration w env gui locals event).1.store = ingest w gui.store event := by
  have haccepted := addAcceptedEvent_accepted (w := w) (env.alloc 0) env.ui gui event
  have hevent := addAcceptedEvent_event (w := w) (env.alloc 0) env.ui gui event
  have hstore := addAcceptedEvent_store (w := w) (env.alloc 0) env.ui gui event
  rw [halloc] at haccepted hevent hstore
  simp only [drainIteration, ingest, halloc, haccepted, hevent]
  cases (eventStoreAdd .succeed gui.store event).accepted with
  | false => exact hstore
  | true =>
    simp only [Bool.not_true, Bool.false_eq_true, if_false, if_true]
    rw [addAlerts_store halloc, hstore]

/-! ## Sessions -/

/-- The store after draining the events in order. -/
def session (w : Win32) (store : EventStore) (events : List TraceGlassEvent) : EventStore :=
  events.foldl (ingest w) store

/-- The reservations of one turn succeed. -/
def IngestSucceeds (w : Win32) (store : EventStore) (event : TraceGlassEvent) : Prop :=
  ReservationsSucceed store ∧
    ((eventStoreAdd .succeed store event).accepted = true →
      AllocationsSucceed (addEvent store event)
        (detectionEvaluate w (eventStoreAdd .succeed store event).event maxAlertsPerEvent))

instance (w : Win32) (store : EventStore) (event : TraceGlassEvent) :
    Decidable (IngestSucceeds w store event) :=
  inferInstanceAs (Decidable (_ ∧ (_ → _)))

/-- Every reservation of the session succeeds. -/
def SessionSucceeds (w : Win32) (store : EventStore) (events : List TraceGlassEvent) : Prop :=
  Machine.Along (ingest w) (IngestSucceeds w) store events

instance (w : Win32) (store : EventStore) (events : List TraceGlassEvent) :
    Decidable (SessionSucceeds w store events) :=
  Machine.Along.decidable (ingest w) (IngestSucceeds w) events store

/-- The events that are accepted where they are drained, in order. -/
def acceptedEvents (w : Win32) : EventStore → List TraceGlassEvent → List TraceGlassEvent
  | _, [] => []
  | store, event :: events =>
      if (eventStoreAdd .succeed store event).accepted then
        event :: acceptedEvents w (ingest w store event) events
      else acceptedEvents w (ingest w store event) events

/-- The events as the history stores them, from this sequence number on. -/
def recorded : ULONGLONG → List TraceGlassEvent → List TraceGlassEvent
  | _, [] => []
  | sequence, event :: events =>
      { event with sequence := sequence } :: recorded (sequence + 1) events

/-- An event with the alerts it gives rise to. -/
def withAlerts (w : Win32) (event : TraceGlassEvent) : List TraceGlassEvent :=
  event :: detectionEvaluate w event maxAlertsPerEvent

lemma acceptedEvents_sublist (store : EventStore) (events : List TraceGlassEvent) :
    (acceptedEvents w store events).Sublist events := by
  induction events generalizing store with
  | nil => exact List.Sublist.slnil
  | cons event events ih =>
    simp only [acceptedEvents]
    split
    · exact (ih _).cons_cons event
    · exact (ih _).cons event

lemma session_append (store : EventStore) (events events' : List TraceGlassEvent) :
    session w store (events ++ events') = session w (session w store events) events' :=
  List.foldl_append

lemma acceptedEvents_append (store : EventStore) (events events' : List TraceGlassEvent) :
    acceptedEvents w store (events ++ events') =
      acceptedEvents w store events ++ acceptedEvents w (session w store events) events' := by
  induction events generalizing store with
  | nil => rfl
  | cons event events ih =>
    simp only [List.cons_append, acceptedEvents, ih]
    split <;> rfl

/-- Only STARTs and STOPs are ever left out. -/
lemma filter_sublist_acceptedEvents {store : EventStore} {events : List TraceGlassEvent}
    (h : SessionSucceeds w store events) :
    (events.filter fun e => (reportOf e).isNone).Sublist (acceptedEvents w store events) := by
  induction events generalizing store with
  | nil => exact List.Sublist.slnil
  | cons event events ih =>
    simp only [acceptedEvents]
    by_cases hreport : reportOf event = none
    · rw [List.filter_cons_of_pos (by simp [hreport]),
        if_pos (accepted_of_reportOf_none h.1.1 hreport)]
      exact (ih h.2).cons_cons event
    · rw [List.filter_cons_of_neg (by simpa using hreport)]
      split
      · exact (ih h.2).cons event
      · exact ih h.2

lemma recorded_append (sequence : ULONGLONG) (events events' : List TraceGlassEvent) :
    recorded sequence (events ++ events') =
      recorded sequence events ++ recorded (sequence + .ofNat events.length) events' := by
  induction events generalizing sequence with
  | nil => simp [recorded]
  | cons event events ih =>
    rw [List.cons_append, recorded, ih, recorded, List.cons_append, List.length_cons,
      UInt64.ofNat_add, UInt64.add_comm (.ofNat events.length), ← UInt64.add_assoc]
    rfl

/-- The history overwrites the sequence numbers the events come with. -/
lemma recorded_map_sequence (sequence old : ULONGLONG) (events : List TraceGlassEvent) :
    recorded sequence (events.map fun e => { e with sequence := old }) =
      recorded sequence events := by
  induction events generalizing sequence with
  | nil => rfl
  | cons event events ih => rw [List.map_cons, recorded, ih, recorded]

/-- A run of alerts is recorded as it is. -/
lemma addEvents_alerts {store : EventStore} {alerts : List TraceGlassEvent}
    (halloc : AllocationsSucceed store alerts) (halerts : ∀ a ∈ alerts, a.type = .alert) :
    (addEvents store alerts).events = store.events ++ recorded store.nextSequence alerts ∧
      (addEvents store alerts).nextSequence = store.nextSequence + .ofNat alerts.length := by
  induction alerts generalizing store with
  | nil => simp [addEvents, recorded]
  | cons alert alerts ih =>
    obtain ⟨hreserve, hrest⟩ := halloc
    have hreport : reportOf alert = none := by simp [reportOf, halerts alert (by simp)]
    have haccepted := accepted_of_reportOf_none hreserve hreport
    rcases eventStoreAdd_history .succeed store alert with
      ⟨hrejected, -⟩ | ⟨-, -, -, hevents, hsequence⟩
    · rw [haccepted] at hrejected
      cases hrejected
    · obtain ⟨hevents', hsequence'⟩ := ih hrest fun a ha => halerts a (List.mem_cons_of_mem _ ha)
      have hcons : addEvents store (alert :: alerts) = addEvents (addEvent store alert) alerts :=
        rfl
      rw [hcons, hevents', hsequence', addEvent, hevents, hsequence]
      refine ⟨by simp [recorded, stamped], ?_⟩
      rw [List.length_cons, UInt64.ofNat_add, UInt64.add_comm (.ofNat alerts.length),
        ← UInt64.add_assoc]
      rfl

/-- One turn records the event with its alerts, or nothing. -/
lemma ingest_events {store : EventStore} {event : TraceGlassEvent}
    (h : IngestSucceeds w store event) :
    (ingest w store event).events = store.events ++ recorded store.nextSequence
        (if (eventStoreAdd .succeed store event).accepted then withAlerts w event else []) ∧
      (ingest w store event).nextSequence = store.nextSequence + .ofNat
        (if (eventStoreAdd .succeed store event).accepted then withAlerts w event
          else []).length := by
  rcases eventStoreAdd_history .succeed store event with
    ⟨hrejected, -, hevents, hsequence⟩ | ⟨haccepted, -, hevent, hevents, hsequence⟩
  · simp [ingest, hrejected, hevents, hsequence, recorded]
  · obtain ⟨hevents', hsequence'⟩ := addEvents_alerts (h.2 haccepted)
      fun _ => type_of_mem_detectionEvaluate
    simp only [ingest, haccepted, if_true]
    rw [addEvent, hevents, hsequence, hevent, stamped, detectionEvaluate_sequence] at hevents'
    rw [addEvent, hsequence, hevent, stamped, detectionEvaluate_sequence] at hsequence'
    rw [hevent, stamped, detectionEvaluate_sequence, hevents', hsequence', recorded_map_sequence,
      List.length_map, withAlerts, List.length_cons, UInt64.ofNat_add,
      UInt64.add_comm (.ofNat (detectionEvaluate w event maxAlertsPerEvent).length),
      ← UInt64.add_assoc]
    exact ⟨by simp [recorded], rfl⟩

/-- **The history of a session**: the accepted events in order, each with its alerts directly after
it, numbered consecutively. -/
theorem session_events {store : EventStore} {events : List TraceGlassEvent}
    (h : SessionSucceeds w store events) :
    (session w store events).events = store.events ++
      recorded store.nextSequence ((acceptedEvents w store events).flatMap (withAlerts w)) := by
  induction events generalizing store with
  | nil => simp [session, acceptedEvents, recorded]
  | cons event events ih =>
    obtain ⟨hevents, hsequence⟩ := ingest_events h.1
    have hcons : session w store (event :: events) = session w (ingest w store event) events := rfl
    rw [hcons, ih h.2, hevents, hsequence, List.append_assoc, ← recorded_append]
    simp only [acceptedEvents]
    split <;> simp

/-! ## The table of a session -/

/-- One turn applies the event to the table; its alerts report nothing. -/
lemma table_ingest {store : EventStore} {event : TraceGlassEvent}
    (h : IngestSucceeds w store event) :
    (ingest w store event).table = store.table.applyAll (reportsOf [event]) := by
  obtain ⟨-, htable, -⟩ := eventStoreAdd_succeed h.1 event
  simp only [ingest]
  split
  · next haccepted =>
    have halerts : reportsOf (detectionEvaluate w (eventStoreAdd .succeed store event).event
        maxAlertsPerEvent) = [] := by
      refine List.filterMap_eq_nil_iff.mpr fun alert halert => ?_
      simp [reportOf, type_of_mem_detectionEvaluate halert]
    have hstore : (addEvent store event).table = (store.table.add event).1 := htable
    rw [← addEvent, table_addEvents (h.2 haccepted), halerts, hstore, table_add_eq]
    rfl
  · rw [htable, table_add_eq]

/-- **The table of a session** is the run of the table on the reports drained. -/
theorem table_session {store : EventStore} {events : List TraceGlassEvent}
    (h : SessionSucceeds w store events) :
    (session w store events).table = store.table.applyAll (reportsOf events) := by
  induction events generalizing store with
  | nil => rfl
  | cons event events ih =>
    have hcons : session w store (event :: events) = session w (ingest w store event) events := rfl
    have hreports : reportsOf (event :: events) = reportsOf [event] ++ reportsOf events :=
      reportsOf_append [event] events
    rw [hcons, ih h.2, table_ingest h.1, hreports, Table.applyAll_append]

end TraceGlass
