import TraceGlass.Gui.Order
import TraceGlass.Gui.Run

/-!
# What the event tables show

Rows reach a table in two ways: `add_accepted_event` appends the row of each event as it comes, and
`rebuild_event_lists` starts over from the history.  `shows` is the selection both make.
`rows_rebuildEventLists` says that the second leaves the selection, sorted, and `grows_drainLoop`
that what the first appends in a drain is what the selection has grown by.
-/

namespace TraceGlass

open SortedArray Comparator

variable {w : Win32} {sorter : CompareSort ℕ}

/-! ## The selection -/

/-- The row of the event at this index belongs into the table. -/
def shows (w : Win32) (gui : GuiState) (list : ListControl) (index : ℕ) : Bool :=
  match list with
  | .timeline =>
      decide (gui.viewFloor .timeline ≤ index) && eventMatchesSearch w gui (gui.event index) &&
        eventMatchesTypeFilter gui (gui.event index)
  | .network =>
      decide ((gui.event index).type = .network) && decide (gui.viewFloor .network ≤ index) &&
        eventMatchesSearch w gui (gui.event index)
  | .alerts =>
      decide ((gui.event index).type = .alert) && decide (gui.viewFloor .alerts ≤ index) &&
        eventMatchesSearch w gui (gui.event index)
  | .recent => false
  | .recentAlerts => false

/-- The rows of a table, in the order of the history. -/
def selected (w : Win32) (gui : GuiState) (list : ListControl) : List ℕ :=
  (List.range gui.store.eventCount).filter (shows w gui list)

/-- The selection looks at the events, the floors and the filters only. -/
lemma shows_congr {gui after : GuiState} {index : ℕ} (hevent : after.event index = gui.event index)
    (hfloor : after.viewFloor = gui.viewFloor) (hsearch : after.searchText = gui.searchText)
    (hfilter : after.eventFilter = gui.eventFilter) (list : ListControl) :
    shows w after list index = shows w gui list index := by
  have hmatches : ∀ e, eventMatchesSearch w after e = eventMatchesSearch w gui e := fun e => by
    simp only [eventMatchesSearch, hsearch]
  have htype : ∀ e, eventMatchesTypeFilter after e = eventMatchesTypeFilter gui e := fun e => by
    simp only [eventMatchesTypeFilter, hfilter]
  cases list <;> simp only [shows, hevent, hfloor, hmatches, htype]

lemma SameButRows.shows {gui after : GuiState} (h : SameButRows gui after) (list : ListControl)
    (index : ℕ) : shows w after list index = TraceGlass.shows w gui list index :=
  shows_congr (by rw [GuiState.event, GuiState.event, h.store]) h.viewFloor h.searchText
    h.eventFilter list

lemma SameButRows.selected {gui after : GuiState} (h : SameButRows gui after)
    (list : ListControl) : selected w after list = TraceGlass.selected w gui list := by
  rw [TraceGlass.selected, TraceGlass.selected, h.store]
  exact List.filter_congr fun index _ => h.shows list index

lemma selected_setRows (gui : GuiState) (table : ListControl) (rows : List ℕ)
    (list : ListControl) : selected w (gui.setRows table rows) list = selected w gui list :=
  (SameButRows.of_update gui _).selected list

/-! ## Adding rows -/

/-- `ListView_InsertItem` succeeds. -/
def InsertsRows (env : UiEnv) : Prop := ∀ list index, env.insertItem list index = true

section
variable {env : UiEnv}

/-- The timeline's part of adding the rows of an event. -/
private lemma addTimelineRow_eq (hinsert : InsertsRows env)
    (gui : GuiState) (index : ℕ) :
    (if index ≥ gui.viewFloor .timeline then addTimelineRow w env gui index else gui) =
      if shows w gui .timeline index then
        gui.setRows .timeline (gui.rows .timeline ++ [index])
      else gui := by
  have hshows : shows w gui .timeline index = (decide (gui.viewFloor .timeline ≤ index) &&
      eventMatchesSearch w gui (gui.event index) &&
        eventMatchesTypeFilter gui (gui.event index)) := rfl
  rw [hshows, addTimelineRow, insertListItem, hinsert, if_pos rfl]
  by_cases hfloor : gui.viewFloor .timeline ≤ index <;>
    cases eventMatchesSearch w gui (gui.event index) <;>
      cases eventMatchesTypeFilter gui (gui.event index) <;> simp [hfloor]

/-- The part of the other two tables. -/
private lemma addNetworkOrAlertRow_eq (hinsert : InsertsRows env)
    (gui : GuiState) (index : ℕ) :
    (if (gui.event index).type = .network ∧ index ≥ gui.viewFloor .network then
        addNetworkRow w env gui index
      else if (gui.event index).type = .alert ∧ index ≥ gui.viewFloor .alerts then
        addAlertRow w env gui index
      else gui) =
      if shows w gui .network index then gui.setRows .network (gui.rows .network ++ [index])
      else if shows w gui .alerts index then gui.setRows .alerts (gui.rows .alerts ++ [index])
      else gui := by
  have hnetwork : shows w gui .network index = (decide ((gui.event index).type = .network) &&
      decide (gui.viewFloor .network ≤ index) && eventMatchesSearch w gui (gui.event index)) := rfl
  have halerts : shows w gui .alerts index = (decide ((gui.event index).type = .alert) &&
      decide (gui.viewFloor .alerts ≤ index) && eventMatchesSearch w gui (gui.event index)) := rfl
  rw [hnetwork, halerts, addNetworkRow, addAlertRow, insertListItem, insertListItem, hinsert,
    hinsert, if_pos rfl, if_pos rfl]
  cases eventMatchesSearch w gui (gui.event index) with
  | false => simp
  | true =>
    cases (gui.event index).type <;> simp

/-- Where the insertion succeeds an event's row goes to the end of the tables that show it. -/
lemma rows_addEventRows (hinsert : InsertsRows env)
    (gui : GuiState) (index : ℕ) (list : ListControl) :
    (addEventRows w env gui index).rows list =
      gui.rows list ++ [index].filter (shows w gui list) := by
  have hfirst := @addTimelineRow_eq w env hinsert gui index
  have hframe : SameButRows gui
      (if shows w gui .timeline index then gui.setRows .timeline (gui.rows .timeline ++ [index])
        else gui) := by
    split
    · exact .of_update _ _
    · exact .refl _
  have hrows : ∀ l, (if shows w gui .timeline index then
      gui.setRows .timeline (gui.rows .timeline ++ [index]) else gui).rows l =
        gui.rows l ++ if l = .timeline then [index].filter (shows w gui l) else [] := by
    intro l
    by_cases hl : l = .timeline
    · subst hl
      cases hs : shows w gui .timeline index <;> simp [GuiState.setRows, hs]
    · split <;> simp [GuiState.setRows, hl]
  simp only [addEventRows]
  rw [hfirst, addNetworkOrAlertRow_eq hinsert, hframe.shows, hframe.shows]
  generalize (if shows w gui .timeline index then
    gui.setRows .timeline (gui.rows .timeline ++ [index]) else gui) = first at hrows
  have hexcludes : shows w gui .network index = true → shows w gui .alerts index = false := by
    simp only [shows, Bool.and_eq_true, decide_eq_true_eq]
    rintro ⟨⟨htype, -⟩, -⟩
    rw [htype]
    rfl
  cases hnetwork : shows w gui .network index with
  | true =>
    have halerts := hexcludes hnetwork
    cases list <;> simp [GuiState.setRows, hrows, hnetwork, halerts] <;> rfl
  | false =>
    cases halerts : shows w gui .alerts index <;> cases list <;>
      simp [GuiState.setRows, hrows, hnetwork, halerts] <;> rfl

/-- Adding the rows of several events. -/
lemma rows_addRange (hinsert : InsertsRows env) (indices : List ℕ)
    (gui : GuiState) (list : ListControl) :
    (indices.foldl (addEventRows w env) gui).rows list =
      gui.rows list ++ indices.filter (shows w gui list) := by
  induction indices generalizing gui with
  | nil => simp
  | cons index indices ih =>
    rw [List.foldl_cons, ih, rows_addEventRows hinsert, List.append_assoc]
    have hshows : shows w (addEventRows w env gui index) list = shows w gui list :=
      funext fun i => (sameButRows_addEventRows gui index).shows list i
    rw [hshows, ← List.filter_append]
    rfl

end

/-! ## Sorting -/

/-- What a table is sorted by, where it is sorted at all. -/
def GuiState.sortOf (gui : GuiState) (view : GuiView) : SortState :=
  if (gui.sortStates view).active then gui.sortStates view else ⟨0, true, false, view⟩

lemma sortView_eq (gui : GuiState) {view : GuiView} {list : ListControl} (force : Bool)
    (hlist : listForView view = some list) :
    sortView w sorter gui view force =
      if ((gui.sortStates view).active || force) = true then
        gui.setRows list
          (sorter.sort (compareEventItems w gui.store (gui.sortOf view)) (gui.rows list))
      else gui := by
  have hbody : sortView w sorter gui view force =
      if (!(gui.sortStates view).active && !force) = true then gui
      else gui.setRows list
        (sorter.sort (compareEventItems w gui.store (gui.sortOf view)) (gui.rows list)) := by
    rw [sortView, hlist]
    rfl
  rw [hbody]
  cases (gui.sortStates view).active <;> cases force <;> rfl

/-- A table belongs to one view. -/
lemma view_of_table {view other : GuiView} {list : ListControl}
    (h : listForView view = some list) (h' : listForView other = some list) : view = other := by
  cases view <;> cases h <;> cases other <;> first | rfl | cases h'

@[simp] lemma setRows_rows_self (gui : GuiState) (list : ListControl) (rows : List ℕ) :
    (gui.setRows list rows).rows list = rows := Function.update_self ..

lemma setRows_rows_of_ne (gui : GuiState) {list other : ListControl} (rows : List ℕ)
    (hne : other ≠ list) : (gui.setRows list rows).rows other = gui.rows other :=
  Function.update_of_ne hne ..

lemma rows_sortView_self (gui : GuiState) {view : GuiView} {list : ListControl} (force : Bool)
    (hlist : listForView view = some list) :
    (sortView w sorter gui view force).rows list =
      if ((gui.sortStates view).active || force) = true then
        sorter.sort (compareEventItems w gui.store (gui.sortOf view)) (gui.rows list)
      else gui.rows list := by
  rw [sortView_eq gui force hlist]
  split
  · exact setRows_rows_self ..
  · rfl

lemma rows_sortView_of_ne (gui : GuiState) {view : GuiView} {list : ListControl} (force : Bool)
    (hne : listForView view ≠ some list) :
    (sortView w sorter gui view force).rows list = gui.rows list := by
  cases hlist : listForView view with
  | none =>
    rw [sortView, hlist]
  | some l =>
    rw [sortView_eq gui force hlist]
    split
    · refine setRows_rows_of_ne gui _ ?_
      rintro rfl
      exact hne hlist
    · rfl

/-- **The tables at the end of a drain or a rebuild.** -/
lemma rows_sortTables (gui : GuiState) (force : Bool) {view : GuiView} {list : ListControl}
    (htable : listForView view = some list) :
    (sortTables w sorter gui force).rows list =
      if ((gui.sortStates view).active || force) = true then
        sorter.sort (compareEventItems w gui.store (gui.sortOf view)) (gui.rows list)
      else gui.rows list := by
  have hsame : ∀ v g, SameButRows g (sortView w sorter g v force) :=
    fun v g => sameButRows_sortView g v force
  have hkeys : ∀ v g, (sortView w sorter g v force).sortOf = g.sortOf := fun v g => by
    funext view
    rw [GuiState.sortOf, GuiState.sortOf, (hsame v g).sortStates]
  rw [sortTables]
  cases view with
  | overview | processes => cases htable
  | timeline =>
    obtain rfl := Option.some.inj htable
    rw [rows_sortView_of_ne _ _ (by decide), rows_sortView_of_ne _ _ (by decide),
      rows_sortView_self _ _ rfl]
  | network =>
    obtain rfl := Option.some.inj htable
    rw [rows_sortView_of_ne _ _ (by decide), rows_sortView_self _ _ rfl,
      rows_sortView_of_ne _ _ (by decide), hkeys, (hsame _ _).sortStates, (hsame _ _).store]
  | alerts =>
    obtain rfl := Option.some.inj htable
    rw [rows_sortView_self _ _ rfl, rows_sortView_of_ne _ _ (by decide),
      rows_sortView_of_ne _ _ (by decide), hkeys, hkeys, (hsame _ _).sortStates,
      (hsame _ _).sortStates, (hsame _ _).store, (hsame _ _).store]

lemma SameButStoreAndRows.sortOf {gui after : GuiState} (h : SameButStoreAndRows gui after) :
    after.sortOf = gui.sortOf := by
  funext view
  rw [GuiState.sortOf, GuiState.sortOf, h.sortStates]

/-- **A rebuilt table** holds the selection, sorted. -/
theorem rows_rebuildEventLists {env : UiEnv}
    (hinsert : InsertsRows env) (gui : GuiState) {view : GuiView}
    {list : ListControl} (htable : listForView view = some list) :
    (rebuildEventLists w sorter env gui).rows list =
      sorter.sort (compareEventItems w gui.store (gui.sortOf view)) (selected w gui list) := by
  have hcleared : SameButRows gui (clearTables gui) := .of_update _ _
  have hempty : (clearTables gui).rows list = [] := by
    cases view with
    | overview | processes => cases htable
    | timeline | network | alerts =>
      obtain rfl := Option.some.inj htable
      rfl
  have hframe := hcleared.trans (@sameButRows_addRange w env (List.range gui.store.eventCount)
    (clearTables gui))
  have hshows : shows w (clearTables gui) list = shows w gui list := funext (hcleared.shows list)
  rw [rebuildEventLists_eq, rows_sortTables _ _ htable, Bool.or_true, if_pos rfl, hframe.store,
    hframe.sortOf, rows_addRange hinsert, hempty, List.nil_append, hshows]
  rfl

/-! ## Draining -/

/-- What the table has gained, the selection has. -/
def Grows (w : Win32) (gui after : GuiState) (list : ListControl) : Prop :=
  ∃ tail, after.rows list = gui.rows list ++ tail ∧
    selected w after list = selected w gui list ++ tail

lemma Grows.trans {gui after last : GuiState} {list : ListControl} (h : Grows w gui after list)
    (h' : Grows w after last list) : Grows w gui last list := by
  obtain ⟨tail, hrows, hselected⟩ := h
  obtain ⟨tail', hrows', hselected'⟩ := h'
  exact ⟨tail ++ tail', by rw [hrows', hrows, List.append_assoc],
    by rw [hselected', hselected, List.append_assoc]⟩

/-- The selection does not depend on the process table. -/
lemma selected_of_events {gui : GuiState} {store : EventStore}
    (hevents : store.events = gui.store.events) (list : ListControl) :
    selected w { gui with store := store } list = selected w gui list := by
  have hcount : store.eventCount = gui.store.eventCount := by
    rw [EventStore.eventCount, hevents, EventStore.eventCount]
  simp only [selected, hcount]
  refine List.filter_congr fun index _ =>
    @shows_congr w gui { gui with store := store } index ?_ rfl rfl rfl list
  simp only [GuiState.event, hevents]

/-- Nor on anything but the settings. -/
lemma selected_of_idle {gui after : GuiState} (hsame : SameSettings gui after)
    (hevents : after.store.events = gui.store.events) (list : ListControl) :
    selected w after list = selected w gui list := by
  rw [← selected_of_events hevents, selected, selected]
  refine List.filter_congr fun index _ => ?_
  exact @shows_congr w { gui with store := after.store } after index rfl hsame.viewFloor
    hsame.searchText hsame.eventFilter list

/-- The selection of a longer history. -/
lemma selected_of_snoc {gui : GuiState} {store : EventStore} {event : TraceGlassEvent}
    (hevents : store.events = gui.store.events ++ [event]) (list : ListControl) :
    selected w { gui with store := store } list = selected w gui list ++
      [gui.store.eventCount].filter (shows w { gui with store := store } list) := by
  have hcount : store.eventCount = gui.store.eventCount + 1 := by
    simp [EventStore.eventCount, hevents]
  simp only [selected, hcount, List.range_succ, List.filter_append]
  congr 1
  refine List.filter_congr fun index hindex =>
    @shows_congr w gui { gui with store := store } index ?_ rfl rfl rfl list
  simp only [GuiState.event, hevents]
  exact List.getD_append _ _ _ _ (List.mem_range.mp hindex)

section
variable {gui : GuiState} {env : UiEnv}

/-- One addition while rendering is not paused. -/
lemma grows_addAcceptedEvent (hinsert : InsertsRows env)
    (hlive : gui.renderingPaused = false) (alloc : ReallocOutcome) (event : TraceGlassEvent)
    (list : ListControl) : Grows w gui (addAcceptedEvent w alloc env gui event).2.2 list := by
  rcases eventStoreAdd_history alloc gui.store event with
    ⟨hrejected, -, hevents, -⟩ | ⟨haccepted, hok, -, hevents, -⟩
  · have hafter : (addAcceptedEvent w alloc env gui event).2.2 =
        { gui with store := (eventStoreAdd alloc gui.store event).store } := by
      simp only [addAcceptedEvent, hrejected]
      split <;> rfl
    rw [hafter]
    exact ⟨[], (List.append_nil _).symm,
      (selected_of_events hevents list).trans (List.append_nil _).symm⟩
  · have hindex : (eventStoreAdd alloc gui.store event).store.eventCount - 1 =
        gui.store.eventCount := by
      simp [EventStore.eventCount, hevents]
    have hafter : (addAcceptedEvent w alloc env gui event).2.2 = addEventRows w env
        { gui with store := (eventStoreAdd alloc gui.store event).store }
          gui.store.eventCount := by
      simp only [addAcceptedEvent, haccepted, hok, hlive, hindex]
      rfl
    rw [hafter]
    refine ⟨_, rows_addEventRows hinsert _ _ list, ?_⟩
    rw [(sameButRows_addEventRows _ _).selected, selected_of_snoc hevents]

/-- While it is paused no table changes. -/
lemma rows_addAcceptedEvent_paused (hpaused : gui.renderingPaused = true) (alloc : ReallocOutcome)
    (event : TraceGlassEvent) :
    (addAcceptedEvent w alloc env gui event).2.2.rows = gui.rows := by
  simp only [addAcceptedEvent, hpaused]
  repeat' split
  all_goals first | rfl | next h => cases h

end

section
variable {gui : GuiState}

lemma grows_addAlerts {env : DrainEnv} (hinsert : InsertsRows env.ui)
    (hlive : gui.renderingPaused = false) (turn : ℕ) (locals : DrainLocals)
    (alerts : List TraceGlassEvent) (list : ListControl) :
    Grows w gui (addAlerts w env turn (gui, locals) alerts).1 list := by
  induction alerts generalizing turn gui locals with
  | nil => exact ⟨[], (List.append_nil _).symm, (List.append_nil _).symm⟩
  | cons alert alerts ih =>
    have hframe := @sameButStoreAndRows_addAcceptedEvent w env.ui (env.alloc turn) gui alert
    simp only [addAlerts]
    exact (grows_addAcceptedEvent hinsert hlive _ _ list).trans
      (ih (hframe.renderingPaused.trans hlive) _ _)

lemma grows_drainIteration {env : DrainEnv} (hinsert : InsertsRows env.ui)
    (hlive : gui.renderingPaused = false) (locals : DrainLocals) (event : TraceGlassEvent)
    (list : ListControl) : Grows w gui (drainIteration w env gui locals event).1 list := by
  have hframe := @sameButStoreAndRows_addAcceptedEvent w env.ui (env.alloc 0) gui event
  have hgrows := @grows_addAcceptedEvent w gui env.ui hinsert hlive (env.alloc 0) event list
  simp only [drainIteration]
  split
  · exact hgrows
  · exact hgrows.trans (grows_addAlerts hinsert (hframe.renderingPaused.trans hlive) _ _ _ list)

/-- **The drain loop while rendering is not paused.** -/
theorem grows_drainLoop {batch : List (DrainEnv × TraceGlassEvent)}
    (hinsert : ∀ popped ∈ batch, InsertsRows popped.1.ui) (hlive : gui.renderingPaused = false)
    (locals : DrainLocals) (list : ListControl) :
    Grows w gui (drainLoop w (gui, locals) batch).1 list := by
  induction batch generalizing gui locals with
  | nil => exact ⟨[], (List.append_nil _).symm, (List.append_nil _).symm⟩
  | cons popped batch ih =>
    have hframe := @sameButStoreAndRows_drainIteration w popped.1 gui locals popped.2
    rw [drainLoop_cons]
    exact (grows_drainIteration (hinsert popped (by simp)) hlive _ _ list).trans
      (ih (fun p hp => hinsert p (List.mem_cons_of_mem _ hp))
        (hframe.renderingPaused.trans hlive) _)

lemma rows_addAlerts_paused {env : DrainEnv} (hpaused : gui.renderingPaused = true) (turn : ℕ)
    (locals : DrainLocals) (alerts : List TraceGlassEvent) :
    (addAlerts w env turn (gui, locals) alerts).1.rows = gui.rows := by
  induction alerts generalizing turn gui locals with
  | nil => rfl
  | cons alert alerts ih =>
    have hframe := @sameButStoreAndRows_addAcceptedEvent w env.ui (env.alloc turn) gui alert
    simp only [addAlerts]
    rw [ih (hframe.renderingPaused.trans hpaused), rows_addAcceptedEvent_paused hpaused]

/-- **The drain loop while it is paused.** -/
theorem rows_drainLoop_paused (hpaused : gui.renderingPaused = true) (locals : DrainLocals)
    (batch : List (DrainEnv × TraceGlassEvent)) :
    (drainLoop w (gui, locals) batch).1.rows = gui.rows := by
  induction batch generalizing gui locals with
  | nil => rfl
  | cons popped batch ih =>
    have hframe := @sameButStoreAndRows_drainIteration w popped.1 gui locals popped.2
    have hadded := @sameButStoreAndRows_addAcceptedEvent w popped.1.ui (popped.1.alloc 0) gui
      popped.2
    have hrows : (drainIteration w popped.1 gui locals popped.2).1.rows = gui.rows := by
      simp only [drainIteration]
      split
      · exact rows_addAcceptedEvent_paused hpaused _ _
      · rw [rows_addAlerts_paused (hadded.renderingPaused.trans hpaused),
          rows_addAcceptedEvent_paused hpaused]
    rw [drainLoop_cons, ih (hframe.renderingPaused.trans hpaused), hrows]

/-- A drain that accepted nothing leaves the history alone. -/
lemma events_of_idle {batch : List (DrainEnv × TraceGlassEvent)} {state : GuiState × DrainLocals}
    (hidle : (drainLoop w state batch).2.anyAccepted = false) :
    state.2.anyAccepted = false ∧
      (drainLoop w state batch).1.store.events = state.1.store.events := by
  induction batch generalizing state with
  | nil => exact ⟨hidle, rfl⟩
  | cons popped batch ih =>
    rw [drainLoop_cons] at hidle ⊢
    obtain ⟨hnot, hevents⟩ := ih hidle
    rw [drainIteration_locals] at hnot
    split at hnot
    · cases hnot
    · next hrejected =>
      refine ⟨hnot, hevents.trans ?_⟩
      have hacc := @addAcceptedEvent_accepted w (popped.1.alloc 0) popped.1.ui state.1 popped.2
      have hstore := @addAcceptedEvent_store w (popped.1.alloc 0) popped.1.ui state.1 popped.2
      simp only [drainIteration, hacc, hrejected]
      simp only [Bool.not_false, if_true]
      rw [hstore]
      rcases eventStoreAdd_history (popped.1.alloc 0) state.1.store popped.2 with
        ⟨-, -, h, -⟩ | ⟨haccepted, -⟩
      · exact h
      · exact absurd haccepted hrejected

/-- Nor does it add a row. -/
lemma rows_of_idle {batch : List (DrainEnv × TraceGlassEvent)}
    (hinsert : ∀ popped ∈ batch, InsertsRows popped.1.ui) (hlive : gui.renderingPaused = false)
    (hidle : (drainLoop w (gui, beginDrain gui) batch).2.anyAccepted = false)
    (list : ListControl) :
    (drainLoop w (gui, beginDrain gui) batch).1.rows list = gui.rows list := by
  have hframe := @sameButStoreAndRows_drainLoop w (gui, beginDrain gui) batch
  have hevents := (events_of_idle hidle).2
  obtain ⟨tail, hrows, hselected⟩ := grows_drainLoop hinsert hlive (beginDrain gui) list
  rw [selected_of_idle hframe.toSameSettings hevents] at hselected
  rw [hrows, List.self_eq_append_right.mp hselected, List.append_nil]

end

end TraceGlass
