import TraceGlass.App.Model

/-!
# Runs of the window

Seen from the window's thread nothing comes between the turns of a drain, so `GuiAction` takes the
whole of `drain_events`, on the batch of events it pops, as one action beside the messages of the
user and of the timer.  `gui_of_appRun` says that this is what the running application does:
whenever its thread is back in the message loop, the window is one a run of such actions leads to.

`SameButRows` and `SameButStoreAndRows` are the frames of the functions below `drain_events`: they
touch the tables' rows, and the store, and nothing else of the window.  A message of the user sets
fields that `GuiState.entered`, `GuiState.clicked` and `GuiState.atFloor` name, and rows beyond
that.
-/

namespace TraceGlass

open SortedArray

/-! ## Actions -/

/-- What the window's thread does with one message. -/
inductive GuiAction
  /-- `drain_events`, which pops these events. -/
  | drain (batch : List (DrainEnv × TraceGlassEvent)) (env : UiEnv)
  | input (env : UiEnv) (input : UiInput)

/-- The loop of `drain_events`, on the events it pops. -/
def drainLoop (w : Win32) (state : GuiState × DrainLocals)
    (batch : List (DrainEnv × TraceGlassEvent)) : GuiState × DrainLocals :=
  batch.foldl (fun state popped => drainIteration w popped.1 state.1 state.2 popped.2) state

/-- `drain_events`. -/
def drainEvents (w : Win32) (sorter : CompareSort ℕ) (env : UiEnv) (gui : GuiState)
    (batch : List (DrainEnv × TraceGlassEvent)) : GuiState :=
  let drained := drainLoop w (gui, beginDrain gui) batch
  finishDrain w sorter env drained.1 drained.2

/-- One action. -/
def guiStep (w : Win32) (sorter : CompareSort ℕ) (gui : GuiState) : GuiAction → GuiState
  | .drain batch env => drainEvents w sorter env gui batch
  | .input env input => uiStep w sorter env gui input

/-- The window after these actions. -/
def guiRun (w : Win32) (sorter : CompareSort ℕ) (actions : List GuiAction) : GuiState :=
  actions.foldl (guiStep w sorter) .created

/-- The events an action drains. -/
def GuiAction.drained : GuiAction → List TraceGlassEvent
  | .drain batch _ => batch.map Prod.snd
  | .input _ _ => []

/-- The events drained in a run. -/
def drainedBy (actions : List GuiAction) : List TraceGlassEvent := actions.flatMap GuiAction.drained

/-- A drain of one event. -/
def drainOne (event : TraceGlassEvent) : GuiAction := .drain [(.succeed, event)] .succeed

variable {w : Win32} {sorter : CompareSort ℕ}

lemma guiRun_snoc (actions : List GuiAction) (action : GuiAction) :
    guiRun w sorter (actions ++ [action]) = guiStep w sorter (guiRun w sorter actions) action := by
  simp [guiRun]

lemma guiRun_append (actions actions' : List GuiAction) :
    guiRun w sorter (actions ++ actions') =
      actions'.foldl (guiStep w sorter) (guiRun w sorter actions) :=
  List.foldl_append

lemma drainLoop_cons (state : GuiState × DrainLocals) (popped : DrainEnv × TraceGlassEvent)
    (batch : List (DrainEnv × TraceGlassEvent)) :
    drainLoop w state (popped :: batch) =
      drainLoop w (drainIteration w popped.1 state.1 state.2 popped.2) batch := rfl

lemma drainLoop_snoc (state : GuiState × DrainLocals)
    (batch : List (DrainEnv × TraceGlassEvent)) (popped : DrainEnv × TraceGlassEvent) :
    drainLoop w state (batch ++ [popped]) =
      drainIteration w popped.1 (drainLoop w state batch).1 (drainLoop w state batch).2
        popped.2 := by
  simp [drainLoop]

/-! ## The running application -/

/-- The window of the application, where its thread is, as a run of whole actions. -/
def Follows (w : Win32) (sorter : CompareSort ℕ) (app : App) : Prop :=
  ∃ actions, match app.thread with
    | .idle => app.gui = guiRun w sorter actions
    | .draining locals | .finishing locals =>
        ∃ batch, (app.gui, locals) =
          drainLoop w (guiRun w sorter actions, beginDrain (guiRun w sorter actions)) batch

/-- A step of any thread keeps the window on a run. -/
lemma Follows.step {app app' : App} {action : AppAction} (h : Follows w sorter app)
    (hstep : appStep w sorter app action = some app') : Follows w sorter app' := by
  obtain ⟨actions, h⟩ := h
  cases stepped hstep with
  | pushed | posted | windowSet => exact ⟨actions, h⟩
  | refused => exact ⟨actions, h⟩
  | @taken message posted hidle =>
    rw [hidle] at h
    refine ⟨actions, ?_⟩
    by_cases hready : message = eventsReadyMessage
    · simp only [if_pos hready]
      exact ⟨[], by rw [h]; rfl⟩
    · simp only [if_neg hready]
      exact h
  | @popped env locals event queue hdraining =>
    rw [hdraining] at h
    obtain ⟨batch, hbatch⟩ := h
    refine ⟨actions, batch ++ [(env, event)], ?_⟩
    rw [drainLoop_snoc, ← hbatch]
  | exhausted hdraining =>
    rw [hdraining] at h
    exact ⟨actions, h⟩
  | @finished env locals hfinishing =>
    rw [hfinishing] at h
    obtain ⟨batch, hbatch⟩ := h
    refine ⟨actions ++ [.drain batch env], ?_⟩
    rw [guiRun_snoc, guiStep, drainEvents, ← hbatch]
  | @handled env input hidle =>
    rw [hidle] at h
    refine ⟨actions ++ [.input env input], ?_⟩
    simp only [hidle]
    rw [guiRun_snoc, guiStep, h]

/-- **The window of the running application is that of a run of whole actions**, however the threads
interleave. -/
theorem gui_of_appRun {window : HWND} {producerCount : ℕ} {actions : List AppAction} {app : App}
    (hrun : Machine.run (appStep w sorter) (App.created window producerCount) actions = some app)
    (hidle : app.thread = .idle) : ∃ guiActions, app.gui = guiRun w sorter guiActions := by
  have hfollows : Follows w sorter app :=
    Machine.run_kept hrun ⟨[], rfl⟩ fun _ _ _ hs hstep => hs.step hstep
  obtain ⟨guiActions, h⟩ := hfollows
  rw [hidle] at h
  exact ⟨guiActions, h⟩

/-! ## The end of a drain and of a rebuild -/

/-- The three calls of `sort_view`. -/
def sortTables (w : Win32) (sorter : CompareSort ℕ) (gui : GuiState) (force : Bool) : GuiState :=
  sortView w sorter (sortView w sorter (sortView w sorter gui .timeline force) .network force)
    .alerts force

/-- The three tables without rows. -/
def clearTables (gui : GuiState) : GuiState :=
  ((gui.setRows .timeline []).setRows .network []).setRows .alerts []

lemma rebuildEventLists_eq (env : UiEnv) (gui : GuiState) :
    rebuildEventLists w sorter env gui =
      sortTables w sorter ((List.range gui.store.eventCount).foldl (addEventRows w env)
        (clearTables gui)) true := rfl

lemma finishDrain_idle {env : UiEnv} {gui : GuiState} {locals : DrainLocals}
    (haccepted : locals.anyAccepted = false) : finishDrain w sorter env gui locals = gui := by
  simp [finishDrain, haccepted]

lemma finishDrain_paused {env : UiEnv} {gui : GuiState} {locals : DrainLocals}
    (haccepted : locals.anyAccepted = true) (hpaused : gui.renderingPaused = true) :
    finishDrain w sorter env gui locals = { gui with renderDirty := true } := by
  simp [finishDrain, haccepted, hpaused]

lemma finishDrain_live {env : UiEnv} {gui : GuiState} {locals : DrainLocals}
    (haccepted : locals.anyAccepted = true) (hlive : gui.renderingPaused = false) :
    finishDrain w sorter env gui locals =
      sortTables w sorter (rebuildOverviewLists w env
        (if locals.treeChanged then rebuildProcessTree env gui else gui))
        (decide (locals.countBefore = 0)) := by
  simp only [finishDrain, haccepted, hlive]
  rfl

/-! ## Frames -/

/-- What the user and the timer have set is the same. -/
structure SameSettings (gui after : GuiState) : Prop where
  sortStates : after.sortStates = gui.sortStates
  viewFloor : after.viewFloor = gui.viewFloor
  searchText : after.searchText = gui.searchText
  eventFilter : after.eventFilter = gui.eventFilter
  navigation : after.navigation = gui.navigation
  renderingPaused : after.renderingPaused = gui.renderingPaused
  filterTimerActive : after.filterTimerActive = gui.filterTimerActive

/-- The windows may differ in the store and in the rows of the tables only. -/
structure SameButStoreAndRows (gui after : GuiState) : Prop extends SameSettings gui after where
  processTree : after.processTree = gui.processTree
  renderDirty : after.renderDirty = gui.renderDirty

/-- They may differ in the rows of the tables only. -/
structure SameButRows (gui after : GuiState) : Prop extends SameButStoreAndRows gui after where
  store : after.store = gui.store

section
variable {env : UiEnv} {gui after last : GuiState}

lemma SameSettings.trans (h : SameSettings gui after) (h' : SameSettings after last) :
    SameSettings gui last where
  sortStates := h'.sortStates.trans h.sortStates
  viewFloor := h'.viewFloor.trans h.viewFloor
  searchText := h'.searchText.trans h.searchText
  eventFilter := h'.eventFilter.trans h.eventFilter
  navigation := h'.navigation.trans h.navigation
  renderingPaused := h'.renderingPaused.trans h.renderingPaused
  filterTimerActive := h'.filterTimerActive.trans h.filterTimerActive

lemma SameButStoreAndRows.of_update (gui : GuiState) (store : EventStore)
    (rows : ListControl → List ℕ) :
    SameButStoreAndRows gui { gui with store := store, rows := rows } :=
  ⟨⟨rfl, rfl, rfl, rfl, rfl, rfl, rfl⟩, rfl, rfl⟩

lemma SameButStoreAndRows.trans (h : SameButStoreAndRows gui after)
    (h' : SameButStoreAndRows after last) : SameButStoreAndRows gui last :=
  ⟨h.toSameSettings.trans h'.toSameSettings, h'.processTree.trans h.processTree,
    h'.renderDirty.trans h.renderDirty⟩

lemma SameButRows.of_update (gui : GuiState) (rows : ListControl → List ℕ) :
    SameButRows gui { gui with rows := rows } :=
  ⟨.of_update gui gui.store rows, rfl⟩

lemma SameButRows.refl (gui : GuiState) : SameButRows gui gui := .of_update gui gui.rows

lemma SameButRows.trans (h : SameButRows gui after) (h' : SameButRows after last) :
    SameButRows gui last :=
  ⟨h.toSameButStoreAndRows.trans h'.toSameButStoreAndRows, h'.store.trans h.store⟩

lemma sameButRows_insertListItem (gui : GuiState) (list : ListControl) (index : ℕ) :
    SameButRows gui (insertListItem env gui list index) := by
  unfold insertListItem
  split
  · exact .of_update _ _
  · exact .refl _

lemma sameButRows_addEventRows (gui : GuiState) (index : ℕ) :
    SameButRows gui (addEventRows w env gui index) := by
  have htimeline : ∀ gui, SameButRows gui (addTimelineRow w env gui index) := by
    intro gui
    unfold addTimelineRow
    split
    · exact .refl _
    · exact sameButRows_insertListItem _ _ _
  have hnetwork : ∀ gui, SameButRows gui (addNetworkRow w env gui index) := by
    intro gui
    unfold addNetworkRow
    split
    · exact .refl _
    · exact sameButRows_insertListItem _ _ _
  have halerts : ∀ gui, SameButRows gui (addAlertRow w env gui index) := by
    intro gui
    unfold addAlertRow
    split
    · exact .refl _
    · exact sameButRows_insertListItem _ _ _
  have hfirst : SameButRows gui
      (if index ≥ gui.viewFloor .timeline then addTimelineRow w env gui index else gui) := by
    split
    · exact htimeline gui
    · exact .refl _
  have hsecond : ∀ gui, SameButRows gui
      (if (gui.event index).type = .network ∧ index ≥ gui.viewFloor .network then
        addNetworkRow w env gui index
      else if (gui.event index).type = .alert ∧ index ≥ gui.viewFloor .alerts then
        addAlertRow w env gui index
      else gui) := by
    intro gui
    split
    · exact hnetwork gui
    · split
      · exact halerts gui
      · exact .refl _
  exact hfirst.trans (hsecond _)

lemma sameButRows_sortView (gui : GuiState) (view : GuiView) (forceDefault : Bool) :
    SameButRows gui (sortView w sorter gui view forceDefault) := by
  unfold sortView
  split
  · exact .refl _
  · simp only []
    split
    · exact .refl _
    · exact .of_update _ _

lemma sameButRows_sortTables (gui : GuiState) (force : Bool) :
    SameButRows gui (sortTables w sorter gui force) :=
  ((sameButRows_sortView _ _ _).trans (sameButRows_sortView _ _ _)).trans
    (sameButRows_sortView _ _ _)

lemma sameButRows_addRange (indices : List ℕ) (gui : GuiState) :
    SameButRows gui (indices.foldl (addEventRows w env) gui) := by
  induction indices generalizing gui with
  | nil => exact .refl _
  | cons index indices ih => exact (sameButRows_addEventRows gui index).trans (ih _)

lemma sameButRows_rebuildEventLists (gui : GuiState) :
    SameButRows gui (rebuildEventLists w sorter env gui) := by
  rw [rebuildEventLists_eq]
  exact ((SameButRows.of_update gui _).trans (sameButRows_addRange _ _)).trans
    (sameButRows_sortTables _ _)

lemma sameButRows_rebuildOverviewLists (gui : GuiState) :
    SameButRows gui (rebuildOverviewLists w env gui) := .of_update _ _

lemma sameButStoreAndRows_addAcceptedEvent (alloc : ReallocOutcome) (gui : GuiState)
    (event : TraceGlassEvent) :
    SameButStoreAndRows gui (addAcceptedEvent w alloc env gui event).2.2 := by
  have hstore : SameButStoreAndRows gui
      { gui with store := (eventStoreAdd alloc gui.store event).store } := .of_update _ _ gui.rows
  simp only [addAcceptedEvent]
  split
  · exact hstore
  · split
    · exact hstore
    · refine hstore.trans ?_
      simp only []
      split
      · exact (sameButRows_addEventRows _ _).toSameButStoreAndRows
      · exact (SameButRows.refl _).toSameButStoreAndRows

end

lemma sameButStoreAndRows_addAlerts {env : DrainEnv} (turn : ℕ) (gui : GuiState)
    (locals : DrainLocals) (alerts : List TraceGlassEvent) :
    SameButStoreAndRows gui (addAlerts w env turn (gui, locals) alerts).1 := by
  induction alerts generalizing turn gui locals with
  | nil => exact (SameButRows.refl gui).toSameButStoreAndRows
  | cons alert alerts ih =>
    simp only [addAlerts]
    exact (sameButStoreAndRows_addAcceptedEvent _ _ _).trans (ih _ _ _)

lemma sameButStoreAndRows_drainIteration {env : DrainEnv} (gui : GuiState) (locals : DrainLocals)
    (event : TraceGlassEvent) :
    SameButStoreAndRows gui (drainIteration w env gui locals event).1 := by
  have hadded := @sameButStoreAndRows_addAcceptedEvent w env.ui (env.alloc 0) gui event
  simp only [drainIteration]
  split
  · exact hadded
  · exact hadded.trans (sameButStoreAndRows_addAlerts _ _ _ _)

/-- **The drain loop touches the store and the rows alone.** -/
lemma sameButStoreAndRows_drainLoop (state : GuiState × DrainLocals)
    (batch : List (DrainEnv × TraceGlassEvent)) :
    SameButStoreAndRows state.1 (drainLoop w state batch).1 := by
  induction batch generalizing state with
  | nil => exact (SameButRows.refl state.1).toSameButStoreAndRows
  | cons popped batch ih =>
    rw [drainLoop_cons]
    exact (sameButStoreAndRows_drainIteration _ _ _).trans (ih _)

/-- **A drain changes no setting**, and makes a view dirty where it is paused. -/
lemma sameSettings_drainEvents (env : UiEnv) (gui : GuiState)
    (batch : List (DrainEnv × TraceGlassEvent)) :
    SameSettings gui (drainEvents w sorter env gui batch) ∧
      (drainEvents w sorter env gui batch).renderDirty = (gui.renderDirty ||
        (gui.renderingPaused && (drainLoop w (gui, beginDrain gui) batch).2.anyAccepted)) := by
  have hframe := @sameButStoreAndRows_drainLoop w (gui, beginDrain gui) batch
  rw [drainEvents]
  generalize drainLoop w (gui, beginDrain gui) batch = drained at hframe
  cases haccepted : drained.2.anyAccepted with
  | false =>
    rw [finishDrain_idle haccepted, Bool.and_false, Bool.or_false]
    exact ⟨hframe.toSameSettings, hframe.renderDirty⟩
  | true =>
    cases hpaused : gui.renderingPaused with
    | true =>
      rw [finishDrain_paused haccepted (hframe.renderingPaused.trans hpaused), Bool.and_true,
        Bool.or_true]
      exact ⟨⟨hframe.sortStates, hframe.viewFloor, hframe.searchText, hframe.eventFilter,
        hframe.navigation, hframe.renderingPaused, hframe.filterTimerActive⟩, rfl⟩
    | false =>
      have htree : SameSettings drained.1
          (if drained.2.treeChanged then rebuildProcessTree env drained.1 else drained.1) ∧
          (if drained.2.treeChanged then rebuildProcessTree env drained.1
            else drained.1).renderDirty = drained.1.renderDirty := by
        cases drained.2.treeChanged <;> exact ⟨⟨rfl, rfl, rfl, rfl, rfl, rfl, rfl⟩, rfl⟩
      have hlast := (@sameButRows_rebuildOverviewLists w env
        (if drained.2.treeChanged then rebuildProcessTree env drained.1 else drained.1)).trans
          (@sameButRows_sortTables w sorter _ (decide (drained.2.countBefore = 0)))
      rw [finishDrain_live haccepted (hframe.renderingPaused.trans hpaused), Bool.false_and,
        Bool.or_false]
      exact ⟨(hframe.toSameSettings.trans htree.1).trans hlast.toSameSettings,
        hlast.renderDirty.trans (htree.2.trans hframe.renderDirty)⟩

/-- The filters are applied to the rows, or deferred. -/
lemma sameButRows_rebuildFilteredViews {env : UiEnv} (gui : GuiState) :
    SameButRows { gui with renderDirty := gui.renderDirty || gui.renderingPaused }
      (rebuildFilteredViews w sorter env gui) := by
  unfold rebuildFilteredViews
  cases hpaused : gui.renderingPaused with
  | true =>
    rw [if_pos rfl, Bool.or_true, ← hpaused]
    exact .refl _
  | false =>
    rw [if_neg Bool.false_ne_true, Bool.or_false, ← hpaused]
    exact (sameButRows_rebuildEventLists gui).trans (sameButRows_rebuildOverviewLists _)

/-- The window with the floor of a view at the end of the history. -/
def GuiState.atFloor (gui : GuiState) (cleared : GuiView) : GuiState :=
  { gui with viewFloor := Function.update gui.viewFloor cleared gui.store.eventCount }

/-- **Clear View** moves a floor, and the rest is rows. -/
lemma sameButRows_clearCurrentView (gui : GuiState) :
    SameButRows (if currentView gui = .processes then gui else gui.atFloor (currentView gui))
      (clearCurrentView gui) := by
  simp only [clearCurrentView]
  split
  · exact .refl _
  · cases currentView gui <;> exact .of_update _ _

lemma flags_clearCurrentView (gui : GuiState) :
    (clearCurrentView gui).renderDirty = gui.renderDirty ∧
      (clearCurrentView gui).renderingPaused = gui.renderingPaused ∧
      (clearCurrentView gui).filterTimerActive = gui.filterTimerActive := by
  have hframe := sameButRows_clearCurrentView gui
  rw [hframe.renderDirty, hframe.renderingPaused, hframe.filterTimerActive]
  split <;> exact ⟨rfl, rfl, rfl⟩

/-- The view whose table the list control is. -/
def ListControl.view : ListControl → Option GuiView
  | .network => some .network
  | .timeline => some .timeline
  | .alerts => some .alerts
  | .recent => none
  | .recentAlerts => none

/-- What a click makes of a sort state. -/
def SortState.clicked (sort : SortState) (column : ℤ) : SortState :=
  if sort.active ∧ sort.column = column then { sort with ascending := !sort.ascending }
  else { sort with column := column, ascending := true, active := true }

/-- The window with the column of a view clicked, before the table is sorted. -/
def GuiState.clicked (gui : GuiState) (view : GuiView) (column : ℤ) : GuiState :=
  { gui with
    sortStates := Function.update gui.sortStates view ((gui.sortStates view).clicked column) }

/-- **A column click** changes a sort state and sorts its table. -/
lemma handleColumnClick_eq (gui : GuiState) (list : ListControl) (column : ℤ) :
    handleColumnClick w sorter gui list column = match list.view with
      | some view => sortView w sorter (gui.clicked view column) view false
      | none => gui := by
  cases list <;> rfl

lemma sameButRows_handleColumnClick (gui : GuiState) (list : ListControl) (column : ℤ) :
    SameButRows (match list.view with
      | some view => gui.clicked view column
      | none => gui) (handleColumnClick w sorter gui list column) := by
  rw [handleColumnClick_eq]
  cases list.view with
  | none => exact .refl _
  | some view => exact sameButRows_sortView _ _ _

lemma flags_handleColumnClick (gui : GuiState) (list : ListControl) (column : ℤ) :
    (handleColumnClick w sorter gui list column).renderDirty = gui.renderDirty ∧
      (handleColumnClick w sorter gui list column).renderingPaused = gui.renderingPaused ∧
      (handleColumnClick w sorter gui list column).filterTimerActive = gui.filterTimerActive := by
  have hframe := @sameButRows_handleColumnClick w sorter gui list column
  rw [hframe.renderDirty, hframe.renderingPaused, hframe.filterTimerActive]
  cases list.view <;> exact ⟨rfl, rfl, rfl⟩

/-- What a message of the user or of the timer changes besides rows. -/
def GuiState.entered (env : UiEnv) (gui : GuiState) : UiInput → GuiState
  | .filterTimer =>
      { gui with
        filterTimerActive := false
        renderDirty := gui.renderDirty || gui.renderingPaused }
  | .searchChanged text => { gui with searchText := text, filterTimerActive := true }
  | .filterSelected selected =>
      { gui with
        eventFilter := selected
        renderDirty := gui.renderDirty || gui.renderingPaused }
  | .pauseClicked =>
      if gui.renderingPaused && gui.renderDirty then
        { rebuildProcessTree env gui with renderingPaused := false, renderDirty := false }
      else { gui with renderingPaused := !gui.renderingPaused }
  | .clearClicked =>
      if currentView gui = .processes then gui else gui.atFloor (currentView gui)
  | .tabSelected tab => { gui with navigation := tab }
  | .columnClicked list column =>
      match list.view with
      | some view => gui.clicked view column
      | none => gui

lemma sameButRows_togglePause {env : UiEnv} (gui : GuiState) :
    SameButRows (gui.entered env .pauseClicked) (togglePause w sorter env gui) := by
  have hlists := @sameButRows_rebuildEventLists w sorter env
    { gui with renderingPaused := !gui.renderingPaused }
  simp only [togglePause, GuiState.entered, Bool.not_not]
  by_cases hresume : (gui.renderingPaused && gui.renderDirty) = true
  · have hpaused := (Bool.and_eq_true_iff.mp hresume).1
    rw [if_pos hresume, if_pos hresume]
    refine ⟨⟨⟨hlists.sortStates, hlists.viewFloor, hlists.searchText, hlists.eventFilter,
      hlists.navigation, hlists.renderingPaused.trans ?_, hlists.filterTimerActive⟩, ?_, rfl⟩,
      hlists.store⟩
    · simp only [hpaused, Bool.not_true]
    · exact congrArg (rebuiltProcessTree env.calloc env.insertNode) hlists.store
  · rw [if_neg hresume, if_neg hresume]
    exact .refl _

/-- **One message**, but for the rows. -/
theorem sameButRows_uiStep {env : UiEnv} (gui : GuiState) (input : UiInput) :
    SameButRows (gui.entered env input) (uiStep w sorter env gui input) := by
  cases input with
  | filterTimer => exact sameButRows_rebuildFilteredViews { gui with filterTimerActive := false }
  | filterSelected selected =>
    exact sameButRows_rebuildFilteredViews { gui with eventFilter := selected }
  | pauseClicked => exact sameButRows_togglePause gui
  | searchChanged | tabSelected => exact .refl _
  | clearClicked => exact sameButRows_clearCurrentView gui
  | columnClicked list column => exact sameButRows_handleColumnClick gui list column

/-! ## The locals of the drain -/

/-- An event that makes `drain_events` rebuild the process tree, where it is accepted. -/
def ChangesTree (event : TraceGlassEvent) : Prop :=
  event.type = .processStart ∨ event.type = .processStop

instance (event : TraceGlassEvent) : Decidable (ChangesTree event) :=
  inferInstanceAs (Decidable (_ ∨ _))

section
variable {env : DrainEnv}

/-- The alert loop changes no local any more: the event the alerts are of was accepted. -/
lemma addAlerts_locals (turn : ℕ) (gui : GuiState) {locals : DrainLocals}
    (haccepted : locals.anyAccepted = true) (alerts : List TraceGlassEvent) :
    (addAlerts w env turn (gui, locals) alerts).2 = locals := by
  induction alerts generalizing turn gui with
  | nil => rfl
  | cons alert alerts ih =>
    have hsame : (if (addAcceptedEvent w (env.alloc turn) env.ui gui alert).1 = true then
        { locals with anyAccepted := true } else locals) = locals := by
      rw [← haccepted]
      exact ite_self _
    simp only [addAlerts]
    rw [hsame]
    exact ih _ _

lemma drainIteration_locals (gui : GuiState) (locals : DrainLocals) (event : TraceGlassEvent) :
    (drainIteration w env gui locals event).2 =
      if (eventStoreAdd (env.alloc 0) gui.store event).accepted then
        { locals with
          treeChanged := locals.treeChanged || decide (ChangesTree event)
          anyAccepted := true }
      else locals := by
  have haccepted := addAcceptedEvent_accepted (w := w) (env.alloc 0) env.ui gui event
  have hevent := addAcceptedEvent_event (w := w) (env.alloc 0) env.ui gui event
  have htype : (eventStoreAdd (env.alloc 0) gui.store event).event.type = event.type := by
    rcases eventStoreAdd_history (env.alloc 0) gui.store event with ⟨-, h, -⟩ | ⟨-, -, h, -⟩ <;>
      rw [h]
    rfl
  simp only [drainIteration, haccepted, hevent, htype]
  cases (eventStoreAdd (env.alloc 0) gui.store event).accepted with
  | false => rfl
  | true =>
    simp only [Bool.not_true, Bool.false_eq_true, if_false, if_true]
    split
    · next hchanges =>
      rw [addAlerts_locals _ _ rfl, decide_eq_true (show ChangesTree event from hchanges),
        Bool.or_true]
    · next hchanges =>
      rw [addAlerts_locals _ _ rfl, decide_eq_false (show ¬ ChangesTree event from hchanges),
        Bool.or_false]

end

/-- What the locals say of the accepted events after the loop. -/
lemma drainLoop_locals {batch : List (DrainEnv × TraceGlassEvent)}
    (halloc : ∀ popped ∈ batch, ∀ turn, popped.1.alloc turn = .succeed)
    (state : GuiState × DrainLocals) :
    (drainLoop w state batch).1.store = session w state.1.store (batch.map Prod.snd) ∧
    ((drainLoop w state batch).2.treeChanged = false →
      state.2.treeChanged = false ∧
        ∀ e ∈ acceptedEvents w state.1.store (batch.map Prod.snd), ¬ ChangesTree e) ∧
    ((drainLoop w state batch).2.anyAccepted = false →
      state.2.anyAccepted = false ∧ acceptedEvents w state.1.store (batch.map Prod.snd) = []) := by
  induction batch generalizing state with
  | nil => simp [drainLoop, session, acceptedEvents]
  | cons popped batch ih =>
    have hhere := halloc popped (by simp)
    have hstore := drainIteration_store (w := w) hhere state.1 state.2 popped.2
    have hlocals := @drainIteration_locals w popped.1 state.1 state.2 popped.2
    obtain ⟨hsession, htree, hany⟩ := ih (fun p hp => halloc p (List.mem_cons_of_mem _ hp))
      (drainIteration w popped.1 state.1 state.2 popped.2)
    rw [hstore] at hsession htree hany
    rw [hlocals, hhere] at htree hany
    rw [drainLoop_cons, List.map_cons]
    refine ⟨hsession, fun hfalse => ?_, fun hfalse => ?_⟩
    · obtain ⟨hbefore, hrest⟩ := htree hfalse
      simp only [acceptedEvents]
      split at hbefore
      · next haccepted =>
        rw [Bool.or_eq_false_iff, decide_eq_false_iff_not] at hbefore
        rw [if_pos haccepted]
        exact ⟨hbefore.1, List.forall_mem_cons.mpr ⟨hbefore.2, hrest⟩⟩
      · next haccepted =>
        rw [if_neg haccepted]
        exact ⟨hbefore, hrest⟩
    · obtain ⟨hbefore, hrest⟩ := hany hfalse
      simp only [acceptedEvents]
      split at hbefore
      · cases hbefore
      · next haccepted =>
        rw [if_neg haccepted]
        exact ⟨hbefore, hrest⟩

/-! ## The store along a run -/

/-- Additions of the events that are `ok` keep this of the store, and so do those of the alerts. -/
structure KeptByDrains (w : Win32) (ok : TraceGlassEvent → Prop) (P : EventStore → Prop) :
    Prop where
  add : ∀ alloc store event, ok event → P store → P (eventStoreAdd alloc store event).store
  stamp : ∀ store event, ok event → ok (stamped store event)
  alert : ∀ event, ok event → ∀ a ∈ detectionEvaluate w event maxAlertsPerEvent, ok a

namespace KeptByDrains

variable {ok : TraceGlassEvent → Prop} {P : EventStore → Prop}

/-- Nothing need be known of the events. -/
lemma of_add (h : ∀ alloc store event, P store → P (eventStoreAdd alloc store event).store) :
    KeptByDrains w (fun _ => True) P :=
  ⟨fun alloc store event _ => h alloc store event, fun _ _ _ => trivial, fun _ _ _ _ => trivial⟩

lemma addAlerts (h : KeptByDrains w ok P) {env : DrainEnv} {turn : ℕ} {gui : GuiState}
    {locals : DrainLocals} {alerts : List TraceGlassEvent} (halerts : ∀ a ∈ alerts, ok a)
    (hgui : P gui.store) : P (addAlerts w env turn (gui, locals) alerts).1.store := by
  induction alerts generalizing turn gui locals with
  | nil => exact hgui
  | cons alert alerts ih =>
    obtain ⟨halert, hrest⟩ := List.forall_mem_cons.mp halerts
    have hadded := h.add (env.alloc turn) gui.store alert halert hgui
    rw [← addAcceptedEvent_store (w := w) _ env.ui] at hadded
    exact ih hrest hadded

lemma drainIteration (h : KeptByDrains w ok P) {env : DrainEnv} {gui : GuiState}
    {locals : DrainLocals} {event : TraceGlassEvent} (hevent : ok event) (hgui : P gui.store) :
    P (drainIteration w env gui locals event).1.store := by
  have hadded := h.add (env.alloc 0) gui.store event hevent hgui
  have haccepted := addAcceptedEvent_accepted (w := w) (env.alloc 0) env.ui gui event
  have hstamped := addAcceptedEvent_event (w := w) (env.alloc 0) env.ui gui event
  rw [← addAcceptedEvent_store (w := w) _ env.ui] at hadded
  simp only [TraceGlass.drainIteration]
  split
  · exact hadded
  · next hnot =>
    refine h.addAlerts (fun a ha => ?_) hadded
    rw [hstamped] at ha
    rcases eventStoreAdd_history (env.alloc 0) gui.store event with
      ⟨hrejected, -⟩ | ⟨-, -, heq, -⟩
    · simp [haccepted, hrejected] at hnot
    · rw [heq] at ha
      exact h.alert _ (h.stamp _ _ hevent) a ha

lemma drainLoop (h : KeptByDrains w ok P) {batch : List (DrainEnv × TraceGlassEvent)}
    (hbatch : ∀ e ∈ batch.map Prod.snd, ok e) {state : GuiState × DrainLocals}
    (hstate : P state.1.store) : P (drainLoop w state batch).1.store := by
  induction batch generalizing state with
  | nil => exact hstate
  | cons popped batch ih =>
    obtain ⟨hfirst, hrest⟩ := List.forall_mem_cons.mp hbatch
    exact ih hrest (h.drainIteration hfirst hstate)

lemma guiStep (h : KeptByDrains w ok P) {action : GuiAction} (haction : ∀ e ∈ action.drained, ok e)
    {gui : GuiState} (hgui : P gui.store) : P (guiStep w sorter gui action).store := by
  cases action with
  | drain batch env =>
    rw [TraceGlass.guiStep, drainEvents, finishDrain_store]
    exact h.drainLoop haction hgui
  | input env input =>
    rw [TraceGlass.guiStep, uiStep_store]
    exact hgui

/-- **What the drained events' additions keep holds of the store of every run.** -/
theorem guiRun (h : KeptByDrains w ok P) {actions : List GuiAction}
    (hactions : ∀ e ∈ drainedBy actions, ok e) (hinit : P eventStoreInitialize) :
    P (guiRun w sorter actions).store := by
  refine List.foldlRecOn (motive := fun gui => P gui.store) actions (TraceGlass.guiStep w sorter)
    (b := .created) hinit fun gui hgui action haction => ?_
  exact h.guiStep (fun e he => hactions e (List.mem_flatMap_of_mem haction he)) hgui

end KeptByDrains

lemma reachable_guiRun (actions : List GuiAction) : Reachable (guiRun w sorter actions).store :=
  (KeptByDrains.of_add fun alloc _ event h => h.add alloc event).guiRun (fun _ _ => trivial)
    reachable_eventStoreInitialize

/-- The history only grows. -/
lemma keptByDrains_history (events : List TraceGlassEvent) :
    KeptByDrains w (fun _ => True) fun store => events <+: store.events := by
  refine .of_add fun alloc store event h => ?_
  rcases eventStoreAdd_history alloc store event with ⟨-, -, hevents, -⟩ | ⟨-, -, -, hevents, -⟩
  · rw [hevents]
    exact h
  · rw [hevents]
    exact h.trans (List.prefix_append _ _)

lemma prefix_drainLoop (state : GuiState × DrainLocals)
    (batch : List (DrainEnv × TraceGlassEvent)) :
    state.1.store.events <+: (drainLoop w state batch).1.store.events :=
  (keptByDrains_history _).drainLoop (fun _ _ => trivial) (List.prefix_refl _)

end TraceGlass
