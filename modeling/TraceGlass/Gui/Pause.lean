import TraceGlass.Gui.Contents

/-!
# A run with a pause beside the run without it

Pausing changes what is done to the tables and when, and nothing else: both runs have the same
history, floors, filters and sort states all the way (`Twins`), so they select the same rows, and
each holds its selection where nothing is deferred (`tracked_guiRun`).

What is left is the order of a table the user has not sorted.  While rendering goes on its rows are
appended as they come; where the pause has deferred something, Resume rebuilds the tables, and a
rebuilt table is in the default order, by time.
-/

namespace TraceGlass

open SortedArray Comparator

variable {w : Win32} {sorter : CompareSort ℕ}

/-! ## What pausing does not touch -/

/-- The windows agree on the history and on what the user and the timer have set, but for the
pause. -/
structure Twins (gui other : GuiState) : Prop where
  store : other.store = gui.store
  sortStates : other.sortStates = gui.sortStates
  viewFloor : other.viewFloor = gui.viewFloor
  searchText : other.searchText = gui.searchText
  eventFilter : other.eventFilter = gui.eventFilter
  navigation : other.navigation = gui.navigation
  filterTimerActive : other.filterTimerActive = gui.filterTimerActive

lemma Twins.refl (gui : GuiState) : Twins gui gui := ⟨rfl, rfl, rfl, rfl, rfl, rfl, rfl⟩

lemma Twins.trans {gui other last : GuiState} (h : Twins gui other) (h' : Twins other last) :
    Twins gui last where
  store := h'.store.trans h.store
  sortStates := h'.sortStates.trans h.sortStates
  viewFloor := h'.viewFloor.trans h.viewFloor
  searchText := h'.searchText.trans h.searchText
  eventFilter := h'.eventFilter.trans h.eventFilter
  navigation := h'.navigation.trans h.navigation
  filterTimerActive := h'.filterTimerActive.trans h.filterTimerActive

lemma SameSettings.twins {gui after : GuiState} (h : SameSettings gui after)
    (hstore : after.store = gui.store) : Twins gui after where
  store := hstore
  sortStates := h.sortStates
  viewFloor := h.viewFloor
  searchText := h.searchText
  eventFilter := h.eventFilter
  navigation := h.navigation
  filterTimerActive := h.filterTimerActive

section
variable {gui other after otherAfter : GuiState}

lemma Twins.symm (h : Twins gui other) : Twins other gui :=
  ⟨h.store.symm, h.sortStates.symm, h.viewFloor.symm, h.searchText.symm, h.eventFilter.symm,
    h.navigation.symm, h.filterTimerActive.symm⟩

/-- Twins show the same events. -/
lemma Twins.selected (h : Twins gui other) (list : ListControl) :
    selected w other list = TraceGlass.selected w gui list := by
  rw [TraceGlass.selected, TraceGlass.selected, h.store]
  refine List.filter_congr fun index _ => ?_
  exact @shows_congr w gui other index (by rw [GuiState.event, GuiState.event, h.store])
    h.viewFloor h.searchText h.eventFilter list

/-- And compare them alike. -/
lemma Twins.sortOf (h : Twins gui other) : other.sortOf = gui.sortOf := by
  funext view
  rw [GuiState.sortOf, GuiState.sortOf, h.sortStates]

lemma Twins.beginDrain (h : Twins gui other) : beginDrain other = beginDrain gui := by
  rw [TraceGlass.beginDrain, TraceGlass.beginDrain, h.store]

/-! ## One action on both -/

/-- What the drain does to the store and to its locals depends on the store alone. -/
lemma addAlerts_congr {env : DrainEnv} (hstore : other.store = gui.store) (turn : ℕ)
    (locals : DrainLocals) (alerts : List TraceGlassEvent) :
    (addAlerts w env turn (other, locals) alerts).1.store =
        (addAlerts w env turn (gui, locals) alerts).1.store ∧
      (addAlerts w env turn (other, locals) alerts).2 =
        (addAlerts w env turn (gui, locals) alerts).2 := by
  induction alerts generalizing gui other turn locals with
  | nil => exact ⟨hstore, rfl⟩
  | cons alert alerts ih =>
    have hadded : (addAcceptedEvent w (env.alloc turn) env.ui other alert).2.2.store =
        (addAcceptedEvent w (env.alloc turn) env.ui gui alert).2.2.store := by
      rw [addAcceptedEvent_store, addAcceptedEvent_store, hstore]
    have haccepted : (addAcceptedEvent w (env.alloc turn) env.ui other alert).1 =
        (addAcceptedEvent w (env.alloc turn) env.ui gui alert).1 := by
      rw [addAcceptedEvent_accepted, addAcceptedEvent_accepted, hstore]
    simp only [addAlerts, haccepted]
    exact ih hadded _ _

lemma drainIteration_congr {env : DrainEnv} (hstore : other.store = gui.store)
    (locals : DrainLocals) (event : TraceGlassEvent) :
    (drainIteration w env other locals event).1.store =
        (drainIteration w env gui locals event).1.store ∧
      (drainIteration w env other locals event).2 = (drainIteration w env gui locals event).2 := by
  have hadded : (addAcceptedEvent w (env.alloc 0) env.ui other event).2.2.store =
      (addAcceptedEvent w (env.alloc 0) env.ui gui event).2.2.store := by
    rw [addAcceptedEvent_store, addAcceptedEvent_store, hstore]
  have haccepted : (addAcceptedEvent w (env.alloc 0) env.ui other event).1 =
      (addAcceptedEvent w (env.alloc 0) env.ui gui event).1 := by
    rw [addAcceptedEvent_accepted, addAcceptedEvent_accepted, hstore]
  have hstamped : (addAcceptedEvent w (env.alloc 0) env.ui other event).2.1 =
      (addAcceptedEvent w (env.alloc 0) env.ui gui event).2.1 := by
    rw [addAcceptedEvent_event, addAcceptedEvent_event, hstore]
  simp only [drainIteration, haccepted, hstamped]
  split
  · exact ⟨hadded, rfl⟩
  · exact addAlerts_congr hadded _ _ _

lemma drainLoop_congr {state other : GuiState × DrainLocals}
    (hstore : other.1.store = state.1.store) (hlocals : other.2 = state.2)
    (batch : List (DrainEnv × TraceGlassEvent)) :
    (drainLoop w other batch).1.store = (drainLoop w state batch).1.store ∧
      (drainLoop w other batch).2 = (drainLoop w state batch).2 := by
  induction batch generalizing state other with
  | nil => exact ⟨hstore, hlocals⟩
  | cons popped batch ih =>
    obtain ⟨hafter, hlocals'⟩ :=
      @drainIteration_congr w state.1 other.1 popped.1 hstore state.2 popped.2
    rw [drainLoop_cons, drainLoop_cons, hlocals]
    exact ih hafter hlocals'

/-- Whatever keeps the settings keeps twins, where the stores stay equal. -/
lemma Twins.of_same (h : Twins gui other) (hgui : SameSettings gui after)
    (hother : SameSettings other otherAfter) (hstore : otherAfter.store = after.store) :
    Twins after otherAfter where
  store := hstore
  sortStates := hother.sortStates.trans (h.sortStates.trans hgui.sortStates.symm)
  viewFloor := hother.viewFloor.trans (h.viewFloor.trans hgui.viewFloor.symm)
  searchText := hother.searchText.trans (h.searchText.trans hgui.searchText.symm)
  eventFilter := hother.eventFilter.trans (h.eventFilter.trans hgui.eventFilter.symm)
  navigation := hother.navigation.trans (h.navigation.trans hgui.navigation.symm)
  filterTimerActive :=
    hother.filterTimerActive.trans (h.filterTimerActive.trans hgui.filterTimerActive.symm)

lemma Twins.drainEvents (h : Twins gui other) (batch : List (DrainEnv × TraceGlassEvent))
    (env : UiEnv) :
    Twins (drainEvents w sorter env gui batch) (drainEvents w sorter env other batch) := by
  refine h.of_same (sameSettings_drainEvents env gui batch).1
    (sameSettings_drainEvents env other batch).1 ?_
  rw [TraceGlass.drainEvents, TraceGlass.drainEvents, finishDrain_store, finishDrain_store]
  exact (drainLoop_congr h.store h.beginDrain batch).1

/-- A click on Pause or Resume. -/
def GuiAction.TogglesPause : GuiAction → Prop
  | .input _ .pauseClicked => True
  | _ => False

/-- What a message changes besides rows depends on nothing else. -/
lemma Twins.entered (h : Twins gui other) (env : UiEnv) (input : UiInput)
    (hother : input ≠ .pauseClicked) : Twins (gui.entered env input) (other.entered env input) := by
  cases input with
  | filterTimer => exact { h with filterTimerActive := rfl }
  | filterSelected selected => exact { h with eventFilter := rfl }
  | pauseClicked => exact absurd rfl hother
  | searchChanged text => exact { h with searchText := rfl, filterTimerActive := rfl }
  | tabSelected tab => exact { h with navigation := rfl }
  | clearClicked =>
    have hcurrent : currentView other = currentView gui := by
      rw [currentView, currentView, h.navigation]
    simp only [GuiState.entered, hcurrent]
    split
    · exact h
    · refine { h with viewFloor := ?_ }
      simp only [GuiState.atFloor, h.viewFloor, h.store]
  | columnClicked list column =>
    simp only [GuiState.entered]
    cases list.view with
    | none => exact h
    | some view =>
      refine { h with sortStates := ?_ }
      simp only [GuiState.clicked, h.sortStates]

/-- **One action on both windows.** -/
theorem Twins.guiStep (h : Twins gui other) {action : GuiAction} (hother : ¬ action.TogglesPause) :
    Twins (guiStep w sorter gui action) (guiStep w sorter other action) := by
  cases action with
  | drain batch env => exact h.drainEvents batch env
  | input env input =>
    have hentered := h.entered env input fun hpause => hother (by rw [hpause]; trivial)
    have hgui := @sameButRows_uiStep w sorter env gui input
    have hframe := @sameButRows_uiStep w sorter env other input
    exact hentered.of_same hgui.toSameSettings hframe.toSameSettings
      (hframe.store.trans (hentered.store.trans hgui.store.symm))

/-- Pausing and resuming themselves. -/
lemma twins_togglePause {env : UiEnv} (gui : GuiState) :
    Twins gui (togglePause w sorter env gui) := by
  have hframe := @sameButRows_togglePause w sorter env gui
  have hentered : Twins gui (gui.entered env .pauseClicked) := by
    simp only [GuiState.entered]
    split <;> exact ⟨rfl, rfl, rfl, rfl, rfl, rfl, rfl⟩
  exact hentered.trans (hframe.toSameSettings.twins hframe.store)

lemma renderingPaused_togglePause {env : UiEnv} (gui : GuiState) :
    (togglePause w sorter env gui).renderingPaused = !gui.renderingPaused := by
  rw [(sameButRows_togglePause gui).renderingPaused, GuiState.entered]
  split
  · next hresume => rw [(Bool.and_eq_true_iff.mp hresume).1, Bool.not_true]
  · rfl

lemma renderingPaused_guiStep (gui : GuiState) {action : GuiAction}
    (hother : ¬ action.TogglesPause) :
    (guiStep w sorter gui action).renderingPaused = gui.renderingPaused := by
  cases action with
  | drain batch env => exact (sameSettings_drainEvents env gui batch).1.renderingPaused
  | input env input =>
    refine (sameButRows_uiStep gui input).renderingPaused.trans ?_
    cases input with
    | pauseClicked => exact absurd trivial hother
    | filterTimer | filterSelected | searchChanged | tabSelected => rfl
    | clearClicked =>
      simp only [GuiState.entered]
      split <;> rfl
    | columnClicked list column =>
      simp only [GuiState.entered]
      cases list.view <;> rfl

/-! ## While the other run is paused -/

/-- The filter timer or the event selector, which apply the filters to the tables. -/
def GuiAction.Refilters : GuiAction → Prop
  | .input _ .filterTimer => True
  | .input _ (.filterSelected _) => True
  | _ => False

/-- The window beside its twin that was paused at a history of `start` events, after these actions:
as long as nothing has been deferred they have the same rows. -/
structure BesidePaused (start : ℕ) (during : List GuiAction) (gui other : GuiState) : Prop
    extends Twins gui other where
  live : gui.renderingPaused = false
  paused : other.renderingPaused = true
  start_le : start ≤ gui.store.eventCount
  dirty_iff : other.renderDirty = true ↔
    start < gui.store.eventCount ∨ ∃ action ∈ during, action.Refilters
  rows : other.renderDirty = false → other.rows = gui.rows

/-- A turn that accepts an event makes the history longer. -/
lemma eventCount_drainIteration {env : DrainEnv} (locals : DrainLocals) {event : TraceGlassEvent}
    (haccepted : (eventStoreAdd (env.alloc 0) gui.store event).accepted = true) :
    gui.store.eventCount < (drainIteration w env gui locals event).1.store.eventCount := by
  have hadded := addAcceptedEvent_accepted (w := w) (env.alloc 0) env.ui gui event
  have hstore := addAcceptedEvent_store (w := w) (env.alloc 0) env.ui gui event
  have hcount : (addAcceptedEvent w (env.alloc 0) env.ui gui event).2.2.store.eventCount =
      gui.store.eventCount + 1 := by
    rcases eventStoreAdd_history (env.alloc 0) gui.store event with
      ⟨hrejected, -⟩ | ⟨-, -, -, hevents, -⟩
    · simp [haccepted] at hrejected
    · simp [hstore, EventStore.eventCount, hevents]
  have halerts : ∀ turn locals alerts,
      (addAcceptedEvent w (env.alloc 0) env.ui gui event).2.2.store.events.length ≤
        (addAlerts w env turn ((addAcceptedEvent w (env.alloc 0) env.ui gui event).2.2, locals)
          alerts).1.store.events.length := fun turn locals alerts =>
    ((keptByDrains_history _).addAlerts (fun _ _ => trivial) (List.prefix_refl _)).length_le
  simp only [EventStore.eventCount] at hcount ⊢
  simp only [drainIteration, hadded, haccepted, Bool.not_true, Bool.false_eq_true, if_false]
  refine lt_of_lt_of_le ?_ (halerts _ _ _)
  omega

/-- A drain that accepts an event does. -/
lemma eventCount_of_accepted {batch : List (DrainEnv × TraceGlassEvent)}
    {state : GuiState × DrainLocals} (haccepted : (drainLoop w state batch).2.anyAccepted = true) :
    state.2.anyAccepted = true ∨
      state.1.store.eventCount < (drainLoop w state batch).1.store.eventCount := by
  induction batch generalizing state with
  | nil => exact .inl haccepted
  | cons popped batch ih =>
    have hfirst := (@prefix_drainLoop w state [popped]).length_le
    have hrest := (@prefix_drainLoop w
      (drainIteration w popped.1 state.1 state.2 popped.2) batch).length_le
    rw [drainLoop_cons] at haccepted ⊢
    rcases ih haccepted with hturn | hlonger
    · rw [drainIteration_locals] at hturn
      split at hturn
      · next hyes => exact .inr ((eventCount_drainIteration _ hyes).trans_le hrest)
      · exact .inl hturn
    · exact .inr (lt_of_le_of_lt hfirst hlonger)

/-- An action that changes neither the history nor what is deferred. -/
private lemma BesidePaused.of_same {start : ℕ} {during : List GuiAction} {action : GuiAction}
    (h : BesidePaused start during gui other) (htwins : Twins after otherAfter)
    (hstore : after.store = gui.store) (hlive : after.renderingPaused = gui.renderingPaused)
    (hpaused : otherAfter.renderingPaused = other.renderingPaused)
    (hdirty : otherAfter.renderDirty = other.renderDirty) (haction : ¬ action.Refilters)
    (hrows : other.rows = gui.rows → otherAfter.rows = after.rows) :
    BesidePaused start (during ++ [action]) after otherAfter where
  toTwins := htwins
  live := hlive.trans h.live
  paused := hpaused.trans h.paused
  start_le := hstore ▸ h.start_le
  dirty_iff := by
    rw [hdirty, hstore, h.dirty_iff]
    simp [or_and_right, exists_or, haction]
  rows hclean := hrows (h.rows (hdirty ▸ hclean))

/-- The filters are applied to the one and deferred in the other. -/
private lemma BesidePaused.of_refilters {start : ℕ} {during : List GuiAction} {action : GuiAction}
    (h : BesidePaused start during gui other) (htwins : Twins after otherAfter)
    (hstore : after.store = gui.store) (hlive : after.renderingPaused = gui.renderingPaused)
    (hpaused : otherAfter.renderingPaused = other.renderingPaused)
    (hdirty : otherAfter.renderDirty = (other.renderDirty || other.renderingPaused))
    (haction : action.Refilters) : BesidePaused start (during ++ [action]) after otherAfter := by
  rw [h.paused, Bool.or_true] at hdirty
  refine ⟨htwins, hlive.trans h.live, hpaused.trans h.paused, hstore ▸ h.start_le, ?_,
    fun hclean => ?_⟩
  · exact iff_of_true hdirty (.inr ⟨action, by simp, haction⟩)
  · rw [hdirty] at hclean
    cases hclean

lemma BesidePaused.drainEvents {start : ℕ} {during : List GuiAction}
    (h : BesidePaused start during gui other) {batch : List (DrainEnv × TraceGlassEvent)}
    (env : UiEnv) (hinsert : ∀ popped ∈ batch, InsertsRows popped.1.ui) :
    BesidePaused start (during ++ [.drain batch env]) (drainEvents w sorter env gui batch)
      (drainEvents w sorter env other batch) := by
  obtain ⟨hgui, -⟩ := @sameSettings_drainEvents w sorter env gui batch
  obtain ⟨hother, hdirty⟩ := @sameSettings_drainEvents w sorter env other batch
  have hlocals := (@drainLoop_congr w (gui, beginDrain gui) (other, beginDrain other) h.store
    h.toTwins.beginDrain batch).2
  have hstore : (TraceGlass.drainEvents w sorter env gui batch).store =
      (drainLoop w (gui, beginDrain gui) batch).1.store := finishDrain_store ..
  have hgrown := (@prefix_drainLoop w (gui, beginDrain gui) batch).length_le
  have hrefilters : (∃ action ∈ during ++ [.drain batch env], action.Refilters) ↔
      ∃ action ∈ during, action.Refilters := by
    simp [or_and_right, exists_or, GuiAction.Refilters]
  have hstart := h.start_le
  rw [h.paused, Bool.true_and] at hdirty
  simp only [EventStore.eventCount] at hstart
  refine ⟨h.toTwins.drainEvents batch env, hgui.renderingPaused.trans h.live,
    hother.renderingPaused.trans h.paused, ?_, ?_, fun hclean => ?_⟩
  · rw [hstore]
    exact hstart.trans hgrown
  · rw [hdirty, hrefilters, hstore, hlocals, Bool.or_eq_true, h.dirty_iff]
    cases haccepted : (drainLoop w (gui, beginDrain gui) batch).2.anyAccepted with
    | true =>
      have hlonger := (eventCount_of_accepted haccepted).resolve_left (by simp [beginDrain])
      exact iff_of_true (.inr rfl) (.inl (lt_of_le_of_lt h.start_le hlonger))
    | false =>
      have hevents := (events_of_idle haccepted).2
      rw [EventStore.eventCount, EventStore.eventCount, hevents]
      simp
  · rw [hdirty, Bool.or_eq_false_iff] at hclean
    have hidle := hlocals ▸ hclean.2
    funext list
    rw [TraceGlass.drainEvents, TraceGlass.drainEvents, finishDrain_idle hclean.2,
      finishDrain_idle hidle, rows_drainLoop_paused h.paused, rows_of_idle hinsert h.live hidle,
      h.rows hclean.1]

lemma rows_sortView_congr (hstore : other.store = gui.store)
    (hsort : other.sortStates = gui.sortStates) (hrows : other.rows = gui.rows) (view : GuiView)
    (force : Bool) :
    (sortView w sorter other view force).rows = (sortView w sorter gui view force).rows := by
  simp only [sortView, GuiState.setRows, hstore, hsort, hrows]
  split
  · exact hrows
  · split
    · exact hrows
    · rfl

/-- **One action on both windows**, while one of them is paused. -/
theorem BesidePaused.guiStep {start : ℕ} {during : List GuiAction}
    (h : BesidePaused start during gui other) {action : GuiAction}
    (hother : ¬ action.TogglesPause) (hsucceeds : action.RowsSucceed) :
    BesidePaused start (during ++ [action]) (guiStep w sorter gui action)
      (guiStep w sorter other action) := by
  have htwins := @Twins.guiStep w sorter gui other h.toTwins action hother
  have hlive := @renderingPaused_guiStep w sorter gui action hother
  have hpaused := @renderingPaused_guiStep w sorter other action hother
  cases action with
  | drain batch env => exact h.drainEvents env hsucceeds.1
  | input env input =>
    cases input with
    | pauseClicked => exact absurd trivial hother
    | filterTimer | filterSelected =>
      exact h.of_refilters htwins (rebuildFilteredViews_store _ _) hlive hpaused
        (sameButRows_uiStep other _).renderDirty trivial
    | searchChanged | tabSelected =>
      exact h.of_same htwins rfl rfl rfl rfl (by simp [GuiAction.Refilters]) id
    | clearClicked =>
      have hcurrent : currentView other = currentView gui := by
        rw [currentView, currentView, h.navigation]
      refine h.of_same htwins (clearCurrentView_store gui) hlive hpaused
        (flags_clearCurrentView other).1 (by simp [GuiAction.Refilters]) fun hrows => ?_
      simp only [TraceGlass.guiStep, uiStep, clearCurrentView, hcurrent]
      split
      · exact hrows
      · cases currentView gui <;> simp [GuiState.setRows, hrows]
    | columnClicked list column =>
      refine h.of_same htwins (handleColumnClick_store gui list column) hlive hpaused
        (flags_handleColumnClick other list column).1 (by simp [GuiAction.Refilters])
        fun hrows => ?_
      simp only [TraceGlass.guiStep, uiStep, handleColumnClick_eq]
      cases list.view with
      | none => exact hrows
      | some view =>
        have hsort : (other.clicked view column).sortStates =
            (gui.clicked view column).sortStates := by
          simp only [GuiState.clicked, h.sortStates]
        exact @rows_sortView_congr w sorter (gui.clicked view column) (other.clicked view column)
          h.store hsort hrows view false

end

/-! ## The two runs -/

/-- The actions with a click on Pause and one on Resume put in. -/
def withPause (pauseEnv resumeEnv : UiEnv) (before during later : List GuiAction) :
    List GuiAction :=
  before ++ [.input pauseEnv .pauseClicked] ++ during ++ [.input resumeEnv .pauseClicked] ++ later

section
variable {before during later actions : List GuiAction} {pauseEnv resumeEnv : UiEnv}

lemma renderingPaused_foldl (hother : ∀ action ∈ actions, ¬ action.TogglesPause)
    (gui : GuiState) :
    (actions.foldl (guiStep w sorter) gui).renderingPaused = gui.renderingPaused := by
  refine List.foldlRecOn (motive := fun after : GuiState => after.renderingPaused =
    gui.renderingPaused) actions _ rfl fun after hafter action haction => ?_
  rw [renderingPaused_guiStep after (hother action haction), hafter]

lemma live_guiRun (hother : ∀ action ∈ actions, ¬ action.TogglesPause) :
    (guiRun w sorter actions).renderingPaused = false := renderingPaused_foldl hother .created

lemma Twins.foldl {gui other : GuiState} (h : Twins gui other)
    (hother : ∀ action ∈ actions, ¬ action.TogglesPause) :
    Twins (actions.foldl (TraceGlass.guiStep w sorter) gui)
      (actions.foldl (TraceGlass.guiStep w sorter) other) := by
  induction actions generalizing gui other with
  | nil => exact h
  | cons action actions ih =>
    obtain ⟨hfirst, hrest⟩ := List.forall_mem_cons.mp hother
    exact ih (h.guiStep hfirst) hrest

/-- The window beside the one that is paused after `before`. -/
lemma besidePaused_guiRun (hother : ∀ action ∈ before ++ during, ¬ action.TogglesPause)
    (hsucceeds : ∀ action ∈ before ++ during, action.RowsSucceed) :
    BesidePaused (guiRun w sorter before).store.eventCount during
      (guiRun w sorter (before ++ during))
      (guiRun w sorter (before ++ [.input pauseEnv .pauseClicked] ++ during)) := by
  induction during using List.reverseRecOn with
  | nil =>
    rw [List.append_nil, List.append_nil, guiRun_snoc]
    rw [List.append_nil] at hother hsucceeds
    have hlive := @live_guiRun w sorter before hother
    have hclean := (@tracked_guiRun w sorter before hsucceeds).clean hlive
    have hpause : guiStep w sorter (guiRun w sorter before) (.input pauseEnv .pauseClicked) =
        { guiRun w sorter before with renderingPaused := true } := by
      simp only [guiStep, uiStep, togglePause, hlive]
      rfl
    rw [hpause]
    refine ⟨⟨rfl, rfl, rfl, rfl, rfl, rfl, rfl⟩, hlive, rfl, le_rfl, ?_, fun _ => rfl⟩
    simp [hclean]
  | append_singleton during action ih =>
    rw [← List.append_assoc] at hother hsucceeds
    rw [← List.append_assoc, ← List.append_assoc, guiRun_snoc, guiRun_snoc]
    exact (ih (fun a ha => hother a (List.mem_append_left _ ha)) fun a ha =>
      hsucceeds a (List.mem_append_left _ ha)).guiStep (hother action (by simp))
        (hsucceeds action (by simp))

/-- The tables after a click on Resume. -/
lemma rows_resume {gui : GuiState} {env : UiEnv} (hinsert : InsertsRows env)
    (hpaused : gui.renderingPaused = true) {view : GuiView} {list : ListControl}
    (htable : listForView view = some list) :
    (togglePause w sorter env gui).rows list =
      if gui.renderDirty = true then
        sorter.sort (compareEventItems w gui.store (gui.sortOf view)) (selected w gui list)
      else gui.rows list := by
  simp only [togglePause, hpaused]
  split
  · next hdirty =>
    have hrebuilt := @rows_rebuildEventLists w sorter env hinsert
      { gui with renderingPaused := !true } view list htable
    have hselected : selected w { gui with renderingPaused := !true } list = selected w gui list :=
      Twins.selected ⟨rfl, rfl, rfl, rfl, rfl, rfl, rfl⟩ list
    rw [if_pos (by simpa using hdirty), ← hselected]
    exact (rows_rebuildOverviewLists _ htable).trans hrebuilt
  · next hclean =>
    rw [if_neg (by simpa using hclean)]

/-- After Resume the windows are twins again, and neither is paused. -/
lemma twins_withPause (hother : ∀ action ∈ before ++ during ++ later, ¬ action.TogglesPause)
    (hsucceeds : ∀ action ∈ before ++ during, action.RowsSucceed) :
    Twins (guiRun w sorter (before ++ during ++ later))
        (guiRun w sorter (withPause pauseEnv resumeEnv before during later)) ∧
      (guiRun w sorter (withPause pauseEnv resumeEnv before during later)).renderingPaused =
        false := by
  have hlater : ∀ action ∈ later, ¬ action.TogglesPause := fun a ha => hother a (by simp [ha])
  have hbeside := @besidePaused_guiRun w sorter before during pauseEnv
    (fun a ha => hother a (List.mem_append_left _ ha)) hsucceeds
  rw [withPause, guiRun_append, guiRun_append _ later, guiRun_snoc]
  refine ⟨(hbeside.toTwins.trans (twins_togglePause _)).foldl hlater, ?_⟩
  rw [renderingPaused_foldl hlater]
  exact (renderingPaused_togglePause _).trans (by rw [hbeside.paused]; rfl)

/-- The tables as Resume leaves them, in terms of the window without the pause. -/
lemma rows_withPause (hinsert : InsertsRows resumeEnv)
    (hother : ∀ action ∈ before ++ during, ¬ action.TogglesPause)
    (hsucceeds : ∀ action ∈ before ++ during, action.RowsSucceed) {plain : GuiState}
    (hplain : plain = guiRun w sorter (before ++ during)) {view : GuiView} {list : ListControl}
    (htable : listForView view = some list) :
    ((guiRun w sorter before).store.eventCount < plain.store.eventCount ∨
        ∃ action ∈ during, action.Refilters) ∧
      (guiRun w sorter (withPause pauseEnv resumeEnv before during [])).rows list =
        sorter.sort (compareEventItems w plain.store (plain.sortOf view)) (selected w plain list) ∨
    ¬ ((guiRun w sorter before).store.eventCount < plain.store.eventCount ∨
        ∃ action ∈ during, action.Refilters) ∧
      (guiRun w sorter (withPause pauseEnv resumeEnv before during [])).rows list =
        plain.rows list := by
  have hbeside := @besidePaused_guiRun w sorter before during pauseEnv hother hsucceeds
  rw [withPause, List.append_nil, guiRun_snoc]
  rw [← hplain] at hbeside
  generalize guiRun w sorter (before ++ [.input pauseEnv .pauseClicked] ++ during) = held at hbeside
  have hresume := @rows_resume w sorter held resumeEnv hinsert hbeside.paused view list htable
  rw [hbeside.toTwins.selected, hbeside.toTwins.sortOf, hbeside.store] at hresume
  rw [← hbeside.dirty_iff]
  cases hdirty : held.renderDirty with
  | true =>
    rw [if_pos hdirty] at hresume
    exact .inl ⟨rfl, hresume⟩
  | false =>
    rw [if_neg (by simp [hdirty]), hbeside.rows hdirty] at hresume
    exact .inr ⟨Bool.false_ne_true, hresume⟩

/-- A table shows the same rows as without the pause, once the filters typed into are applied. -/
lemma perm_withPause (hother : ∀ action ∈ before ++ during ++ later, ¬ action.TogglesPause)
    (hplainSucceeds : ∀ action ∈ before ++ during ++ later, action.RowsSucceed)
    (hsucceeds : ∀ action ∈ withPause pauseEnv resumeEnv before during later, action.RowsSucceed)
    (hidle : (guiRun w sorter (before ++ during ++ later)).filterTimerActive = false)
    {view : GuiView} {list : ListControl} (htable : listForView view = some list) :
    ((guiRun w sorter (withPause pauseEnv resumeEnv before during later)).rows list).Perm
      ((guiRun w sorter (before ++ during ++ later)).rows list) := by
  obtain ⟨htwins, hlive⟩ := @twins_withPause w sorter before during later pauseEnv resumeEnv hother
    fun a ha => hplainSucceeds a (List.mem_append_left _ ha)
  have hplainTracked := @tracked_guiRun w sorter _ hplainSucceeds
  have hpausedTracked := @tracked_guiRun w sorter _ hsucceeds
  have hplainFresh := hplainTracked.fresh (hplainTracked.clean (live_guiRun hother)) hidle view
    list htable
  have hpausedFresh := hpausedTracked.fresh (hpausedTracked.clean hlive)
    (htwins.filterTimerActive.trans hidle) view list htable
  rw [htwins.selected] at hpausedFresh
  exact hpausedFresh.trans hplainFresh.symm

/-- A table has one order for a sort state. -/
lemma rows_unique [Std.TransCmp w.compareStringOrdinal] {store : EventStore}
    (hstore : Reachable store) {sort : SortState} {rows rows' : List ℕ} (hperm : rows.Perm rows')
    (hbound : ∀ i ∈ rows, i < store.eventCount)
    (hcomparable : ∀ i < store.eventCount, Comparable w sort.column (store.events.getD i .zero))
    (hrows : rows.Pairwise fun i j => compareEventItems w store sort i j ≤ 0)
    (hrows' : rows'.Pairwise fun i j => compareEventItems w store sort i j ≤ 0) : rows = rows' :=
  eq_of_perm_of_sorted (lawful_compareEventItems store sort) hperm
    (fun i hi => ⟨hbound i hi, hcomparable i (hbound i hi)⟩)
    (fun _ _ hi hj hzero => eq_of_compareEventItems_eq_zero hstore.sequenced hi.1 hj.1 hzero)
    hrows hrows'

/-- **What a pause leaves behind.**  Where the insertions succeed, whenever no filter timer is
pending after the Resume, each table shows the same rows as without the pause, and a table the user
has sorted shows them in the same order.  At the Resume a table the user has not sorted shows them
in the same order if and only if no event was accepted and no filter applied since the Pause, or the
rows without the pause are in the default order, by time and then as they came. -/
theorem tables_withPause [Std.TransCmp w.compareStringOrdinal]
    (hother : ∀ action ∈ before ++ during ++ later, ¬ action.TogglesPause)
    (hsucceeds : ∀ action ∈ withPause pauseEnv resumeEnv before during later, action.RowsSucceed)
    {plain paused : GuiState} (hplain : plain = guiRun w sorter (before ++ during ++ later))
    (hpaused : paused = guiRun w sorter (withPause pauseEnv resumeEnv before during later))
    (hidle : plain.filterTimerActive = false) {view : GuiView} {list : ListControl}
    (htable : listForView view = some list) :
    (paused.rows list).Perm (plain.rows list) ∧
    ((plain.sortStates view).active = true →
      (∀ e ∈ drainedBy (before ++ during ++ later),
        Comparable w (plain.sortStates view).column e) → paused.rows list = plain.rows list) ∧
    (later = [] → (plain.sortStates view).active = false →
      (∀ e ∈ drainedBy (before ++ during ++ later), Timed w e) →
        (paused.rows list = plain.rows list ↔
          ((guiRun w sorter before).store.eventCount < plain.store.eventCount ∨
            ∃ action ∈ during, action.Refilters) →
          (plain.rows list).Pairwise fun i j =>
            compareEventItems w plain.store ⟨0, true, false, view⟩ i j ≤ 0)) := by
  have hplainSucceeds : ∀ action ∈ before ++ during ++ later, action.RowsSucceed := by
    intro a ha
    refine hsucceeds a ?_
    simp only [withPause, List.mem_append] at ha ⊢
    tauto
  have hduring : ∀ action ∈ before ++ during, action.RowsSucceed := fun a ha =>
    hplainSucceeds a (List.mem_append_left _ ha)
  obtain ⟨htwins, -⟩ := @twins_withPause w sorter before during later pauseEnv resumeEnv hother
    hduring
  have hreachable := @reachable_guiRun w sorter (before ++ during ++ later)
  have hcomparable := @comparable_guiRun w sorter (before ++ during ++ later)
  have hplainOrder := @inOrder_guiRun w sorter _ _ hplainSucceeds view list htable
  have hpausedOrder := @inOrder_guiRun w sorter _ _ hsucceeds view list htable
  have hperm := @perm_withPause w sorter before during later pauseEnv resumeEnv hother
    hplainSucceeds hsucceeds (hplain ▸ hidle) view list htable
  rw [← hplain, ← hpaused] at htwins hperm
  rw [← hpaused] at hpausedOrder
  rw [← hplain] at hreachable hcomparable hplainOrder
  have hbound : ∀ i ∈ paused.rows list, i < plain.store.eventCount := fun i hi =>
    hplainOrder.rows_lt i (hperm.mem_iff.mp hi)
  refine ⟨hperm, fun hactive hdrained => ?_, fun hlast hinactive htimed => ?_⟩
  · have hpausedSorted := hpausedOrder.sorted
    rw [htwins.sortStates, htwins.store] at hpausedSorted
    simp only [GuiState.event, htwins.store] at hpausedSorted
    exact rows_unique hreachable hperm hbound (hcomparable hdrained)
      (hpausedSorted hactive (hcomparable hdrained))
      (hplainOrder.sorted hactive (hcomparable hdrained))
  · have htimes : ∀ i < plain.store.eventCount, Comparable w 0 (plain.event i) :=
      hcomparable fun e he => (htimed e he).comparable 0
    subst hlast
    rw [List.append_nil] at hplain hother
    have hsort : plain.sortOf view = ⟨0, true, false, view⟩ := by
      rw [GuiState.sortOf, if_neg (by simp [hinactive])]
    have hinsert : InsertsRows resumeEnv :=
      hsucceeds (.input resumeEnv .pauseClicked) (by simp [withPause])
    rcases @rows_withPause w sorter before during pauseEnv resumeEnv hinsert hother hduring plain
      hplain view list htable with ⟨hdeferred, hrows⟩ | ⟨hnothing, hrows⟩
    · rw [← hpaused, hsort] at hrows
      have hdefault : (paused.rows list).Pairwise fun i j =>
          compareEventItems w plain.store ⟨0, true, false, view⟩ i j ≤ 0 := by
        rw [hrows]
        exact pairwise_sort (fun i hi => (mem_selected.mp hi).1) htimes
      refine ⟨fun hsame _ => hsame ▸ hdefault, fun hplainSorted => ?_⟩
      exact rows_unique hreachable hperm hbound htimes hdefault (hplainSorted hdeferred)
    · rw [← hpaused] at hrows
      exact ⟨fun _ hdeferred => absurd hdeferred hnothing, fun _ => hrows⟩

end

/-! ## Runs in which the pause shows -/

/-- A connection seen at this second. -/
def connectionAt (second : WORD) : TraceGlassEvent :=
  { TraceGlassEvent.zero with
    type := .network
    timestamp := ⟨1601, 1, 1, 1, 0, 0, second, 0⟩
    process := ⟨8, 5⟩ }

/-- The later of two connections is drained first, after a click on the names in the timeline. -/
def lateConnections : List GuiAction :=
  [.input .succeed (.columnClicked .timeline 2), drainOne (connectionAt 2),
    drainOne (connectionAt 1)]

/-- A search is being typed. -/
def searchedConnection : List GuiAction :=
  [drainOne (connectionAt 1), .input .succeed (.searchChanged (wide "smtp"))]

/-- The row of a connection cannot be inserted when it is drained. -/
def unlistedConnection : List GuiAction :=
  [.drain [(⟨fun _ => .succeed, ⟨fun _ _ => false, true, fun _ => true⟩⟩, connectionAt 1)] .succeed]

/-- Pausing before these actions and resuming after them shows: in the order of the unsorted
table, in the rows a search leaves that its timer has not applied yet, and in a row that could not
be inserted in time. -/
theorem rows_of_pausedRuns :
    (guiRun .sample (.insertion ℕ) (withPause .succeed .succeed [] lateConnections [])).rows
        .network ≠ (guiRun .sample (.insertion ℕ) lateConnections).rows .network ∧
    (guiRun .sample (.insertion ℕ) (withPause .succeed .succeed [] searchedConnection [])).rows
        .network ≠ (guiRun .sample (.insertion ℕ) searchedConnection).rows .network ∧
    (guiRun .sample (.insertion ℕ) (withPause .succeed .succeed [] unlistedConnection [])).rows
        .network ≠ (guiRun .sample (.insertion ℕ) unlistedConnection).rows .network := by
  decide +kernel

/-- The sorted timeline is the same, and the network table is not, since its rows are not in the
order of their times. -/
theorem tables_withPause_lateConnections :
    (guiRun .sample (.insertion ℕ) (withPause .succeed .succeed [] lateConnections [])).rows
        .timeline = (guiRun .sample (.insertion ℕ) lateConnections).rows .timeline ∧
    ¬ ((guiRun .sample (.insertion ℕ) lateConnections).rows .network).Pairwise fun i j =>
      compareEventItems .sample (guiRun .sample (.insertion ℕ) lateConnections).store
        ⟨0, true, false, .network⟩ i j ≤ 0 := by
  have hother : ∀ action ∈ lateConnections, ¬ action.TogglesPause := by
    simp [lateConnections, drainOne, GuiAction.TogglesPause]
  have hsucceeds : ∀ action ∈ withPause .succeed .succeed [] lateConnections [],
      action.RowsSucceed := by
    simp [withPause, lateConnections, drainOne, GuiAction.RowsSucceed, InsertsRows,
      DrainEnv.succeed, UiEnv.succeed]
  have htimed : ∀ e ∈ drainedBy lateConnections, Timed .sample e := by decide +kernel
  have hrun := @tables_withPause .sample (.insertion ℕ) [] lateConnections [] .succeed .succeed _
    hother hsucceeds _ _ rfl rfl (by decide +kernel)
  obtain ⟨-, hsorted, -⟩ := @hrun .timeline .timeline rfl
  obtain ⟨-, -, hunsorted⟩ := @hrun .network .network rfl
  refine ⟨hsorted (by decide +kernel) fun e he _ => htimed e he, fun hdefault => ?_⟩
  exact absurd ((hunsorted rfl (by decide +kernel) htimed).mpr fun _ => hdefault)
    (by decide +kernel)

end TraceGlass
