import TraceGlass.Gui.Views

/-!
# The event tables follow the selection

`Tracked` is the invariant of the whole window: unless the view is dirty or the filter timer is
pending, the tables hold the selection.  Every operation that changes the selection without touching
the tables sets one of the two, and every one that clears them rebuilds.
-/

namespace TraceGlass

open SortedArray Comparator

variable {w : Win32} {sorter : CompareSort ℕ}

/-! ## What the tables hold -/

/-- The tables hold the selection, in some order. -/
def Fresh (w : Win32) (gui : GuiState) : Prop :=
  ∀ view list, listForView view = some list → (gui.rows list).Perm (selected w gui list)

/-- A change of the selection that the tables have not followed yet is noted. -/
structure Tracked (w : Win32) (gui : GuiState) : Prop where
  paused : gui.renderDirty = true → gui.renderingPaused = true
  fresh : gui.renderDirty = false → gui.filterTimerActive = false → Fresh w gui

/-- While rendering goes on nothing is deferred. -/
lemma Tracked.clean {gui : GuiState} (h : Tracked w gui) (hlive : gui.renderingPaused = false) :
    gui.renderDirty = false := by
  rw [← Bool.not_eq_true]
  intro hdirty
  rw [h.paused hdirty] at hlive
  cases hlive

/-- The insertions of an action succeed. -/
def GuiAction.RowsSucceed : GuiAction → Prop
  | .drain batch env => (∀ popped ∈ batch, InsertsRows popped.1.ui) ∧ InsertsRows env
  | .input env _ => InsertsRows env

section
variable {gui : GuiState} {env : UiEnv}

lemma rows_rebuildOverviewLists (gui : GuiState) {view : GuiView} {list : ListControl}
    (htable : listForView view = some list) :
    (rebuildOverviewLists w env gui).rows list = gui.rows list := by
  cases view with
  | overview | processes => cases htable
  | timeline | network | alerts =>
    obtain rfl := Option.some.inj htable
    rfl

/-- The tables as a rebuild leaves them. -/
lemma fresh_rebuildEventLists (hinsert : InsertsRows env) (gui : GuiState) :
    Fresh w (rebuildEventLists w sorter env gui) := by
  intro view list htable
  rw [rows_rebuildEventLists hinsert gui htable, (sameButRows_rebuildEventLists gui).selected]
  exact sorter.perm _ _

lemma Fresh.rebuildOverviewLists (h : Fresh w gui) : Fresh w (rebuildOverviewLists w env gui) := by
  intro view list htable
  rw [rows_rebuildOverviewLists gui htable, (sameButRows_rebuildOverviewLists gui).selected]
  exact h view list htable

lemma Fresh.rebuildProcessTree (h : Fresh w gui) : Fresh w (rebuildProcessTree env gui) := h

lemma Fresh.sortTables (h : Fresh w gui) (force : Bool) :
    Fresh w (sortTables w sorter gui force) := by
  intro view list htable
  rw [(sameButRows_sortTables gui force).selected, rows_sortTables gui force htable]
  split
  · exact (sorter.perm _ _).trans (h view list htable)
  · exact h view list htable

lemma tracked_rebuildFilteredViews (hinsert : InsertsRows env)
    (hpaused : gui.renderDirty = true → gui.renderingPaused = true) :
    Tracked w (rebuildFilteredViews w sorter env gui) := by
  have hframe := @sameButRows_rebuildFilteredViews w sorter env gui
  refine ⟨?_, fun hclean _ => ?_⟩
  · rw [hframe.renderDirty, hframe.renderingPaused, Bool.or_eq_true]
    exact fun h => h.elim hpaused id
  · have hlive : gui.renderingPaused = false :=
      (Bool.or_eq_false_iff.mp (hframe.renderDirty ▸ hclean)).2
    rw [rebuildFilteredViews, hlive, if_neg Bool.false_ne_true]
    exact (fresh_rebuildEventLists hinsert gui).rebuildOverviewLists

lemma tracked_togglePause (hinsert : InsertsRows env) (h : Tracked w gui) :
    Tracked w (togglePause w sorter env gui) := by
  simp only [togglePause]
  split
  · have hlists := @fresh_rebuildEventLists w sorter env hinsert
      { gui with renderingPaused := !gui.renderingPaused }
    generalize rebuildEventLists w sorter env
      { gui with renderingPaused := !gui.renderingPaused } = lists at hlists
    refine ⟨fun hdirty => (by cases hdirty), fun _ _ => ?_⟩
    have htree : Fresh w (rebuildProcessTree env lists) := hlists.rebuildProcessTree
    exact htree.rebuildOverviewLists
  · next hother =>
    refine ⟨fun hdirty => ?_, h.fresh⟩
    have hwas := h.paused hdirty
    simp only at hdirty
    simp [hdirty, hwas] at hother

/-- **A drain while rendering is not paused keeps the tables fresh.** -/
lemma fresh_drainEvents {batch : List (DrainEnv × TraceGlassEvent)}
    (hinsert : ∀ popped ∈ batch, InsertsRows popped.1.ui) (hlive : gui.renderingPaused = false)
    (h : Fresh w gui) : Fresh w (drainEvents w sorter env gui batch) := by
  have hframe := @sameButStoreAndRows_drainLoop w (gui, beginDrain gui) batch
  have hgrows := @grows_drainLoop w gui batch hinsert hlive (beginDrain gui)
  rw [drainEvents]
  generalize drainLoop w (gui, beginDrain gui) batch = drained at hframe hgrows
  have hdrained : Fresh w drained.1 := by
    intro view list htable
    obtain ⟨tail, hrows, hselected⟩ := hgrows list
    rw [hrows, hselected]
    exact (h view list htable).append_right tail
  cases haccepted : drained.2.anyAccepted with
  | false =>
    rw [finishDrain_idle haccepted]
    exact hdrained
  | true =>
    rw [finishDrain_live haccepted (hframe.renderingPaused.trans hlive)]
    have htree : Fresh w
        (if drained.2.treeChanged then rebuildProcessTree env drained.1 else drained.1) := by
      split
      · exact hdrained.rebuildProcessTree
      · exact hdrained
    exact (htree.rebuildOverviewLists).sortTables _

/-- A floor at the end of the history empties the selection of the view, and of no other. -/
lemma selected_atFloor (gui : GuiState) (cleared : GuiView) {view : GuiView} {list : ListControl}
    (htable : listForView view = some list) :
    selected w (gui.atFloor cleared) list = if cleared = view then [] else selected w gui list := by
  split
  · next hsame =>
    subst hsame
    refine List.filter_eq_nil_iff.mpr fun index hindex => ?_
    have hbelow : ¬ gui.store.eventCount ≤ index := Nat.not_le.mpr (List.mem_range.mp hindex)
    cases cleared with
    | overview | processes => cases htable
    | timeline | network | alerts =>
      obtain rfl := Option.some.inj htable
      simp [shows, GuiState.atFloor, hbelow]
  · next hother =>
    refine List.filter_congr fun index _ => ?_
    have hkept : (gui.atFloor cleared).viewFloor view = gui.viewFloor view :=
      Function.update_of_ne (Ne.symm hother) ..
    cases view with
    | overview | processes => cases htable
    | timeline | network | alerts =>
      obtain rfl := Option.some.inj htable
      simp only [shows, hkept]
      rfl

/-- Clearing one of the tables. -/
private lemma fresh_clearTable (h : Fresh w gui) {cleared : GuiView} {table : ListControl}
    (hcleared : listForView cleared = some table) :
    Fresh w ((gui.atFloor cleared).setRows table []) := by
  intro view list htable
  rw [selected_setRows, selected_atFloor gui cleared htable]
  split
  · next hsame =>
    subst hsame
    obtain rfl := Option.some.inj (hcleared.symm.trans htable)
    rw [setRows_rows_self]
  · next hother =>
    have hne : list ≠ table := by
      rintro rfl
      exact hother (view_of_table hcleared htable)
    rw [setRows_rows_of_ne _ _ hne]
    exact h view list htable

/-- Clearing a view without a table of its own. -/
private lemma fresh_atFloor (h : Fresh w gui) {cleared : GuiView}
    (hcleared : listForView cleared = none) : Fresh w (gui.atFloor cleared) := by
  intro view list htable
  rw [selected_atFloor gui cleared htable, if_neg]
  · exact h view list htable
  · rintro rfl
    rw [hcleared] at htable
    cases htable

/-- **Clear View** leaves an empty table with an empty selection. -/
lemma Fresh.clearCurrentView (h : Fresh w gui) : Fresh w (clearCurrentView gui) := by
  simp only [TraceGlass.clearCurrentView]
  split
  · exact h
  · cases currentView gui with
    | processes => exact fresh_atFloor h rfl
    | overview =>
      intro view list htable
      have hlists : list ≠ .recent ∧ list ≠ .recentAlerts := by
        cases view <;> cases htable <;> decide
      have hfloor : Fresh w (gui.atFloor .overview) := fresh_atFloor h rfl
      rw [selected_setRows, selected_setRows, setRows_rows_of_ne _ _ hlists.2,
        setRows_rows_of_ne _ _ hlists.1]
      exact hfloor view list htable
    | network => exact fresh_clearTable h rfl
    | timeline => exact fresh_clearTable h rfl
    | alerts => exact fresh_clearTable h rfl

/-- A column click sorts the rows a table has. -/
lemma Fresh.handleColumnClick (h : Fresh w gui) (list : ListControl) (column : ℤ) :
    Fresh w (handleColumnClick w sorter gui list column) := by
  rw [handleColumnClick_eq]
  cases list.view with
  | none => exact h
  | some clicked =>
    intro view table htable
    have hclicked : selected w (gui.clicked clicked column) table = selected w gui table := rfl
    rw [(sameButRows_sortView _ _ _).selected, hclicked]
    by_cases hself : listForView clicked = some table
    · rw [rows_sortView_self _ _ hself]
      split
      · exact (sorter.perm _ _).trans (h view table htable)
      · exact h view table htable
    · rw [rows_sortView_of_ne _ _ hself]
      exact h view table htable

/-- A drain while rendering is paused leaves the tables, and the selection where it accepts
nothing. -/
lemma fresh_drainEvents_paused {batch : List (DrainEnv × TraceGlassEvent)}
    (hpaused : gui.renderingPaused = true)
    (hidle : (drainLoop w (gui, beginDrain gui) batch).2.anyAccepted = false) (h : Fresh w gui) :
    Fresh w (drainEvents w sorter env gui batch) := by
  have hframe := @sameButStoreAndRows_drainLoop w (gui, beginDrain gui) batch
  have hrows := @rows_drainLoop_paused w gui hpaused (beginDrain gui) batch
  have hevents := (events_of_idle hidle).2
  rw [drainEvents, finishDrain_idle hidle]
  generalize drainLoop w (gui, beginDrain gui) batch = drained at hframe hrows hevents
  intro view list htable
  rw [selected_of_idle hframe.toSameSettings hevents, hrows]
  exact h view list htable

lemma tracked_drainEvents {batch : List (DrainEnv × TraceGlassEvent)}
    (hinsert : ∀ popped ∈ batch, InsertsRows popped.1.ui) (h : Tracked w gui) :
    Tracked w (drainEvents w sorter env gui batch) := by
  obtain ⟨hsettings, hdirty⟩ := @sameSettings_drainEvents w sorter env gui batch
  cases hpaused : gui.renderingPaused with
  | false =>
    rw [hpaused, Bool.false_and, Bool.or_false] at hdirty
    refine ⟨fun hafter => ?_, fun hclean hidle => ?_⟩
    · rw [hsettings.renderingPaused]
      exact h.paused (hdirty ▸ hafter)
    · exact fresh_drainEvents hinsert hpaused
        (h.fresh (hdirty ▸ hclean) (hsettings.filterTimerActive ▸ hidle))
  | true =>
    refine ⟨fun _ => hsettings.renderingPaused.trans hpaused, fun hclean hidle => ?_⟩
    rw [hclean, hpaused, Bool.true_and] at hdirty
    obtain ⟨hwas, hnone⟩ := Bool.or_eq_false_iff.mp hdirty.symm
    exact fresh_drainEvents_paused hpaused hnone
      (h.fresh hwas (hsettings.filterTimerActive ▸ hidle))

/-- Only the clock and the switches decide whether the tables have to be fresh. -/
lemma Tracked.of_fresh (h : Tracked w gui) {after : GuiState}
    (hdirty : after.renderDirty = gui.renderDirty)
    (hpaused : after.renderingPaused = gui.renderingPaused)
    (htimer : after.filterTimerActive = gui.filterTimerActive)
    (hfresh : Fresh w gui → Fresh w after) : Tracked w after where
  paused hafter := hpaused.trans (h.paused (hdirty ▸ hafter))
  fresh hclean hidle := hfresh (h.fresh (hdirty ▸ hclean) (htimer ▸ hidle))

/-- **One action keeps the tables tracked.** -/
theorem Tracked.guiStep (h : Tracked w gui) {action : GuiAction} (hsucceeds : action.RowsSucceed) :
    Tracked w (guiStep w sorter gui action) := by
  cases action with
  | drain batch env => exact tracked_drainEvents hsucceeds.1 h
  | input env input =>
    cases input with
    | filterTimer => exact tracked_rebuildFilteredViews hsucceeds h.paused
    | filterSelected selected => exact tracked_rebuildFilteredViews hsucceeds h.paused
    | pauseClicked => exact tracked_togglePause hsucceeds h
    | searchChanged text => exact ⟨h.paused, fun _ hidle => by cases hidle⟩
    | tabSelected tab => exact ⟨h.paused, h.fresh⟩
    | clearClicked =>
      obtain ⟨hdirty, hpaused, htimer⟩ := flags_clearCurrentView gui
      exact h.of_fresh hdirty hpaused htimer .clearCurrentView
    | columnClicked list column =>
      obtain ⟨hdirty, hpaused, htimer⟩ := @flags_handleColumnClick w sorter gui list column
      exact h.of_fresh hdirty hpaused htimer fun hfresh => hfresh.handleColumnClick list column

end

/-- The invariant of a run. -/
lemma tracked_guiRun {actions : List GuiAction}
    (hsucceeds : ∀ action ∈ actions, action.RowsSucceed) :
    Tracked w (guiRun w sorter actions) := by
  refine List.foldlRecOn (motive := fun gui => Tracked w gui) actions (guiStep w sorter) ?_ ?_
  · refine ⟨fun h => (by cases h), fun _ _ view list htable => ?_⟩
    exact List.Perm.refl _
  · exact fun gui hgui action haction => hgui.guiStep (hsucceeds action haction)

end TraceGlass
