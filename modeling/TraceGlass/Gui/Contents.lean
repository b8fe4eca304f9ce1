import TraceGlass.Etw.Model
import TraceGlass.Gui.Tracking
import TraceGlass.Monitor.Model
import TraceGlass.Network.Model

/-!
# The event tables hold the selection, in the order of the user

A column click sorts its table at once, and from then on every drain and every rebuild ends by
sorting it.  In between rows only stay or go, and a longer history does not change how two rows
compare.  So a table whose sort is active is in order in every state (`inOrder_guiRun`), while it
holds the selection where nothing is deferred (`tracked_guiRun`).
-/

namespace TraceGlass

open SortedArray Comparator

variable {w : Win32} {sorter : CompareSort ℕ}

/-! ## The order of a table -/

/-- The rows of a table are of the history, and in the order the user chose, if there is one. -/
structure Ordered (w : Win32) (gui : GuiState) (view : GuiView) (list : ListControl) : Prop where
  rows_lt : ∀ i ∈ gui.rows list, i < gui.store.eventCount
  sorted : (gui.sortStates view).active = true →
    (∀ i < gui.store.eventCount, Comparable w (gui.sortStates view).column (gui.event i)) →
      (gui.rows list).Pairwise fun i j =>
        compareEventItems w gui.store (gui.sortStates view) i j ≤ 0

/-- All three tables are. -/
def InOrder (w : Win32) (gui : GuiState) : Prop :=
  ∀ view list, listForView view = some list → Ordered w gui view list

section
variable {gui after : GuiState} {view : GuiView} {list : ListControl}

/-- Rows that stay are in order as before. -/
lemma Ordered.of_longer (h : Ordered w gui view list) (hrows : after.rows list = gui.rows list)
    (hsort : after.sortStates view = gui.sortStates view)
    (hevents : gui.store.events <+: after.store.events) : Ordered w after view list where
  rows_lt i hi := (h.rows_lt i (hrows ▸ hi)).trans_le hevents.length_le
  sorted hactive hcomparable := by
    have hcount : gui.store.eventCount ≤ after.store.eventCount := hevents.length_le
    rw [hsort] at hactive hcomparable ⊢
    have hbefore := h.sorted hactive fun i hi => by
      have hi' := hcomparable i (by omega)
      rwa [GuiState.event, getD_of_longer hevents hi] at hi'
    rw [hrows]
    refine hbefore.imp_of_mem fun hi hj hle => ?_
    rwa [compareEventItems_of_longer hevents _ (h.rows_lt _ hi) (h.rows_lt _ hj)]

/-- An empty table is in order. -/
lemma Ordered.of_empty (hrows : gui.rows list = []) : Ordered w gui view list where
  rows_lt := by simp [hrows]
  sorted := by simp [hrows]

lemma InOrder.rebuildOverviewLists {env : UiEnv} (h : InOrder w gui) :
    InOrder w (rebuildOverviewLists w env gui) := fun view list htable =>
  (h view list htable).of_longer (rows_rebuildOverviewLists gui htable) rfl (List.prefix_refl _)

/-- **Clear View** empties a table or leaves it. -/
lemma InOrder.clearCurrentView (h : InOrder w gui) : InOrder w (clearCurrentView gui) := by
  have hkept : ∀ cleared, InOrder w (gui.atFloor cleared) := fun cleared view list htable =>
    (h view list htable).of_longer rfl rfl (List.prefix_refl _)
  have hcleared : ∀ gui' table, InOrder w gui' → InOrder w (gui'.setRows table []) := by
    intro gui' table h' view list htable
    by_cases hsame : list = table
    · subst hsame
      exact .of_empty (setRows_rows_self _ _ _)
    · exact (h' view list htable).of_longer (setRows_rows_of_ne _ _ hsame) rfl
        (List.prefix_refl _)
  simp only [TraceGlass.clearCurrentView]
  split
  · exact h
  · cases currentView gui with
    | processes => exact hkept .processes
    | overview => exact hcleared _ _ (hcleared _ _ (hkept .overview))
    | network => exact hcleared _ _ (hkept .network)
    | timeline => exact hcleared _ _ (hkept .timeline)
    | alerts => exact hcleared _ _ (hkept .alerts)

lemma mem_selected {i : ℕ} :
    i ∈ selected w gui list ↔ i < gui.store.eventCount ∧ shows w gui list i = true := by
  simp [selected]

variable [Std.TransCmp w.compareStringOrdinal]

/-- `ListView_SortItems` sorts what the column can compare. -/
lemma pairwise_sort {store : EventStore} {sort : SortState} {rows : List ℕ}
    (hrows : ∀ i ∈ rows, i < store.eventCount)
    (hcomparable : ∀ i < store.eventCount,
      Comparable w sort.column (store.events.getD i .zero)) :
    (sorter.sort (compareEventItems w store sort) rows).Pairwise fun i j =>
      compareEventItems w store sort i j ≤ 0 :=
  sorter.sorted _ _ ((lawful_compareEventItems store sort).consistentOn fun i hi =>
    ⟨hrows i hi, hcomparable i (hrows i hi)⟩)

/-- A table that has just been sorted, if its sort is active. -/
lemma Ordered.of_sort {rows : List ℕ} {force : Bool}
    (hrows : ∀ i ∈ rows, i < gui.store.eventCount)
    (hstore : after.store = gui.store) (hsort : after.sortStates view = gui.sortStates view)
    (hafter : after.rows list = if ((gui.sortStates view).active || force) = true then
      sorter.sort (compareEventItems w gui.store (gui.sortOf view)) rows else rows) :
    Ordered w after view list where
  rows_lt i hi := by
    rw [hstore]
    refine hrows i ?_
    rw [hafter] at hi
    split at hi
    · exact (sorter.perm _ _).mem_iff.mp hi
    · exact hi
  sorted hactive hcomparable := by
    simp only [GuiState.event, hstore, hsort] at hactive hcomparable
    rw [hafter, hstore, hsort, hactive, Bool.true_or, if_pos rfl, GuiState.sortOf, if_pos hactive]
    exact pairwise_sort hrows hcomparable

/-! ## The order in a run -/

section
variable {env : UiEnv}

lemma inOrder_rebuildEventLists (hinsert : InsertsRows env) (gui : GuiState) :
    InOrder w (rebuildEventLists w sorter env gui) := by
  intro view list htable
  have hframe := @sameButRows_rebuildEventLists w sorter env gui
  refine @Ordered.of_sort w sorter gui _ view list _ (selected w gui list) true
    (fun i hi => (mem_selected.mp hi).1) hframe.store (congrFun hframe.sortStates view) ?_
  rw [rows_rebuildEventLists hinsert gui htable, Bool.or_true, if_pos rfl]

lemma InOrder.sortTables (h : ∀ view list, listForView view = some list →
      ∀ i ∈ gui.rows list, i < gui.store.eventCount) (force : Bool) :
    InOrder w (sortTables w sorter gui force) := by
  intro view list htable
  have hframe := @sameButRows_sortTables w sorter gui force
  exact .of_sort (h view list htable) hframe.store (congrFun hframe.sortStates view)
    (rows_sortTables gui force htable)

lemma InOrder.rebuildFilteredViews (hinsert : InsertsRows env) (h : InOrder w gui) :
    InOrder w (rebuildFilteredViews w sorter env gui) := by
  unfold TraceGlass.rebuildFilteredViews
  split
  · exact fun view list htable => (h view list htable).of_longer rfl rfl (List.prefix_refl _)
  · exact (inOrder_rebuildEventLists hinsert gui).rebuildOverviewLists

lemma InOrder.togglePause (hinsert : InsertsRows env) (h : InOrder w gui) :
    InOrder w (togglePause w sorter env gui) := by
  simp only [TraceGlass.togglePause]
  split
  · have hlists := @inOrder_rebuildEventLists w sorter _ env hinsert
      { gui with renderingPaused := !gui.renderingPaused }
    generalize TraceGlass.rebuildEventLists w sorter env
      { gui with renderingPaused := !gui.renderingPaused } = lists at hlists
    have htree : InOrder w (rebuildProcessTree env lists) := fun view list htable =>
      (hlists view list htable).of_longer rfl rfl (List.prefix_refl _)
    exact fun view list htable => (htree.rebuildOverviewLists view list htable).of_longer rfl rfl
      (List.prefix_refl _)
  · exact fun view list htable => (h view list htable).of_longer rfl rfl (List.prefix_refl _)

/-- **A drain keeps the order**: it leaves the rows, or sorts the tables after adding to them. -/
lemma InOrder.drainEvents {batch : List (DrainEnv × TraceGlassEvent)}
    (hinsert : ∀ popped ∈ batch, InsertsRows popped.1.ui) (h : InOrder w gui) :
    InOrder w (drainEvents w sorter env gui batch) := by
  have hframe := @sameButStoreAndRows_drainLoop w (gui, beginDrain gui) batch
  have hprefix := @prefix_drainLoop w (gui, beginDrain gui) batch
  have hkept : (∀ list, (drainLoop w (gui, beginDrain gui) batch).1.rows list = gui.rows list) →
      InOrder w (drainLoop w (gui, beginDrain gui) batch).1 := fun hrows view list htable =>
    (h view list htable).of_longer (hrows list) (congrFun hframe.sortStates view) hprefix
  rw [TraceGlass.drainEvents]
  cases hpaused : gui.renderingPaused with
  | true =>
    have hpause := hkept fun list => congrFun (rows_drainLoop_paused hpaused _ batch) list
    cases haccepted : (drainLoop w (gui, beginDrain gui) batch).2.anyAccepted with
    | false =>
      rw [finishDrain_idle haccepted]
      exact hpause
    | true =>
      rw [finishDrain_paused haccepted (hframe.renderingPaused.trans hpaused)]
      exact fun view list htable =>
        (hpause view list htable).of_longer rfl rfl (List.prefix_refl _)
  | false =>
    cases haccepted : (drainLoop w (gui, beginDrain gui) batch).2.anyAccepted with
    | false =>
      rw [finishDrain_idle haccepted]
      exact hkept fun list => rows_of_idle hinsert hpaused haccepted list
    | true =>
      rw [finishDrain_live haccepted (hframe.renderingPaused.trans hpaused)]
      have hgrows := @grows_drainLoop w gui batch hinsert hpaused (beginDrain gui)
      generalize drainLoop w (gui, beginDrain gui) batch = drained at hgrows hprefix
      have hbound : ∀ view list, listForView view = some list →
          ∀ i ∈ drained.1.rows list, i < drained.1.store.eventCount := by
        intro view list htable i hi
        obtain ⟨tail, hrows, hselected⟩ := hgrows list
        rw [hrows] at hi
        rcases List.mem_append.mp hi with hi | hi
        · exact ((h view list htable).rows_lt i hi).trans_le hprefix.length_le
        · exact (mem_selected.mp (hselected ▸ List.mem_append_right _ hi)).1
      refine InOrder.sortTables (fun view list htable => ?_) _
      rw [rows_rebuildOverviewLists _ htable, rebuildOverviewLists_store]
      cases drained.2.treeChanged <;> exact hbound view list htable

/-- **A column click** sorts its table by the new choice. -/
lemma InOrder.handleColumnClick (h : InOrder w gui) (list : ListControl) (column : ℤ) :
    InOrder w (handleColumnClick w sorter gui list column) := by
  rw [handleColumnClick_eq]
  cases list.view with
  | none => exact h
  | some clicked =>
    intro view table htable
    have hframe := @sameButRows_sortView w sorter (gui.clicked clicked column) clicked false
    by_cases hsame : listForView clicked = some table
    · obtain rfl := view_of_table hsame htable
      exact @Ordered.of_sort w sorter (gui.clicked clicked column) _ clicked table _ _ false
        (h clicked table htable).rows_lt hframe.store (congrFun hframe.sortStates clicked)
        (rows_sortView_self _ _ hsame)
    · refine (h view table htable).of_longer (rows_sortView_of_ne _ _ hsame) ?_ ?_
      · rw [hframe.sortStates]
        refine Function.update_of_ne ?_ ..
        rintro rfl
        exact hsame htable
      · exact ⟨[], (List.append_nil _).trans (congrArg EventStore.events hframe.store.symm)⟩

/-- **One action keeps the order.** -/
theorem InOrder.guiStep (h : InOrder w gui) {action : GuiAction} (hsucceeds : action.RowsSucceed) :
    InOrder w (guiStep w sorter gui action) := by
  have hkept : ∀ after : GuiState, after.rows = gui.rows → after.sortStates = gui.sortStates →
      after.store = gui.store → InOrder w after := fun after hrows hsort hstore view list htable =>
    (h view list htable).of_longer (congrFun hrows list) (congrFun hsort view)
      (hstore ▸ List.prefix_refl _)
  cases action with
  | drain batch env => exact h.drainEvents hsucceeds.1
  | input env input =>
    cases input with
    | filterTimer =>
      have htimer : InOrder w { gui with filterTimerActive := false } := hkept _ rfl rfl rfl
      exact htimer.rebuildFilteredViews hsucceeds
    | filterSelected selected =>
      have hfilter : InOrder w { gui with eventFilter := selected } := hkept _ rfl rfl rfl
      exact hfilter.rebuildFilteredViews hsucceeds
    | pauseClicked => exact h.togglePause hsucceeds
    | searchChanged | tabSelected => exact hkept _ rfl rfl rfl
    | clearClicked => exact h.clearCurrentView
    | columnClicked list column => exact h.handleColumnClick list column

end

/-- The order in every state of a run. -/
lemma inOrder_guiRun {actions : List GuiAction}
    (hsucceeds : ∀ action ∈ actions, action.RowsSucceed) : InOrder w (guiRun w sorter actions) := by
  refine List.foldlRecOn (motive := fun gui => InOrder w gui) actions (guiStep w sorter) ?_ ?_
  · exact fun view list htable => .of_empty rfl
  · exact fun gui hgui action haction => hgui.guiStep (hsucceeds action haction)

end

/-- The history holds what was drained, and copies of it with the same time. -/
lemma comparable_guiRun {actions : List GuiAction} {column : ℤ}
    (hdrained : ∀ e ∈ drainedBy actions, Comparable w column e) :
    ∀ i < (guiRun w sorter actions).store.eventCount,
      Comparable w column ((guiRun w sorter actions).event i) := by
  have hkept : KeptByDrains w (Comparable w column)
      fun store => ∀ e ∈ store.events, Comparable w column e := by
    refine ⟨fun alloc store event hevent hstore => ?_, fun _ _ hevent => hevent,
      fun event hevent => forall_detectionEvaluate fun _ => hevent⟩
    rcases eventStoreAdd_history alloc store event with ⟨-, -, hevents, -⟩ | ⟨-, -, -, hevents, -⟩
    · rwa [hevents]
    · rw [hevents]
      intro e he
      rcases List.mem_append.mp he with he | he
      · exact hstore e he
      · rw [List.mem_singleton.mp he]
        exact hevent
  have hall := @KeptByDrains.guiRun w sorter _ _ hkept actions hdrained
    (by simp [eventStoreInitialize])
  intro i hi
  refine hall _ ?_
  rw [GuiState.event, List.getD_eq_getElem _ _ hi]
  exact List.getElem_mem hi

/-! ## The times the producers send -/

/-- The time of an event comes from the clock or from a conversion to local time; where those can
be converted back, so can it. -/
lemma isSome_timestamp
    (hlocal : ∀ filetime time, w.fileTimeToLocalSystemTime filetime = some time →
      (w.systemTimeToFileTime time).isSome = true)
    {now : SystemTime} (hnow : (w.systemTimeToFileTime now).isSome = true) (filetime : ULONGLONG) :
    (w.systemTimeToFileTime ((localSystemtimeFromFiletime w filetime).getD now)).isSome = true := by
  rw [localSystemtimeFromFiletime]
  split
  · exact hnow
  · cases htime : w.fileTimeToLocalSystemTime filetime with
    | none => exact hnow
    | some time => exact hlocal filetime time htime

/-- The process monitor sends such times. -/
theorem timed_of_mem_pushed {qsort : QSort snapshotLe} {monitor : ProcessMonitor}
    {input : PollInput}
    (hlocal : ∀ filetime time, w.fileTimeToLocalSystemTime filetime = some time →
      (w.systemTimeToFileTime time).isSome = true)
    (hclock : ∀ i, (w.systemTimeToFileTime (input.clock i)).isSome = true) :
    ∀ e ∈ (processMonitorPoll w qsort monitor input).pushed, Timed w e := by
  unfold processMonitorPoll
  split
  · simp
  · intro e he
    rcases List.mem_append.mp he with he | he
    · obtain ⟨i, hi, rfl⟩ := List.mem_mapIdx.mp he
      exact isSome_timestamp hlocal (hclock i) _
    · unfold pollStops at he
      split at he
      · obtain ⟨i, hi, rfl⟩ := List.mem_mapIdx.mp he
        exact hclock _
      · cases he

/-- So does the ETW callback. -/
theorem timed_etwEventCallback {running : Bool} {env : CallbackEnv} {record : EventRecord}
    {event : TraceGlassEvent}
    (hlocal : ∀ filetime time, w.fileTimeToLocalSystemTime filetime = some time →
      (w.systemTimeToFileTime time).isSome = true)
    (hnow : (w.systemTimeToFileTime env.now).isSome = true)
    (hevent : etwEventCallback w running env record = some event) : Timed w event := by
  unfold etwEventCallback at hevent
  split at hevent
  · cases hevent
  · split at hevent
    · cases hevent
    · obtain rfl := Option.some.inj hevent
      exact isSome_timestamp hlocal hnow _

/-- And so does the network monitor. -/
theorem timed_networkMonitorPoll {qsort : CompareSort NetworkConnectionKey}
    {bsearch : CompareSearch NetworkConnectionKey} {monitor : NetworkMonitor} {input : TcpPollInput}
    (hclock : ∀ i, (w.systemTimeToFileTime (input.answers i).now).isSome = true) :
    ∀ e ∈ (networkMonitorPoll qsort bsearch monitor input).pushed, Timed w e :=
  forall_networkMonitorPoll fun i _ => hclock i

/-- An alert has the time of its event. -/
theorem timed_detectionEvaluate {event : TraceGlassEvent} (h : Timed w event)
    {alertCapacity : ℕ} : ∀ alert ∈ detectionEvaluate w event alertCapacity, Timed w alert :=
  forall_detectionEvaluate fun _ => h

/-- With such times all is in place for the comparison of any column. -/
lemma Timed.comparable {event : TraceGlassEvent} (h : Timed w event) (column : ℤ) :
    Comparable w column event := fun _ => h

/-! ## What the window shows -/

/-- A fresh table holds each selected row once. -/
lemma Fresh.mem_rows_iff {gui : GuiState} (h : Fresh w gui) {view : GuiView} {list : ListControl}
    (htable : listForView view = some list) : (gui.rows list).Nodup ∧
      ∀ i, i ∈ gui.rows list ↔ i < gui.store.eventCount ∧ shows w gui list i = true :=
  ⟨(h view list htable).nodup_iff.mpr (List.nodup_range.filter _),
    fun _ => (h view list htable).mem_iff.trans mem_selected⟩

/-- **The event tables show exactly the selected events.**  Where the insertions succeed, in every
state in which rendering is not paused and no filter timer is pending: the timeline holds, once
each, the events from its floor on that match the search and the selector, and the network and the
alert table hold, once each, the events of their type from their floor on that match the search.
In every state a table the user has sorted is in the order of `compare_event_items`, by times if the
system can convert those of the drained events, as it can those the producers send
(`timed_of_mem_pushed`, `timed_etwEventCallback`, `timed_networkMonitorPoll`). -/
theorem tables_showSelection [Std.TransCmp w.compareStringOrdinal] {actions : List GuiAction}
    (hsucceeds : ∀ action ∈ actions, action.RowsSucceed) {gui : GuiState}
    (hgui : gui = guiRun w sorter actions) :
    (gui.renderingPaused = false → gui.filterTimerActive = false →
      ((gui.rows .timeline).Nodup ∧ ∀ i, i ∈ gui.rows .timeline ↔
        gui.viewFloor .timeline ≤ i ∧ i < gui.store.eventCount ∧
          eventMatchesSearch w gui (gui.event i) = true ∧
          eventMatchesTypeFilter gui (gui.event i) = true) ∧
      ((gui.rows .network).Nodup ∧ ∀ i, i ∈ gui.rows .network ↔
        gui.viewFloor .network ≤ i ∧ i < gui.store.eventCount ∧
          (gui.event i).type = .network ∧ eventMatchesSearch w gui (gui.event i) = true) ∧
      ((gui.rows .alerts).Nodup ∧ ∀ i, i ∈ gui.rows .alerts ↔
        gui.viewFloor .alerts ≤ i ∧ i < gui.store.eventCount ∧
          (gui.event i).type = .alert ∧ eventMatchesSearch w gui (gui.event i) = true)) ∧
    ∀ view list, listForView view = some list → (gui.sortStates view).active = true →
      (∀ e ∈ drainedBy actions, Comparable w (gui.sortStates view).column e) →
        (gui.rows list).Pairwise fun i j =>
          compareEventItems w gui.store (gui.sortStates view) i j ≤ 0 := by
  subst hgui
  have htracked := @tracked_guiRun w sorter actions hsucceeds
  refine ⟨fun hlive hidle => ?_, fun view list htable hactive hdrained => ?_⟩
  · have hfresh := htracked.fresh (htracked.clean hlive) hidle
    generalize guiRun w sorter actions = gui at hfresh
    obtain ⟨htimelineOnce, htimeline⟩ := @Fresh.mem_rows_iff w gui hfresh .timeline _ rfl
    obtain ⟨hnetworkOnce, hnetwork⟩ := @Fresh.mem_rows_iff w gui hfresh .network _ rfl
    obtain ⟨halertsOnce, halerts⟩ := @Fresh.mem_rows_iff w gui hfresh .alerts _ rfl
    simp only [shows, Bool.and_eq_true, decide_eq_true_eq] at htimeline hnetwork halerts
    refine ⟨⟨htimelineOnce, fun i => ?_⟩, ⟨hnetworkOnce, fun i => ?_⟩, halertsOnce, fun i => ?_⟩
    · rw [htimeline]
      tauto
    · rw [hnetwork]
      tauto
    · rw [halerts]
      tauto
  · exact (inOrder_guiRun hsucceeds view list htable).sorted hactive (comparable_guiRun hdrained)

/-- A drain, a click on the names, and another drain while rendering is paused. -/
def pausedDrain : List GuiAction :=
  [drainOne { TraceGlassEvent.zero with process := ⟨8, 5⟩ },
    .input .succeed (.columnClicked .timeline 2), .input .succeed .pauseClicked,
    drainOne { TraceGlassEvent.zero with type := .network, process := ⟨8, 5⟩ },
    .input .succeed .pauseClicked]

theorem tables_showSelection_pausedDrain :
    (0 ∈ (guiRun .sample (.insertion ℕ) pausedDrain).rows .timeline ∧
      1 ∈ (guiRun .sample (.insertion ℕ) pausedDrain).rows .timeline) ∧
    ((guiRun .sample (.insertion ℕ) pausedDrain).rows .timeline).Pairwise fun i j =>
      compareEventItems .sample (guiRun .sample (.insertion ℕ) pausedDrain).store
        ⟨2, true, true, .timeline⟩ i j ≤ 0 := by
  have hsucceeds : ∀ action ∈ pausedDrain, action.RowsSucceed := by
    simp [pausedDrain, drainOne, GuiAction.RowsSucceed, InsertsRows, DrainEnv.succeed,
      UiEnv.succeed]
  obtain ⟨hshown, hordered⟩ :=
    @tables_showSelection .sample (.insertion ℕ) _ pausedDrain hsucceeds _ rfl
  obtain ⟨⟨-, htimeline⟩, -⟩ := hshown (by decide +kernel) (by decide +kernel)
  have hsort : (guiRun .sample (.insertion ℕ) pausedDrain).sortStates .timeline =
      ⟨2, true, true, .timeline⟩ := by decide +kernel
  have hsorted := hordered .timeline .timeline rfl (by rw [hsort])
  rw [hsort] at hsorted
  exact ⟨⟨(htimeline 0).mpr (by decide +kernel), (htimeline 1).mpr (by decide +kernel)⟩,
    hsorted fun _ _ hcolumn => by cases hcolumn⟩

end TraceGlass
