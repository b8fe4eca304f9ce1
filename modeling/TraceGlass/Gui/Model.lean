import TraceGlass.Detection
import TraceGlass.Gui.Compare
import TraceGlass.Gui.Tree
import TraceGlass.Lib.SortedArray
import Mathlib.Logic.Function.Basic

/-!
# The window (`gui.c`)

The window's thread owns the event store and the controls.  `GuiState` is what of `g_gui` the
operations below read and write: a table is the list of the event indices of its rows, and the
tree the list of its items.  The texts of rows, metrics and the status bar are only displayed and
are left out.

`UiEnv` answers the calls that can fail and do not concern the store, and a `CompareSort` stands for
`ListView_SortItems`.  `uiStep` is the part of `main_window_proc` that the user and the timers
reach; `drainIteration` is the loop of `drain_events` once around, and `finishDrain` what follows
the loop.
-/

namespace TraceGlass

open SortedArray

/-- The report-style list controls. -/
inductive ListControl
  | timeline
  | network
  | alerts
  | recent
  | recentAlerts
  deriving DecidableEq, Repr

/-- The answers of the control calls of one message. -/
structure UiEnv where
  /-- `ListView_InsertItem`, for the row of an event. -/
  insertItem : ListControl → ℕ → Bool
  /-- The two `calloc`s of `rebuild_process_tree`. -/
  calloc : Bool
  /-- `TreeView_InsertItem`, for the node of a record. -/
  insertNode : ℕ → Bool

/-- Every call succeeds. -/
def UiEnv.succeed : UiEnv := ⟨fun _ _ => true, true, fun _ => true⟩

/-- The fields of `GuiState` below the controls, and what the controls hold. -/
structure GuiState where
  store : EventStore
  rows : ListControl → List ℕ
  processTree : List TreeItem
  sortStates : GuiView → SortState
  viewFloor : GuiView → ℕ
  /-- The text of the search box. -/
  searchText : List WCHAR
  /-- `CB_GETCURSEL` of the event selector. -/
  eventFilter : ℤ
  /-- `TabCtrl_GetCurSel` of the navigation. -/
  navigation : ℤ
  renderingPaused : Bool
  renderDirty : Bool
  filterTimerActive : Bool

/-- The window after `WM_CREATE`. -/
def GuiState.created : GuiState where
  store := eventStoreInitialize
  rows := fun _ => []
  processTree := []
  sortStates := fun view => ⟨0, true, false, view⟩
  viewFloor := fun _ => 0
  searchText := []
  eventFilter := 0
  navigation := 0
  renderingPaused := false
  renderDirty := false
  filterTimerActive := false

namespace GuiState

variable (gui : GuiState)

/-- `g_gui.store.events[index]`. -/
def event (index : ℕ) : TraceGlassEvent := gui.store.events.getD index .zero

/-- Replace the rows of a list control. -/
def setRows (list : ListControl) (rows : List ℕ) : GuiState :=
  { gui with rows := Function.update gui.rows list rows }

end GuiState

/-! ## Filters -/

/-- `event_matches_search`. -/
def eventMatchesSearch (w : Win32) (gui : GuiState) (event : TraceGlassEvent) : Bool :=
  let filter := (copyWstring 256 gui.searchText).chars
  if filter = [] then true
  else
    let numericFields := (stringCchPrintf 96
      (formatUnsigned event.process.pid.toNat ++ wide " " ++
        formatUnsigned event.parent.pid.toNat ++ wide " " ++
        formatUnsigned event.localPort.toNat ++ wide " " ++
        formatUnsigned event.remotePort.toNat)).chars
    stringContainsInsensitive w event.processName.chars filter ||
      stringContainsInsensitive w event.parentName.chars filter ||
      stringContainsInsensitive w event.executablePath.chars filter ||
      stringContainsInsensitive w event.details.chars filter ||
      stringContainsInsensitive w event.remoteAddress.chars filter ||
      stringContainsInsensitive w event.localAddress.chars filter ||
      stringContainsInsensitive w event.protocol.chars filter ||
      stringContainsInsensitive w event.networkState.chars filter ||
      stringContainsInsensitive w event.ruleName.chars filter ||
      stringContainsInsensitive w (eventTypeName event.type) filter ||
      stringContainsInsensitive w (eventCategoryName event.type) filter ||
      stringContainsInsensitive w numericFields filter

/-- `event_matches_type_filter`; `CB_ERR` is `-1`. -/
def eventMatchesTypeFilter (gui : GuiState) (event : TraceGlassEvent) : Bool :=
  if gui.eventFilter ≤ 0 then true
  else if gui.eventFilter = 1 then event.type == .processStart || event.type == .processStop
  else if gui.eventFilter = 2 then event.type == .network
  else if gui.eventFilter = 3 then event.type == .alert
  else true

/-! ## Rows -/

/-- `insert_list_item`: the row goes to the end of the list. -/
def insertListItem (env : UiEnv) (gui : GuiState) (list : ListControl) (index : ℕ) : GuiState :=
  if env.insertItem list index then gui.setRows list (gui.rows list ++ [index]) else gui

/-- `add_timeline_row`. -/
def addTimelineRow (w : Win32) (env : UiEnv) (gui : GuiState) (index : ℕ) : GuiState :=
  if !eventMatchesSearch w gui (gui.event index) ||
      !eventMatchesTypeFilter gui (gui.event index) then gui
  else insertListItem env gui .timeline index

/-- `add_network_row`. -/
def addNetworkRow (w : Win32) (env : UiEnv) (gui : GuiState) (index : ℕ) : GuiState :=
  if !eventMatchesSearch w gui (gui.event index) then gui
  else insertListItem env gui .network index

/-- `add_alert_row`. -/
def addAlertRow (w : Win32) (env : UiEnv) (gui : GuiState) (index : ℕ) : GuiState :=
  if !eventMatchesSearch w gui (gui.event index) then gui
  else insertListItem env gui .alerts index

/-- The rows of one event, as `add_accepted_event` and `rebuild_event_lists` both add them. -/
def addEventRows (w : Win32) (env : UiEnv) (gui : GuiState) (index : ℕ) : GuiState :=
  let gui := if index ≥ gui.viewFloor .timeline then addTimelineRow w env gui index else gui
  if (gui.event index).type = .network ∧ index ≥ gui.viewFloor .network then
    addNetworkRow w env gui index
  else if (gui.event index).type = .alert ∧ index ≥ gui.viewFloor .alerts then
    addAlertRow w env gui index
  else gui

/-! ## Sorting -/

/-- `list_for_view`. -/
def listForView : GuiView → Option ListControl
  | .network => some .network
  | .timeline => some .timeline
  | .alerts => some .alerts
  | .overview => none
  | .processes => none

/-- `sort_view`. -/
def sortView (w : Win32) (sorter : CompareSort ℕ) (gui : GuiState) (view : GuiView)
    (forceDefault : Bool) : GuiState :=
  match listForView view with
  | none => gui
  | some list =>
      let sort := gui.sortStates view
      if !sort.active && !forceDefault then gui
      else
        let sort : SortState := if sort.active then sort else ⟨0, true, false, view⟩
        gui.setRows list (sorter.sort (compareEventItems w gui.store sort) (gui.rows list))

/-- `handle_column_click`. -/
def handleColumnClick (w : Win32) (sorter : CompareSort ℕ) (gui : GuiState) (list : ListControl)
    (column : ℤ) : GuiState :=
  let clicked (view : GuiView) : GuiState :=
    let sort := gui.sortStates view
    let sort :=
      if sort.active ∧ sort.column = column then { sort with ascending := !sort.ascending }
      else { sort with column := column, ascending := true, active := true }
    sortView w sorter { gui with sortStates := Function.update gui.sortStates view sort } view false
  match list with
  | .network => clicked .network
  | .timeline => clicked .timeline
  | .alerts => clicked .alerts
  | .recent => gui
  | .recentAlerts => gui

/-! ## Rebuilding -/

/-- `rebuild_event_lists`. -/
def rebuildEventLists (w : Win32) (sorter : CompareSort ℕ) (env : UiEnv) (gui : GuiState) :
    GuiState :=
  let gui := ((gui.setRows .timeline []).setRows .network []).setRows .alerts []
  let gui := (List.range gui.store.eventCount).foldl (addEventRows w env) gui
  let gui := sortView w sorter gui .timeline true
  let gui := sortView w sorter gui .network true
  sortView w sorter gui .alerts true

/-- `RECENT_EVENT_LIMIT`. -/
def recentEventLimit : ℕ := 8

/-- `RECENT_ALERT_LIMIT`. -/
def recentAlertLimit : ℕ := 5

/-- The two lists `rebuild_overview_lists` fills, with its counters. -/
structure OverviewLists where
  recent : List ℕ
  recentAlerts : List ℕ
  activityCount : ℕ
  alertCount : ℕ

/-- The condition the loop of `rebuild_overview_lists` breaks on. -/
def OverviewLists.full (lists : OverviewLists) : Bool :=
  lists.activityCount ≥ recentEventLimit && lists.alertCount ≥ recentAlertLimit

/-- The loop of `rebuild_overview_lists`, from `index` down to the floor. -/
def overviewLoop (w : Win32) (env : UiEnv) (gui : GuiState) : ℕ → OverviewLists → OverviewLists
  | 0, lists => lists
  | eventIndex + 1, lists =>
      if eventIndex + 1 > gui.viewFloor .overview then
        let event := gui.event eventIndex
        if !eventMatchesSearch w gui event || !eventMatchesTypeFilter gui event then
          overviewLoop w env gui eventIndex lists
        else if event.type = .alert then
          if lists.alertCount ≥ recentAlertLimit then overviewLoop w env gui eventIndex lists
          else
            let lists :=
              if env.insertItem .recentAlerts eventIndex then
                { lists with
                  recentAlerts := lists.recentAlerts ++ [eventIndex]
                  alertCount := lists.alertCount + 1 }
              else lists
            if lists.full then lists else overviewLoop w env gui eventIndex lists
        else if lists.activityCount ≥ recentEventLimit then
          overviewLoop w env gui eventIndex lists
        else
          let lists :=
            if env.insertItem .recent eventIndex then
              { lists with
                recent := lists.recent ++ [eventIndex]
                activityCount := lists.activityCount + 1 }
            else lists
          if lists.full then lists else overviewLoop w env gui eventIndex lists
      else lists

/-- `rebuild_overview_lists`. -/
def rebuildOverviewLists (w : Win32) (env : UiEnv) (gui : GuiState) : GuiState :=
  let lists := overviewLoop w env gui gui.store.eventCount ⟨[], [], 0, 0⟩
  (gui.setRows .recent lists.recent).setRows .recentAlerts lists.recentAlerts

/-- `rebuild_process_tree`. -/
def rebuildProcessTree (env : UiEnv) (gui : GuiState) : GuiState :=
  { gui with processTree := rebuiltProcessTree env.calloc env.insertNode gui.store }

/-! ## The user's operations -/

/-- `rebuild_filtered_views`. -/
def rebuildFilteredViews (w : Win32) (sorter : CompareSort ℕ) (env : UiEnv) (gui : GuiState) :
    GuiState :=
  if gui.renderingPaused then { gui with renderDirty := true }
  else rebuildOverviewLists w env (rebuildEventLists w sorter env gui)

/-- `toggle_pause`. -/
def togglePause (w : Win32) (sorter : CompareSort ℕ) (env : UiEnv) (gui : GuiState) : GuiState :=
  let gui := { gui with renderingPaused := !gui.renderingPaused }
  if !gui.renderingPaused && gui.renderDirty then
    let gui := rebuildEventLists w sorter env gui
    let gui := rebuildProcessTree env gui
    let gui := rebuildOverviewLists w env gui
    { gui with renderDirty := false }
  else gui

/-- `current_view`. -/
def currentView (gui : GuiState) : GuiView :=
  match gui.navigation with
  | 1 => .processes
  | 2 => .network
  | 3 => .timeline
  | 4 => .alerts
  | _ => .overview

/-- `clear_current_view`. -/
def clearCurrentView (gui : GuiState) : GuiState :=
  let view := currentView gui
  if view = .processes then gui
  else
    let gui :=
      { gui with viewFloor := Function.update gui.viewFloor view gui.store.eventCount }
    match view with
    | .overview => (gui.setRows .recent []).setRows .recentAlerts []
    | .network => gui.setRows .network []
    | .timeline => gui.setRows .timeline []
    | .alerts => gui.setRows .alerts []
    | .processes => gui

/-- The messages of `main_window_proc` through which the user and the filter timer act on the
views. -/
inductive UiInput
  /-- `WM_TIMER` with `TIMER_FILTER`. -/
  | filterTimer
  /-- `EN_CHANGE` of the search box, with its new text. -/
  | searchChanged (text : List WCHAR)
  /-- `CBN_SELCHANGE` of the event selector, with the new selection. -/
  | filterSelected (selected : ℤ)
  | pauseClicked
  | clearClicked
  /-- `TCN_SELCHANGE` of the navigation, with the new tab. -/
  | tabSelected (tab : ℤ)
  /-- `LVN_COLUMNCLICK`. -/
  | columnClicked (list : ListControl) (column : ℤ)

/-- One of these messages. -/
def uiStep (w : Win32) (sorter : CompareSort ℕ) (env : UiEnv) (gui : GuiState) :
    UiInput → GuiState
  | .filterTimer => rebuildFilteredViews w sorter env { gui with filterTimerActive := false }
  | .searchChanged text => { gui with searchText := text, filterTimerActive := true }
  | .filterSelected selected =>
      rebuildFilteredViews w sorter env { gui with eventFilter := selected }
  | .pauseClicked => togglePause w sorter env gui
  | .clearClicked => clearCurrentView gui
  | .tabSelected tab => { gui with navigation := tab }
  | .columnClicked list column => handleColumnClick w sorter gui list column

/-! ## Draining -/

/-- The answers one turn of the drain loop gets: `alloc k` those of its `k`-th
`event_store_add`. -/
structure DrainEnv where
  alloc : ℕ → ReallocOutcome
  ui : UiEnv

/-- Every call succeeds. -/
def DrainEnv.succeed : DrainEnv := ⟨fun _ => .succeed, .succeed⟩

/-- `add_accepted_event`: its return value, the event it stamped, and the window. -/
def addAcceptedEvent (w : Win32) (alloc : ReallocOutcome) (env : UiEnv) (gui : GuiState)
    (event : TraceGlassEvent) : Bool × TraceGlassEvent × GuiState :=
  let result := eventStoreAdd alloc gui.store event
  let gui := { gui with store := result.store }
  if !result.ok then (false, result.event, gui)
  else if !result.accepted then (false, result.event, gui)
  else
    let index := gui.store.eventCount - 1
    (true, result.event, if !gui.renderingPaused then addEventRows w env gui index else gui)

/-- The locals of `drain_events` that outlive a turn of its loop. -/
structure DrainLocals where
  countBefore : ℕ
  treeChanged : Bool
  anyAccepted : Bool
  deriving DecidableEq

/-- The locals `drain_events` starts with. -/
def beginDrain (gui : GuiState) : DrainLocals := ⟨gui.store.eventCount, false, false⟩

/-- The inner loop of `drain_events`, from the alert that is the turn's `turn`-th addition on. -/
def addAlerts (w : Win32) (env : DrainEnv) :
    ℕ → GuiState × DrainLocals → List TraceGlassEvent → GuiState × DrainLocals
  | _, state, [] => state
  | turn, (gui, locals), alert :: alerts =>
      let (accepted, _, gui) := addAcceptedEvent w (env.alloc turn) env.ui gui alert
      addAlerts w env (turn + 1)
        (gui, if accepted then { locals with anyAccepted := true } else locals) alerts

/-- One turn of the loop of `drain_events`, on a popped event. -/
def drainIteration (w : Win32) (env : DrainEnv) (gui : GuiState) (locals : DrainLocals)
    (event : TraceGlassEvent) : GuiState × DrainLocals :=
  let (accepted, event, gui) := addAcceptedEvent w (env.alloc 0) env.ui gui event
  if !accepted then (gui, locals)
  else
    let locals := { locals with anyAccepted := true }
    let locals :=
      if event.type = .processStart ∨ event.type = .processStop then
        { locals with treeChanged := true }
      else locals
    addAlerts w env 1 (gui, locals) (detectionEvaluate w event maxAlertsPerEvent)

/-- What `drain_events` does after its loop. -/
def finishDrain (w : Win32) (sorter : CompareSort ℕ) (env : UiEnv) (gui : GuiState)
    (locals : DrainLocals) : GuiState :=
  if !locals.anyAccepted then gui
  else if gui.renderingPaused then { gui with renderDirty := true }
  else
    let gui := if locals.treeChanged then rebuildProcessTree env gui else gui
    let gui := rebuildOverviewLists w env gui
    let force := decide (locals.countBefore = 0)
    let gui := sortView w sorter gui .timeline force
    let gui := sortView w sorter gui .network force
    sortView w sorter gui .alerts force

end TraceGlass
