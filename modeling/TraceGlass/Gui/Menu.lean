import TraceGlass.Gui.Ingest
import TraceGlass.Gui.Run
import TraceGlass.Store.Placement

/-!
# The context menu of the event lists

`show_context_menu` takes a pointer into the history and holds it over `TrackPopupMenuEx`, a modal
loop that dispatches the posted messages.  Any number of `drain_events` may so run before the
command the user chooses is carried out, each of them adding events to the array the pointer leads
into.

A `PlacedGui` is the window with the buffer its history is in.  `drainCalls` are the calls of
`event_store_add` a drain makes.  `showContextMenu_copies_iff` says that the menu acts on the event
it was opened for exactly if none of the calls made under it has to let the history grow; otherwise
the pointer is read after its block was freed.  How near that is depends on the room in the array
when the menu opens: `MenuFindsRoom.iff_eventCount_le`.
-/

namespace TraceGlass

open SortedArray MovingArray

variable {w : Win32} {sorter : CompareSort ℕ}

/-! ## The texts -/

/-- `format_event_time`. -/
def formatEventTime (capacity : ℕ) [NeZero capacity] (timestamp : SystemTime) : WString capacity :=
  stringCchPrintf capacity
    (formatPadded 2 timestamp.wHour.toNat ++ wide ":" ++
      formatPadded 2 timestamp.wMinute.toNat ++ wide ":" ++
      formatPadded 2 timestamp.wSecond.toNat)

/-- `format_activity`. -/
def formatActivity (capacity : ℕ) [NeZero capacity] (event : TraceGlassEvent) :
    WString capacity :=
  match event.type with
  | .processStart =>
      stringCchPrintf capacity (event.processName.chars ++ wide " started (PID " ++
        formatUnsigned event.process.pid.toNat ++ wide ")")
  | .processStop =>
      stringCchPrintf capacity (event.processName.chars ++ wide " stopped (PID " ++
        formatUnsigned event.process.pid.toNat ++ wide ")")
  | .network =>
      stringCchPrintf capacity (event.processName.chars ++ wide " owns TCP connection: local " ++
        event.localAddress.chars ++ wide ":" ++ formatUnsigned event.localPort.toNat ++
        wide "; remote " ++ event.remoteAddress.chars ++ wide ":" ++
        formatUnsigned event.remotePort.toNat)
  | .file | .registry | .alert =>
      stringCchPrintf capacity
        (eventCategoryName event.type ++ wide ": " ++ event.details.chars)

/-- `format_event_row` into the `WCHAR[2048]` of its caller. -/
def formatEventRow (list : ListControl) (event : TraceGlassEvent) : WString 2048 :=
  let timeText := (formatEventTime 32 event.timestamp).chars
  match list with
  | .network =>
      stringCchPrintf 2048 (timeText ++ wide "\t" ++ event.processName.chars ++ wide "\t" ++
        formatUnsigned event.process.pid.toNat ++ wide "\t" ++ event.protocol.chars ++
        wide "\t" ++ event.localAddress.chars ++ wide ":" ++
        formatUnsigned event.localPort.toNat ++ wide "\t" ++ event.remoteAddress.chars ++
        wide ":" ++ formatUnsigned event.remotePort.toNat ++ wide "\t" ++
        event.networkState.chars)
  | .alerts | .recentAlerts =>
      stringCchPrintf 2048 (timeText ++ wide "\t" ++ alertSeverityName event.severity ++
        wide "\t" ++ event.ruleName.chars ++ wide "\t" ++ event.processName.chars ++
        wide "\t" ++ event.details.chars)
  | .recent =>
      stringCchPrintf 2048 (timeText ++ wide "\t" ++ (formatActivity 1400 event).chars)
  | .timeline =>
      stringCchPrintf 2048 (timeText ++ wide "\t" ++ eventCategoryName event.type ++
        wide "\t" ++ event.processName.chars ++ wide "\t" ++
        formatUnsigned event.process.pid.toNat ++ wide "\t" ++ event.details.chars)

/-! ## The calls of a drain -/

/-- The calls of the alert loop of `drain_events`, from this turn on. -/
def alertCalls (env : DrainEnv) :
    ℕ → List TraceGlassEvent → List (ReallocOutcome × TraceGlassEvent)
  | _, [] => []
  | turn, alert :: alerts => (env.alloc turn, alert) :: alertCalls env (turn + 1) alerts

/-- The calls of one turn of its loop. -/
def turnCalls (w : Win32) (env : DrainEnv) (store : EventStore) (event : TraceGlassEvent) :
    List (ReallocOutcome × TraceGlassEvent) :=
  let result := eventStoreAdd (env.alloc 0) store event
  (env.alloc 0, event) ::
    if result.accepted then
      alertCalls env 1 (detectionEvaluate w result.event maxAlertsPerEvent)
    else []

/-- The calls of `event_store_add` that popping these events leads to. -/
def drainCalls (w : Win32) :
    EventStore → List (DrainEnv × TraceGlassEvent) → List (ReallocOutcome × TraceGlassEvent)
  | _, [] => []
  | store, (env, event) :: batch =>
      let calls := turnCalls w env store event
      calls ++ drainCalls w (calls.foldl addCall store) batch

lemma addAlerts_calls (env : DrainEnv) (turn : ℕ) (gui : GuiState) (locals : DrainLocals)
    (alerts : List TraceGlassEvent) :
    (addAlerts w env turn (gui, locals) alerts).1.store =
      (alertCalls env turn alerts).foldl addCall gui.store := by
  induction alerts generalizing turn gui locals with
  | nil => rfl
  | cons alert alerts ih =>
    simp only [addAlerts]
    rw [ih, addAcceptedEvent_store]
    rfl

/-- A turn of the drain loop makes these calls. -/
lemma drainIteration_calls (env : DrainEnv) (gui : GuiState) (locals : DrainLocals)
    (event : TraceGlassEvent) :
    (drainIteration w env gui locals event).1.store =
      (turnCalls w env gui.store event).foldl addCall gui.store := by
  have haccepted := addAcceptedEvent_accepted (w := w) (env.alloc 0) env.ui gui event
  have hevent := addAcceptedEvent_event (w := w) (env.alloc 0) env.ui gui event
  have hstore := addAcceptedEvent_store (w := w) (env.alloc 0) env.ui gui event
  simp only [drainIteration, turnCalls, haccepted, hevent]
  cases (eventStoreAdd (env.alloc 0) gui.store event).accepted with
  | false => exact hstore
  | true =>
    simp only [Bool.not_true, Bool.false_eq_true, if_false, if_true]
    rw [addAlerts_calls, hstore]
    rfl

/-- **A drain changes the store by its calls alone.** -/
lemma drainEvents_calls (env : UiEnv) (gui : GuiState)
    (batch : List (DrainEnv × TraceGlassEvent)) :
    (drainEvents w sorter env gui batch).store =
      (drainCalls w gui.store batch).foldl addCall gui.store := by
  have hloop : ∀ state : GuiState × DrainLocals, (drainLoop w state batch).1.store =
      (drainCalls w state.1.store batch).foldl addCall state.1.store := by
    induction batch with
    | nil => exact fun _ => rfl
    | cons popped batch ih =>
      intro state
      rw [drainLoop_cons, ih, drainIteration_calls, drainCalls, List.foldl_append]
  rw [drainEvents, finishDrain_store, hloop]

lemma drainCalls_append (store : EventStore) (batch batch' : List (DrainEnv × TraceGlassEvent)) :
    drainCalls w store (batch ++ batch') = drainCalls w store batch ++
      drainCalls w ((drainCalls w store batch).foldl addCall store) batch' := by
  induction batch generalizing store with
  | nil => rfl
  | cons popped batch ih =>
    rw [List.cons_append, drainCalls, drainCalls, ih, List.foldl_append, List.append_assoc]

/-! ## The window in memory -/

/-- The window and the buffer the history of its store is in. -/
structure PlacedGui where
  gui : GuiState
  history : MovingArray TraceGlassEvent
  placed : history.elements = gui.store.events

namespace PlacedGui

/-- Its store. -/
def stored (window : PlacedGui) : PlacedStore := ⟨window.gui.store, window.history, window.placed⟩

@[simp] lemma stored_store (window : PlacedGui) : window.stored.store = window.gui.store := rfl

/-- `drain_events`, which pops these events. -/
def drain (w : Win32) (sorter : CompareSort ℕ) (window : PlacedGui)
    (drained : List (DrainEnv × TraceGlassEvent) × UiEnv) : PlacedGui where
  gui := drainEvents w sorter drained.2 window.gui drained.1
  history := (window.stored.run (drainCalls w window.gui.store drained.1)).history
  placed := by
    rw [PlacedStore.placed, PlacedStore.run_store, drainEvents_calls]
    rfl

/-- The drains a modal loop dispatches. -/
def dispatch (w : Win32) (sorter : CompareSort ℕ) (window : PlacedGui)
    (drains : List (List (DrainEnv × TraceGlassEvent) × UiEnv)) : PlacedGui :=
  drains.foldl (drain w sorter) window

/-- The store makes one run of calls out of them. -/
lemma stored_dispatch (window : PlacedGui)
    (drains : List (List (DrainEnv × TraceGlassEvent) × UiEnv)) :
    (window.dispatch w sorter drains).stored =
      window.stored.run (drainCalls w window.gui.store (drains.flatMap Prod.fst)) := by
  induction drains generalizing window with
  | nil => rfl
  | cons drained drains ih =>
    have hdrain : (window.drain w sorter drained).stored =
        window.stored.run (drainCalls w window.gui.store drained.1) := by
      refine PlacedStore.ext ?_ rfl
      rw [PlacedStore.run_store]
      exact drainEvents_calls drained.2 window.gui drained.1
    have hstore : (window.drain w sorter drained).gui.store =
        (drainCalls w window.gui.store drained.1).foldl addCall window.gui.store :=
      drainEvents_calls drained.2 window.gui drained.1
    rw [dispatch, List.foldl_cons, ← dispatch, ih, hdrain, hstore, List.flatMap_cons,
      drainCalls_append, PlacedStore.run_append]

end PlacedGui

/-! ## The menu -/

/-- The commands of the menu. -/
inductive MenuCommand
  | copyRow
  | copyProcess
  | copyPid
  | copyRemote
  deriving DecidableEq

/-- `IDM_COPY_ROW`, `IDM_COPY_PROCESS`, `IDM_COPY_PID` and `IDM_COPY_REMOTE`. -/
def MenuCommand.id : MenuCommand → UINT
  | .copyRow => 2001
  | .copyProcess => 2002
  | .copyPid => 2003
  | .copyRemote => 2004

/-- The command `show_context_menu` goes on with. -/
def menuCommand (command : UINT) : Option MenuCommand :=
  if command = MenuCommand.copyRow.id then some .copyRow
  else if command = MenuCommand.copyProcess.id then some .copyProcess
  else if command = MenuCommand.copyPid.id then some .copyPid
  else if command = MenuCommand.copyRemote.id then some .copyRemote
  else none

/-- What `show_context_menu` puts into the menu. -/
def menuItems (event : TraceGlassEvent) : List (UINT × List WCHAR) :=
  [(MenuCommand.copyRow.id, wide "Copy row")] ++
    (if event.processName.chars ≠ [] then
      [(MenuCommand.copyProcess.id, wide "Copy process name")]
    else []) ++
    (if event.process.pid ≠ 0 then [(MenuCommand.copyPid.id, wide "Copy PID")] else []) ++
    if event.remoteAddress.chars ≠ [] then
      [(MenuCommand.copyRemote.id, wide "Copy remote address")]
    else []

/-- What a command copies. -/
def copiedText (list : ListControl) (event : TraceGlassEvent) : MenuCommand → WString 2048
  | .copyRow => formatEventRow list event
  | .copyProcess => copyWstring 2048 event.processName.chars
  | .copyPid => stringCchPrintf 2048 (formatUnsigned event.process.pid.toNat)
  | .copyRemote =>
      stringCchPrintf 2048
        (event.remoteAddress.chars ++ wide ":" ++ formatUnsigned event.remotePort.toNat)

/-- The answers `show_context_menu` gets. -/
structure MenuEnv where
  /-- `ListView_GetNextItem`: the selected row. -/
  selected : Option ℕ
  /-- Whether `ListView_GetItem` succeeds on it. -/
  getItem : Bool
  createPopupMenu : Bool
  /-- The runs of `drain_events` while the menu is open, with what each of them pops. -/
  drains : List (List (DrainEnv × TraceGlassEvent) × UiEnv)
  /-- The command chosen from these items, `0` for none. -/
  trackPopupMenuEx : List (UINT × List WCHAR) → UINT

/-- `selected_event_from_list`. -/
def selectedEventFromList (window : PlacedGui) (env : MenuEnv) (list : ListControl) :
    Option Ref :=
  match env.selected with
  | none => none
  | some row =>
      if !env.getItem then none
      else
        match (window.gui.rows list)[row]? with
        | none => none
        | some index =>
            if index ≥ window.gui.store.eventCount then none else some (window.history.ref index)

/-- What comes of the menu: nothing, a text for the clipboard, or a read through a pointer to a
freed block. -/
inductive MenuOutcome
  | nothing
  | copied (text : WString 2048)
  | fault
  deriving DecidableEq

/-- `show_context_menu`. -/
def showContextMenu (w : Win32) (sorter : CompareSort ℕ) (window : PlacedGui) (env : MenuEnv)
    (list : ListControl) : MenuOutcome :=
  match selectedEventFromList window env list with
  | none => .nothing
  | some selected =>
      if !env.createPopupMenu then .nothing
      else
        match window.history.lookup selected with
        | none => .fault
        | some event =>
            let command := env.trackPopupMenuEx (menuItems event)
            let window := window.dispatch w sorter env.drains
            match menuCommand command with
            | none => .nothing
            | some command =>
                match window.history.lookup selected with
                | none => .fault
                | some event => .copied (copiedText list event command)

/-! ## The event the menu was opened for -/

/-- No event popped under the menu makes the history grow. -/
def MenuFindsRoom (w : Win32) (store : EventStore) (env : MenuEnv) : Prop :=
  Machine.Along addCall FindsRoom store (drainCalls w store (env.drains.flatMap Prod.fst))

instance (w : Win32) (store : EventStore) (env : MenuEnv) : Decidable (MenuFindsRoom w store env) :=
  Machine.Along.decidable addCall FindsRoom _ store

/-- The menu's events find room exactly if the history, with them, fits the capacity it had. -/
theorem MenuFindsRoom.iff_eventCount_le {window : PlacedGui} (hb : Bounded window.gui.store)
    (env : MenuEnv) :
    MenuFindsRoom w window.gui.store env ↔
      (window.dispatch w sorter env.drains).gui.store.eventCount ≤
        window.gui.store.eventCapacity := by
  have hstore : (window.dispatch w sorter env.drains).gui.store =
      (drainCalls w window.gui.store (env.drains.flatMap Prod.fst)).foldl addCall
        window.gui.store := by
    rw [← PlacedGui.stored_store, PlacedGui.stored_dispatch, PlacedStore.run_store]
    rfl
  rw [MenuFindsRoom, along_findsRoom_iff hb, hstore]

/-- The pointer is to the event in the selected row. -/
lemma denotes_of_selectedEventFromList {window : PlacedGui} {env : MenuEnv} {list : ListControl}
    {selected : Ref} (h : selectedEventFromList window env list = some selected) :
    window.history.Denotes selected (window.gui.event selected.index) := by
  unfold selectedEventFromList at h
  split at h
  · cases h
  · split at h
    · cases h
    · split at h
      · cases h
      · next index _ =>
        split at h
        · cases h
        · next hlt =>
          have hlt : index < window.gui.store.events.length := Nat.lt_of_not_le hlt
          obtain rfl := Option.some.inj h
          refine denotes_ref ?_
          have hindex : (window.history.ref index).index = index := rfl
          rw [window.placed, hindex, GuiState.event, List.getD_eq_getElem?_getD,
            List.getElem?_eq_getElem hlt]
          rfl

/-- **The pointer after the modal loop**: it leads to the selected event, or to a freed block. -/
lemma dispatch_cases (w : Win32) (sorter : CompareSort ℕ) {window : PlacedGui} {env : MenuEnv}
    {list : ListControl} {selected : Ref}
    (h : selectedEventFromList window env list = some selected) :
    (MenuFindsRoom w window.gui.store env ∧
        (window.dispatch w sorter env.drains).history.lookup selected =
          some (window.gui.event selected.index)) ∨
      (¬MenuFindsRoom w window.gui.store env ∧
        (window.dispatch w sorter env.drains).history.lookup selected = none) := by
  have hhistory : (window.dispatch w sorter env.drains).history =
      (window.stored.run (drainCalls w window.gui.store (env.drains.flatMap Prod.fst))).history :=
    congrArg PlacedStore.history (window.stored_dispatch env.drains)
  rw [hhistory]
  have hdenotes : window.stored.history.Denotes selected (window.gui.event selected.index) :=
    denotes_of_selectedEventFromList h
  rcases PlacedStore.run_cases hdenotes
    (drainCalls w window.gui.store (env.drains.flatMap Prod.fst)) with
    ⟨hroom, hdenotes⟩ | ⟨hfull, hdangles⟩
  · exact Or.inl ⟨hroom, hdenotes.lookup⟩
  · exact Or.inr ⟨hfull, hdangles.lookup⟩

/-- What the menu then comes to, with one of its commands chosen. -/
lemma showContextMenu_cases (w : Win32) (sorter : CompareSort ℕ) {window : PlacedGui}
    {env : MenuEnv} {list : ListControl} {selected : Ref} {command : MenuCommand}
    (hselected : selectedEventFromList window env list = some selected)
    (hmenu : env.createPopupMenu = true)
    (hcommand : menuCommand
      (env.trackPopupMenuEx (menuItems (window.gui.event selected.index))) = some command) :
    (MenuFindsRoom w window.gui.store env ∧ showContextMenu w sorter window env list =
        .copied (copiedText list (window.gui.event selected.index) command)) ∨
      (¬MenuFindsRoom w window.gui.store env ∧
        showContextMenu w sorter window env list = .fault) := by
  have hfirst := (denotes_of_selectedEventFromList hselected).lookup
  rcases dispatch_cases w sorter hselected with ⟨hroom, hlookup⟩ | ⟨hfull, hlookup⟩
  · exact Or.inl ⟨hroom, by simp [showContextMenu, hselected, hmenu, hfirst, hcommand, hlookup]⟩
  · exact Or.inr ⟨hfull, by simp [showContextMenu, hselected, hmenu, hfirst, hcommand, hlookup]⟩

/-- **The menu acts on the event it was opened for exactly if the history does not grow under it**:
then the pointer leads to that event when it is used, and every command copies what it says about
it. -/
theorem showContextMenu_copies_iff (w : Win32) (sorter : CompareSort ℕ) (window : PlacedGui)
    (env : MenuEnv) (list : ListControl) {selected : Ref}
    (hselected : selectedEventFromList window env list = some selected) :
    ((window.dispatch w sorter env.drains).history.lookup selected =
        some (window.gui.event selected.index) ↔ MenuFindsRoom w window.gui.store env) ∧
      ∀ command, env.createPopupMenu = true →
        menuCommand (env.trackPopupMenuEx (menuItems (window.gui.event selected.index))) =
          some command →
        (showContextMenu w sorter window env list =
            .copied (copiedText list (window.gui.event selected.index) command) ↔
          MenuFindsRoom w window.gui.store env) := by
  constructor
  · rcases dispatch_cases w sorter hselected with ⟨hroom, hlookup⟩ | ⟨hfull, hlookup⟩
    · exact iff_of_true hlookup hroom
    · exact iff_of_false (by simp [hlookup]) hfull
  · intro command hmenu hcommand
    rcases showContextMenu_cases w sorter hselected hmenu hcommand with
      ⟨hroom, hcopied⟩ | ⟨hfull, hfault⟩
    · exact iff_of_true hcopied hroom
    · exact iff_of_false (by simp [hfault]) hfull

/-! ## A history about to grow -/

/-- The event of a connection. -/
def connectionEvent : TraceGlassEvent := { TraceGlassEvent.zero with type := .network }

/-- The window after this many connections, with their rows in two of the tables. -/
def connectionsWindow (count : ℕ) : PlacedGui where
  gui :=
    { GuiState.created with
      store := addEvents eventStoreInitialize (List.replicate count connectionEvent)
      rows := fun list =>
        if list = .timeline ∨ list = .network then List.range count else [] }
  history := .ofList (addEvents eventStoreInitialize (List.replicate count connectionEvent)).events
  placed := rfl

lemma connectionsWindow_store (count : ℕ) : (connectionsWindow count).gui.store =
    addEvents eventStoreInitialize (List.replicate count connectionEvent) := rfl

/-- The user opens the menu on the first row and copies it, and one more connection is drained in
between. -/
def copyRowEnv : MenuEnv where
  selected := some 0
  getItem := true
  createPopupMenu := true
  drains := [([(.succeed, connectionEvent)], .succeed)]
  trackPopupMenuEx := fun _ => MenuCommand.copyRow.id

lemma addEvent_connectionEvent {store : EventStore}
    (hroom : sizeAdd store.eventCount 1 ≤ store.eventCapacity) :
    (addEvent store connectionEvent).eventCount = store.eventCount + 1 ∧
      (addEvent store connectionEvent).eventCapacity = store.eventCapacity := by
  have hstage : stageEvent .succeed store connectionEvent =
      .staged { store with networkCount := sizeAdd store.networkCount 1 } := rfl
  have hreserve : reserveEvents true { store with networkCount := sizeAdd store.networkCount 1 }
      (sizeAdd store.eventCount 1) =
        some { store with networkCount := sizeAdd store.networkCount 1 } := by
    rw [reserveEvents, reserve, if_pos hroom]
    rfl
  have hcount : ({ store with networkCount := sizeAdd store.networkCount 1 } :
      EventStore).eventCount = store.eventCount := rfl
  rw [addEvent, eventStoreAdd, hstage]
  simp only [appendEvent, ReallocOutcome.succeed, hcount, hreserve]
  exact ⟨List.length_append, trivial⟩

lemma findsRoom_connectionEvent {store : EventStore}
    (hroom : sizeAdd store.eventCount 1 ≤ store.eventCapacity) :
    FindsRoom store (.succeed, connectionEvent) :=
  Or.inl hroom

/-- The next connection after 256 moves the history. -/
lemma not_findsRoom_connectionEvent {store : EventStore}
    (h : store.eventCount = 256 ∧ store.eventCapacity = 256) :
    ¬FindsRoom store (.succeed, connectionEvent) := by
  have hgrown : (reserve sizeofTraceGlassEvent 256 true 256 (sizeAdd 256 1)).isSome = true := by
    decide
  rintro (hroom | hnone)
  · have hroom : sizeAdd store.eventCount 1 ≤ store.eventCapacity := hroom
    rw [h.1, h.2] at hroom
    exact absurd hroom (by decide)
  · have hnone : reserve sizeofTraceGlassEvent 256 true store.eventCapacity
        (sizeAdd store.eventCount 1) = none := Option.map_eq_none_iff.mp hnone
    rw [h.1, h.2] at hnone
    rw [hnone] at hgrown
    cases hgrown

/-- The first array holds 256 events. -/
lemma capacity_connections {count : ℕ} (hpos : 0 < count) (hcount : count ≤ 256) :
    (addEvents eventStoreInitialize (List.replicate count connectionEvent)).eventCount = count ∧
      (addEvents eventStoreInitialize
        (List.replicate count connectionEvent)).eventCapacity = 256 := by
  induction count, hpos using Nat.le_induction with
  | base => decide
  | succ count hpos ih =>
    obtain ⟨hlength, hcapacity⟩ := ih (Nat.le_of_succ_le hcount)
    have hroom : sizeAdd count 1 ≤ 256 := by
      rw [sizeAdd_eq (by simp only [sizeMax]; omega)]
      exact hcount
    rw [List.replicate_succ', addEvents_snoc]
    have hstore : sizeAdd (addEvents eventStoreInitialize
          (List.replicate count connectionEvent)).eventCount 1 ≤
        (addEvents eventStoreInitialize
          (List.replicate count connectionEvent)).eventCapacity := by
      rwa [hlength, hcapacity]
    obtain ⟨hlength', hcapacity'⟩ := addEvent_connectionEvent hstore
    exact ⟨hlength'.trans (congrArg (· + 1) hlength), hcapacity'.trans hcapacity⟩

lemma selected_connections {count : ℕ} (hpos : 0 < count) (hcount : count ≤ 256) :
    selectedEventFromList (connectionsWindow count) copyRowEnv .timeline = some ⟨0, 0⟩ := by
  have hrow : ((connectionsWindow count).gui.rows .timeline)[0]? = some 0 := by
    simp [connectionsWindow, hpos]
  have hlength : (connectionsWindow count).gui.store.eventCount = count := by
    rw [connectionsWindow_store, (capacity_connections hpos hcount).1]
  have hlt : ¬0 ≥ (connectionsWindow count).gui.store.eventCount := by
    rw [hlength]
    exact Nat.not_le_of_lt hpos
  simp only [selectedEventFromList, copyRowEnv, hrow, Bool.not_true, Bool.false_eq_true, if_false,
    if_neg hlt]
  rfl

/-- The connection gives rise to no alert, so it is all that is added under the menu. -/
lemma menuFindsRoom_copyRowEnv (store : EventStore) :
    MenuFindsRoom Win32.sample store copyRowEnv ↔
      FindsRoom store (.succeed, connectionEvent) := by
  have hquiet : detectionEvaluate Win32.sample connectionEvent maxAlertsPerEvent = [] := by decide
  have halerts : detectionEvaluate Win32.sample
      (eventStoreAdd .succeed store connectionEvent).event maxAlertsPerEvent = [] := by
    rcases eventStoreAdd_history .succeed store connectionEvent with
      ⟨-, hevent, -⟩ | ⟨-, -, hevent, -⟩
    · rw [hevent, hquiet]
    · rw [hevent, stamped, detectionEvaluate_sequence, hquiet]
      rfl
  have hcalls : drainCalls Win32.sample store (copyRowEnv.drains.flatMap Prod.fst) =
      [(.succeed, connectionEvent)] := by
    have hturn : turnCalls Win32.sample .succeed store connectionEvent =
        [(.succeed, connectionEvent)] := by
      simp only [turnCalls, DrainEnv.succeed, halerts, alertCalls, ite_self]
    have hdrain : drainCalls Win32.sample store (copyRowEnv.drains.flatMap Prod.fst) =
        turnCalls Win32.sample .succeed store connectionEvent ++ [] := rfl
    rw [hdrain, hturn]
    rfl
  rw [MenuFindsRoom, hcalls]
  exact Iff.of_eq (and_true _)

/-- With one connection in the history there is room. -/
theorem showContextMenu_copies_iff_room :
    showContextMenu Win32.sample (.insertion ℕ) (connectionsWindow 1) copyRowEnv .timeline =
      .copied (copiedText .timeline ((connectionsWindow 1).gui.event 0) .copyRow) :=
  ((showContextMenu_copies_iff Win32.sample (.insertion ℕ) (connectionsWindow 1) copyRowEnv
    .timeline (selected_connections (by decide) (by decide))).2 .copyRow rfl rfl).mpr
    ((menuFindsRoom_copyRowEnv _).mpr (findsRoom_connectionEvent (by decide)))

/-- With 256 of them the one that is drained moves the history. -/
theorem showContextMenu_faults :
    selectedEventFromList (connectionsWindow 256) copyRowEnv .timeline = some ⟨0, 0⟩ ∧
      ((connectionsWindow 256).dispatch Win32.sample (.insertion ℕ)
        copyRowEnv.drains).history.lookup ⟨0, 0⟩ = none ∧
      showContextMenu Win32.sample (.insertion ℕ) (connectionsWindow 256) copyRowEnv .timeline =
        .fault := by
  have hselected := @selected_connections 256 (by decide) (by decide)
  have hfull : ¬MenuFindsRoom Win32.sample (connectionsWindow 256).gui.store copyRowEnv := by
    rw [menuFindsRoom_copyRowEnv, connectionsWindow_store]
    exact not_findsRoom_connectionEvent (@capacity_connections 256 (by decide) (by decide))
  refine ⟨hselected, ?_, ?_⟩
  · rcases dispatch_cases Win32.sample (.insertion ℕ) hselected with ⟨hroom, -⟩ | ⟨-, hlookup⟩
    · exact absurd hroom hfull
    · exact hlookup
  · have hcommand : menuCommand (copyRowEnv.trackPopupMenuEx
        (menuItems ((connectionsWindow 256).gui.event 0))) = some .copyRow := rfl
    rcases showContextMenu_cases Win32.sample (.insertion ℕ) hselected rfl hcommand with
      ⟨hroom, -⟩ | ⟨-, hfault⟩
    · exact absurd hroom hfull
    · exact hfault

end TraceGlass
