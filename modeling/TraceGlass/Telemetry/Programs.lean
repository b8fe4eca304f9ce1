import TraceGlass.Telemetry.Machine

/-!
# The programs of the threads

`telemetry.c`, the session handling of `etw_monitor.c`, and the parts of `gui.c` and `main.c` that
create and release what the threads share, as programs over the operations of `Machine`.  What only
the window's thread reads is passed along in `GuiGlobals`, `TelemetryEngine` and
`EtwProcessMonitor`.
-/

namespace TraceGlass

open Threads Prog

/-- A program of one of the threads. -/
abbrev Program (α : Type) := Prog Operation Operation.Answer α

/-- Perform one operation. -/
abbrev perform (op : Operation) : Program op.Answer := call op

/-- A call that only the window's thread makes. -/
abbrev ownCall (op : OwnCall) : Program op.Answer := perform (.own op)

/-- An `if` without an `else`. -/
def when (condition : Bool) (p : Program Unit) : Program Unit := if condition then p else pure ()

/-! ## The event queue -/

/-- `push_event`. -/
def pushEventProgram (event : TraceGlassEvent) : Program Unit := do
  if ← perform .queueInitialized then
    match ← perform .mallocNode with
    | none => pure ()
    | some node =>
      perform .enterQueue
      let locals ← perform (.link node event)
      perform .leaveQueue
      perform (.notify locals)
  else pure ()

/-- `pop_event`: whether it got an event. -/
def popEventProgram : Program Bool := do
  if ← perform .queueInitialized then
    perform .enterQueue
    let node ← perform .unlink
    perform .leaveQueue
    match node with
    | none => pure false
    | some node =>
      perform (.freeNode node)
      pure true
  else pure false

/-- `event_queue_set_window`. -/
def eventQueueSetWindowProgram (window : HWND) : Program Unit := do
  if ← perform .queueInitialized then
    perform .enterQueue
    perform (.setNotificationWindow window)
    perform .leaveQueue
  else pure ()

/-- A turn of the loop of `event_queue_destroy` over the nodes. -/
def freeTurn : Option ℕ → Program (Option ℕ ⊕ Unit)
  | none => pure (.inr ())
  | some node => do
    let next ← perform (.nextNode node)
    perform (.freeQueued node)
    pure (.inl next)

/-- `event_queue_destroy`. -/
def eventQueueDestroy : Program Unit := do
  if ← perform .queueInitialized then
    perform .clearInitialized
    perform .enterQueue
    let node ← perform .detachNodes
    perform .leaveQueue
    iterate freeTurn node
    ownCall .deleteQueueLock
  else pure ()

/-! ## The ETW monitor -/

/-- `EtwProcessMonitor`, without `running`. -/
structure EtwProcessMonitor where
  sessionHandle : Bool
  traceHandle : Bool
  thread : Bool
  enabled : Bool
  lastError : DWORD
  deriving DecidableEq

/-- `ZeroMemory`, with an invalid trace handle. -/
def EtwProcessMonitor.zero : EtwProcessMonitor := ⟨false, false, false, false, 0⟩

/-- `ERROR_OUTOFMEMORY`. -/
def EtwProcessMonitor.errorOutOfMemory : DWORD := 14

/-- `ERROR_SUCCESS`. -/
def EtwProcessMonitor.errorSuccess : DWORD := 0

/-- The second `create_trace_properties` of `etw_process_monitor_start`, and that of
`etw_process_monitor_stop`: without the block the session goes on. -/
def stopSession : Program Unit := do
  if ← ownCall .callocProperties then
    ownCall .stopTrace
    ownCall .freeProperties
  else pure ()

/-- `etw_process_monitor_start`. -/
def etwProcessMonitorStart : Program (EtwProcessMonitor × Bool) := do
  ownCall (.setEtwRunning false)
  if ← ownCall .callocProperties then
    let status ← ownCall .startTrace
    if status ≠ EtwProcessMonitor.errorSuccess then
      perform .log
      ownCall .freeProperties
      pure ({ EtwProcessMonitor.zero with lastError := status }, false)
    else
      let status ← ownCall .enableProvider
      if status ≠ EtwProcessMonitor.errorSuccess then
        perform .log
        ownCall .stopTrace
        ownCall .freeProperties
        pure ({ EtwProcessMonitor.zero with lastError := status }, false)
      else
        match ← ownCall .openTrace with
        | some error =>
          perform .log
          ownCall .stopTrace
          ownCall .freeProperties
          pure ({ EtwProcessMonitor.zero with lastError := error }, false)
        | none =>
          ownCall .freeProperties
          ownCall (.setEtwRunning true)
          match ← ownCall .createConsumer with
          | some error =>
            ownCall (.setEtwRunning false)
            ownCall .closeTrace
            stopSession
            pure ({ EtwProcessMonitor.zero with lastError := error }, false)
          | none =>
            perform .log
            pure (⟨true, true, true, true, EtwProcessMonitor.errorSuccess⟩, true)
  else pure ({ EtwProcessMonitor.zero with lastError := EtwProcessMonitor.errorOutOfMemory }, false)

/-- `etw_process_monitor_stop`. -/
def etwProcessMonitorStop (monitor : EtwProcessMonitor) : Program EtwProcessMonitor := do
  if !monitor.enabled then pure monitor
  else
    ownCall (.setEtwRunning false)
    ownCall .disableProvider
    stopSession
    when monitor.traceHandle (ownCall .closeTrace)
    when monitor.thread do
      perform (.waitThread .consumer)
      ownCall .closeConsumer
    pure EtwProcessMonitor.zero

/-- `ERROR_CANCELLED`. -/
def EtwProcessMonitor.errorCancelled : DWORD := 1223

/-- `ProcessTrace` until it ends or has called `etw_event_callback` once. -/
def consumerTurn (setting : Setting) : Program (Unit ⊕ DWORD) := do
  match ← perform .processTrace with
  | .inl status => pure (.inr status)
  | .inr (env, record) =>
    match etwEventCallback setting.win32 (← perform .etwRunning) env record with
    | none => pure (.inl ())
    | some event =>
      pushEventProgram event
      pure (.inl ())

/-- `etw_consumer_thread`. -/
def etwConsumerThread (setting : Setting) : Program Unit := do
  perform .started
  let status ← iterate (fun _ => consumerTurn setting) ()
  when (status ≠ EtwProcessMonitor.errorSuccess && status ≠ EtwProcessMonitor.errorCancelled)
    (perform .log)
  perform .exitThread

/-! ## The telemetry engine -/

/-- `TelemetryEngine`, without the parts the worker reads. -/
structure TelemetryEngine where
  workerThread : Bool
  stopEvent : Bool
  winsockInitialized : Bool
  etw : EtwProcessMonitor
  running : Bool
  deriving DecidableEq

def TelemetryEngine.zero : TelemetryEngine := ⟨false, false, false, .zero, false⟩

/-- Push the events of a poll. -/
def pushAll : List TraceGlassEvent → Program Unit
  | [] => pure ()
  | event :: events => do
    pushEventProgram event
    pushAll events

/-- `process_monitor_poll`. -/
def processMonitorPollProgram (setting : Setting) : Program Unit := do
  let monitor ← perform .processMonitor
  let input ← perform .queryProcesses
  when (input.rows.getD []).isEmpty (perform .log)
  let result := processMonitorPoll setting.win32 setting.processSort monitor input
  pushAll result.pushed
  perform (.setProcessMonitor result.monitor)

/-- `network_monitor_poll`. -/
def networkMonitorPollProgram (setting : Setting) : Program Unit := do
  let monitor ← perform .networkMonitor
  let input ← perform .queryConnections
  when (input.sizeStatus ≠ errorInsufficientBuffer || input.tableSize = 0 ||
    input.malloc && input.tableStatus ≠ noError) (perform .log)
  let result :=
    networkMonitorPoll setting.connectionSort setting.connectionSearch monitor input
  pushAll result.pushed
  perform (.setNetworkMonitor result.monitor)

/-- A turn of the loop of `telemetry_worker`. -/
def workerTurn (setting : Setting) : Program (Unit ⊕ Unit) := do
  if ← perform .stopSignaled then pure (.inr ())
  else
    processMonitorPollProgram setting
    when (← perform .networkAvailable) (networkMonitorPollProgram setting)
    -- the stop event is set, or the time to wait is over
    if ← perform .stopSignaled then pure (.inr ()) else pure (.inl ())

/-- `telemetry_worker`. -/
def telemetryWorker (setting : Setting) : Program Unit := do
  perform .started
  perform .log
  iterate (fun _ => workerTurn setting) ()
  perform .log
  perform .exitThread

/-- `network_monitor_destroy`. -/
def networkMonitorDestroy (engine : TelemetryEngine) : Program TelemetryEngine := do
  when engine.winsockInitialized (ownCall .wsaCleanup)
  perform (.setNetworkMonitor networkMonitorInitialize)
  pure { engine with winsockInitialized := false }

/-- `initialize_telemetry`. -/
def initializeTelemetry : Program (TelemetryEngine × Bool) := do
  ownCall (.setNetworkAvailable false)
  perform (.setProcessMonitor processMonitorInitialize)
  perform (.setNetworkMonitor networkMonitorInitialize)
  let available ← ownCall .wsaStartup
  when (!available) (perform .log)
  ownCall (.setNetworkAvailable available)
  when (!available) (perform .log)
  let engine := { TelemetryEngine.zero with winsockInitialized := available }
  if ← ownCall .createStopEvent then pure ({ engine with stopEvent := true }, true)
  else if available then
    let engine ← networkMonitorDestroy engine
    pure (engine, false)
  else pure (engine, false)

/-- `start_telemetry`. -/
def startTelemetry (engine : TelemetryEngine) : Program (TelemetryEngine × Bool) := do
  if !engine.stopEvent || engine.running then pure (engine, false)
  else
    ownCall .resetStopEvent
    perform .log
    let (etw, enabled) ← etwProcessMonitorStart
    when (!enabled) do
      perform .log
      perform .log
    if ← ownCall .createWorker then
      pure ({ engine with etw := etw, running := true, workerThread := true }, true)
    else
      let etw ← etwProcessMonitorStop etw
      perform .log
      pure ({ engine with etw := etw, running := false }, false)

/-- The first block of `shutdown_telemetry`. -/
def stopWorker (engine : TelemetryEngine) : Program TelemetryEngine := do
  if engine.running then
    ownCall .setStopEvent
    when engine.workerThread do
      perform (.waitThread .worker)
      ownCall .closeWorker
    pure { engine with workerThread := false, running := false }
  else pure engine

/-- The second, behind the monitors. -/
def closeNetwork (engine : TelemetryEngine) : Program TelemetryEngine := do
  if ← perform .networkAvailable then
    let engine ← networkMonitorDestroy engine
    ownCall (.setNetworkAvailable false)
    pure engine
  else pure engine

/-- `shutdown_telemetry`. -/
def shutdownTelemetry (engine : TelemetryEngine) : Program TelemetryEngine := do
  let engine ← stopWorker engine
  let etw ← etwProcessMonitorStop engine.etw
  perform (.setProcessMonitor processMonitorInitialize)
  let engine ← closeNetwork engine
  when engine.stopEvent (ownCall .closeStopEvent)
  pure { engine with etw := etw, stopEvent := false }

/-! ## The window -/

/-- The flags of `g_gui`, and its telemetry engine. -/
structure GuiGlobals where
  shuttingDown : Bool
  telemetryReady : Bool
  queueReady : Bool
  storeReady : Bool
  telemetry : TelemetryEngine
  deriving DecidableEq

def GuiGlobals.zero : GuiGlobals := ⟨false, false, false, false, .zero⟩

/-- The block of `shutdown_gui_state` for the telemetry. -/
def shutdownEngine (gui : GuiGlobals) : Program TelemetryEngine :=
  if gui.telemetryReady then shutdownTelemetry gui.telemetry else pure gui.telemetry

/-- The one for the queue. -/
def shutdownQueue (gui : GuiGlobals) : Program Unit :=
  when gui.queueReady do
    eventQueueSetWindowProgram none
    eventQueueDestroy

/-- `shutdown_gui_state`. -/
def shutdownGuiState (gui : GuiGlobals) : Program GuiGlobals := do
  if gui.shuttingDown then pure gui
  else
    let telemetry ← shutdownEngine gui
    shutdownQueue gui
    when gui.storeReady (ownCall .eventStoreDestroy)
    pure ⟨true, false, false, false, telemetry⟩

/-- A turn of the loop of `drain_events`. -/
def drainTurn : Program (Unit ⊕ Unit) := do
  if ← popEventProgram then
    perform .ingest
    pure (.inl ())
  else pure (.inr ())

/-- `drain_events`. -/
def drainEventsProgram : Program Unit := do
  iterate (fun _ => drainTurn) ()
  perform .finishDrain

/-- One message of the loop of `MessageBoxW`. -/
def messageBoxTurn (gui : GuiGlobals) : Program (Unit ⊕ Unit) := do
  match ← perform (.getMessage gui.queueReady) with
  | .eventsReady =>
    when gui.queueReady drainEventsProgram
    pure (.inl ())
  | .input _ _ => pure (.inl ())
  | _ => pure (.inr ())

/-- `MessageBoxW` on the main window: its own loop still dispatches what is posted to the window. -/
def messageBox (gui : GuiGlobals) : Program Unit := iterate (fun _ => messageBoxTurn gui) ()

/-- `WM_CREATE`: whether it returns 0. -/
def windowCreated (gui : GuiGlobals) : Program (GuiGlobals × Bool) := do
  if ← ownCall .createControls then
    ownCall .eventStoreInitialize
    perform .eventQueueInitialize
    let gui := { gui with storeReady := true, queueReady := true }
    let (telemetry, ready) ← initializeTelemetry
    let gui := { gui with telemetry := telemetry, telemetryReady := ready }
    if ready then
      let (telemetry, started) ← startTelemetry telemetry
      let gui := { gui with telemetry := telemetry }
      if started then
        when (!telemetry.etw.enabled) (perform .log)
        pure (gui, true)
      else
        messageBox gui
        pure (gui, false)
    else
      messageBox gui
      pure (gui, false)
  else
    messageBox gui
    pure (gui, false)

/-- `WM_DESTROY`. -/
def windowDestroyed (gui : GuiGlobals) : Program GuiGlobals := do
  let gui ← shutdownGuiState gui
  ownCall .postQuitMessage
  perform .destroyWindow
  pure gui

/-- `CreateWindowExW`: the window is destroyed again when its `WM_CREATE` fails. -/
def createMainWindow (gui : GuiGlobals) : Program (GuiGlobals × Bool) := do
  if ← ownCall .createWindow then
    let (gui, created) ← windowCreated gui
    if created then pure (gui, true)
    else
      let gui ← windowDestroyed gui
      pure (gui, false)
  else pure (gui, false)

/-- One message of the loop of `gui_run`. -/
def messageTurn (gui : GuiGlobals) : Program (GuiGlobals ⊕ GuiGlobals × ℕ) := do
  match ← perform (.getMessage gui.queueReady) with
  | .quit => pure (.inr (gui, 0))
  | .failed =>
    perform .log
    pure (.inr (gui, 1))
  | .eventsReady =>
    when gui.queueReady drainEventsProgram
    pure (.inl gui)
  | .close =>
    let gui ← windowDestroyed gui
    pure (.inl gui)
  | .input _ _ => pure (.inl gui)

/-- The message loop of `gui_run`, with its result. -/
def messageLoop : GuiGlobals → Program (GuiGlobals × ℕ) := iterate messageTurn

/-- `gui_run`. -/
def guiRunProgram : Program ℕ := do
  if ← ownCall (.registerClass .details) then
    if ← ownCall (.registerClass .main) then
      let (gui, created) ← createMainWindow .zero
      if created then
        let (gui, result) ← messageLoop gui
        let _ ← shutdownGuiState gui
        ownCall (.unregisterClass .main)
        ownCall (.unregisterClass .details)
        pure result
      else
        perform .log
        let _ ← shutdownGuiState gui
        ownCall (.unregisterClass .main)
        ownCall (.unregisterClass .details)
        pure 1
    else
      perform .log
      ownCall (.unregisterClass .details)
      pure 1
  else
    perform .log
    pure 1

/-- `wWinMain`. -/
def wWinMain : Program Unit := do
  ownCall .openLogger
  perform .log
  let _ ← guiRunProgram
  perform .log
  ownCall .closeLogger
  perform .exitThread

/-- What each thread runs; those that have not been created yet wait at their start. -/
def threadProgram (setting : Setting) : ThreadId → Program Unit
  | .window => wWinMain
  | .worker => telemetryWorker setting
  | .consumer => etwConsumerThread setting

/-- The program before its first step, where the system will report this many ETW records. -/
def programStart (setting : Setting) (records : ℕ) :
    Config ThreadId Operation Operation.Answer World :=
  ⟨.initial records, threadProgram setting⟩

end TraceGlass
