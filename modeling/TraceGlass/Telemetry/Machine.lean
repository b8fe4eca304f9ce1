import TraceGlass.App.Model
import TraceGlass.Etw.Model
import TraceGlass.Lib.Threads
import TraceGlass.Monitor.Model
import TraceGlass.Network.Model
import Mathlib.Data.Fintype.Basic

/-!
# The world the threads share

Three threads run: the one of the window, which is the main thread, the polling worker and the ETW
consumer.  `World` is what they share, with what each of them holds on its way through
`push_event` and `pop_event`; `Operation` lists the calls into Windows and the C runtime and the
accesses to shared memory, and `execute` says what each of them does.  What Windows answers is a
`Choice`, and an operation that has to wait has no answer.

The resources only the window's thread creates and releases are apart from the rest: those of the
window in `Shell`, those of the telemetry engine in `Resources`.  Each of them exists at most once
in a run, so that a handle is whether its object has been created and released.
-/

namespace TraceGlass

open Threads SortedArray

inductive ThreadId
  | window
  /-- `telemetry_worker`. -/
  | worker
  /-- `etw_consumer_thread`. -/
  | consumer
  deriving DecidableEq

instance : Fintype ThreadId := ⟨{.window, .worker, .consumer}, fun t => by cases t <;> decide⟩

/-- An object of the system that is created and released once. -/
inductive Life
  | absent
  | live
  | gone
  deriving DecidableEq

/-- The window classes of `gui_run`. -/
inductive WindowClass
  /-- `TRACEGLASS_DETAILS_CLASS`. -/
  | details
  /-- `TRACEGLASS_WINDOW_CLASS`. -/
  | main
  deriving DecidableEq

/-- Which of them are registered. -/
structure WindowClasses where
  details : Bool
  main : Bool
  deriving DecidableEq

/-- Whether a class is registered. -/
def WindowClasses.registered (classes : WindowClasses) : WindowClass → Bool
  | .details => classes.details
  | .main => classes.main

/-- Register a class, or take it away. -/
def WindowClasses.set (classes : WindowClasses) (registered : Bool) : WindowClass → WindowClasses
  | .details => { classes with details := registered }
  | .main => { classes with main := registered }

/-- What the window's thread has set up outside the telemetry engine. -/
structure Shell where
  logger : Life
  classes : WindowClasses
  window : HWND
  quitPosted : Bool
  /-- Whether `GetMessageW` has ever failed. -/
  messagesFailed : Bool
  store : Life
  /-- The critical section of the event queue. -/
  lock : Life
  deriving DecidableEq

/-- What the ETW monitor has set up. -/
structure EtwResources where
  /-- The session runs. -/
  session : Bool
  /-- The consumer's end of the session. -/
  trace : Life
  /-- The handle of the consumer's thread. -/
  thread : Life
  /-- `running` of the monitor. -/
  running : Bool
  /-- How many blocks of `create_trace_properties` are allocated. -/
  properties : ℕ
  /-- Whether `calloc` has ever refused such a block. -/
  refused : Bool
  /-- Whether `ControlTraceW` has ever failed to stop the session. -/
  unstopped : Bool
  deriving DecidableEq

/-- There is nothing left to trace: the session has been stopped, or the consumer's end of it
closed. -/
def EtwResources.over (etw : EtwResources) : Bool := !etw.session || etw.trace != .live

/-- What the telemetry engine has set up. -/
structure Resources where
  stopEvent : Life
  /-- The stop event is set. -/
  signaled : Bool
  /-- The handle of the worker's thread. -/
  workerThread : Life
  winsock : Life
  networkAvailable : Bool
  etw : EtwResources
  deriving DecidableEq

structure World where
  shell : Shell
  resources : Resources
  queue : EventQueue
  /-- The thread inside the critical section of the queue. -/
  holder : Option ThreadId
  /-- The node a thread has allocated and not linked yet, or unlinked and not freed yet. -/
  node : ThreadId → Option ℕ
  /-- What a thread has left the section of `push_event` with, until it has posted. -/
  between : ThreadId → Option PushLocals
  ended : ThreadId → Bool
  /-- The notifications posted to the window and not taken yet. -/
  posted : List UINT
  processMonitor : ProcessMonitor
  networkMonitor : NetworkMonitor
  /-- The records the ETW session is still going to deliver. -/
  records : ℕ
  thread : WindowThread
  /-- The event the window's thread has popped and not added yet, with what the additions of this
  turn of the drain loop are going to be answered. -/
  hand : Option (DrainEnv × TraceGlassEvent)
  gui : GuiState

/-- The world before `wWinMain`. -/
def World.initial (records : ℕ) : World where
  shell := ⟨.absent, ⟨false, false⟩, none, false, false, .absent, .absent⟩
  resources := ⟨.absent, false, .absent, .absent, false,
    ⟨false, .absent, .absent, false, 0, false, false⟩⟩
  queue := ⟨fun _ => none, none, none, none, 0, false, false⟩
  holder := none
  node := fun _ => none
  between := fun _ => none
  ended := fun _ => false
  posted := []
  processMonitor := processMonitorInitialize
  networkMonitor := networkMonitorInitialize
  records := records
  thread := .idle
  hand := none
  gui := .created

/-- The thread has been created. -/
def World.created (world : World) : ThreadId → Bool
  | .window => true
  | .worker => world.resources.workerThread != .absent
  | .consumer => world.resources.etw.thread != .absent

/-- The thread runs, or is going to. -/
def World.active (world : World) (t : ThreadId) : Bool := world.created t && !world.ended t

/-! ## Operations -/

/-- The messages of the main window and of its thread that the model tells apart. -/
inductive Message
  /-- `WM_QUIT`, for which `GetMessageW` answers 0. -/
  | quit
  /-- `GetMessageW` answers -1. -/
  | failed
  | eventsReady
  /-- `WM_CLOSE`. -/
  | close
  /-- A message of the user or of the filter timer, with what the controls answer. -/
  | input (env : UiEnv) (input : UiInput)

/-- What Windows and the C runtime answer to one operation, where they have a choice. -/
structure Choice where
  ok : Bool
  /-- The status of a tracing call. -/
  status : DWORD
  node : Option ℕ
  window : ℕ
  message : Message
  /-- What `ProcessTrace` does next: end with a status, or call back with a record. -/
  trace : DWORD ⊕ (CallbackEnv × EventRecord)
  processes : PollInput
  connections : TcpPollInput
  drain : DrainEnv
  ui : UiEnv

/-- Every call succeeds, nothing is left to deliver, and a loop that asks for a message gets
`WM_QUIT`. -/
def Choice.plain : Choice where
  ok := true
  status := 0
  node := none
  window := 1
  message := .quit
  trace := .inl 0
  processes := ⟨some [], fun _ => true, fun _ => .zero⟩
  connections := ⟨0, 0, true, 0, [], true, fun _ => ⟨none, none, .zero⟩⟩
  drain := .succeed
  ui := .succeed

/-- The calls by which the window's thread creates and releases what only it does. -/
inductive OwnCall
  /-- `logger_initialize`. -/
  | openLogger
  /-- `logger_shutdown`. -/
  | closeLogger
  | registerClass (windowClass : WindowClass)
  | unregisterClass (windowClass : WindowClass)
  /-- `CreateWindowExW`, up to the window's `WM_CREATE`. -/
  | createWindow
  /-- `recreate_fonts` and `create_controls`. -/
  | createControls
  | postQuitMessage
  | eventStoreInitialize
  | eventStoreDestroy
  /-- `DeleteCriticalSection` on the lock of the queue. -/
  | deleteQueueLock
  | createStopEvent
  | resetStopEvent
  | setStopEvent
  | closeStopEvent
  | createWorker
  | closeWorker
  | wsaStartup
  | wsaCleanup
  | setNetworkAvailable (available : Bool)
  /-- `calloc` in `create_trace_properties`. -/
  | callocProperties
  | freeProperties
  /-- `StartTraceW`. -/
  | startTrace
  /-- `EnableTraceEx2`, enabling the provider. -/
  | enableProvider
  /-- `EnableTraceEx2`, disabling it. -/
  | disableProvider
  /-- `ControlTraceW` with `EVENT_TRACE_CONTROL_STOP`, which can fail. -/
  | stopTrace
  | openTrace
  | closeTrace
  | setEtwRunning (running : Bool)
  | createConsumer
  | closeConsumer

/-- Their answers: whether the call succeeded, its status, or the error it failed with. -/
abbrev OwnCall.Answer : OwnCall → Type
  | .registerClass _ | .createWindow | .createControls | .createStopEvent | .createWorker
  | .wsaStartup | .callocProperties => Bool
  | .startTrace | .enableProvider => DWORD
  | .openTrace | .createConsumer => Option DWORD
  | _ => Unit

/-- What the calls of the ETW monitor do. -/
def OwnCall.executeEtw (choice : Choice) (etw : EtwResources) :
    (call : OwnCall) → EtwResources
  | .callocProperties =>
      if choice.ok then { etw with properties := etw.properties + 1 }
      else { etw with refused := true }
  | .freeProperties => { etw with properties := etw.properties - 1 }
  | .startTrace => if choice.status = 0 then { etw with session := true } else etw
  | .stopTrace =>
      { etw with session := etw.session && !choice.ok, unstopped := etw.unstopped || !choice.ok }
  | .openTrace => if choice.ok then { etw with trace := .live } else etw
  | .closeTrace => { etw with trace := .gone }
  | .setEtwRunning running => { etw with running := running }
  | .createConsumer => if choice.ok then { etw with thread := .live } else etw
  | .closeConsumer => { etw with thread := .gone }
  | _ => etw

/-- What the calls of the telemetry engine do. -/
def OwnCall.executeTelemetry (choice : Choice) (r : Resources) : (call : OwnCall) → Resources
  | .createStopEvent => if choice.ok then { r with stopEvent := .live } else r
  | .resetStopEvent => { r with signaled := false }
  | .setStopEvent => { r with signaled := true }
  | .closeStopEvent => { r with stopEvent := .gone }
  | .createWorker => if choice.ok then { r with workerThread := .live } else r
  | .closeWorker => { r with workerThread := .gone }
  | .wsaStartup => if choice.ok then { r with winsock := .live } else r
  | .wsaCleanup => { r with winsock := .gone }
  | .setNetworkAvailable available => { r with networkAvailable := available }
  | call => { r with etw := call.executeEtw choice r.etw }

/-- What the calls of the window do. -/
def OwnCall.executeShell (choice : Choice) (shell : Shell) : (call : OwnCall) → Shell
  | .openLogger => { shell with logger := .live }
  | .closeLogger => { shell with logger := .gone }
  | .registerClass windowClass =>
      if choice.ok then { shell with classes := shell.classes.set true windowClass } else shell
  | .unregisterClass windowClass =>
      -- a class stays while it has a window; the windows for details belong to the main window
      if shell.window = none ∨ windowClass = .details ∧ choice.ok = true then
        { shell with classes := shell.classes.set false windowClass }
      else shell
  | .createWindow => if choice.ok then { shell with window := some choice.window } else shell
  | .postQuitMessage => { shell with quitPosted := true }
  | .eventStoreInitialize => { shell with store := .live }
  | .eventStoreDestroy => { shell with store := .gone }
  | .deleteQueueLock => { shell with lock := .gone }
  | _ => shell

/-- What such a call answers. -/
def OwnCall.answer (choice : Choice) : (call : OwnCall) → call.Answer
  | .registerClass _ | .createWindow | .createControls | .createStopEvent | .createWorker
  | .wsaStartup | .callocProperties => choice.ok
  | .startTrace | .enableProvider => choice.status
  | .openTrace | .createConsumer => if choice.ok then none else some choice.status
  | .openLogger | .closeLogger | .unregisterClass _ | .postQuitMessage | .eventStoreInitialize
  | .eventStoreDestroy | .deleteQueueLock | .resetStopEvent | .setStopEvent | .closeStopEvent
  | .closeWorker | .wsaCleanup | .setNetworkAvailable _ | .freeProperties | .disableProvider
  | .stopTrace | .closeTrace | .setEtwRunning _ | .closeConsumer => ()

/-- The operations of the threads. -/
inductive Operation
  | own (call : OwnCall)
  /-- `logger_write`. -/
  | log
  /-- `event_queue_initialize`. -/
  | eventQueueInitialize
  /-- Read `initialized` of the queue. -/
  | queueInitialized
  | enterQueue
  | leaveQueue
  /-- `malloc` in `push_event`. -/
  | mallocNode
  /-- The critical section of `push_event`. -/
  | link (node : ℕ) (event : TraceGlassEvent)
  /-- What `push_event` does behind its critical section. -/
  | notify (locals : PushLocals)
  /-- The critical section of `pop_event`; the answer is the node it unlinked. -/
  | unlink
  /-- `free` in `pop_event`. -/
  | freeNode (node : ℕ)
  /-- The critical section of `event_queue_set_window`. -/
  | setNotificationWindow (window : HWND)
  /-- `InterlockedExchange` of `initialized` in `event_queue_destroy`. -/
  | clearInitialized
  /-- The critical section of `event_queue_destroy`; the answer is the first node. -/
  | detachNodes
  /-- `node->next` in `event_queue_destroy`. -/
  | nextNode (node : ℕ)
  /-- `free` in `event_queue_destroy`. -/
  | freeQueued (node : ℕ)
  /-- `GetMessageW`, and what the message does to the views at once; with the queue ready a
  notification starts a drain. -/
  | getMessage (queueReady : Bool)
  /-- The body of the loop of `drain_events`, on the event it popped. -/
  | ingest
  /-- What `drain_events` does behind its loop. -/
  | finishDrain
  /-- `DestroyWindow`, after `WM_DESTROY`. -/
  | destroyWindow
  /-- `WaitForSingleObject` on the stop event: whether it is set. -/
  | stopSignaled
  /-- `WaitForSingleObject` on a thread. -/
  | waitThread (thread : ThreadId)
  /-- The start of a created thread. -/
  | started
  /-- The end of a thread. -/
  | exitThread
  | networkAvailable
  /-- Write the process monitor: `process_monitor_initialize`, `process_monitor_destroy` and the end
  of a poll. -/
  | setProcessMonitor (monitor : ProcessMonitor)
  | processMonitor
  /-- What `process_monitor_poll` reads from the system. -/
  | queryProcesses
  | setNetworkMonitor (monitor : NetworkMonitor)
  | networkMonitor
  /-- What `network_monitor_poll` reads from the system. -/
  | queryConnections
  | etwRunning
  /-- `ProcessTrace` until it calls back with a record, or ends; it waits while there is neither a
  record nor an end. -/
  | processTrace

/-- Their answers. -/
abbrev Operation.Answer : Operation → Type
  | .own call => call.Answer
  | .queueInitialized | .stopSignaled | .networkAvailable | .etwRunning => Bool
  | .mallocNode | .unlink | .detachNodes | .nextNode _ => Option ℕ
  | .link _ _ => PushLocals
  | .getMessage _ => Message
  | .processMonitor => ProcessMonitor
  | .queryProcesses => PollInput
  | .networkMonitor => NetworkMonitor
  | .queryConnections => TcpPollInput
  | .processTrace => DWORD ⊕ (CallbackEnv × EventRecord)
  | _ => Unit

/-- What the code leaves to Windows and the C runtime. -/
structure Setting where
  win32 : Win32
  rowSort : CompareSort ℕ
  processSort : QSort snapshotLe
  connectionSort : CompareSort NetworkConnectionKey
  connectionSearch : CompareSearch NetworkConnectionKey

/-- `GetMessageW`; after `DestroyWindow` only `WM_QUIT` is left. -/
def getMessage (setting : Setting) (queueReady : Bool) (world : World) : Message → Option World
  | .quit => if world.shell.quitPosted then some world else none
  | .failed => some { world with shell := { world.shell with messagesFailed := true } }
  | .eventsReady =>
      match world.posted with
      | message :: posted =>
          if world.shell.window.isSome ∧ message = eventsReadyMessage then
            some { world with
              posted := posted
              thread := if queueReady then .draining (beginDrain world.gui) else world.thread }
          else none
      | [] => none
  | .close => if world.shell.window.isSome then some world else none
  | .input env input =>
      if world.shell.window.isSome then
        some { world with
          gui := uiStep setting.win32 setting.rowSort env world.gui input }
      else none

/-- The messages that can arrive, with where they lead. -/
inductive Arrives (setting : Setting) (queueReady : Bool) (world : World) : Message → World → Prop
  | quit (hposted : world.shell.quitPosted = true) : Arrives setting queueReady world .quit world
  | failed : Arrives setting queueReady world .failed
      { world with shell := { world.shell with messagesFailed := true } }
  | eventsReady {posted : List UINT} (hwindow : world.shell.window.isSome = true)
      (hposted : world.posted = eventsReadyMessage :: posted) :
      Arrives setting queueReady world .eventsReady { world with
        posted := posted
        thread := if queueReady then .draining (beginDrain world.gui) else world.thread }
  | close (hwindow : world.shell.window.isSome = true) :
      Arrives setting queueReady world .close world
  | input {env : UiEnv} {input : UiInput} (hwindow : world.shell.window.isSome = true) :
      Arrives setting queueReady world (.input env input) { world with
        gui := uiStep setting.win32 setting.rowSort env world.gui input }

lemma arrives {setting : Setting} {queueReady : Bool} {world world' : World} {message : Message}
    (h : getMessage setting queueReady world message = some world') :
    Arrives setting queueReady world message world' := by
  cases message with
  | quit =>
    simp only [getMessage, Option.ite_none_right_eq_some, Option.some.injEq] at h
    obtain ⟨hposted, rfl⟩ := h
    exact .quit hposted
  | failed =>
    obtain rfl := Option.some.inj h
    exact .failed
  | eventsReady =>
    simp only [getMessage] at h
    split at h
    · next message posted hposted =>
      simp only [Option.ite_none_right_eq_some, Option.some.injEq] at h
      obtain ⟨⟨hwindow, rfl⟩, rfl⟩ := h
      exact .eventsReady hwindow hposted
    · cases h
  | close =>
    simp only [getMessage, Option.ite_none_right_eq_some, Option.some.injEq] at h
    obtain ⟨hwindow, rfl⟩ := h
    exact .close hwindow
  | input env input =>
    simp only [getMessage, Option.ite_none_right_eq_some, Option.some.injEq] at h
    obtain ⟨hwindow, rfl⟩ := h
    exact .input hwindow

/-- What an operation of a thread does, and its answer; `none` while it has to wait. -/
def execute (setting : Setting) (t : ThreadId) :
    (op : Operation) → Choice → World → Option (op.Answer × World)
  | .own call, choice, world =>
      some (call.answer choice, { world with
        shell := call.executeShell choice world.shell
        resources := call.executeTelemetry choice world.resources })
  | .log, _, world => some ((), world)
  | .eventQueueInitialize, _, world =>
      some ((), { world with
        shell := { world.shell with lock := .live }
        queue := TraceGlass.eventQueueInitialize world.shell.window eventsReadyMessage })
  | .queueInitialized, _, world => some (world.queue.initialized, world)
  | .enterQueue, _, world =>
      if world.holder = none then some ((), { world with holder := some t }) else none
  | .leaveQueue, _, world => some ((), { world with holder := none })
  | .mallocNode, choice, world =>
      match choice.node with
      | none => some (none, world)
      | some node =>
          -- `malloc` answers a block that is not in use
          if (world.queue.nodes node).isNone ∧ ∀ u, world.node u ≠ some node then
            some (some node, { world with node := Function.update world.node t (some node) })
          else none
  | .link node event, _, world =>
      (pushEvent world.queue (some node) event).map fun (queue, locals) =>
        (locals, { world with
          queue := queue
          node := Function.update world.node t none
          between := Function.update world.between t (some locals) })
  | .notify locals, choice, world =>
      some ((), { world with
        posted := world.posted ++ if choice.ok then locals.message.toList else []
        between := Function.update world.between t none })
  | .unlink, choice, world =>
      match world.thread, popEvent world.queue with
      | .draining locals, some (none, queue) =>
          some (none, { world with queue := queue, thread := .finishing locals })
      | .draining _, some (some event, queue) =>
          some (world.queue.head, { world with
            queue := queue
            node := Function.update world.node t world.queue.head
            hand := some (choice.drain, event) })
      | _, _ => none
  | .freeNode _, _, world => some ((), { world with node := Function.update world.node t none })
  | .setNotificationWindow window, _, world =>
      some ((), { world with queue := eventQueueSetWindow world.queue window })
  | .clearInitialized, _, world =>
      some ((), { world with queue := { world.queue with initialized := false } })
  | .detachNodes, _, world =>
      some (world.queue.head, { world with
        queue := { world.queue with head := none, tail := none, notificationWindow := none } })
  | .nextNode node, _, world => (world.queue.nodes node).map fun block => (block.next, world)
  | .freeQueued node, _, world =>
      some ((), { world with
        queue := { world.queue with nodes := Function.update world.queue.nodes node none } })
  | .getMessage queueReady, choice, world =>
      (getMessage setting queueReady world choice.message).map fun world => (choice.message, world)
  | .ingest, _, world =>
      match world.hand, world.thread with
      | some (env, event), .draining locals =>
          let drained := drainIteration setting.win32 env world.gui locals event
          some ((), { world with hand := none, thread := .draining drained.2, gui := drained.1 })
      | _, _ => none
  | .finishDrain, choice, world =>
      match world.thread with
      | .finishing locals =>
          some ((), { world with
            thread := .idle
            gui := finishDrain setting.win32 setting.rowSort choice.ui world.gui locals })
      | _ => none
  | .destroyWindow, _, world =>
      some ((), { world with shell := { world.shell with window := none }, posted := [] })
  | .stopSignaled, _, world => some (world.resources.signaled, world)
  | .waitThread thread, _, world => if world.ended thread then some ((), world) else none
  | .started, _, world => if world.created t then some ((), world) else none
  | .exitThread, _, world => some ((), { world with ended := Function.update world.ended t true })
  | .networkAvailable, _, world => some (world.resources.networkAvailable, world)
  | .setProcessMonitor monitor, _, world => some ((), { world with processMonitor := monitor })
  | .processMonitor, _, world => some (world.processMonitor, world)
  | .queryProcesses, choice, world => some (choice.processes, world)
  | .setNetworkMonitor monitor, _, world => some ((), { world with networkMonitor := monitor })
  | .networkMonitor, _, world => some (world.networkMonitor, world)
  | .queryConnections, choice, world => some (choice.connections, world)
  | .etwRunning, _, world => some (world.resources.etw.running, world)
  | .processTrace, choice, world =>
      match choice.trace with
      | .inl status =>
          -- it can fail at any time, and without an error it ends only once the tracing is over
          if status ≠ 0 ∨ world.resources.etw.over = true then some (.inl status, world) else none
      | .inr record =>
          if 0 < world.records then
            some (.inr record, { world with records := world.records - 1 })
          else none

/-- The threads of the program. -/
def telemetrySystem (setting : Setting) : System ThreadId Operation Operation.Answer Choice World :=
  ⟨execute setting⟩

end TraceGlass
