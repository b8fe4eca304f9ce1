import TraceGlass.Gui.Ingest
import TraceGlass.Lib.Run
import TraceGlass.Queue.Model

/-!
# The running application

Any number of producer threads push events, and one thread runs the window: it takes a notification
from its message queue, drains the event queue and goes back to its messages.  What happens inside
the queue's critical section is one step.  A producer that has left the section but has not reached
its `PostMessageW` yet is at its own place in between, and so is a drain between two pops and after
the last one; the steps of the threads interleave in any way.

`Stepped` is the inversion of `appStep`.
-/

namespace TraceGlass

open SortedArray

/-- `TRACEGLASS_WM_EVENTS_READY`, which is `WM_APP + 1`. -/
def eventsReadyMessage : UINT := 0x8001

/-- Where the window's thread is. -/
inductive WindowThread
  /-- In its message loop. -/
  | idle
  /-- In the loop of `drain_events`. -/
  | draining (locals : DrainLocals)
  /-- In `drain_events`, after the pop that found the queue empty. -/
  | finishing (locals : DrainLocals)
  deriving DecidableEq

/-- The threads and what they share. -/
structure App where
  queue : EventQueue
  /-- The producers: outside `push_event`, or past its critical section with these locals. -/
  producers : List (Option PushLocals)
  /-- The notifications posted to the window and not taken yet. -/
  posted : List UINT
  thread : WindowThread
  gui : GuiState

/-- The application after `WM_CREATE`, with the producers not started yet. -/
def App.created (window : HWND) (producerCount : ℕ) : App where
  queue := eventQueueInitialize window eventsReadyMessage
  producers := List.replicate producerCount none
  posted := []
  thread := .idle
  gui := .created

/-- The steps of the threads. -/
inductive AppAction
  /-- A producer runs `push_event` up to the end of its critical section; `node` is the answer of
  `malloc`. -/
  | push (producer : ℕ) (node : Option ℕ) (event : TraceGlassEvent)
  /-- It runs the rest of `push_event`, where a `PostMessageW` succeeds or not. -/
  | post (producer : ℕ) (delivered : Bool)
  /-- `event_queue_set_window`. -/
  | setWindow (window : HWND)
  /-- The window's thread takes a notification from its message queue. -/
  | take
  /-- It pops once, and adds the event it got. -/
  | pop (env : DrainEnv)
  /-- It leaves `drain_events`. -/
  | finish (env : UiEnv)
  /-- It handles a message of the user or of the filter timer. -/
  | ui (env : UiEnv) (input : UiInput)

/-- One step; `none` where the thread is not at the place the step starts from. -/
def appStep (w : Win32) (sorter : CompareSort ℕ) (app : App) : AppAction → Option App
  | .push producer node event =>
      -- `malloc` answers a block that is not in use
      if app.producers[producer]? = some none ∧
          (node.all fun address => (app.queue.nodes address).isNone) = true then
        match pushEvent app.queue node event with
        | none => some app
        | some (queue, locals) =>
            some { app with
              queue := queue, producers := app.producers.set producer (some locals) }
      else none
  | .post producer delivered =>
      match app.producers[producer]? with
      | some (some locals) =>
          some { app with
            producers := app.producers.set producer none
            posted := app.posted ++ if delivered then locals.message.toList else [] }
      | _ => none
  | .setWindow window => some { app with queue := eventQueueSetWindow app.queue window }
  | .take =>
      match app.thread, app.posted with
      | .idle, message :: posted =>
          some { app with
            posted := posted
            thread :=
              if message = eventsReadyMessage then .draining (beginDrain app.gui) else .idle }
      | _, _ => none
  | .pop env =>
      match app.thread with
      | .draining locals =>
          match popEvent app.queue with
          | none => none
          | some (none, queue) => some { app with queue := queue, thread := .finishing locals }
          | some (some event, queue) =>
              let drained := drainIteration w env app.gui locals event
              some { app with queue := queue, thread := .draining drained.2, gui := drained.1 }
      | _ => none
  | .finish env =>
      match app.thread with
      | .finishing locals =>
          some { app with thread := .idle, gui := finishDrain w sorter env app.gui locals }
      | _ => none
  | .ui env input =>
      match app.thread with
      | .idle => some { app with gui := uiStep w sorter env app.gui input }
      | _ => none

/-- The steps that are possible, with where they lead. -/
inductive Stepped (w : Win32) (sorter : CompareSort ℕ) (app : App) : AppAction → App → Prop
  | pushed {producer address : ℕ} {event : TraceGlassEvent} {queue : EventQueue}
      {locals : PushLocals} (houtside : app.producers[producer]? = some none)
      (hfree : app.queue.nodes address = none)
      (hpush : pushEvent app.queue (some address) event = some (queue, locals)) :
      Stepped w sorter app (.push producer (some address) event)
        { app with queue := queue, producers := app.producers.set producer (some locals) }
  | refused {producer : ℕ} {node : Option ℕ} {event : TraceGlassEvent}
      (hpush : pushEvent app.queue node event = none) :
      Stepped w sorter app (.push producer node event) app
  | posted {producer : ℕ} {delivered : Bool} {locals : PushLocals}
      (hbetween : app.producers[producer]? = some (some locals)) :
      Stepped w sorter app (.post producer delivered)
        { app with
          producers := app.producers.set producer none
          posted := app.posted ++ if delivered then locals.message.toList else [] }
  | windowSet {window : HWND} :
      Stepped w sorter app (.setWindow window)
        { app with queue := eventQueueSetWindow app.queue window }
  | taken {message : UINT} {posted : List UINT} (hidle : app.thread = .idle)
      (hposted : app.posted = message :: posted) :
      Stepped w sorter app .take
        { app with
          posted := posted
          thread := if message = eventsReadyMessage then .draining (beginDrain app.gui) else .idle }
  | popped {env : DrainEnv} {locals : DrainLocals} {event : TraceGlassEvent} {queue : EventQueue}
      (hdraining : app.thread = .draining locals)
      (hpop : popEvent app.queue = some (some event, queue)) :
      Stepped w sorter app (.pop env)
        { app with
          queue := queue
          thread := .draining (drainIteration w env app.gui locals event).2
          gui := (drainIteration w env app.gui locals event).1 }
  | exhausted {env : DrainEnv} {locals : DrainLocals} {queue : EventQueue}
      (hdraining : app.thread = .draining locals)
      (hpop : popEvent app.queue = some (none, queue)) :
      Stepped w sorter app (.pop env) { app with queue := queue, thread := .finishing locals }
  | finished {env : UiEnv} {locals : DrainLocals} (hfinishing : app.thread = .finishing locals) :
      Stepped w sorter app (.finish env)
        { app with thread := .idle, gui := finishDrain w sorter env app.gui locals }
  | handled {env : UiEnv} {input : UiInput} (hidle : app.thread = .idle) :
      Stepped w sorter app (.ui env input) { app with gui := uiStep w sorter env app.gui input }

variable {w : Win32} {sorter : CompareSort ℕ} {app app' : App} {action : AppAction}

/-- **The inversion of one step.** -/
theorem stepped (h : appStep w sorter app action = some app') :
    Stepped w sorter app action app' := by
  cases action with
  | push producer node event =>
    simp only [appStep] at h
    split at h
    · next hat =>
      split at h
      · next hpush =>
        obtain rfl := Option.some.inj h
        exact .refused hpush
      · next queue locals hpush =>
        obtain ⟨address, rfl, -, -⟩ := pushEvent_eq_some hpush
        obtain rfl := Option.some.inj h
        exact .pushed hat.1 (by simpa using hat.2) hpush
    · cases h
  | post producer delivered =>
    simp only [appStep] at h
    split at h
    · next locals hbetween =>
      obtain rfl := Option.some.inj h
      exact .posted hbetween
    · cases h
  | setWindow window =>
    obtain rfl := Option.some.inj h
    exact .windowSet
  | take =>
    simp only [appStep] at h
    split at h
    · next message posted hidle hposted =>
      obtain rfl := Option.some.inj h
      exact .taken hidle hposted
    · cases h
  | pop env =>
    simp only [appStep] at h
    split at h
    · next locals hdraining =>
      split at h
      · cases h
      · next queue hpop =>
        obtain rfl := Option.some.inj h
        exact .exhausted hdraining hpop
      · next event queue hpop =>
        obtain rfl := Option.some.inj h
        exact .popped hdraining hpop
    · cases h
  | finish env =>
    simp only [appStep] at h
    split at h
    · next locals hfinishing =>
      obtain rfl := Option.some.inj h
      exact .finished hfinishing
    · cases h
  | ui env input =>
    simp only [appStep] at h
    split at h
    · next hidle =>
      obtain rfl := Option.some.inj h
      exact .handled hidle
    · cases h

/-! ## The queue along a run -/

/-- The event a step puts into an initialized queue. -/
def AppAction.pushed : AppAction → Option TraceGlassEvent
  | .push _ (some _) event => some event
  | _ => none

/-- The events pushed by the steps of a run, in the order in which the producers got the lock. -/
def pushOrder (actions : List AppAction) : List TraceGlassEvent :=
  actions.filterMap AppAction.pushed

lemma pushOrder_snoc (actions : List AppAction) (action : AppAction) :
    pushOrder (actions ++ [action]) = pushOrder actions ++ action.pushed.toList := by
  cases h : action.pushed <;> simp [pushOrder, h]

/-- A push that returned `FALSE` on an initialized queue pushed nothing. -/
lemma pushed_of_refused {queue : EventQueue} {queued : List TraceGlassEvent} {producer : ℕ}
    {node : Option ℕ} {event : TraceGlassEvent} (hqueue : queue.Holds queued)
    (hpush : pushEvent queue node event = none) :
    (AppAction.push producer node event).pushed = none := by
  cases node with
  | none => rfl
  | some address =>
    have hsome := pushEvent_isSome hqueue address event
    simp [hpush] at hsome

end TraceGlass
