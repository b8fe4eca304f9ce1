import TraceGlass.App.Model

/-!
# The session depends on the pushes alone

What the store will hold once the queue is drained is decided when an event is pushed:
`session_step` says that draining the events still queued into the store of the moment gives the
same after every step, but for a push, which puts one event more at the end.  Batches, pauses and
the user's other operations therefore leave no trace in the store.
-/

namespace TraceGlass

open SortedArray

variable {w : Win32} {sorter : CompareSort ℕ}

/-- The `realloc`s of the store succeed in this step. -/
def AppAction.StoreAllocates : AppAction → Prop
  | .pop env => ∀ turn, env.alloc turn = .succeed
  | _ => True

/-- **One step**: the store with the queue drained into it changes by the event the step pushes. -/
theorem session_step {app app' : App} {action : AppAction} {queued : List TraceGlassEvent}
    (hstep : appStep w sorter app action = some app') (halloc : action.StoreAllocates)
    (hqueue : app.queue.Holds queued) :
    ∃ queued', app'.queue.Holds queued' ∧
      session w app'.gui.store queued' =
        session w app.gui.store (queued ++ action.pushed.toList) := by
  cases stepped hstep with
  | pushed _ hfree hpush => exact ⟨_, pushEvent_holds hqueue hfree hpush, rfl⟩
  | refused hpush =>
    refine ⟨queued, hqueue, ?_⟩
    rw [pushed_of_refused hqueue hpush, Option.toList_none, List.append_nil]
  | posted | taken => exact ⟨queued, hqueue, by simp [AppAction.pushed]⟩
  | windowSet => exact ⟨queued, hqueue.setWindow _, by simp [AppAction.pushed]⟩
  | popped _ hpop =>
    obtain ⟨rest, rfl, hrest, -⟩ := popEvent_of_some hqueue hpop
    refine ⟨rest, hrest, ?_⟩
    simp [drainIteration_store halloc, AppAction.pushed, session]
  | exhausted _ hpop =>
    obtain ⟨rfl, rfl⟩ := popEvent_of_none hqueue hpop
    exact ⟨[], ⟨hqueue.initialized, hqueue.linked⟩, by simp [AppAction.pushed]⟩
  | finished => exact ⟨queued, hqueue, by simp [AppAction.pushed, finishDrain_store]⟩
  | handled => exact ⟨queued, hqueue, by simp [AppAction.pushed, uiStep_store]⟩

/-- **A whole run**: once the queue is drained, the store is the session of the events queued at the
start and of those pushed since. -/
theorem session_run {app app' : App} {actions : List AppAction} {queued : List TraceGlassEvent}
    (halloc : ∀ action ∈ actions, action.StoreAllocates)
    (hrun : Machine.run (appStep w sorter) app actions = some app')
    (hqueue : app.queue.Holds queued) (hdrained : app'.queue.head = none) :
    app'.gui.store = session w app.gui.store (queued ++ pushOrder actions) := by
  have hinv : ∃ queued', app'.queue.Holds queued' ∧
      session w app'.gui.store queued' =
        session w app.gui.store (queued ++ pushOrder actions) := by
    refine Machine.run_trace_invariant (I := fun pre a => ∃ queued', a.queue.Holds queued' ∧
      session w a.gui.store queued' = session w app.gui.store (queued ++ pushOrder pre))
      hrun ⟨queued, hqueue, by simp [pushOrder]⟩ ?_
    rintro pre a action a' ⟨queued', hholds, hsession⟩ hmem hstep
    obtain ⟨queued'', hholds', hstep'⟩ := session_step hstep (halloc action hmem) hholds
    refine ⟨queued'', hholds', ?_⟩
    rw [hstep', session_append, hsession, pushOrder_snoc, ← List.append_assoc,
      session_append _ (queued ++ pushOrder pre)]
  obtain ⟨queued', hholds, hsession⟩ := hinv
  obtain rfl := hholds.head_eq_none_iff.mp hdrained
  exact hsession

/-- **The session history depends only on the order of the pushes.**  For any interleaving of
pushes, posts, drains and operations of the user, once the queue is drained: the store is the fold
of the pushed events, each added and, if accepted, followed by its alerts; the history is the
accepted events in push order, each with its alerts directly after it and numbered consecutively,
where only STARTs and STOPs can be missing; and any other run with the same pushes, whatever its
batches, its threads and its operations of the user, ends with the same store. -/
theorem history_of_pushes {window : HWND} {producerCount : ℕ} {actions : List AppAction} {app : App}
    (halloc : ∀ action ∈ actions, action.StoreAllocates)
    (hrun : Machine.run (appStep w sorter) (App.created window producerCount) actions = some app)
    (hdrained : app.queue.head = none) :
    app.gui.store = session w eventStoreInitialize (pushOrder actions) ∧
      (SessionSucceeds w eventStoreInitialize (pushOrder actions) →
        app.gui.store.events = recorded 1
            ((acceptedEvents w eventStoreInitialize (pushOrder actions)).flatMap
              (withAlerts w)) ∧
          (acceptedEvents w eventStoreInitialize (pushOrder actions)).Sublist
            (pushOrder actions) ∧
          ((pushOrder actions).filter fun e => (reportOf e).isNone).Sublist
            (acceptedEvents w eventStoreInitialize (pushOrder actions))) ∧
      ∀ (sorter' : CompareSort ℕ) (window' : HWND) (producerCount' : ℕ)
        (actions' : List AppAction) (app' : App),
        (∀ action ∈ actions', action.StoreAllocates) →
        Machine.run (appStep w sorter') (App.created window' producerCount') actions' = some app' →
        app'.queue.head = none → pushOrder actions' = pushOrder actions →
        app'.gui.store = app.gui.store := by
  have hstore : app.gui.store = session w eventStoreInitialize (pushOrder actions) :=
    session_run halloc hrun (eventQueueInitialize_holds _ _) hdrained
  refine ⟨hstore, fun hsucceeds => ?_, ?_⟩
  · refine ⟨?_, acceptedEvents_sublist _ _, filter_sublist_acceptedEvents hsucceeds⟩
    rw [hstore, session_events hsucceeds]
    rfl
  · intro sorter' window' producerCount' actions' app' halloc' hrun' hdrained' hsame
    rw [hstore, ← hsame]
    exact session_run halloc' hrun' (eventQueueInitialize_holds _ _) hdrained'

/-- A STOP is drained, and a NETWORK event arrives while the view is paused. -/
def pausedRun : List AppAction :=
  [.push 0 (some 0) { TraceGlassEvent.zero with type := .processStop, process := ⟨8, 5⟩ },
    .post 0 true, .take, .pop .succeed, .pop .succeed, .finish .succeed,
    .ui .succeed .pauseClicked,
    .push 1 (some 0) { TraceGlassEvent.zero with type := .network },
    .post 1 true, .take, .pop .succeed, .pop .succeed, .finish .succeed]

/-- Its store is the fold of the two events. -/
theorem history_of_pushes_pausedRun :
    (Machine.run (appStep Win32.sample (CompareSort.insertion ℕ)) (App.created (some 1) 2)
      pausedRun).map (fun app => app.gui.store) =
    some (session Win32.sample eventStoreInitialize (pushOrder pausedRun)) := by
  have hsome : (Machine.run (appStep Win32.sample (CompareSort.insertion ℕ))
      (App.created (some 1) 2) pausedRun).map (fun app => app.queue.head) = some none := by
    decide +kernel
  obtain ⟨app, hrun, hhead⟩ := Option.map_eq_some_iff.mp hsome
  have halloc : ∀ action ∈ pausedRun, action.StoreAllocates := by
    simp [pausedRun, AppAction.StoreAllocates, DrainEnv.succeed]
  rw [hrun, Option.map_some, (history_of_pushes halloc hrun hhead).1]

end TraceGlass
