import TraceGlass.Telemetry.Shutdown

/-!
# The program refines the application

`App` is the queue, two producers and a window's thread whose critical sections are single steps.
As long as the queue is initialized, each step of the program is one of its steps or none: `app` is
the application that a world stands for, and `appActions` are the application's steps in a run.
What is proved of every run of the application therefore holds of the three threads.
-/

namespace TraceGlass

open Threads Threads.Discipline Prog LinkedFifo

/-- The producer a collecting thread is. -/
def ThreadId.producer : ThreadId → ℕ
  | .worker => 0
  | _ => 1

/-- The application a world stands for; an event in hand counts as added. -/
def World.app (w : World) (setting : Setting) : App where
  queue := w.queue
  producers := [w.between .worker, w.between .consumer]
  posted := w.posted
  thread :=
    match w.hand, w.thread with
    | some (env, event), .draining locals =>
        .draining (drainIteration setting.win32 env w.gui locals event).2
    | _, thread => thread
  gui :=
    match w.hand, w.thread with
    | some (env, event), .draining locals =>
        (drainIteration setting.win32 env w.gui locals event).1
    | _, _ => w.gui

/-- The step of the application an operation is. -/
def Operation.appAction (t : ThreadId) (choice : Choice) : Operation → Option AppAction
  | .link node event => some (.push t.producer (some node) event)
  | .notify _ => some (.post t.producer choice.ok)
  | .unlink => some (.pop choice.drain)
  | .setNotificationWindow window => some (.setWindow window)
  | .getMessage _ =>
      match choice.message with
      | .eventsReady => some .take
      | .input env input => some (.ui env input)
      | _ => none
  | .finishDrain => some (.finish choice.ui)
  | _ => none

section Step

variable {setting : Setting} {t : ThreadId} {choice : Choice} {w w' : World}

/-- Nothing the application is about has changed. -/
lemma app_congr (hqueue : w'.queue = w.queue) (hbetween : w'.between = w.between)
    (hposted : w'.posted = w.posted) (hthread : w'.thread = w.thread) (hhand : w'.hand = w.hand)
    (hgui : w'.gui = w.gui) : w'.app setting = w.app setting := by
  simp only [World.app, hqueue, hbetween, hposted, hthread, hhand, hgui]

/-- The producer's place in the application. -/
lemma app_producers (ht : t ≠ .window) :
    (w.app setting).producers[t.producer]? = some (w.between t) := by
  cases t with
  | window => exact absurd rfl ht
  | worker => rfl
  | consumer => rfl

lemma producers_update (ht : t ≠ .window) (locals : Option PushLocals) :
    [Function.update w.between t locals .worker, Function.update w.between t locals .consumer] =
      (w.app setting).producers.set t.producer locals := by
  cases t with
  | window => exact absurd rfl ht
  | worker => rfl
  | consumer => rfl

/-- **One step of the program** is one step of the application, or none. -/
theorem app_step {op : Operation} {ans : op.Answer} (h : Sound w) (hallowed : Allowed t op w)
    (hbefore : w.queue.initialized = true) (hafter : w'.queue.initialized = true)
    (he : execute setting t op choice w = some (ans, w')) :
    Machine.run (appStep setting.win32 setting.rowSort) (w.app setting)
      (op.appAction t choice).toList = some (w'.app setting) := by
  have hone : ∀ {action : AppAction} {app : App},
      appStep setting.win32 setting.rowSort (w.app setting) action = some app →
      Machine.run (appStep setting.win32 setting.rowSort) (w.app setting) [action] = some app :=
    fun hstep => by rw [Machine.run, hstep]; rfl
  cases op with
  | own | log | queueInitialized | enterQueue | leaveQueue | mallocNode | freeNode | stopSignaled
  | waitThread | started | exitThread | networkAvailable | setProcessMonitor | processMonitor
  | queryProcesses | setNetworkMonitor | networkMonitor | queryConnections | etwRunning
  | processTrace =>
    -- nothing the application is about
    refine congrArg some (Eq.symm ?_)
    simp only [execute] at he
    repeat' split at he
    all_goals first
      | (obtain ⟨-, rfl⟩ := Prod.mk.inj (Option.some.inj he)
         exact app_congr rfl rfl rfl rfl rfl rfl)
      | cases he
  | eventQueueInitialize =>
    obtain ⟨-, -, habsent, -⟩ := hallowed
    simp [h.lock hbefore] at habsent
  | clearInitialized =>
    obtain ⟨-, rfl⟩ := Prod.mk.inj (Option.some.inj he)
    cases hafter
  | detachNodes =>
    obtain ⟨-, -, -, hinit, -⟩ := hallowed
    simp [hbefore] at hinit
  | nextNode node =>
    obtain ⟨-, -, -, hinit, -⟩ := hallowed
    simp [hbefore] at hinit
  | freeQueued node =>
    obtain ⟨-, -, -, hinit, -⟩ := hallowed
    simp [hbefore] at hinit
  | destroyWindow =>
    obtain ⟨-, -, -, hinit⟩ := hallowed
    simp [hbefore] at hinit
  | link node event =>
    obtain ⟨-, ht, -, hnode, hbetween, -⟩ := hallowed
    obtain ⟨⟨queue, locals⟩, hpush, heq⟩ := Option.map_eq_some_iff.mp he
    obtain ⟨-, rfl⟩ := Prod.mk.inj heq
    refine hone ?_
    have hfree : (w.app setting).queue.nodes node = none := h.fresh t node hnode
    have hpush' : pushEvent (w.app setting).queue (some node) event = some (queue, locals) := hpush
    simp only [appStep, app_producers ht, hbetween, Option.all_some, hfree, Option.isNone_none,
      and_self, if_true, hpush']
    rw [← producers_update ht]
    rfl
  | notify locals =>
    obtain ⟨-, ht, hbetween⟩ := hallowed
    obtain ⟨-, rfl⟩ := Prod.mk.inj (Option.some.inj he)
    refine hone ?_
    simp only [appStep, app_producers ht, hbetween]
    rw [← producers_update ht]
    rfl
  | unlink =>
    obtain ⟨-, -, -, -, hhand, ⟨locals, hthread⟩, -⟩ := hallowed
    refine hone ?_
    simp only [execute, hthread] at he
    split at he
    · next hlocals hpop =>
      obtain rfl := WindowThread.draining.inj hlocals
      obtain ⟨-, rfl⟩ := Prod.mk.inj (Option.some.inj he)
      simp only [appStep, World.app, hhand, hthread, hpop]
    · next event queue hlocals hpop =>
      obtain ⟨-, rfl⟩ := Prod.mk.inj (Option.some.inj he)
      simp only [appStep, World.app, hhand, hthread, hpop]
    · cases he
  | setNotificationWindow window =>
    obtain ⟨-, rfl⟩ := Prod.mk.inj (Option.some.inj he)
    exact hone rfl
  | getMessage queueReady =>
    obtain ⟨-, -, -, hthread, hhand, rfl, -⟩ := hallowed
    obtain ⟨w'', hmessage, heq⟩ := Option.map_eq_some_iff.mp he
    obtain ⟨-, rfl⟩ := Prod.mk.inj heq
    have harrives := arrives hmessage
    simp only [Operation.appAction]
    generalize choice.message = message at harrives
    cases harrives with
    | quit => rfl
    | failed => rfl
    | close => rfl
    | eventsReady _ hposted =>
      refine hone ?_
      simp only [appStep, World.app, hhand, hthread, hposted, hbefore, if_true]
    | input =>
      refine hone ?_
      simp only [appStep, World.app, hhand, hthread]
  | ingest =>
    obtain ⟨-, -, -, hhand, locals, hthread⟩ := hallowed
    obtain ⟨⟨env, event⟩, hhand⟩ := Option.ne_none_iff_exists'.mp hhand
    refine congrArg some (Eq.symm ?_)
    simp only [execute, hhand, hthread] at he
    obtain ⟨-, rfl⟩ := Prod.mk.inj (Option.some.inj he)
    simp only [World.app, hhand, hthread]
  | finishDrain =>
    obtain ⟨-, -, -, locals, hthread⟩ := hallowed
    simp only [execute, hthread] at he
    obtain ⟨-, rfl⟩ := Prod.mk.inj (Option.some.inj he)
    refine hone ?_
    cases hhand : w.hand <;> simp only [appStep, World.app, hhand, hthread]

/-- A lock that is still to be created has never been there. -/
lemma lock_absent_before {op : Operation} {ans : op.Answer}
    (he : execute setting t op choice w = some (ans, w')) (habsent : w'.shell.lock = .absent) :
    w.shell.lock = .absent := by
  cases op with
  | own call =>
    obtain ⟨-, rfl⟩ := Prod.mk.inj (Option.some.inj he)
    cases call <;> simp only [OwnCall.executeShell] at habsent <;> (try split at habsent) <;>
      first
      | exact habsent
      | cases habsent
  | getMessage queueReady =>
    obtain ⟨w'', hmessage, heq⟩ := Option.map_eq_some_iff.mp he
    obtain ⟨-, rfl⟩ := Prod.mk.inj heq
    have harrives := arrives hmessage
    generalize choice.message = message at harrives
    cases harrives <;> exact habsent
  | link =>
    obtain ⟨answer, -, heq⟩ := Option.map_eq_some_iff.mp he
    obtain ⟨-, rfl⟩ := Prod.mk.inj heq
    exact habsent
  | nextNode =>
    obtain ⟨block, -, heq⟩ := Option.map_eq_some_iff.mp he
    obtain ⟨-, rfl⟩ := Prod.mk.inj heq
    exact habsent
  | _ =>
    simp only [execute] at he
    repeat' split at he
    all_goals first
      | (obtain ⟨-, rfl⟩ := Prod.mk.inj (Option.some.inj he)
         first
         | exact habsent
         | cases habsent)
      | cases he

/-- A queue becomes initialized once, before any notification and any message. -/
lemma app_of_initialized {op : Operation} {ans : op.Answer} (h : Sound w)
    (hallowed : Allowed t op w)
    (hbefore : w.queue.initialized = false) (hafter : w'.queue.initialized = true)
    (he : execute setting t op choice w = some (ans, w')) :
    w.shell.lock = .absent ∧ ∃ window, w'.app setting = App.created window 2 := by
  -- every other operation leaves the queue uninitialized
  have hsame : w'.queue.initialized = w.queue.initialized → False :=
    fun hsame => by simp [hbefore, hafter] at hsame
  cases op with
  | eventQueueInitialize =>
    obtain ⟨-, -, habsent, hquiet, hthread, hhand, hgui⟩ := hallowed
    obtain ⟨-, rfl⟩ := Prod.mk.inj (Option.some.inj he)
    refine ⟨habsent, w.shell.window, ?_⟩
    simp only [World.app, hhand, hthread, hgui, (h.idle .worker hquiet.1).2,
      (h.idle .consumer hquiet.2).2, h.unposted habsent]
    rfl
  | link =>
    obtain ⟨-, -, -, -, -, hinit⟩ := hallowed
    simp [hbefore] at hinit
  | unlink =>
    obtain ⟨-, -, -, -, -, -, hinit⟩ := hallowed
    simp [hbefore] at hinit
  | clearInitialized =>
    obtain ⟨-, rfl⟩ := Prod.mk.inj (Option.some.inj he)
    cases hafter
  | setNotificationWindow =>
    obtain ⟨-, rfl⟩ := Prod.mk.inj (Option.some.inj he)
    refine (hsame ?_).elim
    simp only [eventQueueSetWindow]
    split <;> rfl
  | getMessage queueReady =>
    obtain ⟨w'', hmessage, heq⟩ := Option.map_eq_some_iff.mp he
    obtain ⟨-, rfl⟩ := Prod.mk.inj heq
    have harrives := arrives hmessage
    generalize choice.message = message at harrives
    cases harrives <;> exact (hsame rfl).elim
  | nextNode =>
    obtain ⟨block, -, heq⟩ := Option.map_eq_some_iff.mp he
    obtain ⟨-, rfl⟩ := Prod.mk.inj heq
    exact (hsame rfl).elim
  | _ =>
    simp only [execute] at he
    repeat' split at he
    all_goals first
      | (obtain ⟨-, rfl⟩ := Prod.mk.inj (Option.some.inj he)
         exact (hsame rfl).elim)
      | cases he

end Step

/-! ## Runs -/

section Runs

variable {setting : Setting} {records : ℕ} {actions : List (ThreadId × Choice)}
  {c : Config ThreadId Operation Operation.Answer World}

/-- The step of the application that an action of a thread is. -/
def appAction (c : Config ThreadId Operation Operation.Answer World) (action : ThreadId × Choice) :
    Option AppAction :=
  if c.world.queue.initialized then
    match c.threads action.1 with
    | .perform op _ => op.appAction action.1 action.2
    | _ => none
  else none

/-- The steps of the application in a run of the program. -/
def appActions (setting : Setting) (c : Config ThreadId Operation Operation.Answer World) :
    List (ThreadId × Choice) → List AppAction
  | [] => []
  | action :: actions =>
      (appAction c action).toList ++
        match (telemetrySystem setting).step c action with
        | none => []
        | some c => appActions setting c actions

lemma appActions_snoc {start : Config ThreadId Operation Operation.Answer World}
    (hrun : Machine.run (telemetrySystem setting).step start actions = some c)
    (action : ThreadId × Choice) :
    appActions setting start (actions ++ [action]) =
      appActions setting start actions ++ (appAction c action).toList := by
  induction actions generalizing start with
  | nil =>
    obtain rfl := Option.some.inj hrun
    simp only [List.nil_append, appActions]
    split <;> simp
  | cons first actions ih =>
    obtain ⟨next, hstep, hrun⟩ := Option.bind_eq_some_iff.mp hrun
    simp only [List.cons_append, appActions, hstep, ih hrun, List.append_assoc]

/-- What a run has done to the application so far. -/
structure Mirrored (setting : Setting) (start c : Config ThreadId Operation Operation.Answer World)
    (actions : List (ThreadId × Choice)) : Prop where
  run : Machine.run (telemetrySystem setting).step start actions = some c
  holds : (discipline setting).Holds Finished c
  before : c.world.shell.lock = .absent → appActions setting start actions = []
  since : c.world.queue.initialized = true → ∃ window,
    Machine.run (appStep setting.win32 setting.rowSort) (App.created window 2)
      (appActions setting start actions) = some (c.world.app setting)

lemma Mirrored.step {start c' : Config ThreadId Operation Operation.Answer World}
    {action : ThreadId × Choice} (h : Mirrored setting start c actions)
    (hstep : (telemetrySystem setting).step c action = some c') :
    Mirrored setting start c' (actions ++ [action]) := by
  have hrun : Machine.run (telemetrySystem setting).step start (actions ++ [action]) = some c' :=
    Machine.run_snoc_eq_some.mpr ⟨c, h.run, hstep⟩
  have hholds := h.holds.step hstep
  have hactions := appActions_snoc h.run action
  cases Threads.stepped hstep with
  | @performed t op next choice ans w hprog hexec =>
    have hallowed := (h.holds.perform hprog 0).1
    have haction : appAction c (t, choice) =
        if c.world.queue.initialized then op.appAction t choice else none := by
      simp only [appAction, hprog]
    refine ⟨hrun, hholds, fun habsent => ?_, fun hinit => ?_⟩
    · have habsent := lock_absent_before hexec habsent
      have hnone : ¬c.world.queue.initialized = true :=
        fun hinit => by simp [h.holds.inv.lock hinit] at habsent
      rw [hactions, h.before habsent, haction, if_neg hnone]
      rfl
    · rw [hactions, haction]
      cases hbefore : c.world.queue.initialized with
      | true =>
        obtain ⟨window, hwindow⟩ := h.since hbefore
        refine ⟨window, ?_⟩
        rw [Machine.run_append, hwindow]
        exact app_step h.holds.inv hallowed hbefore hinit hexec
      | false =>
        obtain ⟨habsent, window, happ⟩ :=
          app_of_initialized h.holds.inv hallowed hbefore hinit hexec
        refine ⟨window, ?_⟩
        rw [h.before habsent, happ]
        rfl
  | @turned t σ β body state next choice hprog =>
    have hnone : appAction c (t, choice) = none := by
      simp only [appAction, hprog, ite_self]
    refine ⟨hrun, hholds, ?_, ?_⟩ <;> rw [hactions, hnone, Option.toList_none, List.append_nil]
    · exact h.before
    · exact h.since

lemma follows_of_run
    (hrun : Machine.run (telemetrySystem setting).step (programStart setting records) actions =
      some c) :
    Mirrored setting (programStart setting records) c actions := by
  have hstart : Mirrored setting (programStart setting records) (programStart setting records) [] :=
    ⟨rfl, @holds_of_run setting records [] _ rfl, fun _ => rfl, nofun⟩
  exact Machine.run_trace_invariant
    (I := fun pre c => Mirrored setting (programStart setting records) c pre) hrun hstart
    fun _ _ _ _ h _ hstep => h.step hstep

/-- **The program refines the application.**  In every run of the three threads, as long as the
queue is initialized, the world stands for the application after the steps of the run, from the
moment the window has been created. -/
theorem refines_app
    (hrun : Machine.run (telemetrySystem setting).step (programStart setting records) actions =
      some c)
    (hinit : c.world.queue.initialized = true) :
    ∃ window, Machine.run (appStep setting.win32 setting.rowSort) (App.created window 2)
      (appActions setting (programStart setting records) actions) = some (c.world.app setting) :=
  (follows_of_run hrun).since hinit

/-- The ETW session reports that PID 8 has stopped. -/
def stopReported : Choice :=
  { Choice.plain with
    trace := .inr (⟨fun _ => none, none, .zero, []⟩,
      ⟨kernelProcessProvider, processStopEventId, 8, 0, fun _ => none⟩) }

/-- The consumer pushes the event of a record, and the window's thread takes the notification and
adds the event. -/
def reportDrained : List (ThreadId × Choice) :=
  List.replicate 27 (.window, .plain) ++
    [(.consumer, .plain), (.consumer, .plain), (.consumer, stopReported), (.consumer, .plain),
      (.consumer, .plain), (.consumer, { Choice.plain with node := some 0 })] ++
    List.replicate 4 (.consumer, .plain) ++
    [(.window, { Choice.plain with message := .eventsReady })] ++ List.replicate 7 (.window, .plain)

/-- There the application pushes, posts, takes the notification and pops. -/
theorem refines_app_reportDrained : ∃ c window,
    Machine.run (telemetrySystem .sample).step (programStart .sample 1) reportDrained = some c ∧
      Machine.run (appStep Setting.sample.win32 Setting.sample.rowSort) (App.created window 2)
        (appActions .sample (programStart .sample 1) reportDrained) =
          some (c.world.app .sample) := by
  have hsome : (Machine.run (telemetrySystem .sample).step (programStart .sample 1)
      reportDrained).map (fun c => c.world.queue.initialized) = some true := by
    decide +kernel
  obtain ⟨c, hrun, hinit⟩ := Option.map_eq_some_iff.mp hsome
  obtain ⟨window, hwindow⟩ := refines_app hrun hinit
  exact ⟨c, window, hrun, hwindow⟩

end Runs

end TraceGlass
