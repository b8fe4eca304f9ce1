import TraceGlass.Telemetry.Discipline

/-!
# What the window's thread knows

The window's thread creates and releases what the three share, so that it knows where all of it
stands; `Sight` is that knowledge.  It knows the queue and the monitors as well once the threads
that use them do not run.  There is one lemma here for each operation the thread performs: what the
thread has to know for it to be permitted, and what it knows afterwards.
-/

namespace TraceGlass

open Threads Threads.Discipline Prog LinkedFifo

structure Sight where
  shell : Shell
  resources : Resources
  thread : WindowThread
  hand : Option (DrainEnv × TraceGlassEvent)
  gui : GuiState
  /-- The thread is inside the critical section of the queue. -/
  inside : Bool
  node : Option ℕ
  initialized : Bool
  /-- The worker does not run. -/
  workerGone : Bool
  /-- Nor does the consumer. -/
  consumerGone : Bool
  queue : EventQueue
  processMonitor : ProcessMonitor
  networkMonitor : NetworkMonitor

/-- The world is as the thread knows it. -/
structure Sees (s : Sight) (w : World) : Prop where
  running : w.active .window = true
  shell : w.shell = s.shell
  resources : w.resources = s.resources
  thread : w.thread = s.thread
  hand : w.hand = s.hand
  gui : w.gui = s.gui
  inside : w.holder = some .window ↔ s.inside = true
  node : w.node .window = s.node
  between : w.between .window = none
  initialized : w.queue.initialized = s.initialized
  worker : s.workerGone = true → w.active .worker = false
  consumer : s.consumerGone = true → w.active .consumer = false
  queue : s.workerGone = true → s.consumerGone = true → w.queue = s.queue
  monitors : s.workerGone = true →
    w.processMonitor = s.processMonitor ∧ w.networkMonitor = s.networkMonitor

variable {setting : Setting} {s s' : Sight} {w w' : World} {α : Type}

namespace Sees

lemma quiet (h : Sees s w) (hworker : s.workerGone = true) (hconsumer : s.consumerGone = true) :
    w.Quiet :=
  ⟨h.worker hworker, h.consumer hconsumer⟩

lemma outside (h : Sees s w) (hinside : s.inside = false) : w.holder ≠ some .window :=
  fun hholder => by simp [h.inside.mp hholder] at hinside

lemma of_frame (h : Sees s w) (hf : Frame .window w w') : Sees s w' := by
  have hwindow := hf.owned rfl
  have hgone := fun {t} => World.inactive_of_frame (t := t) hwindow hf.ended
  refine ⟨World.active_of_frame hf h.running, hwindow.shell.trans h.shell,
    hwindow.resources.trans h.resources, hwindow.thread.trans h.thread, hwindow.hand.trans h.hand,
    hwindow.gui.trans h.gui,
    hf.holder.trans h.inside, hf.node.trans h.node, hf.between.trans h.between,
    hwindow.initialized.trans h.initialized, fun hw => hgone (h.worker hw),
    fun hc => hgone (h.consumer hc), fun hw hc => ?_, fun hw => ?_⟩
  · exact (hwindow.queue (h.quiet hw hc)).trans (h.queue hw hc)
  · obtain ⟨hprocess, hnetwork⟩ := hwindow.monitors (h.worker hw)
    exact ⟨hprocess.trans (h.monitors hw).1, hnetwork.trans (h.monitors hw).2⟩

end Sees

lemma sees_stable : (discipline setting).Stable .window (Sees s) := fun _ _ _ hf h => h.of_frame hf

/-- The thread knows something that meets `P`. -/
def Found (P : Sight → Prop) (w : World) : Prop := ∃ s, P s ∧ Sees s w

lemma found_stable {P : Sight → Prop} : (discipline setting).Stable .window (Found P) :=
  Stable.exists fun _ => (Stable.pure _).and sees_stable

/-- What is shown for each thing the thread can know. -/
lemma Triple.found {P : Sight → Prop} {p : Program α} {Q : α → World → Prop}
    (h : ∀ s, P s → (discipline setting).Triple .window (Sees s) p Q) :
    (discipline setting).Triple .window (Found P) p Q :=
  fun w hw ⟨s, hP, hs⟩ => h s hP w hw hs

lemma Triple.found_post {P : World → Prop} {p : Program α} {R R' : α → Sight → Prop}
    (h : (discipline setting).Triple .window P p fun a => Found (R a))
    (hR : ∀ a s, R a s → R' a s) :
    (discipline setting).Triple .window P p fun a => Found (R' a) :=
  h.post fun a _ _ ⟨s, hs, hw⟩ => ⟨s, hR a s hs, hw⟩

/-- A program that has come to its result. -/
lemma Triple.found_ret {value : α} {P : α → Sight → Prop} (h : P value s) :
    (discipline setting).Triple .window (Sees s) (pure value) fun a => Found (P a) :=
  .ret sees_stable fun _ _ hs => ⟨s, h, hs⟩

/-- One operation and what follows it, from what is known after each answer. -/
lemma Triple.sees {op : Operation} {next : op.Answer → Program α} {Q : α → World → Prop}
    (hallowed : ∀ w, Sound w → Sees s w → Allowed .window op w)
    (hnext : ∀ w choice ans w', Sound w → Sees s w →
      execute setting .window op choice w = some (ans, w') →
      ∃ s', (discipline setting).Triple .window (Sees s') (next ans) Q ∧ Sees s' w') :
    (discipline setting).Triple .window (Sees s) (perform op >>= next) Q := by
  show (discipline setting).Triple .window (Sees s) (.perform op next) Q
  refine Triple.perform
    (R := fun ans w => ∃ s', (discipline setting).Triple .window (Sees s') (next ans) Q ∧ Sees s' w)
    sees_stable hallowed (fun w choice ans w' hw hs _ he => hnext w choice ans w' hw hs he)
    fun ans w hw ⟨s', h, hs'⟩ => h w hw hs'

/-! ## The operations of the window's thread -/

/-- The thread a call creates. -/
def OwnCall.starts : OwnCall → Option ThreadId
  | .createWorker => some .worker
  | .createConsumer => some .consumer
  | _ => none

/-- What the thread knows after one of its own calls. -/
def Sight.own (s : Sight) (choice : Choice) (call : OwnCall) : Sight :=
  { s with
    shell := call.executeShell choice s.shell
    resources := call.executeTelemetry choice s.resources
    workerGone := s.workerGone && !(choice.ok && call.starts = some .worker)
    consumerGone := s.consumerGone && !(choice.ok && call.starts = some .consumer) }

section Operations

variable {Q : α → World → Prop}

/-- A call creates the thread it starts and no other. -/
lemma inactive_after {t : ThreadId} {choice : Choice} {call : OwnCall} (hp : call.Permitted w)
    (hinactive : w.active t = false) (hstart : (choice.ok && call.starts = some t) = false) :
    (w.after choice call).active t = false := by
  have hcreated : w.created t = false → (w.after choice call).created t = false := by
    cases t <;> cases call <;>
      simp only [World.created, OwnCall.executeTelemetry, OwnCall.executeEtw] <;>
      (try split) <;> simp_all [OwnCall.starts] <;> simp_all [OwnCall.Permitted]
  simp only [World.active, Bool.and_eq_false_iff] at hinactive ⊢
  exact hinactive.imp_left hcreated

lemma Sees.own (hs : Sees s w) {choice : Choice} {call : OwnCall} (hp : call.Permitted w) :
    Sees (s.own choice call) (w.after choice call) := by
  have hworker : (s.own choice call).workerGone = true →
      s.workerGone = true ∧ (choice.ok && call.starts = some .worker) = false :=
    fun h => by simpa only [Sight.own, Bool.and_eq_true, Bool.not_eq_true'] using h
  have hconsumer : (s.own choice call).consumerGone = true →
      s.consumerGone = true ∧ (choice.ok && call.starts = some .consumer) = false :=
    fun h => by simpa only [Sight.own, Bool.and_eq_true, Bool.not_eq_true'] using h
  refine ⟨hs.running, by simp [Sight.own, hs.shell], by simp [Sight.own, hs.resources], hs.thread,
    hs.hand, hs.gui, hs.inside, hs.node, hs.between, hs.initialized, fun h => ?_, fun h => ?_,
    fun hw hc => ?_, fun h => ?_⟩
  · exact inactive_after hp (hs.worker (hworker h).1) (hworker h).2
  · exact inactive_after hp (hs.consumer (hconsumer h).1) (hconsumer h).2
  · exact hs.queue (hworker hw).1 (hconsumer hc).1
  · exact hs.monitors (hworker h).1

/-- A call of the thread's own. -/
lemma step_own {call : OwnCall} {next : call.Answer → Program α}
    (hp : ∀ w, Sound w → Sees s w → call.Permitted w)
    (hnext : ∀ choice, (discipline setting).Triple .window (Sees (s.own choice call))
      (next (call.answer choice)) Q) :
    (discipline setting).Triple .window (Sees s) (ownCall call >>= next) Q := by
  refine Triple.sees (fun w hw hs => ⟨hs.running, rfl, hp w hw hs⟩)
    fun w choice ans w' hw hs he => ?_
  obtain ⟨rfl, rfl⟩ := Prod.mk.inj (Option.some.inj he)
  exact ⟨_, hnext choice, hs.own (hp w hw hs)⟩

/-- An operation that only reads. -/
lemma step_read {op : Operation} {next : op.Answer → Program α}
    (hallowed : ∀ w, Sound w → Sees s w → Allowed .window op w)
    (hnext : ∀ w choice ans w', Sees s w → execute setting .window op choice w = some (ans, w') →
      w' = w ∧ (discipline setting).Triple .window (Sees s) (next ans) Q) :
    (discipline setting).Triple .window (Sees s) (perform op >>= next) Q := by
  refine Triple.sees hallowed fun w choice ans w' hw hs he => ?_
  obtain ⟨rfl, htriple⟩ := hnext w choice ans w' hs he
  exact ⟨s, htriple, hs⟩

lemma step_log {next : Unit → Program α} (hlogger : s.shell.logger = .live)
    (hnext : (discipline setting).Triple .window (Sees s) (next ()) Q) :
    (discipline setting).Triple .window (Sees s) (perform .log >>= next) Q :=
  step_read (fun w _ hs => ⟨hs.running, by rw [Operation.Permitted, hs.shell, hlogger]⟩)
    fun _ _ _ _ _ he => ⟨(Prod.mk.inj (Option.some.inj he)).2.symm, hnext⟩

lemma step_queueInitialized {next : Bool → Program α}
    (hnext : (discipline setting).Triple .window (Sees s) (next s.initialized) Q) :
    (discipline setting).Triple .window (Sees s) (perform .queueInitialized >>= next) Q := by
  refine step_read (fun w _ hs => ⟨hs.running, trivial⟩) fun w choice ans w' hs he => ?_
  obtain ⟨rfl, rfl⟩ := Prod.mk.inj (Option.some.inj he)
  rw [hs.initialized]
  exact ⟨rfl, hnext⟩

lemma step_networkAvailable {next : Bool → Program α}
    (hnext : (discipline setting).Triple .window (Sees s) (next s.resources.networkAvailable) Q) :
    (discipline setting).Triple .window (Sees s) (perform .networkAvailable >>= next) Q := by
  refine step_read (fun w _ hs => ⟨hs.running, trivial⟩) fun w choice ans w' hs he => ?_
  obtain ⟨rfl, rfl⟩ := Prod.mk.inj (Option.some.inj he)
  rw [hs.resources]
  exact ⟨rfl, hnext⟩

/-! ### The queue -/

lemma step_enterQueue {next : Unit → Program α} (hlock : s.shell.lock = .live)
    (hinside : s.inside = false)
    (hnext : (discipline setting).Triple .window (Sees { s with inside := true }) (next ()) Q) :
    (discipline setting).Triple .window (Sees s) (perform .enterQueue >>= next) Q := by
  refine Triple.sees (fun w _ hs => ?_) fun w choice ans w' _ hs he => ?_
  · exact ⟨hs.running, by rw [hs.shell, hlock], hs.outside hinside⟩
  · simp only [execute] at he
    split at he
    · obtain ⟨-, rfl⟩ := Prod.mk.inj (Option.some.inj he)
      exact ⟨_, hnext, { hs with inside := by simp }⟩
    · cases he

lemma step_leaveQueue {next : Unit → Program α} (hinside : s.inside = true)
    (hnext : (discipline setting).Triple .window (Sees { s with inside := false }) (next ()) Q) :
    (discipline setting).Triple .window (Sees s) (perform .leaveQueue >>= next) Q := by
  refine Triple.sees (fun w _ hs => ⟨hs.running, hs.inside.mpr hinside⟩)
    fun w choice ans w' _ hs he => ?_
  obtain ⟨-, rfl⟩ := Prod.mk.inj (Option.some.inj he)
  exact ⟨_, hnext, { hs with inside := by simp }⟩

lemma step_eventQueueInitialize {next : Unit → Program α} (hlock : s.shell.lock = .absent)
    (hworker : s.workerGone = true) (hconsumer : s.consumerGone = true) (hthread : s.thread = .idle)
    (hhand : s.hand = none) (hgui : s.gui = .created)
    (hnext : (discipline setting).Triple .window
      (Sees { s with
        shell := { s.shell with lock := .live }
        initialized := true
        queue := eventQueueInitialize s.shell.window eventsReadyMessage }) (next ()) Q) :
    (discipline setting).Triple .window (Sees s) (perform .eventQueueInitialize >>= next) Q := by
  refine Triple.sees (fun w _ hs => ?_) fun w choice ans w' _ hs he => ?_
  · exact ⟨hs.running, rfl, by rw [hs.shell, hlock], hs.quiet hworker hconsumer,
      hs.thread.trans hthread, hs.hand.trans hhand, hs.gui.trans hgui⟩
  · obtain ⟨-, rfl⟩ := Prod.mk.inj (Option.some.inj he)
    refine ⟨_, hnext, { hs with shell := ?_, initialized := rfl, queue := ?_ }⟩
    · simp [hs.shell]
    · simp [hs.shell]

/-- `event_queue_set_window`, whose section changes nothing the thread relies on. -/
lemma step_setNotificationWindow {window : HWND} {next : Unit → Program α}
    (hinside : s.inside = true) (haims : Aims window s.shell.window)
    (hnext : ∀ queue, (discipline setting).Triple .window (Sees { s with queue := queue })
      (next ()) Q) :
    (discipline setting).Triple .window (Sees s) (perform (.setNotificationWindow window) >>= next)
      Q := by
  refine Triple.sees (fun w _ hs => ⟨hs.running, rfl, hs.inside.mpr hinside, hs.shell ▸ haims⟩)
    fun w choice ans w' _ hs he => ?_
  obtain ⟨-, rfl⟩ := Prod.mk.inj (Option.some.inj he)
  refine ⟨_, hnext (eventQueueSetWindow w.queue window),
    { hs with initialized := ?_, queue := fun _ _ => rfl }⟩
  simp only [eventQueueSetWindow]
  split <;> exact hs.initialized

lemma step_clearInitialized {next : Unit → Program α} (hinit : s.initialized = true)
    (hworker : s.workerGone = true) (hconsumer : s.consumerGone = true)
    (hnext : ∀ queue events, queue.initialized = false → queue.Exact events →
      (discipline setting).Triple .window (Sees { s with initialized := false, queue := queue })
        (next ()) Q) :
    (discipline setting).Triple .window (Sees s) (perform .clearInitialized >>= next) Q := by
  refine Triple.sees (fun w _ hs => ?_) fun w choice ans w' hw hs he => ?_
  · exact ⟨hs.running, rfl, hs.initialized.trans hinit, hs.quiet hworker hconsumer⟩
  · obtain ⟨-, rfl⟩ := Prod.mk.inj (Option.some.inj he)
    obtain ⟨events, hexact⟩ := hw.queue (hs.initialized.trans hinit)
    exact ⟨_, hnext { w.queue with initialized := false } events rfl hexact,
      { hs with initialized := rfl, queue := fun _ _ => rfl }⟩

/-- The first node of the queue, which is the thread's alone from here on. -/
lemma step_detachNodes {next : Option ℕ → Program α} (hinside : s.inside = true)
    (hinit : s.initialized = false) (hworker : s.workerGone = true)
    (hconsumer : s.consumerGone = true)
    (hnext : (discipline setting).Triple .window
      (Sees { s with
        queue := { s.queue with head := none, tail := none, notificationWindow := none } })
      (next s.queue.head) Q) :
    (discipline setting).Triple .window (Sees s) (perform .detachNodes >>= next) Q := by
  refine Triple.sees (fun w _ hs => ?_) fun w choice ans w' _ hs he => ?_
  · exact ⟨hs.running, rfl, hs.inside.mpr hinside, hs.initialized.trans hinit,
      hs.quiet hworker hconsumer⟩
  · obtain ⟨rfl, rfl⟩ := Prod.mk.inj (Option.some.inj he)
    have hqueue := hs.queue hworker hconsumer
    have hhead : w.queue.head = s.queue.head := by rw [hqueue]
    rw [← hhead] at hnext
    exact ⟨_, hnext, { hs with queue := fun _ _ => by rw [hqueue] }⟩

/-- Reading a node and freeing it. -/
lemma step_freeNext {node : ℕ} {block : Node TraceGlassEvent} {next : Option ℕ → Program α}
    (hblock : s.queue.nodes node = some block) (hinit : s.initialized = false)
    (hworker : s.workerGone = true) (hconsumer : s.consumerGone = true)
    (hnext : (discipline setting).Triple .window
      (Sees { s with
        queue := { s.queue with nodes := Function.update s.queue.nodes node none } })
      (next block.next) Q) :
    (discipline setting).Triple .window (Sees s)
      (perform (.nextNode node) >>= fun ans => perform (.freeQueued node) >>= fun _ => next ans)
      Q := by
  have hpermitted : ∀ w, Sees s w → w.queue.nodes node ≠ none ∧ w.queue.initialized = false ∧
      w.Quiet := by
    intro w hs
    rw [hs.initialized, hs.queue hworker hconsumer, hblock]
    exact ⟨by simp, hinit, hs.quiet hworker hconsumer⟩
  refine step_read (fun w _ hs => ⟨hs.running, rfl, hpermitted w hs⟩)
    fun w choice ans w' hs he => ?_
  obtain ⟨block', hblock', heq⟩ := Option.map_eq_some_iff.mp he
  obtain ⟨rfl, rfl⟩ := Prod.mk.inj heq
  rw [hs.queue hworker hconsumer, hblock, Option.some.injEq] at hblock'
  subst hblock'
  refine ⟨rfl, Triple.sees (fun w _ hs => ⟨hs.running, rfl, hpermitted w hs⟩)
    fun w choice ans w' _ hs he => ?_⟩
  obtain ⟨-, rfl⟩ := Prod.mk.inj (Option.some.inj he)
  refine ⟨_, hnext, { hs with queue := fun _ _ => ?_ }⟩
  rw [hs.queue hworker hconsumer]

/-! ### Draining -/

/-- The section of `pop_event` finds an event, or ends the loop. -/
lemma step_unlink {locals : DrainLocals} {next : Option ℕ → Program α} (hinside : s.inside = true)
    (hinit : s.initialized = true) (hthread : s.thread = .draining locals) (hnode : s.node = none)
    (hhand : s.hand = none)
    (hnone : ∀ queue, (discipline setting).Triple .window
      (Sees { s with thread := .finishing locals, queue := queue }) (next none) Q)
    (hsome : ∀ node hand queue, (discipline setting).Triple .window
      (Sees { s with node := some node, hand := some hand, queue := queue }) (next (some node)) Q) :
    (discipline setting).Triple .window (Sees s) (perform .unlink >>= next) Q := by
  refine Triple.sees (fun w _ hs => ?_) fun w choice ans w' hw hs he => ?_
  · exact ⟨hs.running, rfl, hs.inside.mpr hinside, hs.node.trans hnode, hs.hand.trans hhand,
      ⟨locals, hs.thread.trans hthread⟩, hs.initialized.trans hinit⟩
  · have hinit' := hs.initialized.trans hinit
    obtain ⟨events, hexact⟩ := hw.queue hinit'
    simp only [execute, hs.thread, hthread] at he
    split at he
    · next queue hlocals hpop =>
      obtain ⟨rfl, rfl⟩ := Prod.mk.inj (Option.some.inj he)
      obtain rfl := WindowThread.draining.inj hlocals
      obtain ⟨-, rfl⟩ := popEvent_none hinit' hpop
      exact ⟨_, hnone _, { hs with thread := rfl, queue := fun _ _ => rfl }⟩
    · next event queue _ hpop =>
      obtain ⟨rfl, rfl⟩ := Prod.mk.inj (Option.some.inj he)
      obtain ⟨head, rest, hhead, -, hinit'', -⟩ := popEvent_exact hexact hinit' hpop
      rw [hhead]
      refine ⟨_, hsome head (choice.drain, event) queue, { hs with
        thread := hthread.symm, hand := rfl, node := ?_, initialized := ?_,
        queue := fun _ _ => rfl }⟩
      · simp
      · exact hinit''.trans hinit.symm
    · cases he

lemma step_freeNode {node : ℕ} {next : Unit → Program α} (hnode : s.node = some node)
    (hnext : (discipline setting).Triple .window (Sees { s with node := none }) (next ()) Q) :
    (discipline setting).Triple .window (Sees s) (perform (.freeNode node) >>= next) Q := by
  refine Triple.sees (fun w _ hs => ⟨hs.running, hs.node.trans hnode⟩)
    fun w choice ans w' _ hs he => ?_
  obtain ⟨-, rfl⟩ := Prod.mk.inj (Option.some.inj he)
  exact ⟨_, hnext, { hs with node := by simp }⟩

lemma step_ingest {locals : DrainLocals} {next : Unit → Program α} (hstore : s.shell.store = .live)
    (hthread : s.thread = .draining locals) (hhand : s.hand ≠ none)
    (hnext : ∀ locals gui, (discipline setting).Triple .window
      (Sees { s with thread := .draining locals, hand := none, gui := gui }) (next ()) Q) :
    (discipline setting).Triple .window (Sees s) (perform .ingest >>= next) Q := by
  refine Triple.sees (fun w _ hs => ?_) fun w choice ans w' _ hs he => ?_
  · exact ⟨hs.running, rfl, hs.shell ▸ hstore, hs.hand ▸ hhand, locals, hs.thread.trans hthread⟩
  · simp only [execute] at he
    split at he
    · obtain ⟨-, rfl⟩ := Prod.mk.inj (Option.some.inj he)
      exact ⟨_, hnext _ _, { hs with thread := rfl, hand := rfl, gui := rfl }⟩
    · cases he

lemma step_finishDrain {locals : DrainLocals} {next : Unit → Program α}
    (hstore : s.shell.store = .live) (hthread : s.thread = .finishing locals)
    (hnext : ∀ gui, (discipline setting).Triple .window
      (Sees { s with thread := .idle, gui := gui }) (next ()) Q) :
    (discipline setting).Triple .window (Sees s) (perform .finishDrain >>= next) Q := by
  refine Triple.sees (fun w _ hs => ?_) fun w choice ans w' _ hs he => ?_
  · exact ⟨hs.running, rfl, hs.shell ▸ hstore, locals, hs.thread.trans hthread⟩
  · simp only [execute] at he
    split at he
    · obtain ⟨-, rfl⟩ := Prod.mk.inj (Option.some.inj he)
      exact ⟨_, hnext _, { hs with thread := rfl, gui := rfl }⟩
    · cases he

/-! ### Messages -/

/-- What the thread knows after a message: a window's message finds a window. -/
def Sight.Received (s s' : Sight) (queueReady : Bool) : Message → Prop
  | .quit => s.shell.quitPosted = true ∧ s' = s
  | .failed => s' = { s with shell := { s.shell with messagesFailed := true } }
  | .eventsReady => s.shell.window.isSome = true ∧ ∃ locals,
      s' = { s with thread := if queueReady then .draining locals else s.thread }
  | .close => s.shell.window.isSome = true ∧ s' = s
  | .input _ _ => s.shell.window.isSome = true ∧ ∃ gui, s' = { s with gui := gui }

lemma step_getMessage {queueReady : Bool} {next : Message → Program α} (hinside : s.inside = false)
    (hthread : s.thread = .idle) (hhand : s.hand = none) (hready : queueReady = s.initialized)
    (hquits : s.resources.signaled = true → s.shell.quitPosted = true)
    (hnext : ∀ message s', s.Received s' queueReady message →
      (discipline setting).Triple .window (Sees s') (next message) Q) :
    (discipline setting).Triple .window (Sees s) (perform (.getMessage queueReady) >>= next)
      Q := by
  refine Triple.sees (fun w _ hs => ?_) fun w choice ans w' _ hs he => ?_
  · refine ⟨hs.running, rfl, hs.outside hinside, hs.thread.trans hthread, hs.hand.trans hhand,
      hready.trans hs.initialized.symm, fun hclosing => ?_⟩
    rw [hs.shell]
    exact hquits (hs.resources ▸ hclosing.1)
  · obtain ⟨w'', hmessage, heq⟩ := Option.map_eq_some_iff.mp he
    obtain ⟨rfl, rfl⟩ := Prod.mk.inj heq
    have harrives := arrives hmessage
    generalize choice.message = message at harrives
    cases harrives with
    | quit hposted => exact ⟨s, hnext _ s ⟨hs.shell ▸ hposted, rfl⟩, hs⟩
    | failed => exact ⟨_, hnext _ _ rfl, { hs with shell := by rw [hs.shell] }⟩
    | eventsReady hwindow =>
      refine ⟨_, hnext _ _ ⟨hs.shell ▸ hwindow, beginDrain w.gui, rfl⟩, { hs with thread := ?_ }⟩
      rw [hs.thread]
    | close hwindow => exact ⟨s, hnext _ s ⟨hs.shell ▸ hwindow, rfl⟩, hs⟩
    | @input env input hwindow =>
      exact ⟨{ s with gui := uiStep setting.win32 setting.rowSort env w.gui input },
        hnext _ _ ⟨hs.shell ▸ hwindow, _, rfl⟩, { hs with gui := rfl }⟩

lemma step_destroyWindow {next : Unit → Program α} (hwindow : s.shell.window ≠ none)
    (hinit : s.initialized = false)
    (hnext : (discipline setting).Triple .window
      (Sees { s with shell := { s.shell with window := none } }) (next ()) Q) :
    (discipline setting).Triple .window (Sees s) (perform .destroyWindow >>= next) Q := by
  refine Triple.sees
    (fun w _ hs => ⟨hs.running, rfl, hs.shell ▸ hwindow, hs.initialized.trans hinit⟩)
    fun w choice ans w' _ hs he => ?_
  obtain ⟨-, rfl⟩ := Prod.mk.inj (Option.some.inj he)
  refine ⟨_, hnext, { hs with shell := ?_ }⟩
  simp [hs.shell]

/-! ### The collecting threads -/

lemma step_waitWorker {next : Unit → Program α} (hinside : s.inside = false)
    (hthread : s.resources.workerThread = .live) (htold : s.resources.signaled = true)
    (hnext : ∀ queue processMonitor networkMonitor, (discipline setting).Triple .window
      (Sees { s with
        workerGone := true, queue := queue, processMonitor := processMonitor
        networkMonitor := networkMonitor }) (next ()) Q) :
    (discipline setting).Triple .window (Sees s) (perform (.waitThread .worker) >>= next) Q := by
  refine Triple.sees (fun w _ hs => ?_) fun w choice ans w' _ hs he => ?_
  · exact ⟨hs.running, rfl, by decide, hs.outside hinside,
      by rw [World.handle, hs.resources, hthread], by rw [World.told, hs.resources, htold]⟩
  · simp only [execute] at he
    split at he
    · next hended =>
      obtain ⟨-, rfl⟩ := Prod.mk.inj (Option.some.inj he)
      exact ⟨_, hnext _ _ _, { hs with
        worker := fun _ => by simp [World.active, hended], queue := fun _ _ => rfl
        monitors := fun _ => ⟨rfl, rfl⟩ }⟩
    · cases he

lemma step_waitConsumer {next : Unit → Program α} (hinside : s.inside = false)
    (hthread : s.resources.etw.thread = .live) (htold : s.resources.etw.over = true)
    (hnext : ∀ queue, (discipline setting).Triple .window
      (Sees { s with consumerGone := true, queue := queue }) (next ()) Q) :
    (discipline setting).Triple .window (Sees s) (perform (.waitThread .consumer) >>= next) Q := by
  refine Triple.sees (fun w _ hs => ?_) fun w choice ans w' _ hs he => ?_
  · exact ⟨hs.running, rfl, by decide, hs.outside hinside,
      by rw [World.handle, hs.resources, hthread], by rw [World.told, hs.resources, htold]⟩
  · simp only [execute] at he
    split at he
    · next hended =>
      obtain ⟨-, rfl⟩ := Prod.mk.inj (Option.some.inj he)
      exact ⟨_, hnext _, { hs with
        consumer := fun _ => by simp [World.active, hended], queue := fun _ _ => rfl }⟩
    · cases he

lemma step_forgetProcesses {next : Unit → Program α} (hworker : s.workerGone = true)
    (hnext : (discipline setting).Triple .window
      (Sees { s with processMonitor := processMonitorInitialize }) (next ()) Q) :
    (discipline setting).Triple .window (Sees s)
      (perform (.setProcessMonitor processMonitorInitialize) >>= next) Q := by
  refine Triple.sees (fun w _ hs => ⟨hs.running, .inr ⟨rfl, hs.worker hworker, rfl⟩⟩)
    fun w choice ans w' _ hs he => ?_
  obtain ⟨-, rfl⟩ := Prod.mk.inj (Option.some.inj he)
  exact ⟨_, hnext, { hs with monitors := fun h => ⟨rfl, (hs.monitors h).2⟩ }⟩

lemma step_forgetConnections {next : Unit → Program α} (hworker : s.workerGone = true)
    (hnext : (discipline setting).Triple .window
      (Sees { s with networkMonitor := networkMonitorInitialize }) (next ()) Q) :
    (discipline setting).Triple .window (Sees s)
      (perform (.setNetworkMonitor networkMonitorInitialize) >>= next) Q := by
  refine Triple.sees (fun w _ hs => ⟨hs.running, .inr ⟨rfl, hs.worker hworker, rfl⟩⟩)
    fun w choice ans w' _ hs he => ?_
  obtain ⟨-, rfl⟩ := Prod.mk.inj (Option.some.inj he)
  exact ⟨_, hnext, { hs with monitors := fun h => ⟨(hs.monitors h).1, rfl⟩ }⟩

end Operations

end TraceGlass
