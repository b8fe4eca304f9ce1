import TraceGlass.Lib.OwnedFifo
import TraceGlass.Telemetry.Programs

/-!
# What the threads keep to

`Permitted` says for each operation where it does no harm: no object is used before it has been
created or after it has been released, nothing is released twice, the queue is only touched inside
its critical section, the monitors only by the thread they belong to at the time, and a thread is
waited for only once it has been told to end.  `Allowed` adds the one exception: `ProcessTrace` on
the trace that `etw_process_monitor_stop` closes before it waits for the consumer.  `Sound` is the
invariant of the world, and `Frame` what the others leave to a thread.  `sound_and_frames` is the
one proof about operations: an allowed one keeps both.
-/

namespace TraceGlass

open Threads LinkedFifo

/-- The queue holds these events, and its heap no other block. -/
def EventQueue.Exact (queue : EventQueue) (events : List TraceGlassEvent) : Prop :=
  Owned queue.nodes queue.head queue.tail events

namespace World

/-- Neither of the collecting threads runs. -/
def Quiet (world : World) : Prop := world.active .worker = false ∧ world.active .consumer = false

/-- The worker has been told to stop. -/
def Closing (world : World) : Prop :=
  world.resources.signaled = true ∧ world.resources.workerThread ≠ .absent

/-- The handle of a thread. -/
def handle (world : World) : ThreadId → Life
  | .window => .live
  | .worker => world.resources.workerThread
  | .consumer => world.resources.etw.thread

/-- What ends a thread has come: the stop event is set, or the tracing is over. -/
def told (world : World) : ThreadId → Bool
  | .window => false
  | .worker => world.resources.signaled
  | .consumer => world.resources.etw.over

end World

/-- Everything a collecting thread uses is there. -/
structure Collectable (world : World) : Prop where
  logger : world.shell.logger = .live
  queue : world.queue.initialized = true
  window : world.shell.window ≠ none

/-- Notifications go to this window or nowhere. -/
def Aims (target window : HWND) : Prop := target ≠ none → target = window

/-- A call of the window's thread does no harm. -/
def OwnCall.Permitted (world : World) : OwnCall → Prop
  | .openLogger => world.shell.logger = .absent
  | .closeLogger => world.shell.logger = .live ∧ world.Quiet
  | .postQuitMessage | .callocProperties => True
  | .registerClass windowClass => world.shell.classes.registered windowClass = false
  | .unregisterClass windowClass => world.shell.classes.registered windowClass = true
  | .createWindow => world.shell.window = none ∧ world.shell.classes.main = true
  | .createControls => world.shell.window ≠ none
  | .eventStoreInitialize => world.shell.store = .absent
  | .eventStoreDestroy => world.shell.store = .live
  | .deleteQueueLock =>
      world.shell.lock = .live ∧ world.holder = none ∧ world.queue.initialized = false ∧ world.Quiet
  | .createStopEvent => world.resources.stopEvent = .absent
  | .resetStopEvent => world.resources.stopEvent = .live ∧ world.resources.workerThread = .absent
  | .setStopEvent => world.resources.stopEvent = .live
  | .closeStopEvent => world.resources.stopEvent = .live ∧ world.active .worker = false
  | .createWorker =>
      world.resources.workerThread = .absent ∧ world.resources.stopEvent = .live ∧ Collectable world
  | .closeWorker => world.resources.workerThread = .live
  | .wsaStartup => world.resources.winsock = .absent
  | .wsaCleanup => world.resources.winsock = .live ∧ world.active .worker = false
  | .setNetworkAvailable available =>
      world.active .worker = false ∧
        (available = false → world.networkMonitor = networkMonitorInitialize)
  | .freeProperties => 0 < world.resources.etw.properties
  | .startTrace => 0 < world.resources.etw.properties ∧ world.resources.etw.session = false
  | .enableProvider | .disableProvider => world.resources.etw.session = true
  | .stopTrace => 0 < world.resources.etw.properties ∧ world.resources.etw.session = true
  | .openTrace => world.resources.etw.trace = .absent ∧ world.resources.etw.session = true
  | .closeTrace => world.resources.etw.trace = .live ∧ world.resources.etw.running = false
  | .setEtwRunning running => running = true → world.resources.etw.trace = .live
  | .createConsumer =>
      world.resources.etw.thread = .absent ∧ world.resources.etw.trace = .live ∧ Collectable world
  | .closeConsumer => world.resources.etw.thread = .live ∧ world.active .consumer = false

/-- An operation of a running thread does no harm. -/
def Operation.Permitted (world : World) (t : ThreadId) : Operation → Prop
  | .own call => t = .window ∧ call.Permitted world
  | .log => world.shell.logger = .live
  | .eventQueueInitialize =>
      t = .window ∧ world.shell.lock = .absent ∧ world.Quiet ∧ world.thread = .idle ∧
        world.hand = none ∧ world.gui = .created
  | .queueInitialized | .networkAvailable | .etwRunning => True
  | .enterQueue => world.shell.lock = .live ∧ world.holder ≠ some t
  | .leaveQueue => world.holder = some t
  | .mallocNode => world.node t = none
  | .link node _ =>
      t ≠ .window ∧ world.holder = some t ∧ world.node t = some node ∧ world.between t = none ∧
        world.queue.initialized = true
  | .notify locals =>
      t ≠ .window ∧ world.between t = some locals ∧
        Aims locals.notificationWindow world.shell.window ∧ world.shell.window ≠ none
  | .unlink =>
      t = .window ∧ world.holder = some t ∧ world.node t = none ∧ world.hand = none ∧
        (∃ locals, world.thread = .draining locals) ∧ world.queue.initialized = true
  | .freeNode node => world.node t = some node
  | .setNotificationWindow window =>
      t = .window ∧ world.holder = some t ∧ Aims window world.shell.window
  | .clearInitialized => t = .window ∧ world.queue.initialized = true ∧ world.Quiet
  | .detachNodes =>
      t = .window ∧ world.holder = some t ∧ world.queue.initialized = false ∧ world.Quiet
  | .nextNode node | .freeQueued node =>
      t = .window ∧ world.queue.nodes node ≠ none ∧ world.queue.initialized = false ∧ world.Quiet
  | .getMessage queueReady =>
      t = .window ∧ world.holder ≠ some t ∧ world.thread = .idle ∧ world.hand = none ∧
        queueReady = world.queue.initialized ∧ (world.Closing → world.shell.quitPosted = true)
  | .ingest =>
      t = .window ∧ world.shell.store = .live ∧ world.hand ≠ none ∧
        ∃ locals, world.thread = .draining locals
  | .finishDrain =>
      t = .window ∧ world.shell.store = .live ∧ ∃ locals, world.thread = .finishing locals
  | .destroyWindow =>
      t = .window ∧ world.shell.window ≠ none ∧ world.queue.initialized = false
  | .stopSignaled => world.resources.stopEvent = .live
  | .waitThread thread =>
      t = .window ∧ thread ≠ .window ∧ world.holder ≠ some t ∧ world.handle thread = .live ∧
        world.told thread = true
  | .started => True
  | .exitThread => world.holder ≠ some t ∧ world.node t = none ∧ world.between t = none
  | .processMonitor | .queryProcesses | .networkMonitor | .queryConnections => t = .worker
  | .setProcessMonitor monitor =>
      t = .worker ∨
        t = .window ∧ world.active .worker = false ∧ monitor = processMonitorInitialize
  | .setNetworkMonitor monitor =>
      t = .worker ∧ world.resources.networkAvailable = true ∨
        t = .window ∧ world.active .worker = false ∧ monitor = networkMonitorInitialize
  | .processTrace =>
      t = .consumer ∧ world.holder ≠ some t ∧ world.resources.etw.trace = .live

/-- `etw_process_monitor_stop` has closed the trace, and has not waited for the consumer yet. -/
def EtwResources.Closing (etw : EtwResources) : Prop :=
  etw.trace = .gone ∧ etw.thread = .live ∧ etw.running = false

/-- An operation does no harm, where a thread that has not been created yet waits at its start.  The
one exception is the consumer's `ProcessTrace`, which can come to a trace that has just been
closed. -/
def Allowed (t : ThreadId) : Operation → World → Prop
  | .started, world => world.holder ≠ some t
  | .processTrace, world => world.active t = true ∧ (Operation.Permitted world t .processTrace ∨
      t = .consumer ∧ world.holder ≠ some t ∧ world.resources.etw.Closing)
  | op, world => world.active t = true ∧ op.Permitted world t

/-- **The invariant of the world.** -/
structure Sound (world : World) : Prop where
  lock : world.queue.initialized = true → world.shell.lock = .live
  queue : world.queue.initialized = true → ∃ events, world.queue.Exact events
  collectable : ∀ t, t ≠ .window → world.active t = true → Collectable world
  worker : world.active .worker = true → world.resources.stopEvent = .live
  consumer : world.active .consumer = true →
    world.resources.etw.trace = .live ∨ world.resources.etw.Closing
  consumerThread : world.active .consumer = true → world.resources.etw.thread = .live
  holder : ∀ t, world.holder = some t → world.active t = true ∧ world.shell.lock = .live
  idle : ∀ t, world.active t = false → world.node t = none ∧ world.between t = none
  fresh : ∀ t a, world.node t = some a → world.queue.nodes a = none
  apart : ∀ t u a, world.node t = some a → world.node u = some a → t = u
  unpolled : world.resources.networkAvailable = false →
    world.networkMonitor = networkMonitorInitialize
  unposted : world.shell.lock = .absent → world.posted = []
  notifies : world.queue.initialized = true →
    Aims world.queue.notificationWindow world.shell.window
  notified : ∀ t locals, t ≠ .window → world.between t = some locals →
    Aims locals.notificationWindow world.shell.window

/-- What only the window's thread changes. -/
structure WindowFrame (world world' : World) : Prop where
  shell : world'.shell = world.shell
  resources : world'.resources = world.resources
  thread : world'.thread = world.thread
  hand : world'.hand = world.hand
  gui : world'.gui = world.gui
  initialized : world'.queue.initialized = world.queue.initialized
  monitors : world.active .worker = false →
    world'.processMonitor = world.processMonitor ∧ world'.networkMonitor = world.networkMonitor
  queue : world.Quiet → world'.queue = world.queue

/-- What the others leave to a thread. -/
structure Frame (t : ThreadId) (world world' : World) : Prop where
  created : ∀ u, world.created u = true → world'.created u = true
  ended : ∀ u, world.ended u = true → world'.ended u = true
  self : world'.ended t = world.ended t
  holder : world'.holder = some t ↔ world.holder = some t
  node : world'.node t = world.node t
  between : world'.between t = world.between t
  closing : world.Closing → world'.Closing
  records : t = .consumer → world'.records = world.records
  available : t = .worker → world.active .worker = true →
    world'.resources.networkAvailable = world.resources.networkAvailable
  owned : t = .window → WindowFrame world world'

namespace World

variable {world world' : World} {t : ThreadId}

/-- A thread that does not run any more, or not yet, and is not created, does not run later. -/
lemma inactive_of_frame (h : WindowFrame world world')
    (hended : ∀ u, world.ended u = true → world'.ended u = true)
    (hinactive : world.active t = false) : world'.active t = false := by
  have hcreated : world'.created t = world.created t := by
    cases t <;> simp [created, h.resources]
  have := hended t
  simp only [active, hcreated, Bool.and_eq_false_iff, Bool.not_eq_false'] at hinactive ⊢
  exact hinactive.imp_right this

lemma active_of_frame (h : Frame t world world') (hactive : world.active t = true) :
    world'.active t = true := by
  simp only [active, Bool.and_eq_true, Bool.not_eq_true'] at hactive ⊢
  exact ⟨h.created t hactive.1, h.self.trans hactive.2⟩

end World

lemma Frame.refl (t : ThreadId) (world : World) : Frame t world world where
  created _ h := h
  ended _ h := h
  self := rfl
  holder := Iff.rfl
  node := rfl
  between := rfl
  closing h := h
  records _ := rfl
  available _ _ := rfl
  owned _ := ⟨rfl, rfl, rfl, rfl, rfl, rfl, fun _ => ⟨rfl, rfl⟩, fun _ => rfl⟩

lemma WindowFrame.trans {world world' world'' : World} (h : WindowFrame world world')
    (h' : WindowFrame world' world'')
    (hended : ∀ u, world.ended u = true → world'.ended u = true) : WindowFrame world world'' where
  shell := h'.shell.trans h.shell
  resources := h'.resources.trans h.resources
  thread := h'.thread.trans h.thread
  hand := h'.hand.trans h.hand
  gui := h'.gui.trans h.gui
  initialized := h'.initialized.trans h.initialized
  monitors hworker := by
    have hboth := h'.monitors (World.inactive_of_frame h hended hworker)
    exact ⟨hboth.1.trans (h.monitors hworker).1, hboth.2.trans (h.monitors hworker).2⟩
  queue hquiet := by
    have hquiet' : world'.Quiet :=
      ⟨World.inactive_of_frame h hended hquiet.1, World.inactive_of_frame h hended hquiet.2⟩
    exact (h'.queue hquiet').trans (h.queue hquiet)

lemma Frame.trans {t : ThreadId} {world world' world'' : World} (h : Frame t world world')
    (h' : Frame t world' world'') : Frame t world world'' where
  created u hu := h'.created u (h.created u hu)
  ended u hu := h'.ended u (h.ended u hu)
  self := h'.self.trans h.self
  holder := h'.holder.trans h.holder
  node := h'.node.trans h.node
  between := h'.between.trans h.between
  closing hc := h'.closing (h.closing hc)
  records ht := (h'.records ht).trans (h.records ht)
  available ht hactive :=
    (h'.available ht (ht ▸ World.active_of_frame h (ht ▸ hactive))).trans (h.available ht hactive)
  owned ht := (h.owned ht).trans (h'.owned ht) h.ended

/-! ## The operations -/

section Operations

variable {queue queue' : EventQueue} {events : List TraceGlassEvent} {event : TraceGlassEvent}
  {locals : PushLocals} {node : ℕ}

lemma pushEvent_exact (h : queue.Exact events) (hfree : queue.nodes node = none)
    (hpush : pushEvent queue (some node) event = some (queue', locals)) :
    queue'.initialized = queue.initialized ∧ queue'.Exact (events ++ [event]) ∧
      (∀ a, a ≠ node → queue.nodes a = none → queue'.nodes a = none) ∧
      queue'.notificationWindow = queue.notificationWindow ∧
      locals.notificationWindow = queue.notificationWindow := by
  obtain ⟨address, haddress, rfl, rfl⟩ := pushEvent_eq_some hpush
  obtain rfl := Option.some.inj haddress
  refine ⟨by simp, ?_, fun a hne ha => ?_, by simp, rfl⟩
  · unfold EventQueue.Exact linkNode
    cases htail : queue.tail with
    | none =>
      obtain ⟨rfl, -⟩ := (htail ▸ h.linked).push_nil (a := node) event
      exact (htail ▸ h : Owned queue.nodes queue.head none []).push_nil event
    | some tail =>
      exact (htail ▸ h : Owned queue.nodes queue.head (some tail) _).push_cons event hfree
  · unfold linkNode
    cases htail : queue.tail with
    | none => simpa [Function.update_of_ne hne] using ha
    | some tail =>
      rcases eq_or_ne a tail with rfl | hat
      · simp [setNext, Function.update_of_ne hne, ha]
      · simpa [setNext, Function.update_of_ne hne, Function.update_of_ne hat] using ha

/-- A pop that answers no event has cleared the mark and nothing else. -/
lemma popEvent_none (hinit : queue.initialized = true)
    (hpop : popEvent queue = some (none, queue')) :
    queue.head = none ∧ queue' = { queue with notificationPending := false } := by
  unfold popEvent at hpop
  split at hpop
  · simp_all
  · split at hpop
    · next hhead => exact ⟨hhead, by simpa using hpop.symm⟩
    · split at hpop
      · cases hpop
      · simp at hpop

/-- A pop that answers an event has unlinked the block at the head. -/
lemma popEvent_exact (h : queue.Exact events) (hinit : queue.initialized = true)
    (hpop : popEvent queue = some (some event, queue')) :
    ∃ head rest, queue.head = some head ∧ events = event :: rest ∧ queue'.initialized = true ∧
      queue'.Exact rest ∧ queue'.nodes head = none ∧ queue.nodes head ≠ none ∧
      (∀ a, queue.nodes a = none → queue'.nodes a = none) ∧
      queue'.notificationWindow = queue.notificationWindow := by
  unfold popEvent at hpop
  split at hpop
  · simp_all
  · split at hpop
    · simp at hpop
    · next head hhead =>
      have howned : Owned queue.nodes (some head) queue.tail events := by
        rw [← hhead]
        exact h
      obtain ⟨x, next, rest, hnode, rfl, hrest⟩ := howned.pop
      simp only [hnode, Option.some.injEq, Prod.mk.injEq] at hpop
      obtain ⟨rfl, rfl⟩ := hpop
      refine ⟨head, rest, hhead, rfl, hinit, hrest, by simp, by simp [hnode], fun a ha => ?_, rfl⟩
      rcases eq_or_ne a head with rfl | hne
      · simp
      · simpa [Function.update_of_ne hne] using ha

end Operations

section Keeps

variable {setting : Setting} {t u : ThreadId} {choice : Choice} {w w' : World}

attribute [local grind =] World.active World.created World.Quiet World.Closing EtwResources.Closing
attribute [local grind] Collectable ThreadId Allowed Operation.Permitted OwnCall.Permitted

/-- The world after a call of the window's thread. -/
abbrev World.after (w : World) (choice : Choice) (call : OwnCall) : World :=
  { w with
    shell := call.executeShell choice w.shell
    resources := call.executeTelemetry choice w.resources }

section OwnCalls

variable {call : OwnCall}

/-- No call of the window's thread ends a thread. -/
lemma active_after (hp : call.Permitted w) (h : w.active t = true) :
    (w.after choice call).active t = true := by
  cases call <;>
    simp only [World.after, OwnCall.executeShell, OwnCall.executeTelemetry, OwnCall.executeEtw] <;>
    (try split) <;>
    first
    | exact h
    | (cases t <;> simp_all [World.active, World.created])

/-- It creates one where everything it uses is there. -/
lemma collectable_after (h : Sound w) (hp : call.Permitted w) (ht : t ≠ .window)
    (hactive : (w.after choice call).active t = true) : Collectable (w.after choice call) := by
  have hcollect : w.active t = true → Collectable w := h.collectable t ht
  cases call <;>
    simp only [World.after, OwnCall.executeShell, OwnCall.executeTelemetry, OwnCall.executeEtw]
      at hactive ⊢ <;>
    (try split at hactive) <;>
    first
    | exact ⟨(hcollect hactive).logger, (hcollect hactive).queue, (hcollect hactive).window⟩
    | grind

/-- The lock of the queue stays, while the queue is initialized or a thread is inside. -/
lemma lock_after (hp : call.Permitted w) (hlock : w.shell.lock = .live)
    (hused : w.queue.initialized = true ∨ w.holder ≠ none) :
    (w.after choice call).shell.lock = .live := by
  cases call with
  | deleteQueueLock =>
    obtain ⟨-, hholder, hinit, -⟩ := hp
    simp [hholder, hinit] at hused
  | registerClass | unregisterClass | createWindow =>
    simp only [OwnCall.executeShell]
    split <;> exact hlock
  | _ => exact hlock

/-- What the worker waits on stays as long as it runs. -/
lemma stopEvent_after (h : Sound w) (hp : call.Permitted w)
    (hactive : (w.after choice call).active .worker = true) :
    (w.after choice call).resources.stopEvent = .live := by
  have hworker := h.worker
  cases call <;>
    simp only [World.after, OwnCall.executeShell, OwnCall.executeTelemetry, OwnCall.executeEtw]
      at hactive ⊢ <;>
    (try split at hactive) <;>
    first
    | exact hworker hactive
    | grind

/-- What the consumer traces is there as long as it runs, or has just been closed. -/
lemma trace_after (h : Sound w) (hp : call.Permitted w)
    (hactive : (w.after choice call).active .consumer = true) :
    ((w.after choice call).resources.etw.trace = .live ∨
        (w.after choice call).resources.etw.Closing) ∧
      (w.after choice call).resources.etw.thread = .live := by
  have hconsumer : w.active .consumer = true →
      (w.resources.etw.trace = .live ∨ w.resources.etw.Closing) ∧ w.resources.etw.thread = .live :=
    fun ha => ⟨h.consumer ha, h.consumerThread ha⟩
  cases call <;>
    simp only [World.after, OwnCall.executeShell, OwnCall.executeTelemetry, OwnCall.executeEtw]
      at hactive ⊢ <;>
    (try split at hactive) <;>
    first
    | exact hconsumer hactive
    | grind

/-- The window stays where it is, so that notifications that go to it still do. -/
lemma aims_after {target : HWND} (hp : call.Permitted w) (h : Aims target w.shell.window) :
    Aims target (w.after choice call).shell.window := by
  cases call with
  | createWindow =>
    intro hne
    exact absurd ((h hne).trans hp.1) hne
  | registerClass | unregisterClass =>
    simp only [OwnCall.executeShell]
    split <;> exact h
  | _ => exact h

/-- A queue without a lock has nothing posted, and a worker without a network polls none. -/
lemma untouched_after (h : Sound w) (hp : call.Permitted w) :
    ((w.after choice call).resources.networkAvailable = false →
        w.networkMonitor = networkMonitorInitialize) ∧
      ((w.after choice call).shell.lock = .absent → w.posted = []) := by
  cases call with
  | setNetworkAvailable available => exact ⟨hp.2, h.unposted⟩
  | deleteQueueLock => exact ⟨h.unpolled, nofun⟩
  | _ =>
    simp only [OwnCall.executeShell, OwnCall.executeTelemetry]
    try split
    all_goals exact ⟨h.unpolled, h.unposted⟩

/-- **A permitted call of the window's thread keeps the invariant.** -/
lemma Sound.own (h : Sound w) (hp : call.Permitted w) : Sound (w.after choice call) where
  lock hinit := lock_after hp (h.lock hinit) (.inl hinit)
  queue := h.queue
  collectable t := collectable_after h hp
  worker := stopEvent_after h hp
  consumer hactive := (trace_after h hp hactive).1
  consumerThread hactive := (trace_after h hp hactive).2
  holder t ht := ⟨active_after hp (h.holder t ht).1,
    lock_after hp (h.holder t ht).2 (.inr (by simp [show w.holder = some t from ht]))⟩
  idle t ht := h.idle t (Bool.eq_false_iff.mpr fun hactive =>
    Bool.false_ne_true (ht.symm.trans (active_after hp hactive)))
  fresh := h.fresh
  apart := h.apart
  unpolled := (untouched_after h hp).1
  unposted := (untouched_after h hp).2
  notifies hinit := aims_after hp (h.notifies hinit)
  notified t locals ht hbetween := aims_after hp (h.notified t locals ht hbetween)

end OwnCalls

lemma Frame.own (hu : u ≠ .window) {call : OwnCall} (hp : call.Permitted w) :
    Frame u w (w.after choice call) := by
  have hwindow : ∀ {w'}, u = .window → WindowFrame w w' := fun h => absurd h hu
  cases call <;>
    simp only [World.after, OwnCall.executeShell, OwnCall.executeTelemetry, OwnCall.executeEtw] <;>
    (try split) <;>
    first
    | exact ⟨fun _ h => h, fun _ h => h, rfl, Iff.rfl, rfl, rfl, fun h => h, fun _ => rfl,
        fun _ _ => rfl, hwindow⟩
    | (refine ⟨?_, fun _ h => h, rfl, Iff.rfl, rfl, rfl, ?_, fun _ => rfl, ?_, hwindow⟩ <;> grind)

/-- What the invariant is not about has changed. -/
lemma Sound.congr (h : Sound w) (hshell : w'.shell = w.shell)
    (hresources : w'.resources = w.resources) (hqueue : w'.queue = w.queue)
    (hholder : w'.holder = w.holder) (hnode : w'.node = w.node)
    (hbetween : w'.between = w.between) (hended : w'.ended = w.ended)
    (hmonitor : w.resources.networkAvailable = false → w'.networkMonitor = w.networkMonitor)
    (hposted : w.posted = [] → w'.posted = []) : Sound w' := by
  cases w
  cases w'
  simp only at hshell hresources hqueue hholder hnode hbetween hended
  subst hshell hresources hqueue hholder hnode hbetween hended
  exact { h with
    collectable := fun t ht ha => { h.collectable t ht ha with }
    unpolled := fun ha => (hmonitor ha).trans (h.unpolled ha)
    unposted := fun hl => hposted (h.unposted hl) }

/-- Which threads run depends on the handles and on who has ended. -/
lemma active_congr (hresources : w'.resources = w.resources) (hended : w'.ended = w.ended) :
    w'.active = w.active := by
  funext t
  cases t <;> simp [World.active, World.created, hresources, hended]

/-- The queue, or what the threads hold of it, has changed. -/
lemma Sound.update (h : Sound w) (hshell : w'.shell = w.shell)
    (hresources : w'.resources = w.resources) (hended : w'.ended = w.ended)
    (hmonitor : w'.networkMonitor = w.networkMonitor)
    (hposted : w.shell.lock = .absent → w'.posted = w.posted)
    (hinit : w'.queue.initialized = w.queue.initialized)
    (hqueue : w'.queue.initialized = true → ∃ events, w'.queue.Exact events)
    (hholder : ∀ t, w'.holder = some t → w.active t = true ∧ w.shell.lock = .live)
    (hidle : ∀ t, w.active t = false → w'.node t = none ∧ w'.between t = none)
    (hfresh : ∀ t a, w'.node t = some a → w'.queue.nodes a = none)
    (hapart : ∀ t u a, w'.node t = some a → w'.node u = some a → t = u)
    (hnotifies : w'.queue.initialized = true → Aims w'.queue.notificationWindow w.shell.window)
    (hnotified : ∀ t locals, t ≠ .window → w'.between t = some locals →
      Aims locals.notificationWindow w.shell.window) : Sound w' := by
  have hactive := active_congr hresources hended
  refine {
    lock := by rw [hinit, hshell]; exact h.lock
    queue := hqueue
    collectable := fun t ht ha => ?_
    worker := by rw [hactive, hresources]; exact h.worker
    consumer := by rw [hactive, hresources]; exact h.consumer
    consumerThread := by rw [hactive, hresources]; exact h.consumerThread
    holder := by rw [hactive, hshell]; exact hholder
    idle := by rw [hactive]; exact hidle
    fresh := hfresh
    apart := hapart
    unpolled := by rw [hresources, hmonitor]; exact h.unpolled
    unposted := by rw [hshell]; exact fun hl => (hposted hl).trans (h.unposted hl)
    notifies := hshell ▸ hnotifies
    notified := hshell ▸ hnotified }
  rw [hactive] at ha
  have hcollectable := h.collectable t ht ha
  exact ⟨hshell ▸ hcollectable.logger, hinit.trans hcollectable.queue,
    hshell ▸ hcollectable.window⟩

lemma Frame.of_update (hresources : w'.resources = w.resources) (hended : w'.ended = w.ended)
    (hholder : w'.holder = some u ↔ w.holder = some u) (hnode : w'.node u = w.node u)
    (hbetween : w'.between u = w.between u) (hrecords : u = .consumer → w'.records = w.records)
    (hwindow : u = .window → WindowFrame w w') : Frame u w w' where
  created v hv := by
    cases v <;> simp_all [World.created]
  ended v hv := by rwa [hended]
  self := by rw [hended]
  holder := hholder
  node := hnode
  between := hbetween
  closing hc := by rwa [World.Closing, hresources]
  records := hrecords
  available _ _ := by rw [hresources]
  owned := hwindow

/-- An operation of the window's thread on what is its own leaves the others alone. -/
lemma Frame.of_window (hresources : w'.resources = w.resources) (hended : w'.ended = w.ended)
    (hholder : w'.holder = w.holder) (hnode : w'.node = w.node) (hbetween : w'.between = w.between)
    (hrecords : w'.records = w.records) (hu : u ≠ .window) : Frame u w w' :=
  .of_update hresources hended (by rw [hholder]) (by rw [hnode]) (by rw [hbetween])
    (fun _ => hrecords) fun h => absurd h hu

/-- A collecting thread leaves the window's thread what is its own. -/
lemma WindowFrame.of_collector (ht : t ≠ .window) (hactive : w.active t = true)
    (hshell : w'.shell = w.shell) (hresources : w'.resources = w.resources)
    (hthread : w'.thread = w.thread) (hhand : w'.hand = w.hand) (hgui : w'.gui = w.gui)
    (hinit : w'.queue.initialized = w.queue.initialized)
    (hmonitors : t = .worker ∨
      w'.processMonitor = w.processMonitor ∧ w'.networkMonitor = w.networkMonitor) :
    WindowFrame w w' where
  shell := hshell
  resources := hresources
  thread := hthread
  hand := hhand
  gui := hgui
  initialized := hinit
  monitors hinactive := hmonitors.resolve_left fun h => by simp [← h, hactive] at hinactive
  queue hquiet := by
    cases t with
    | window => exact absurd rfl ht
    | worker => exact absurd hquiet.1 (by simp [hactive])
    | consumer => exact absurd hquiet.2 (by simp [hactive])

/-- The window's thread changes the queue while no other thread runs. -/
lemma Sound.update_quiet (h : Sound w) (hquiet : w.Quiet) (hresources : w'.resources = w.resources)
    (hended : w'.ended = w.ended) (hholder : w'.holder = w.holder) (hnode : w'.node = w.node)
    (hbetween : w'.between = w.between) (hmonitor : w'.networkMonitor = w.networkMonitor)
    (hlock : w.shell.lock = .live → w'.shell.lock = .live)
    (hinit : w'.queue.initialized = true → w'.shell.lock = .live)
    (hqueue : w'.queue.initialized = true → ∃ events, w'.queue.Exact events)
    (hfree : ∀ a, w.queue.nodes a = none → w'.queue.nodes a = none)
    (hposted : w'.shell.lock = .absent → w'.posted = [])
    (hnotifies : w'.queue.initialized = true →
      Aims w'.queue.notificationWindow w'.shell.window) : Sound w' := by
  have hactive := active_congr hresources hended
  have hinactive : ∀ t, t ≠ .window → w'.active t = false := by
    rw [hactive]
    intro t ht
    cases t with
    | window => exact absurd rfl ht
    | worker => exact hquiet.1
    | consumer => exact hquiet.2
  refine {
    lock := hinit
    queue := hqueue
    collectable := fun t ht ha => by simp [hinactive t ht] at ha
    worker := fun ha => by simp [hinactive .worker (by decide)] at ha
    consumer := fun ha => by simp [hinactive .consumer (by decide)] at ha
    consumerThread := fun ha => by simp [hinactive .consumer (by decide)] at ha
    holder := fun t ht => hactive ▸ (h.holder t (hholder ▸ ht)).imp_right hlock
    idle := by rw [hactive, hnode, hbetween]; exact h.idle
    fresh := fun t a ht => hfree a (h.fresh t a (hnode ▸ ht))
    apart := hnode ▸ h.apart
    unpolled := by rw [hresources, hmonitor]; exact h.unpolled
    unposted := hposted
    notifies := hnotifies
    notified := fun t locals ht hlocals => ?_ }
  -- nobody is on the way to a notification
  have hidle := (h.idle t (hactive ▸ hinactive t ht)).2
  rw [hbetween, hidle] at hlocals
  cases hlocals

/-- A collecting thread ends. -/
lemma Sound.exit (h : Sound w) (hinside : w.holder ≠ some t) (hnode : w.node t = none)
    (hbetween : w.between t = none) :
    Sound { w with ended := Function.update w.ended t true } := by
  have hactive : ∀ u, ({ w with ended := Function.update w.ended t true } : World).active u =
      (w.active u && u != t) := by
    intro u
    rcases eq_or_ne u t with rfl | hu
    · simp [World.active]
    · simp only [World.active, Function.update_of_ne hu, bne_iff_ne.mpr hu, Bool.and_true]
      cases u <;> rfl
  have hactive_of : ∀ {u}, ({ w with ended := Function.update w.ended t true } : World).active u =
      true → w.active u = true := by
    intro u hu
    rw [hactive, Bool.and_eq_true] at hu
    exact hu.1
  refine { h with
    collectable := fun u hu ha => { h.collectable u hu (hactive_of ha) with }
    worker := fun ha => h.worker (hactive_of ha)
    consumer := fun ha => h.consumer (hactive_of ha)
    consumerThread := fun ha => h.consumerThread (hactive_of ha)
    holder := fun u hu => ?_
    idle := fun u hu => ?_ }
  · have hne : u ≠ t := by
      rintro rfl
      exact hinside hu
    rw [hactive, (h.holder u hu).1]
    exact ⟨by simpa using hne, (h.holder u hu).2⟩
  · rw [hactive, Bool.and_eq_false_iff] at hu
    rcases hu with hu | hu
    · exact h.idle u hu
    · obtain rfl : u = t := by simpa using hu
      exact ⟨hnode, hbetween⟩

/-- **A permitted operation keeps the invariant and the frames of the other threads.** -/
theorem sound_and_frames {op : Operation} {ans : op.Answer} (h : Sound w) (hw : Allowed t op w)
    (he : execute setting t op choice w = some (ans, w')) :
    Sound w' ∧ ∀ u, u ≠ t → Frame u w w' := by
  have hkept : Sound w ∧ ∀ u, u ≠ t → Frame u w w := ⟨h, fun u _ => .refl u w⟩
  cases op with
  | own call =>
    obtain ⟨-, rfl, hp⟩ := hw
    obtain ⟨-, rfl⟩ := Prod.mk.inj (Option.some.inj he)
    exact ⟨h.own hp, fun u hu => .own hu hp⟩
  | log | queueInitialized | stopSignaled | networkAvailable | processMonitor | queryProcesses
  | networkMonitor | queryConnections | etwRunning =>
    obtain ⟨-, rfl⟩ := Prod.mk.inj (Option.some.inj he)
    exact hkept
  | waitThread | started =>
    simp only [execute] at he
    split at he
    · obtain ⟨-, rfl⟩ := Prod.mk.inj (Option.some.inj he)
      exact hkept
    · cases he
  | nextNode node =>
    obtain ⟨block, -, heq⟩ := Option.map_eq_some_iff.mp he
    obtain ⟨-, rfl⟩ := Prod.mk.inj heq
    exact hkept
  | enterQueue =>
    obtain ⟨hactive, hlive, -⟩ := hw
    simp only [execute] at he
    split at he
    · next hfree =>
      obtain ⟨-, rfl⟩ := Prod.mk.inj (Option.some.inj he)
      refine ⟨h.update rfl rfl rfl rfl (fun _ => rfl) rfl h.queue (fun v hv => ?_) h.idle h.fresh
        h.apart h.notifies h.notified, fun u hu =>
          .of_update rfl rfl ?_ rfl rfl (fun _ => rfl) ?_⟩
      · obtain rfl := Option.some.inj hv
        exact ⟨hactive, hlive⟩
      · simp [hfree, hu.symm]
      · rintro rfl
        exact .of_collector hu.symm hactive rfl rfl rfl rfl rfl rfl (.inr ⟨rfl, rfl⟩)
    · cases he
  | leaveQueue =>
    obtain ⟨hactive, hinside⟩ := hw
    obtain ⟨-, rfl⟩ := Prod.mk.inj (Option.some.inj he)
    refine ⟨h.update rfl rfl rfl rfl (fun _ => rfl) rfl h.queue (fun v hv => by cases hv) h.idle
      h.fresh h.apart h.notifies h.notified, fun u hu =>
        .of_update rfl rfl ?_ rfl rfl (fun _ => rfl) ?_⟩
    · simp only [Operation.Permitted] at hinside
      simp [hinside, hu.symm]
    · rintro rfl
      exact .of_collector hu.symm hactive rfl rfl rfl rfl rfl rfl (.inr ⟨rfl, rfl⟩)
  | mallocNode =>
    obtain ⟨hactive, hnone⟩ := hw
    simp only [execute] at he
    split at he
    · obtain ⟨-, rfl⟩ := Prod.mk.inj (Option.some.inj he)
      exact hkept
    · split at he
      · next node _ hfree =>
        obtain ⟨-, rfl⟩ := Prod.mk.inj (Option.some.inj he)
        obtain ⟨hnode, hothers⟩ := hfree
        refine ⟨h.update rfl rfl rfl rfl (fun _ => rfl) rfl h.queue h.holder (fun v hv => ?_)
          (fun v a hv => ?_) (fun v u a hv hu => ?_) h.notifies h.notified, fun u hu =>
            .of_update rfl rfl Iff.rfl ?_ rfl (fun _ => rfl) ?_⟩
        · have hne : v ≠ t := by
            rintro rfl
            simp [hactive] at hv
          simpa [hne] using h.idle v hv
        · rcases eq_or_ne v t with rfl | hne
          · simp_all
          · exact h.fresh v a (by simpa [hne] using hv)
        · have happart := h.apart v u a
          grind
        · simp [hu]
        · rintro rfl
          exact .of_collector hu.symm hactive rfl rfl rfl rfl rfl rfl (.inr ⟨rfl, rfl⟩)
      · cases he
  | link node event =>
    obtain ⟨hactive, -, hinside, hnode, hbetween, hinit⟩ := hw
    obtain ⟨⟨queue, locals⟩, hpush, heq⟩ := Option.map_eq_some_iff.mp he
    obtain ⟨-, rfl⟩ := Prod.mk.inj heq
    obtain ⟨events, hexact⟩ := h.queue hinit
    obtain ⟨hinit', hexact', hfree, htarget, hlocals⟩ :=
      pushEvent_exact hexact (h.fresh t node hnode) hpush
    refine ⟨h.update rfl rfl rfl rfl (fun _ => rfl) hinit' (fun _ => ⟨_, hexact'⟩) h.holder
      (fun v hv => ?_) (fun v a hv => ?_) (fun v u a hv hu => ?_) (fun _ => ?_)
      (fun v l hv hl => ?_), fun u hu => .of_update rfl rfl Iff.rfl ?_ ?_ (fun _ => rfl) ?_⟩
    · have hne : v ≠ t := by
        rintro rfl
        simp [hactive] at hv
      simpa [hne] using h.idle v hv
    · rcases eq_or_ne v t with rfl | hne
      · simp at hv
      · have hv' : w.node v = some a := by simpa [hne] using hv
        refine hfree a ?_ (h.fresh v a hv')
        rintro rfl
        exact hne (h.apart v t a hv' hnode)
    · have happart := h.apart v u a
      grind
    · exact htarget ▸ h.notifies hinit
    · rcases eq_or_ne v t with rfl | hne
      · obtain rfl : locals = l := by simpa using hl
        exact hlocals ▸ h.notifies hinit
      · exact h.notified v l hv (by simpa [hne] using hl)
    · simp [hu]
    · simp [hu]
    · rintro rfl
      exact .of_collector hu.symm hactive rfl rfl rfl rfl rfl hinit' (.inr ⟨rfl, rfl⟩)
  | notify locals =>
    obtain ⟨hactive, ht, hbetween, -⟩ := hw
    obtain ⟨-, rfl⟩ := Prod.mk.inj (Option.some.inj he)
    refine ⟨h.update rfl rfl rfl rfl (fun hlock => ?_) rfl h.queue h.holder (fun v hv => ?_) h.fresh
      h.apart h.notifies (fun v l hv hl => ?_), fun u hu =>
        .of_update rfl rfl Iff.rfl rfl ?_ (fun _ => rfl) ?_⟩
    · have hlive := h.lock (h.collectable t ht hactive).queue
      simp [hlock] at hlive
    · have hidle := h.idle v hv
      grind
    · have hnotified := h.notified v l hv
      grind
    · simp [hu]
    · rintro rfl
      exact .of_collector hu.symm hactive rfl rfl rfl rfl rfl rfl (.inr ⟨rfl, rfl⟩)
  | unlink =>
    obtain ⟨hactive, rfl, hinside, hnode, hhand, ⟨locals, hthread⟩, hinit⟩ := hw
    obtain ⟨events, hexact⟩ := h.queue hinit
    simp only [execute, hthread] at he
    split at he
    · next queue hpop =>
      obtain ⟨-, rfl⟩ := popEvent_none hinit hpop
      obtain ⟨-, rfl⟩ := Prod.mk.inj (Option.some.inj he)
      exact ⟨h.update rfl rfl rfl rfl (fun _ => rfl) rfl h.queue h.holder h.idle h.fresh h.apart
        h.notifies h.notified, fun _ => .of_window rfl rfl rfl rfl rfl rfl⟩
    · next event queue hpop =>
      obtain ⟨-, rfl⟩ := Prod.mk.inj (Option.some.inj he)
      obtain ⟨head, rest, hhead, rfl, hinit', hexact', hfree, hblock, hfrees, htarget⟩ :=
        popEvent_exact hexact hinit hpop
      have hhead' : ∀ v, w.node v ≠ some head := fun v hv => hblock (h.fresh v head hv)
      refine ⟨h.update rfl rfl rfl rfl (fun _ => rfl) (hinit'.trans hinit.symm)
        (fun _ => ⟨rest, hexact'⟩) h.holder (fun v hv => ?_) (fun v a hv => ?_)
        (fun v u a hv hu => ?_) (fun _ => htarget ▸ h.notifies hinit) h.notified, fun u hu =>
          .of_update rfl rfl Iff.rfl ?_ rfl (fun _ => rfl) fun h => absurd h hu⟩
      · have hne : v ≠ .window := by
          rintro rfl
          simp [hactive] at hv
        simpa [hne] using h.idle v hv
      · rcases eq_or_ne v .window with rfl | hne
        · simp_all
        · exact hfrees a (h.fresh v a (by simpa [hne] using hv))
      · have happart := h.apart v u a
        grind
      · simp [hu]
    · cases he
  | freeNode node =>
    obtain ⟨hactive, hnode⟩ := hw
    obtain ⟨-, rfl⟩ := Prod.mk.inj (Option.some.inj he)
    refine ⟨h.update rfl rfl rfl rfl (fun _ => rfl) rfl h.queue h.holder (fun v hv => ?_)
      (fun v a hv => ?_) (fun v u a hv hu => ?_) h.notifies h.notified, fun u hu =>
        .of_update rfl rfl Iff.rfl ?_ rfl (fun _ => rfl) ?_⟩
    · have hidle := h.idle v hv
      grind
    · have hfresh := h.fresh v a
      grind
    · have happart := h.apart v u a
      grind
    · simp [hu]
    · rintro rfl
      exact .of_collector hu.symm hactive rfl rfl rfl rfl rfl rfl (.inr ⟨rfl, rfl⟩)
  | setNotificationWindow window =>
    obtain ⟨-, rfl, -, haims⟩ := hw
    obtain ⟨-, rfl⟩ := Prod.mk.inj (Option.some.inj he)
    have hsame : (eventQueueSetWindow w.queue window).initialized = w.queue.initialized ∧
        (eventQueueSetWindow w.queue window).nodes = w.queue.nodes ∧
        ∀ events, w.queue.Exact events → (eventQueueSetWindow w.queue window).Exact events := by
      unfold eventQueueSetWindow
      split <;> exact ⟨rfl, rfl, fun _ h => h⟩
    obtain ⟨hinit, hnodes, hexact⟩ := hsame
    refine ⟨h.update rfl rfl rfl rfl (fun _ => rfl) hinit (fun hi => ?_) h.holder h.idle
      (fun t a ht => ?_) h.apart (fun hi => ?_) h.notified,
        fun _ => .of_window rfl rfl rfl rfl rfl rfl⟩
    · exact (h.queue (hinit ▸ hi)).imp hexact
    · rw [show (eventQueueSetWindow w.queue window).nodes a = w.queue.nodes a by rw [hnodes]]
      exact h.fresh t a ht
    · simpa [eventQueueSetWindow, show w.queue.initialized = true from hinit ▸ hi] using haims
  | exitThread =>
    obtain ⟨hactive, hinside, hnode, hbetween⟩ := hw
    obtain ⟨-, rfl⟩ := Prod.mk.inj (Option.some.inj he)
    have hended : ∀ v, w.ended v = true → Function.update w.ended t true v = true := by
      intro v hv
      rcases eq_or_ne v t with rfl | hne
      · simp
      · rwa [Function.update_of_ne hne]
    refine ⟨h.exit hinside hnode hbetween, fun u hu => ⟨fun v hv => ?_, hended, by simp [hu],
      Iff.rfl, rfl, rfl, fun hc => hc, fun _ => rfl, fun _ _ => rfl, ?_⟩⟩
    · cases v <;> exact hv
    · rintro rfl
      exact .of_collector hu.symm hactive rfl rfl rfl rfl rfl rfl (.inr ⟨rfl, rfl⟩)
  | setProcessMonitor =>
    obtain ⟨hactive, hmonitor⟩ := hw
    obtain ⟨-, rfl⟩ := Prod.mk.inj (Option.some.inj he)
    refine ⟨h.congr rfl rfl rfl rfl rfl rfl rfl (fun _ => rfl) id, fun u hu =>
      .of_update rfl rfl Iff.rfl rfl rfl (fun _ => rfl) ?_⟩
    rintro rfl
    exact .of_collector hu.symm hactive rfl rfl rfl rfl rfl rfl
      (.inl (hmonitor.resolve_right fun h => hu h.1.symm))
  | setNetworkMonitor =>
    obtain ⟨hactive, hmonitor⟩ := hw
    obtain ⟨-, rfl⟩ := Prod.mk.inj (Option.some.inj he)
    refine ⟨h.congr rfl rfl rfl rfl rfl rfl rfl (fun hnone => ?_) id, fun u hu =>
      .of_update rfl rfl Iff.rfl rfl rfl (fun _ => rfl) ?_⟩
    · rcases hmonitor with ⟨-, havailable⟩ | ⟨-, -, rfl⟩
      · simp [havailable] at hnone
      · exact (h.unpolled hnone).symm
    · rintro rfl
      exact .of_collector hu.symm hactive rfl rfl rfl rfl rfl rfl
        (.inl (hmonitor.resolve_right fun h => hu h.1.symm).1)
  | processTrace =>
    obtain ⟨hactive, htrace⟩ := hw
    obtain rfl : t = .consumer := htrace.elim And.left And.left
    simp only [execute] at he
    split at he
    · split at he
      · obtain ⟨-, rfl⟩ := Prod.mk.inj (Option.some.inj he)
        exact hkept
      · cases he
    · split at he
      · obtain ⟨-, rfl⟩ := Prod.mk.inj (Option.some.inj he)
        refine ⟨h.congr rfl rfl rfl rfl rfl rfl rfl (fun _ => rfl) id, fun u hu =>
          .of_update rfl rfl Iff.rfl rfl rfl (fun h => absurd h hu) ?_⟩
        rintro rfl
        exact .of_collector hu.symm hactive rfl rfl rfl rfl rfl rfl (.inr ⟨rfl, rfl⟩)
      · cases he
  | getMessage queueReady =>
    obtain ⟨-, rfl, -⟩ := hw
    obtain ⟨w'', hmessage, heq⟩ := Option.map_eq_some_iff.mp he
    obtain ⟨-, rfl⟩ := Prod.mk.inj heq
    have harrives := arrives hmessage
    generalize choice.message = message at harrives
    cases harrives with
    | eventsReady _ hposted =>
      exact ⟨h.congr rfl rfl rfl rfl rfl rfl rfl (fun _ => rfl) fun hnone => by
        simp [hposted] at hnone, fun _ => .of_window rfl rfl rfl rfl rfl rfl⟩
    | failed =>
      exact ⟨{ h with collectable := fun t ht ha => { h.collectable t ht ha with } },
        fun _ => .of_window rfl rfl rfl rfl rfl rfl⟩
    | _ =>
      exact ⟨h.congr rfl rfl rfl rfl rfl rfl rfl (fun _ => rfl) id,
        fun _ => .of_window rfl rfl rfl rfl rfl rfl⟩
  | ingest =>
    obtain ⟨-, rfl, -⟩ := hw
    simp only [execute] at he
    split at he
    · obtain ⟨-, rfl⟩ := Prod.mk.inj (Option.some.inj he)
      exact ⟨h.congr rfl rfl rfl rfl rfl rfl rfl (fun _ => rfl) id,
        fun _ => .of_window rfl rfl rfl rfl rfl rfl⟩
    · cases he
  | finishDrain =>
    obtain ⟨-, rfl, -⟩ := hw
    simp only [execute] at he
    split at he
    · obtain ⟨-, rfl⟩ := Prod.mk.inj (Option.some.inj he)
      exact ⟨h.congr rfl rfl rfl rfl rfl rfl rfl (fun _ => rfl) id,
        fun _ => .of_window rfl rfl rfl rfl rfl rfl⟩
    · cases he
  | destroyWindow =>
    obtain ⟨-, rfl, -, hinit⟩ := hw
    obtain ⟨-, rfl⟩ := Prod.mk.inj (Option.some.inj he)
    -- no collecting thread runs without the queue
    have hinactive : ∀ t, t ≠ .window → w.active t = false := fun t ht =>
      Bool.eq_false_iff.mpr fun ha =>
        Bool.false_ne_true (hinit.symm.trans (h.collectable t ht ha).queue)
    refine ⟨{ h with
      collectable := fun t ht ha => ?_
      unposted := fun _ => rfl
      notifies := fun hi => ?_
      notified := fun t l ht hl => ?_ }, fun _ => .of_window rfl rfl rfl rfl rfl rfl⟩
    · have hactive : w.active t = true := ha
      simp [hinactive t ht] at hactive
    · exact absurd hi (by simp [hinit])
    · have hbetween : w.between t = some l := hl
      simp [(h.idle t (hinactive t ht)).2] at hbetween
  | eventQueueInitialize =>
    obtain ⟨-, rfl, -, hquiet, -⟩ := hw
    obtain ⟨-, rfl⟩ := Prod.mk.inj (Option.some.inj he)
    exact ⟨h.update_quiet hquiet rfl rfl rfl rfl rfl rfl (fun _ => rfl) (fun _ => rfl)
      (fun _ => ⟨[], Owned.empty⟩) (fun _ _ => rfl) (fun hlock => absurd hlock (by simp))
      fun _ _ => rfl, fun _ => .of_window rfl rfl rfl rfl rfl rfl⟩
  | clearInitialized =>
    obtain ⟨-, rfl, -, hquiet⟩ := hw
    obtain ⟨-, rfl⟩ := Prod.mk.inj (Option.some.inj he)
    exact ⟨h.update_quiet hquiet rfl rfl rfl rfl rfl rfl id (fun hi => by cases hi)
      (fun hi => by cases hi) (fun _ ha => ha) h.unposted (fun hi => by cases hi),
        fun _ => .of_window rfl rfl rfl rfl rfl rfl⟩
  | detachNodes =>
    obtain ⟨-, rfl, -, hinit, hquiet⟩ := hw
    obtain ⟨-, rfl⟩ := Prod.mk.inj (Option.some.inj he)
    exact ⟨h.update_quiet hquiet rfl rfl rfl rfl rfl rfl id (fun hi => by simp [hinit] at hi)
      (fun hi => by simp [hinit] at hi) (fun _ ha => ha) h.unposted
      (fun hi => by simp [hinit] at hi), fun _ => .of_window rfl rfl rfl rfl rfl rfl⟩
  | freeQueued node =>
    obtain ⟨-, rfl, -, hinit, hquiet⟩ := hw
    obtain ⟨-, rfl⟩ := Prod.mk.inj (Option.some.inj he)
    refine ⟨h.update_quiet hquiet rfl rfl rfl rfl rfl rfl id (fun hi => by simp [hinit] at hi)
      (fun hi => by simp [hinit] at hi) (fun a ha => ?_) h.unposted
      (fun hi => by simp [hinit] at hi), fun _ => .of_window rfl rfl rfl rfl rfl rfl⟩
    rcases eq_or_ne a node with rfl | hne
    · simp
    · simpa [hne] using ha

end Keeps

/-- What the threads of the program keep to. -/
def discipline (setting : Setting) : Discipline (telemetrySystem setting) where
  allowed := Allowed
  Inv := Sound
  frame := Frame
  closing := World.Closing
  frame_refl := Frame.refl
  frame_trans := Frame.trans
  closing_frame h := h.closing
  keeps {t _ _ _ _ _} h hw he := by
    obtain ⟨hsound, hframes⟩ := sound_and_frames h hw he
    obtain ⟨u, hu⟩ : ∃ u : ThreadId, u ≠ t := by
      cases t
      exacts [⟨.worker, by decide⟩, ⟨.window, by decide⟩, ⟨.window, by decide⟩]
    exact ⟨hsound, hframes, (hframes u hu).closing⟩

end TraceGlass
