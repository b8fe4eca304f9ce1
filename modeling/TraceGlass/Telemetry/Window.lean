import TraceGlass.Telemetry.Engine

/-!
# The window's thread

The queue, the messages and the ways through `wWinMain`: when a class, the window, a control, the
stop event or the worker cannot be created, when the user closes the window and when the message
loop fails.  Whatever happens, `shutdown_gui_state` finds the flags of `g_gui` saying what there is
to release.  What a failed message loop leaves is the window itself, with its class.
-/

namespace TraceGlass

open Threads Threads.Discipline Prog LinkedFifo

variable {setting : Setting} {s s' : Sight} {α : Type} {Q : α → World → Prop}

/-! ## Destroying the queue -/

section Destroy

/-- The sight with another queue. -/
abbrev Sight.withQueue (s : Sight) (queue : EventQueue) : Sight := { s with queue := queue }

/-- The window's thread alone is left, and the queue is not initialized any more. -/
structure Sight.Detached (s : Sight) : Prop where
  initialized : s.initialized = false
  worker : s.workerGone = true
  consumer : s.consumerGone = true

/-- Freeing the nodes from the first one on leaves no node. -/
lemma triple_freeNodes {node : Option ℕ} (hdetached : s.Detached)
    (howned : ∃ tail events, Owned s.queue.nodes node tail events) :
    (discipline setting).Triple .window (Sees s) (iterate freeTurn node) fun _ =>
      Found fun s' => ∃ queue, s' = s.withQueue queue ∧ ∀ a, queue.nodes a = none := by
  obtain ⟨tail, events, howned⟩ := howned
  refine (Triple.iterate_of_lt (I := fun m node => Found fun s' => ∃ queue tail events,
    s' = s.withQueue queue ∧ Owned queue.nodes node tail events ∧ events.length = m)
    (fun _ _ => found_stable) (fun _ => found_stable) (fun m node => Triple.found ?_) events.length
    node).pre fun w _ hs => ⟨s, ⟨s.queue, tail, events, rfl, howned, rfl⟩, hs⟩
  rintro s' ⟨queue, tail, events, rfl, howned, rfl⟩
  cases node with
  | none =>
    exact .ret sees_stable fun w _ hs =>
      ⟨_, ⟨queue, rfl, fun a => by rw [howned.heap_eq]⟩, hs⟩
  | some node =>
    obtain ⟨event, next, rest, hblock, rfl, hrest⟩ := howned.pop
    refine step_freeNext hblock hdetached.initialized hdetached.worker hdetached.consumer ?_
    exact .ret sees_stable fun w _ hs =>
      ⟨rest.length, by simp, _, ⟨_, _, rest, rfl, hrest, rfl⟩, hs⟩

/-- `event_queue_destroy` leaves no node and no lock. -/
lemma triple_eventQueueDestroy (hinit : s.initialized = true) (hlock : s.shell.lock = .live)
    (hinside : s.inside = false) (hworker : s.workerGone = true)
    (hconsumer : s.consumerGone = true) :
    (discipline setting).Triple .window (Sees s) eventQueueDestroy fun _ =>
      Found fun s' => ∃ queue, s' = { s with
        shell := { s.shell with lock := .gone }, initialized := false, queue := queue } ∧
          ∀ a, queue.nodes a = none := by
  refine step_queueInitialized ?_
  simp only [hinit, if_true]
  refine step_clearInitialized hinit hworker hconsumer fun queue events _ hexact => ?_
  refine step_enterQueue hlock hinside <| step_detachNodes rfl rfl hworker hconsumer <|
    step_leaveQueue rfl ?_
  refine Triple.bind (triple_freeNodes ⟨rfl, hworker, hconsumer⟩ ?_) fun _ => Triple.found ?_
  · exact ⟨_, _, hexact⟩
  rintro s' ⟨queue, rfl, hfree⟩
  refine Triple.last (step_own (fun w hw hs => ?_) fun _ => ?_)
  · refine ⟨by rw [hs.shell, hlock], ?_, hs.initialized, hs.quiet hworker hconsumer⟩
    -- the section is empty: the others do not run, and this thread is outside
    by_contra hholder
    obtain ⟨t, ht⟩ := Option.ne_none_iff_exists'.mp hholder
    have hactive := (hw.holder t ht).1
    cases t with
    | window => exact hs.outside rfl ht
    | worker => simp [hs.worker hworker] at hactive
    | consumer => simp [hs.consumer hconsumer] at hactive
  · refine Triple.found_ret ⟨queue, ?_, hfree⟩
    simp [Sight.own, OwnCall.executeShell, OwnCall.executeTelemetry, OwnCall.executeEtw,
      OwnCall.starts, hinside]

/-- `event_queue_set_window`. -/
lemma triple_eventQueueSetWindow {window : HWND} (hinit : s.initialized = true)
    (hlock : s.shell.lock = .live) (hinside : s.inside = false)
    (haims : Aims window s.shell.window) :
    (discipline setting).Triple .window (Sees s) (eventQueueSetWindowProgram window) fun _ =>
      Found fun s' => ∃ queue, s' = s.withQueue queue := by
  refine step_queueInitialized ?_
  simp only [hinit, if_true]
  refine step_enterQueue hlock hinside <| step_setNotificationWindow rfl haims fun queue =>
    Triple.last (step_leaveQueue rfl (Triple.found_ret ⟨queue, ?_⟩))
  rw [← hinit, ← hinside]

end Destroy

/-! ## Draining -/

section Draining

/-- `pop_event` of a drain. -/
lemma triple_popEvent {locals : DrainLocals} (hinit : s.initialized = true)
    (hlock : s.shell.lock = .live) (hinside : s.inside = false) (hnode : s.node = none)
    (hhand : s.hand = none) (hthread : s.thread = .draining locals) :
    (discipline setting).Triple .window (Sees s) popEventProgram fun popped => Found fun s' =>
      ∃ queue, if popped then ∃ hand, s' = { s with hand := some hand, queue := queue }
        else s' = { s with thread := .finishing locals, queue := queue } := by
  refine step_queueInitialized ?_
  simp only [hinit, if_true]
  refine step_enterQueue hlock hinside <|
    step_unlink rfl hinit hthread hnode hhand (fun queue => ?_) fun node hand queue => ?_
  · refine step_leaveQueue rfl (Triple.found_ret ⟨queue, ?_⟩)
    simp [hinside, hinit]
  · refine step_leaveQueue rfl (step_freeNode rfl (Triple.found_ret ⟨queue, hand, ?_⟩))
    simp [hinside, hinit, hnode]

/-- A loop that is not reached any more once the worker has been told to stop. -/
lemma triple_openLoop {β : Type} {P : Sight → Prop} {R : β → Sight → Prop}
    {body : Unit → Program (Unit ⊕ β)} (hopen : ∀ s, P s → s.resources.signaled = false)
    (hbody : (discipline setting).Triple .window (Found P) (body ())
      (turned (fun _ => Found P) fun b => Found (R b))) :
    (discipline setting).Triple .window (Found P) (iterate body ()) fun b => Found (R b) := by
  refine Triple.iterate_of_last (I := fun _ => Found P) (fun _ => found_stable)
    (fun _ => found_stable) (fun _ => hbody) (fun _ w _ ⟨⟨s, hP, hs⟩, hclosing⟩ => ?_) ()
  have hsignaled := hclosing.1
  rw [hs.resources, hopen s hP] at hsignaled
  cases hsignaled

/-- `drain_events`. -/
lemma triple_drainEvents {locals : DrainLocals} (hinit : s.initialized = true)
    (hlock : s.shell.lock = .live) (hstore : s.shell.store = .live) (hinside : s.inside = false)
    (hnode : s.node = none) (hhand : s.hand = none) (hthread : s.thread = .draining locals)
    (hopen : s.resources.signaled = false) :
    (discipline setting).Triple .window (Sees s) drainEventsProgram fun _ => Found fun s' =>
      ∃ queue gui, s' = { s with thread := .idle, queue := queue, gui := gui } := by
  refine Triple.bind ((triple_openLoop
    (P := fun s' => ∃ locals queue gui,
      s' = { s with thread := .draining locals, queue := queue, gui := gui })
    (R := fun _ s' => ∃ locals queue gui,
      s' = { s with thread := .finishing locals, queue := queue, gui := gui })
    ?_ (Triple.found ?_)).pre fun w _ hs => ⟨s, ⟨locals, s.queue, s.gui, ?_⟩, hs⟩) fun _ =>
      Triple.found ?_
  · rintro s' ⟨locals, queue, gui, rfl⟩
    exact hopen
  · rintro s' ⟨locals, queue, gui, rfl⟩
    refine Triple.bind (triple_popEvent hinit hlock hinside hnode hhand rfl) fun popped =>
      Triple.found ?_
    rintro s' ⟨queue, hs'⟩
    cases popped with
    | true =>
      obtain ⟨hand, rfl⟩ := hs'
      refine step_ingest hstore rfl (by simp) fun locals gui => ?_
      exact .ret sees_stable fun w _ hs => ⟨_, ⟨locals, queue, gui, by rw [← hhand]⟩, hs⟩
    | false =>
      obtain rfl := hs'
      exact .ret sees_stable fun w _ hs => ⟨_, ⟨locals, queue, gui, rfl⟩, hs⟩
  · rw [← hthread]
  · rintro s' ⟨locals, queue, gui, rfl⟩
    exact Triple.last (step_finishDrain hstore rfl fun gui => Triple.found_ret ⟨queue, gui, rfl⟩)

end Draining

/-! ## The state of the window -/

/-- The thread is about to take a message or to call. -/
structure Sight.Calm (s : Sight) (classes : WindowClasses) (window : HWND) : Prop where
  logger : s.shell.logger = .live
  classes : s.shell.classes = classes
  window : s.shell.window = window
  thread : s.thread = .idle
  hand : s.hand = none
  inside : s.inside = false
  node : s.node = none
  quits : s.shell.quitPosted = true → s.shell.window = none

/-- The flags of `g_gui` say what there is to release. -/
structure GuiGlobals.Reflects (gui : GuiGlobals) (s : Sight) : Prop where
  signaled : gui.shuttingDown = false → s.resources.signaled = false
  ready : gui.telemetryReady = true → gui.telemetry.Reflects s ∧ gui.queueReady = true
  unready : gui.telemetryReady = false → s.Stopped
  queue : gui.queueReady = true →
    gui.storeReady = true ∧ s.initialized = true ∧ s.shell.lock = .live
  noQueue : gui.queueReady = false →
    s.initialized = false ∧ s.shell.lock ≠ .live ∧ ∀ a, s.queue.nodes a = none
  store : gui.storeReady = true ↔ s.shell.store = .live
  down : gui.shuttingDown = true →
    gui.telemetryReady = false ∧ gui.queueReady = false ∧ gui.storeReady = false

variable {classes : WindowClasses} {window : HWND} {gui : GuiGlobals}

lemma Sight.Calm.alike (h : s.Calm classes window) (halike : s.Alike s') :
    s'.Calm classes window where
  logger := halike.shell ▸ h.logger
  classes := halike.shell ▸ h.classes
  window := halike.shell ▸ h.window
  thread := halike.thread.trans h.thread
  hand := halike.hand.trans h.hand
  inside := halike.inside.trans h.inside
  node := halike.node.trans h.node
  quits := halike.shell ▸ h.quits

/-- The events of a queue that is ready are nothing the flags are about. -/
lemma GuiGlobals.Reflects.withQueue (h : gui.Reflects s) (hready : gui.queueReady = true)
    (queue : EventQueue) (views : GuiState) :
    gui.Reflects { s with queue := queue, gui := views } where
  signaled := h.signaled
  ready hr := ⟨{ (h.ready hr).1 with }, (h.ready hr).2⟩
  unready hr := { h.unready hr with }
  queue := h.queue
  noQueue hq := by simp [hready] at hq
  store := h.store
  down := h.down

/-- A call that creates no thread and is not about the engine leaves it stopped. -/
lemma Sight.Stopped.own (h : s.Stopped) {choice : Choice} {call : OwnCall}
    (hresources : call.executeTelemetry choice s.resources = s.resources)
    (hstarts : call.starts = none) : (s.own choice call).Stopped := by
  have hsame : (s.own choice call).resources = s.resources := hresources
  exact { h with
    worker := by simp [Sight.own, hstarts, h.worker]
    consumer := by simp [Sight.own, hstarts, h.consumer]
    thread := hsame ▸ h.thread
    stopEvent := hsame ▸ h.stopEvent
    winsock := hsame ▸ h.winsock
    etw := hsame ▸ h.etw }

/-- What the thread knows between two calls. -/
abbrev GuiGlobals.Stands (gui : GuiGlobals) (classes : WindowClasses) (window : HWND)
    (s : Sight) : Prop :=
  s.Calm classes window ∧ gui.Reflects s

/-- The first block of `shutdown_gui_state`. -/
lemma triple_shutdownEngine (hstands : gui.Stands classes window s) :
    (discipline setting).Triple .window (Sees s) (shutdownEngine gui) fun _ => Found fun s' =>
      s.Alike s' ∧ s'.Stopped ∧ (gui.queueReady = false → s' = s) := by
  refine Triple.ite (fun hready => ?_) fun hready => ?_
  · obtain ⟨hengine, hqueue⟩ := hstands.2.ready hready
    refine Triple.found_post (triple_shutdownTelemetry hstands.1.inside hengine) fun _ s' hs' => ?_
    exact ⟨hs'.1, hs'.2, fun h => by simp [hqueue] at h⟩
  · exact Triple.found_ret ⟨⟨rfl, rfl, rfl, rfl, rfl, rfl⟩,
      hstands.2.unready (by simpa using hready), fun _ => rfl⟩

/-- What `shutdown_gui_state` leaves once the telemetry has been stopped, apart from the store. -/
structure Sight.Emptied (s : Sight) : Prop where
  stopped : s.Stopped
  initialized : s.initialized = false
  lock : s.shell.lock ≠ .live
  nodes : ∀ a, s.queue.nodes a = none

/-- The second block. -/
lemma triple_shutdownQueue (hstands : gui.Stands classes window s) (halike : s.Alike s')
    (hstopped : s'.Stopped) (hsame : gui.queueReady = false → s' = s) :
    (discipline setting).Triple .window (Sees s') (shutdownQueue gui) fun _ => Found fun s' =>
      s'.Calm classes window ∧ s'.Emptied ∧ s'.shell.store = s.shell.store ∧
        s'.shell.messagesFailed = s.shell.messagesFailed := by
  obtain ⟨hcalm, hreflects⟩ := hstands
  have hcalm' := hcalm.alike halike
  unfold shutdownQueue
  cases hready : gui.queueReady with
  | false =>
    obtain ⟨hinit, hlock, hnodes⟩ := hreflects.noQueue hready
    obtain rfl := hsame hready
    exact Triple.found_ret ⟨hcalm, ⟨hstopped, hinit, hlock, hnodes⟩, rfl, rfl⟩
  | true =>
    obtain ⟨-, hinit, hlock⟩ := hreflects.queue hready
    rw [← halike.initialized] at hinit
    rw [← halike.shell] at hlock
    refine Triple.bind (triple_eventQueueSetWindow hinit hlock hcalm'.inside (absurd rfl)) fun _ =>
      Triple.found ?_
    rintro s'' ⟨queue, rfl⟩
    refine Triple.found_post (triple_eventQueueDestroy hinit hlock hcalm'.inside hstopped.worker
      hstopped.consumer) ?_
    rintro _ s'' ⟨queue, rfl, hnodes⟩
    exact ⟨{ hcalm' with }, ⟨{ hstopped with }, rfl, by simp, hnodes⟩, by simp [halike.shell],
      by simp [halike.shell]⟩

/-- `shutdown_gui_state`. -/
lemma triple_shutdownGuiState (hstands : gui.Stands classes window s) :
    (discipline setting).Triple .window (Sees s) (shutdownGuiState gui) fun gui =>
      Found fun s' => gui.shuttingDown = true ∧ gui.Stands classes window s' ∧
        s'.shell.messagesFailed = s.shell.messagesFailed := by
  refine Triple.ite (fun hdown => Triple.found_ret ⟨hdown, hstands, rfl⟩) fun hdown => ?_
  refine Triple.bind (triple_shutdownEngine hstands) fun telemetry => Triple.found ?_
  rintro s' ⟨halike, hstopped, hsame⟩
  refine Triple.bind (triple_shutdownQueue hstands halike hstopped hsame) fun _ => Triple.found ?_
  rintro s' ⟨hcalm, hemptied, hstore, hfailed⟩
  have hreflects : ∀ s : Sight, s.Emptied → s.shell.store ≠ .live →
      (⟨true, false, false, false, telemetry⟩ : GuiGlobals).Reflects s :=
    fun s h hstore => ⟨nofun, nofun, fun _ => h.stopped, nofun,
      fun _ => ⟨h.initialized, h.lock, h.nodes⟩, by simp [hstore], fun _ => ⟨rfl, rfl, rfl⟩⟩
  cases hready : gui.storeReady with
  | false =>
    refine Triple.found_ret ⟨rfl, ⟨hcalm, hreflects s' hemptied fun hlive => ?_⟩, hfailed⟩
    simp [hstands.2.store.mpr (hstore ▸ hlive)] at hready
  | true =>
    refine step_own (fun w _ hs => ?_) fun _ => ?_
    · rw [OwnCall.Permitted, hs.shell, hstore, hstands.2.store.mp hready]
    exact Triple.found_ret ⟨rfl, ⟨{ hcalm with },
      hreflects _ { hemptied with stopped := hemptied.stopped.own rfl rfl }
        (by simp [Sight.own, OwnCall.executeShell])⟩, hfailed⟩

/-! ## Messages -/

/-- `WM_DESTROY`. -/
lemma triple_windowDestroyed (hstands : gui.Stands classes window s) (hwindow : window ≠ none) :
    (discipline setting).Triple .window (Sees s) (windowDestroyed gui) fun gui =>
      Found fun s' => s'.shell.quitPosted = true ∧ gui.Stands classes none s' := by
  refine Triple.bind (triple_shutdownGuiState hstands) fun gui => Triple.found ?_
  rintro s' ⟨hdown, ⟨hcalm, hreflects⟩, -⟩
  obtain ⟨hready, hqueue, -⟩ := hreflects.down hdown
  refine step_own (fun _ _ _ => trivial) fun _ =>
    step_destroyWindow ?_ (hreflects.noQueue hqueue).1 (Triple.found_ret ⟨rfl, ?_, ?_⟩)
  · simpa [Sight.own, OwnCall.executeShell, hcalm.window] using hwindow
  · exact { hcalm with window := rfl, quits := fun _ => rfl }
  · exact { hreflects with
      ready := fun h => by simp [hready] at h
      unready := fun _ => { (hreflects.unready hready).own rfl rfl with } }

/-- `TRACEGLASS_WM_EVENTS_READY`. -/
lemma triple_eventsReady {locals : DrainLocals} (hstands : gui.Stands classes window s)
    (hopen : gui.shuttingDown = false)
    (hs' : s' = { s with thread := if gui.queueReady then .draining locals else s.thread }) :
    (discipline setting).Triple .window (Sees s') (when gui.queueReady drainEventsProgram) fun _ =>
      Found (gui.Stands classes window) := by
  subst hs'
  obtain ⟨hcalm, hreflects⟩ := hstands
  cases hready : gui.queueReady with
  | false => exact Triple.found_ret ⟨hcalm, hreflects⟩
  | true =>
    obtain ⟨hstore, hinit, hlock⟩ := hreflects.queue hready
    refine Triple.found_post (triple_drainEvents hinit hlock (hreflects.store.mp hstore)
      hcalm.inside hcalm.node hcalm.hand rfl (hreflects.signaled hopen)) ?_
    rintro _ s' ⟨queue, views, rfl⟩
    refine ⟨{ hcalm with thread := rfl }, ?_⟩
    have hsame : { s with thread := .idle, queue := queue, gui := views } =
        { s with queue := queue, gui := views } := by rw [← hcalm.thread]
    simpa only [hsame] using hreflects.withQueue hready queue views

/-- The queue is initialized exactly if it is ready. -/
lemma GuiGlobals.Reflects.queueReady (h : gui.Reflects s) : gui.queueReady = s.initialized := by
  cases hready : gui.queueReady with
  | false => exact (h.noQueue hready).1.symm
  | true => exact (h.queue hready).2.1.symm

/-- A message of the user, which is about the views only. -/
lemma GuiGlobals.Stands.input (h : gui.Stands classes window s) (views : GuiState) :
    gui.Stands classes window { s with gui := views } :=
  ⟨{ h.1 with }, { h.2 with
    ready := fun hr => ⟨{ (h.2.ready hr).1 with }, (h.2.ready hr).2⟩
    unready := fun hr => { h.2.unready hr with } }⟩

/-- A failure of `GetMessageW`, which changes nothing there is to release. -/
lemma GuiGlobals.Stands.failed (h : gui.Stands classes window s) :
    gui.Stands classes window { s with shell := { s.shell with messagesFailed := true } } :=
  ⟨{ h.1 with }, { h.2 with
    ready := fun hr => ⟨{ (h.2.ready hr).1 with }, (h.2.ready hr).2⟩
    unready := fun hr => { h.2.unready hr with } }⟩

/-- `MessageBoxW` during `WM_CREATE`. -/
lemma triple_messageBox (hstands : gui.Stands classes window s) (hopen : gui.shuttingDown = false) :
    (discipline setting).Triple .window (Sees s) (messageBox gui) fun _ =>
      Found (gui.Stands classes window) := by
  refine (triple_openLoop (fun s hs => hs.2.signaled hopen) (Triple.found fun s hstands => ?_)).pre
    fun w _ hs => ⟨s, hstands, hs⟩
  refine step_getMessage hstands.1.inside hstands.1.thread hstands.1.hand hstands.2.queueReady
    (fun h => by simp [hstands.2.signaled hopen] at h) fun message s' hs' => ?_
  have hends : ∀ {s' : Sight} (r : Unit ⊕ Unit), gui.Stands classes window s' →
      (discipline setting).Triple .window (Sees s') (pure r)
        (turned (fun _ => Found (gui.Stands classes window))
          fun _ => Found (gui.Stands classes window)) := by
    intro s' r hstands
    cases r <;> exact .ret sees_stable fun w _ hs => ⟨s', hstands, hs⟩
  cases message with
  | quit => exact hends (.inr ()) (hs'.2 ▸ hstands)
  | failed =>
    obtain rfl := hs'
    exact hends (.inr ()) hstands.failed
  | close => exact hends (.inr ()) (hs'.2 ▸ hstands)
  | input env input =>
    obtain ⟨-, views, rfl⟩ := hs'
    exact hends (.inl ()) (hstands.input views)
  | eventsReady =>
    obtain ⟨-, locals, hs'⟩ := hs'
    exact Triple.bind (triple_eventsReady hstands hopen hs') fun _ =>
      .ret found_stable fun _ _ h => h

/-- What `gui_run` knows of its window between two messages: a window that is shutting down is gone,
and the loop has its last message to come. -/
def GuiGlobals.Looping (gui : GuiGlobals) : World → Prop :=
  Found fun s => ∃ window, gui.Stands ⟨true, true⟩ window s ∧
    (gui.shuttingDown = true → window = none ∧ s.shell.quitPosted = true)

/-- And when its loop is over: the window is gone unless `GetMessageW` has failed. -/
def GuiGlobals.Left (gui : GuiGlobals) : World → Prop :=
  Found fun s => ∃ window, gui.Stands ⟨true, true⟩ window s ∧
    (window = none ∨ s.shell.messagesFailed = true)

/-- A worker that has been told to stop belongs to a window that is shutting down. -/
lemma GuiGlobals.Reflects.shuttingDown (h : gui.Reflects s)
    (hsignaled : s.resources.signaled = true) :
    gui.shuttingDown = true := by
  by_contra hopen
  simp [h.signaled (by simpa using hopen)] at hsignaled

/-- A message of the loop of `gui_run`. -/
lemma triple_messageTurn :
    (discipline setting).Triple .window gui.Looping (messageTurn gui)
      (turned GuiGlobals.Looping fun result => result.1.Left) := by
  refine Triple.found ?_
  rintro s ⟨window, hstands, hwindow⟩
  refine step_getMessage hstands.1.inside hstands.1.thread hstands.1.hand hstands.2.queueReady
    (fun h => (hwindow (hstands.2.shuttingDown h)).2) fun message s' hs' => ?_
  cases message with
  | quit =>
    obtain ⟨hposted, rfl⟩ := hs'
    exact .ret sees_stable fun w _ hs =>
      ⟨s', ⟨window, hstands, .inl (hstands.1.window.symm.trans (hstands.1.quits hposted))⟩, hs⟩
  | failed =>
    obtain rfl := hs'
    exact step_log hstands.1.logger (.ret sees_stable fun w _ hs =>
      ⟨_, ⟨window, hstands.failed, .inr rfl⟩, hs⟩)
  | eventsReady =>
    obtain ⟨hsome, locals, hs'⟩ := hs'
    have hopen : gui.shuttingDown = false := by
      by_contra h
      simp [hstands.1.window, (hwindow (by simpa using h)).1] at hsome
    refine Triple.bind (triple_eventsReady hstands hopen hs') fun _ => Triple.found fun s' hs' => ?_
    exact .ret sees_stable fun w _ hs => ⟨s', ⟨window, hs', fun h => by simp [hopen] at h⟩, hs⟩
  | close =>
    obtain ⟨hsome, rfl⟩ := hs'
    have hne : window ≠ none := by
      rw [← hstands.1.window]
      exact Option.isSome_iff_ne_none.mp hsome
    refine Triple.bind (triple_windowDestroyed hstands hne) fun gui' =>
      Triple.found fun s' hs' => ?_
    exact .ret sees_stable fun w _ hs => ⟨s', ⟨none, hs'.2, fun _ => ⟨rfl, hs'.1⟩⟩, hs⟩
  | input env input =>
    obtain ⟨-, views, rfl⟩ := hs'
    exact .ret sees_stable fun w _ hs => ⟨_, ⟨window, hstands.input views, hwindow⟩, hs⟩

/-- Once the worker has been told to stop the window is gone, and the loop takes its last
message. -/
lemma triple_lastMessage :
    (discipline setting).Triple .window (fun w => gui.Looping w ∧ w.Closing) (messageTurn gui)
      (turned (fun _ _ => False) fun result => result.1.Left) := by
  rintro w hw ⟨⟨s, ⟨window, hstands, hwindow⟩, hs⟩, hclosing⟩
  have hsignaled := hclosing.1
  rw [hs.resources] at hsignaled
  obtain ⟨rfl, hquit⟩ := hwindow (hstands.2.shuttingDown hsignaled)
  refine (step_getMessage hstands.1.inside hstands.1.thread hstands.1.hand hstands.2.queueReady
    (fun _ => hquit) fun message s' hs' => ?_) w hw hs
  have hnone : s.shell.window.isSome = true → False := by simp [hstands.1.window]
  cases message with
  | quit =>
    obtain ⟨-, rfl⟩ := hs'
    exact .ret sees_stable fun w _ hs => ⟨s', ⟨none, hstands, .inl rfl⟩, hs⟩
  | failed =>
    obtain rfl := hs'
    exact step_log hstands.1.logger (.ret sees_stable fun w _ hs =>
      ⟨_, ⟨none, hstands.failed, .inl rfl⟩, hs⟩)
  | eventsReady => exact (hnone hs'.1).elim
  | close => exact (hnone hs'.1).elim
  | input env input => exact (hnone hs'.1).elim

lemma triple_messageLoop :
    (discipline setting).Triple .window gui.Looping (messageLoop gui) fun result => result.1.Left :=
  Triple.iterate_of_last (fun _ => found_stable) (fun _ => found_stable)
    (fun _ => triple_messageTurn) (fun _ => triple_lastMessage) gui

/-! ## The way through `wWinMain` -/

/-- Nothing of the window's state has been set up. -/
structure Sight.Fresh (s : Sight) : Prop where
  resources : s.resources = freshResources
  worker : s.workerGone = true
  consumer : s.consumerGone = true
  initialized : s.initialized = false
  lock : s.shell.lock = .absent
  nodes : ∀ a, s.queue.nodes a = none
  store : s.shell.store = .absent
  processes : s.processMonitor = processMonitorInitialize
  connections : s.networkMonitor = networkMonitorInitialize
  views : s.gui = .created
  quit : s.shell.quitPosted = false

lemma Sight.Fresh.reflects (h : s.Fresh) : GuiGlobals.zero.Reflects s where
  signaled _ := by rw [h.resources, freshResources]
  ready := nofun
  unready _ := by
    refine ⟨h.worker, h.consumer, ?_, ?_, ?_, h.resources ▸ freshEtw_down, h.processes,
      h.connections⟩ <;> simp [h.resources, freshResources]
  queue := nofun
  noQueue _ := ⟨h.initialized, by simp [h.lock], h.nodes⟩
  store := by simp [GuiGlobals.zero, h.store]
  down := nofun

/-- The flags once the store and the queue are ready. -/
lemma reflects_created {telemetry : TelemetryEngine} {ready : Bool}
    (hsignaled : s.resources.signaled = false) (hready : ready = true → telemetry.Reflects s)
    (hunready : ready = false → s.Stopped) (hinit : s.initialized = true)
    (hlock : s.shell.lock = .live) (hstore : s.shell.store = .live) :
    (⟨false, ready, true, true, telemetry⟩ : GuiGlobals).Reflects s :=
  ⟨fun _ => hsignaled, fun h => ⟨hready h, rfl⟩, hunready, fun _ => ⟨rfl, hinit, hlock⟩, nofun,
    by simp [hstore], nofun⟩

/-- `WM_CREATE` sets the flags as far as it gets. -/
lemma triple_windowCreated (hcalm : s.Calm classes window) (hfresh : s.Fresh)
    (hwindow : window ≠ none) :
    (discipline setting).Triple .window (Sees s) (windowCreated .zero) fun result =>
      Found fun s' => result.1.shuttingDown = false ∧ result.1.Stands classes window s' := by
  have hfails : ∀ {gui : GuiGlobals} {s : Sight}, gui.shuttingDown = false →
      gui.Stands classes window s → (discipline setting).Triple .window (Sees s)
        (messageBox gui >>= fun _ => pure (gui, false)) fun result =>
          Found fun s' => result.1.shuttingDown = false ∧ result.1.Stands classes window s' :=
    fun hopen hstands => Triple.bind (triple_messageBox hstands hopen) fun _ =>
      Triple.found fun s' hs' => Triple.found_ret ⟨hopen, hs'⟩
  refine step_own (fun w _ hs => ?_) fun controls => ?_
  · rw [OwnCall.Permitted, hs.shell, hcalm.window]
    exact hwindow
  refine Triple.known s (by simp [Sight.own, OwnCall.executeShell, OwnCall.executeTelemetry,
    OwnCall.executeEtw, OwnCall.starts]) (Triple.ite (fun _ => ?_) fun _ =>
      hfails rfl ⟨hcalm, hfresh.reflects⟩)
  refine step_own (fun w _ hs => ?_) fun _ => ?_
  · rw [OwnCall.Permitted, hs.shell, hfresh.store]
  refine Triple.known { s with shell := { s.shell with store := .live } } (by
    simp [Sight.own, OwnCall.executeShell, OwnCall.executeTelemetry, OwnCall.executeEtw,
      OwnCall.starts]) (step_eventQueueInitialize hfresh.lock hfresh.worker hfresh.consumer
        hcalm.thread hcalm.hand hfresh.views ?_)
  refine Triple.bind (triple_initializeTelemetry hcalm.logger hfresh.resources hfresh.worker
    hfresh.consumer) fun ⟨telemetry, ready⟩ => Triple.found ?_
  rintro s' ⟨⟨halike, hsignaled⟩, hready, hstopped⟩
  have hcalm' : s'.Calm classes window := by
    refine Sight.Calm.alike ?_ halike
    exact { hcalm with }
  have hlock : s'.shell.lock = .live := by simp [halike.shell]
  have hstore : s'.shell.store = .live := by simp [halike.shell]
  have hinit : s'.initialized = true := halike.initialized
  cases ready with
  | false =>
    exact hfails rfl ⟨hcalm', reflects_created hsignaled nofun hstopped hinit hlock hstore⟩
  | true =>
    refine Triple.bind (triple_startTelemetry hcalm'.logger hinit
      (hcalm'.window.trans_ne hwindow) hcalm'.inside (hready rfl))
      fun ⟨telemetry, started⟩ => Triple.found ?_
    rintro s'' ⟨⟨halike', hsignaled'⟩, hreflects⟩
    have hstands :
        (⟨false, true, true, true, telemetry⟩ : GuiGlobals).Stands classes window s'' := by
      refine ⟨hcalm'.alike halike', reflects_created hsignaled' (fun _ => hreflects) nofun ?_ ?_ ?_⟩
      · exact halike'.initialized.trans hinit
      · rw [halike'.shell, hlock]
      · rw [halike'.shell, hstore]
    cases started with
    | false => exact hfails rfl hstands
    | true => exact step_logWhen hstands.1.logger (Triple.found_ret ⟨rfl, hstands⟩)

/-- `CreateWindowExW`: where it fails, the window is destroyed again or has never been there. -/
lemma triple_createMainWindow (hcalm : s.Calm classes none) (hmain : classes.main = true)
    (hfresh : s.Fresh) :
    (discipline setting).Triple .window (Sees s) (createMainWindow .zero) fun result =>
      Found fun s' => ∃ window, result.1.Stands classes window s' ∧
        (result.2 = true → result.1.shuttingDown = false) ∧
        (result.2 = false → window = none) := by
  refine step_own (fun w _ hs => ?_) fun created =>
    Triple.ite (fun hcreated => ?_) fun hcreated => ?_
  · rw [OwnCall.Permitted, hs.shell, hcalm.window, hcalm.classes]
    exact ⟨rfl, hmain⟩
  · refine Triple.known { s with shell := { s.shell with window := some created.window } } ?_ <|
      Triple.bind (triple_windowCreated
        { hcalm with window := rfl, quits := fun h => absurd h (by simp [hfresh.quit]) }
        { hfresh with } (by simp)) fun ⟨gui, ok⟩ => Triple.found ?_
    · have hok : created.ok = true := hcreated
      simp [Sight.own, OwnCall.executeShell, OwnCall.executeTelemetry, OwnCall.executeEtw,
        OwnCall.starts, hok]
    · rintro s' ⟨hopen, hstands⟩
      cases ok with
      | true =>
        exact Triple.found_ret ⟨_, hstands, fun _ => hopen, nofun⟩
      | false =>
        refine Triple.bind (triple_windowDestroyed hstands (by simp)) fun gui => Triple.found ?_
        rintro s' ⟨-, hstands⟩
        exact Triple.found_ret ⟨none, hstands, nofun, fun _ => rfl⟩
  · have hok : created.ok = false := by simpa [OwnCall.answer] using hcreated
    refine Triple.known s ?_ (Triple.found_ret
      ⟨none, ⟨hcalm, hfresh.reflects⟩, nofun, fun _ => rfl⟩)
    simp [Sight.own, OwnCall.executeShell, OwnCall.executeTelemetry, OwnCall.executeEtw,
      OwnCall.starts, hok]

/-- Nothing that `gui_run` has set up is left, but for what a failed message loop leaves. -/
structure Sight.Cleared (s : Sight) : Prop where
  calm : ∃ classes window, s.Calm classes window
  window : s.shell.window = none ∨ s.shell.messagesFailed = true
  classes : s.shell.window = none → s.shell.classes = ⟨false, false⟩
  emptied : s.Emptied
  store : s.shell.store ≠ .live

lemma GuiGlobals.Reflects.emptied (h : gui.Reflects s)
    (hflags : gui.telemetryReady = false ∧ gui.queueReady = false ∧ gui.storeReady = false) :
    s.Emptied ∧ s.shell.store ≠ .live := by
  obtain ⟨htelemetry, hqueue, hstore⟩ := hflags
  obtain ⟨hinit, hlock, hnodes⟩ := h.noQueue hqueue
  refine ⟨⟨h.unready htelemetry, hinit, hlock, hnodes⟩, fun hlive => ?_⟩
  simp [h.store.mpr hlive] at hstore

/-- `UnregisterClassW`, which fails where there is a window of the class. -/
lemma step_unregisterClass {windowClass : WindowClass} {next : Unit → Program α}
    (hcalm : s.Calm classes window) (hregistered : classes.registered windowClass = true)
    (hnext : ∀ classes', (window = none → classes' = classes.set false windowClass) →
      classes' = classes ∨ classes' = classes.set false windowClass →
      (discipline setting).Triple .window
        (Sees { s with shell := { s.shell with classes := classes' } }) (next ()) Q) :
    (discipline setting).Triple .window (Sees s)
      (ownCall (.unregisterClass windowClass) >>= next) Q := by
  refine step_own (fun w _ hs => ?_) fun choice => ?_
  · rw [OwnCall.Permitted, hs.shell, hcalm.classes]
    exact hregistered
  by_cases hgone : s.shell.window = none ∨ windowClass = .details ∧ choice.ok = true
  · refine Triple.known _ ?_ (hnext (classes.set false windowClass) (fun _ => rfl) (.inr rfl))
    simp [Sight.own, OwnCall.executeShell, OwnCall.executeTelemetry, OwnCall.executeEtw,
      OwnCall.starts, hcalm.classes, hgone]
  · have hwindow : window ≠ none := fun h => hgone (.inl (hcalm.window.trans h))
    refine Triple.known _ ?_ (hnext classes (fun h => absurd h hwindow) (.inl rfl))
    simp only [Sight.own, OwnCall.executeShell, if_neg hgone, OwnCall.executeTelemetry,
      OwnCall.executeEtw, OwnCall.starts, ← hcalm.classes]
    simp

/-- The thread is as calm with other classes. -/
lemma Sight.Calm.withClasses (h : s.Calm classes window) (classes' : WindowClasses) :
    Sight.Calm { s with shell := { s.shell with classes := classes' } } classes' window :=
  { h with classes := rfl }

/-- Nor is there more to release with other classes. -/
lemma Sight.Emptied.withClasses (h : s.Emptied) (classes' : WindowClasses) :
    Sight.Emptied { s with shell := { s.shell with classes := classes' } } :=
  { h with stopped := { h.stopped with } }

/-- The end of `gui_run` once both classes are registered. -/
lemma triple_leaveGui {result : ℕ} (hstands : gui.Stands ⟨true, true⟩ window s)
    (hleft : window = none ∨ s.shell.messagesFailed = true) :
    (discipline setting).Triple .window (Sees s)
      (shutdownGuiState gui >>= fun _ => ownCall (.unregisterClass .main) >>= fun _ =>
        ownCall (.unregisterClass .details) >>= fun _ => pure result) fun _ =>
          Found Sight.Cleared := by
  refine Triple.bind (triple_shutdownGuiState hstands) fun gui => Triple.found ?_
  rintro s' ⟨hdown, ⟨hcalm, hreflects⟩, hfailed⟩
  obtain ⟨hemptied, hstore⟩ := hreflects.emptied (hreflects.down hdown)
  refine step_unregisterClass hcalm rfl fun classes hmain hkept => ?_
  have hdetails : classes.registered .details = true := by
    rcases hkept with rfl | rfl <;> rfl
  refine step_unregisterClass (hcalm.withClasses classes) hdetails fun classes' hgone _ => ?_
  refine Triple.found_ret ⟨⟨classes', window, (hcalm.withClasses classes).withClasses classes'⟩,
    ?_, fun hwindow => ?_, (hemptied.withClasses classes).withClasses classes', hstore⟩
  · exact hleft.imp hcalm.window.trans hfailed.trans
  · have hnone : window = none := hcalm.window.symm.trans hwindow
    show classes' = ⟨false, false⟩
    rw [hgone hnone, hmain hnone]
    rfl

/-- `RegisterClassExW`. -/
lemma step_registerClass {windowClass : WindowClass} {next : Bool → Program α}
    (hcalm : s.Calm classes window) (hnew : classes.registered windowClass = false)
    (hfails : (discipline setting).Triple .window (Sees s) (next false) Q)
    (hnext : (discipline setting).Triple .window
      (Sees { s with shell := { s.shell with classes := classes.set true windowClass } })
      (next true) Q) :
    (discipline setting).Triple .window (Sees s)
      (ownCall (.registerClass windowClass) >>= next) Q := by
  refine step_own (fun w _ hs => ?_) fun registered => ?_
  · rw [OwnCall.Permitted, hs.shell, hcalm.classes]
    exact hnew
  cases hok : registered.ok with
  | false =>
    simp only [OwnCall.answer, hok]
    refine Triple.known _ ?_ hfails
    simp [Sight.own, OwnCall.executeShell, OwnCall.executeTelemetry, OwnCall.executeEtw,
      OwnCall.starts, hok]
  | true =>
    simp only [OwnCall.answer, hok]
    refine Triple.known _ ?_ hnext
    simp [Sight.own, OwnCall.executeShell, OwnCall.executeTelemetry, OwnCall.executeEtw,
      OwnCall.starts, hok, hcalm.classes]

/-- `gui_run`. -/
lemma triple_guiRun (hcalm : s.Calm ⟨false, false⟩ none) (hfresh : s.Fresh) :
    (discipline setting).Triple .window (Sees s) guiRunProgram fun _ => Found Sight.Cleared := by
  obtain ⟨hemptied, hstore⟩ := hfresh.reflects.emptied ⟨rfl, rfl, rfl⟩
  refine step_registerClass hcalm rfl ?_
    (step_registerClass (hcalm.withClasses ⟨true, false⟩) rfl ?_ ?_)
  · exact step_log hcalm.logger (Triple.found_ret
      ⟨⟨_, none, hcalm⟩, .inl hcalm.window, fun _ => hcalm.classes, hemptied, hstore⟩)
  · refine step_log hcalm.logger
      (step_unregisterClass (hcalm.withClasses ⟨true, false⟩) rfl fun classes hgone _ => ?_)
    have hcalm' := (hcalm.withClasses ⟨true, false⟩).withClasses classes
    exact Triple.found_ret ⟨⟨_, none, hcalm'⟩, .inl hcalm.window, fun _ => hgone rfl,
      (hemptied.withClasses _).withClasses classes, hstore⟩
  · refine Triple.bind (triple_createMainWindow
      ((hcalm.withClasses ⟨true, false⟩).withClasses ⟨true, true⟩) rfl { hfresh with })
      fun ⟨gui, created⟩ => ?_
    cases created with
    | false =>
      refine Triple.found ?_
      rintro s' ⟨window, hstands, -, hnone⟩
      exact step_log hstands.1.logger (triple_leaveGui hstands (.inl (hnone rfl)))
    | true =>
      refine Triple.bind (triple_messageLoop.pre fun w _ ⟨s, ⟨window, hstands, hopen, _⟩, hs⟩ =>
        ⟨s, ⟨window, hstands, fun h => ?_⟩, hs⟩) fun ⟨gui, result⟩ => Triple.found ?_
      · have hopen : gui.shuttingDown = false := hopen rfl
        simp [hopen] at h
      rintro s' ⟨window, hstands, hleft⟩
      exact triple_leaveGui hstands hleft

/-! ## The end of the program -/

/-- Nothing is left of what the program has created.  A failed message loop leaves the window, and
with it its class; a session runs on where it could not be stopped. -/
structure World.Released (w : World) : Prop where
  threads : ∀ t, w.active t = false
  logger : w.shell.logger = .gone
  window : w.shell.window = none ∨ w.shell.messagesFailed = true
  classes : w.shell.window = none → w.shell.classes = ⟨false, false⟩
  store : w.shell.store ≠ .live
  lock : w.shell.lock ≠ .live
  stopEvent : w.resources.stopEvent ≠ .live
  workerThread : w.resources.workerThread ≠ .live
  winsock : w.resources.winsock ≠ .live
  etw : w.resources.etw.Down
  queue : ∀ a, w.queue.nodes a = none
  nodes : ∀ t, w.node t = none
  holder : w.holder = none
  processes : w.processMonitor = processMonitorInitialize
  connections : w.networkMonitor = networkMonitorInitialize

/-- The critical section is empty once no thread runs. -/
lemma Sound.holder_eq_none {w : World} (h : Sound w) (hthreads : ∀ t, w.active t = false) :
    w.holder = none := by
  cases hholder : w.holder with
  | none => rfl
  | some t =>
    have hactive := (h.holder t hholder).1
    simp [hthreads t] at hactive

lemma released_stable : (discipline setting).Stable .window World.Released := by
  intro w w' hw' hf h
  have hwindow := hf.owned rfl
  have hthreads : ∀ t, w'.active t = false :=
    fun t => World.inactive_of_frame hwindow hf.ended (h.threads t)
  have hmonitors := hwindow.monitors (h.threads .worker)
  exact ⟨hthreads, hwindow.shell ▸ h.logger, hwindow.shell ▸ h.window, hwindow.shell ▸ h.classes,
    hwindow.shell ▸ h.store, hwindow.shell ▸ h.lock, hwindow.resources ▸ h.stopEvent,
    hwindow.resources ▸ h.workerThread,
    hwindow.resources ▸ h.winsock, hwindow.resources ▸ h.etw,
    hwindow.queue ⟨h.threads .worker, h.threads .consumer⟩ ▸ h.queue,
    fun t => (hw'.idle t (hthreads t)).1, hw'.holder_eq_none hthreads,
    hmonitors.1.trans h.processes, hmonitors.2.trans h.connections⟩

/-- The last operation of the program. -/
lemma triple_exitWindow (hemptied : s.Emptied) (hstore : s.shell.store ≠ .live)
    (hlogger : s.shell.logger = .gone)
    (hwindow : s.shell.window = none ∨ s.shell.messagesFailed = true)
    (hclasses : s.shell.window = none → s.shell.classes = ⟨false, false⟩)
    (hinside : s.inside = false) (hnode : s.node = none) :
    (discipline setting).Triple .window (Sees s) (perform .exitThread) fun _ => World.Released := by
  obtain ⟨hstopped, -, hlock, hnodes⟩ := hemptied
  refine Triple.call sees_stable
    (fun w _ hs => ⟨hs.running, hs.outside hinside, hs.node.trans hnode, hs.between⟩)
    (fun w choice ans w' _ hs hw' he => ?_) fun _ => released_stable
  obtain ⟨-, rfl⟩ := Prod.mk.inj (Option.some.inj he)
  have hmonitors := hs.monitors hstopped.worker
  have hthreads : ∀ t, ({ w with ended := Function.update w.ended .window true } : World).active t =
      false := by
    intro t
    cases t with
    | window => simp [World.active]
    | worker => exact hs.worker hstopped.worker
    | consumer => exact hs.consumer hstopped.consumer
  refine ⟨hthreads, hs.shell ▸ hlogger, hs.shell ▸ hwindow, hs.shell ▸ hclasses,
    hs.shell ▸ hstore, hs.shell ▸ hlock, hs.resources ▸ hstopped.stopEvent,
    hs.resources ▸ hstopped.thread, hs.resources ▸ hstopped.winsock, hs.resources ▸ hstopped.etw,
    ?_, fun t => (hw'.idle t (hthreads t)).1, hw'.holder_eq_none hthreads,
    hmonitors.1.trans hstopped.processes, hmonitors.2.trans hstopped.connections⟩
  exact hs.queue hstopped.worker hstopped.consumer ▸ hnodes

/-- What the window's thread knows before its first operation. -/
def Sight.initial : Sight where
  shell := (World.initial 0).shell
  resources := freshResources
  thread := .idle
  hand := none
  gui := .created
  inside := false
  node := none
  initialized := false
  workerGone := true
  consumerGone := true
  queue := (World.initial 0).queue
  processMonitor := processMonitorInitialize
  networkMonitor := networkMonitorInitialize

lemma sees_initial (records : ℕ) : Sees .initial (World.initial records) :=
  ⟨rfl, rfl, rfl, rfl, rfl, rfl, by simp [World.initial, Sight.initial], rfl, rfl, rfl,
    fun _ => rfl, fun _ => rfl, fun _ _ => rfl, fun _ => ⟨rfl, rfl⟩⟩

/-- `wWinMain` keeps the discipline and leaves nothing. -/
lemma triple_wWinMain :
    (discipline setting).Triple .window (Sees .initial) wWinMain fun _ => World.Released := by
  refine step_own (fun w _ hs => ?_) fun _ => step_log rfl ?_
  · rw [OwnCall.Permitted, hs.shell]
    rfl
  refine Triple.bind (triple_guiRun ⟨rfl, rfl, rfl, rfl, rfl, rfl, rfl, nofun⟩
    ⟨rfl, by simp [Sight.own, OwnCall.starts, Sight.initial],
      by simp [Sight.own, OwnCall.starts, Sight.initial], rfl, rfl, fun _ => rfl, rfl, rfl, rfl,
      rfl, rfl⟩) fun _ => Triple.found ?_
  rintro s ⟨⟨classes, window, hcalm⟩, hwindow, hclasses, hemptied, hstore⟩
  refine step_log hcalm.logger (step_own (fun w _ hs => ?_) fun _ => ?_)
  · exact ⟨hs.shell ▸ hcalm.logger, hs.quiet hemptied.stopped.worker hemptied.stopped.consumer⟩
  · exact triple_exitWindow { hemptied with stopped := hemptied.stopped.own rfl rfl } hstore rfl
      hwindow hclasses hcalm.inside hcalm.node

end TraceGlass
