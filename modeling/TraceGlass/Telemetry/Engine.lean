import TraceGlass.Telemetry.Sight

/-!
# The telemetry engine

What the window's thread creates with `initialize_telemetry` and `start_telemetry`,
`shutdown_telemetry` releases, on every way through them: when a block of properties, a session, the
stop event or a thread cannot be had, and when the two threads run.  `Reflects` relates the fields
of `EtwProcessMonitor` and `TelemetryEngine` to the objects that are there, and there is one triple
for each function.
-/

namespace TraceGlass

open Threads Threads.Discipline Prog LinkedFifo

variable {setting : Setting} {s s' : Sight} {α : Type} {Q : α → World → Prop}

/-- The same for an operation that nothing follows. -/
lemma Triple.last {op : Operation} {P : World → Prop} {Q : op.Answer → World → Prop}
    (h : (discipline setting).Triple .window P (perform op >>= pure) Q) :
    (discipline setting).Triple .window P (perform op) Q := h

/-- What the thread knows, told in other words. -/
lemma Triple.known {p : Program α} (s' : Sight) (h : s = s')
    (htriple : (discipline setting).Triple .window (Sees s') p Q) :
    (discipline setting).Triple .window (Sees s) p Q := h ▸ htriple

/-- The thread knows what the invariant says of what it sees. -/
lemma Triple.informed {p : Program α}
    (h : ∀ w, Sound w → Sees s w → (discipline setting).Triple .window (Sees s) p Q) :
    (discipline setting).Triple .window (Sees s) p Q :=
  fun w hw hs => h w hw hs w hw hs

/-! ## The ETW monitor -/

/-- A session that still runs could not be stopped: its block was refused, or the call failed. -/
def EtwResources.StopTried (etw : EtwResources) : Prop :=
  etw.session = true → etw.refused = true ∨ etw.unstopped = true

/-- Everything of the monitor is released, the session if it could be. -/
structure EtwResources.Down (etw : EtwResources) : Prop where
  trace : etw.trace ≠ .live
  thread : etw.thread ≠ .live
  session : etw.StopTried
  properties : etw.properties = 0

/-- The monitor says which of its resources are there. -/
structure EtwProcessMonitor.Reflects (monitor : EtwProcessMonitor) (etw : EtwResources)
    (consumerGone : Bool) : Prop where
  enabled : monitor.enabled = true → monitor.traceHandle = true ∧ monitor.thread = true ∧
    etw.trace = .live ∧ etw.thread = .live ∧ etw.session = true ∧ etw.properties = 0
  disabled : monitor.enabled = false → etw.Down ∧ consumerGone = true

/-- The sight with other resources of the ETW monitor. -/
def Sight.withEtw (s : Sight) (etw : EtwResources) : Sight :=
  { s with resources := { s.resources with etw := etw } }

section Etw

attribute [local simp] Sight.own Sight.withEtw OwnCall.executeShell OwnCall.executeTelemetry
  OwnCall.executeEtw OwnCall.starts OwnCall.answer

/-- The session stops, unless there is no block for its properties or the call fails. -/
lemma triple_stopSession (hsession : s.resources.etw.session = true)
    (hproperties : s.resources.etw.properties = 0) :
    (discipline setting).Triple .window (Sees s) stopSession fun _ =>
      Found fun s' => ∃ etw, s' = s.withEtw etw ∧ etw.StopTried ∧ etw.properties = 0 ∧
        etw.trace = s.resources.etw.trace ∧ etw.thread = s.resources.etw.thread ∧
        etw.running = s.resources.etw.running := by
  refine step_own (fun _ _ _ => trivial) fun choice => ?_
  cases hok : choice.ok with
  | false =>
    simp only [OwnCall.answer, hok]
    exact Triple.found_ret ⟨{ s.resources.etw with refused := true }, by simp [hok],
      fun _ => .inl rfl, hproperties, rfl, rfl, rfl⟩
  | true =>
    simp only [OwnCall.answer, hok]
    refine step_own (fun w _ hs => ?_) fun stop =>
      Triple.last (step_own (fun w _ hs => ?_) fun _ => ?_)
    · simp [OwnCall.Permitted, hs.resources, hok, hsession]
    · simp [OwnCall.Permitted, hs.resources, hok]
    · refine Triple.found_ret ⟨{ s.resources.etw with
        session := !stop.ok, unstopped := s.resources.etw.unstopped || !stop.ok },
        by simp [hok, hsession], fun h => .inr ?_, hproperties, rfl, rfl, rfl⟩
      simp [show (!stop.ok) = true from h]

/-- What `etw_process_monitor_start` leaves: its monitor is enabled exactly if it succeeded. -/
abbrev StartedEtw (s : Sight) (result : EtwProcessMonitor × Bool) : World → Prop :=
  Found fun s' => ∃ etw gone, s' = { s.withEtw etw with consumerGone := gone } ∧
    result.1.Reflects etw gone ∧ result.1.enabled = result.2

/-- A start that has failed has nothing left. -/
lemma triple_startFailed (etw : EtwResources) {error : DWORD}
    (hs : s' = { s.withEtw etw with consumerGone := true }) (hdown : etw.Down) :
    (discipline setting).Triple .window (Sees s')
      (pure ({ EtwProcessMonitor.zero with lastError := error }, false)) (StartedEtw s) :=
  Triple.found_ret ⟨_, true, hs, ⟨nofun, fun _ => ⟨hdown, rfl⟩⟩, rfl⟩

section Start

/-- The session that is started, with the block of its properties. -/
def startedSession : EtwResources := ⟨true, .absent, .absent, false, 1, false, false⟩

variable (hgone : s.consumerGone = true) (hlogger : s.shell.logger = .live)

include hgone hlogger

/-- The provider cannot be enabled, or the session not be opened. -/
lemma triple_startUndone {error : DWORD} :
    (discipline setting).Triple .window (Sees (s.withEtw startedSession))
      (perform .log >>= fun _ => ownCall .stopTrace >>= fun _ =>
        ownCall .freeProperties >>= fun _ =>
          pure ({ EtwProcessMonitor.zero with lastError := error }, false)) (StartedEtw s) := by
  refine step_log hlogger (step_own (fun w _ hs => ?_) fun stop =>
    step_own (fun w _ hs => ?_) fun _ => ?_)
  · simp [OwnCall.Permitted, hs.resources, startedSession]
  · simp [OwnCall.Permitted, hs.resources, startedSession]
  · refine triple_startFailed ⟨!stop.ok, .absent, .absent, false, 0, false, !stop.ok⟩
      (by simp [hgone, startedSession]) ⟨by simp, by simp, fun h => .inr h, rfl⟩

/-- The rest of the start, once the session has been opened. -/
lemma triple_startConsumer (hinit : s.initialized = true) (hwindow : s.shell.window ≠ none) :
    (discipline setting).Triple .window
      (Sees (s.withEtw ⟨true, .live, .absent, false, 1, false, false⟩))
      (ownCall .freeProperties >>= fun _ => ownCall (.setEtwRunning true) >>= fun _ =>
        ownCall .createConsumer >>= fun error =>
          match error with
          | some error =>
            ownCall (.setEtwRunning false) >>= fun _ => ownCall .closeTrace >>= fun _ =>
              stopSession >>= fun _ =>
                pure ({ EtwProcessMonitor.zero with lastError := error }, false)
          | none => perform .log >>= fun _ =>
              pure (⟨true, true, true, true, EtwProcessMonitor.errorSuccess⟩, true))
      (StartedEtw s) := by
  refine step_own (fun w _ hs => ?_) fun _ => step_own (fun w _ hs _ => ?_) fun _ =>
    step_own (fun w _ hs => ?_) fun created => ?_
  · simp [OwnCall.Permitted, hs.resources]
  · simp [hs.resources]
  · exact ⟨by simp [hs.resources], by simp [hs.resources], by simp [hs.shell, hlogger],
      hs.initialized.trans hinit, by simpa [hs.shell] using hwindow⟩
  · cases hcreated : created.ok with
    | false =>
      simp only [OwnCall.answer, hcreated]
      refine step_own (fun _ _ _ => nofun) fun _ => step_own (fun w _ hs => ?_) fun _ => ?_
      · simp [OwnCall.Permitted, hs.resources, hcreated]
      refine Triple.bind (triple_stopSession ?_ ?_) fun _ => Triple.found ?_
      · simp [hcreated]
      · simp [hcreated]
      · rintro s' ⟨etw, rfl, hsession, hproperties, htrace, hthread, -⟩
        refine triple_startFailed etw (by simp [hgone, hcreated]) ⟨?_, ?_, hsession, hproperties⟩
        · simp [htrace, hcreated]
        · simp [hthread, hcreated]
    | true =>
      simp only [OwnCall.answer, hcreated]
      refine step_log (by simpa using hlogger) (Triple.found_ret
        ⟨⟨true, .live, .live, true, 0, false, false⟩, false, by simp [hcreated, hgone],
          ⟨?_, nofun⟩, rfl⟩)
      exact fun _ => ⟨rfl, rfl, rfl, rfl, rfl, rfl⟩

/-- `etw_process_monitor_start`. -/
lemma triple_etwProcessMonitorStart (hinit : s.initialized = true)
    (hwindow : s.shell.window ≠ none)
    (hetw : s.resources.etw = ⟨false, .absent, .absent, false, 0, false, false⟩) :
    (discipline setting).Triple .window (Sees s) etwProcessMonitorStart (StartedEtw s) := by
  refine step_own (fun _ _ _ => nofun) fun reset => step_own (fun _ _ _ => trivial) fun block => ?_
  cases hblock : block.ok with
  | false =>
    simp only [OwnCall.answer, hblock]
    exact triple_startFailed { s.resources.etw with refused := true }
      (by simp [hblock, hgone, hetw])
      ⟨by simp [hetw], by simp [hetw], fun _ => .inl rfl, by simp [hetw]⟩
  | true =>
    simp only [OwnCall.answer, hblock]
    refine step_own (fun w _ hs => ?_) fun started =>
      Triple.ite (fun hstarted => ?_) fun hstarted => ?_
    · simp [OwnCall.Permitted, hs.resources, hblock, hetw]
    · have hstarted' : ¬started.status = 0 := hstarted
      refine step_log (by simpa using hlogger) (step_own (fun w _ hs => ?_) fun _ => ?_)
      · simp [OwnCall.Permitted, hs.resources, hblock, hetw, hstarted']
      · exact triple_startFailed s.resources.etw (by simp [hblock, hgone, hetw, hstarted'])
          ⟨by simp [hetw], by simp [hetw], fun h => by simp [hetw] at h, by simp [hetw]⟩
    · have hstarted' : started.status = 0 := not_not.mp hstarted
      refine step_own (fun w _ hs => ?_) fun enabled => ?_
      · simp [OwnCall.Permitted, hs.resources, hblock, hetw, hstarted']
      have hsession :
          (((s.own reset (.setEtwRunning false)).own block .callocProperties).own started
            .startTrace).own enabled .enableProvider = s.withEtw startedSession := by
        simp [hblock, hetw, hstarted', startedSession]
      rw [hsession]
      refine Triple.ite (fun _ => triple_startUndone hgone hlogger) fun _ => ?_
      refine step_own (fun w _ hs => ?_) fun opened => ?_
      · simp [OwnCall.Permitted, hs.resources, startedSession]
      cases hopened : opened.ok with
      | false =>
        have hsame :
            (s.withEtw startedSession).own opened .openTrace = s.withEtw startedSession := by
          simp [hopened]
        simp only [OwnCall.answer, hopened, hsame]
        exact triple_startUndone hgone hlogger
      | true =>
        have hopen : (s.withEtw startedSession).own opened .openTrace =
            s.withEtw ⟨true, .live, .absent, false, 1, false, false⟩ := by
          simp [hopened, startedSession]
        simp only [OwnCall.answer, hopened, hopen]
        exact triple_startConsumer hgone hlogger hinit hwindow

end Start

/-- `etw_process_monitor_stop` leaves nothing, and the consumer has ended. -/
lemma triple_etwProcessMonitorStop {monitor : EtwProcessMonitor} (hinside : s.inside = false)
    (hreflects : monitor.Reflects s.resources.etw s.consumerGone) :
    (discipline setting).Triple .window (Sees s) (etwProcessMonitorStop monitor) fun monitor =>
      Found fun s' => monitor.enabled = false ∧ ∃ etw queue,
        s' = { s.withEtw etw with consumerGone := true, queue := queue } ∧ etw.Down := by
  refine Triple.ite (fun hdisabled => ?_) fun henabled => ?_
  · have hdisabled : monitor.enabled = false := by simpa using hdisabled
    obtain ⟨hdown, hgone⟩ := hreflects.disabled hdisabled
    exact Triple.found_ret ⟨hdisabled, s.resources.etw, s.queue, by simp [← hgone], hdown⟩
  · obtain ⟨htrace, hthread, hopen, hlive, hsession, hproperties⟩ :=
      hreflects.enabled (by simpa using henabled)
    refine step_own (fun _ _ _ => nofun) fun _ => step_own (fun w _ hs => ?_) fun _ => ?_
    · simp [OwnCall.Permitted, hs.resources, hsession]
    refine Triple.bind (triple_stopSession ?_ ?_) fun _ => Triple.found ?_
    · simp [hsession]
    · simp [hproperties]
    rintro s' ⟨etw, rfl, hstopped, hproperties', htrace', hthread', hrunning⟩
    simp only [htrace, hthread, when, if_true, bind_assoc]
    have hlive' : etw.thread = .live := by simp [hthread', hlive]
    refine step_own (fun w _ hs => ?_) fun _ => step_waitConsumer ?_ ?_ ?_ fun queue =>
      step_own (fun w _ hs => ?_) fun _ => ?_
    · simp [OwnCall.Permitted, hs.resources, htrace', hopen, hrunning]
    · simpa using hinside
    · simp [hlive']
    · simp [EtwResources.over]
    · exact ⟨by simp [hs.resources, hlive'], hs.consumer rfl⟩
    · refine Triple.found_ret
        ⟨rfl, { etw with trace := .gone, thread := .gone }, queue, by simp, ?_⟩
      exact ⟨by simp, by simp, hstopped, hproperties'⟩

end Etw

/-! ## The telemetry engine -/

/-- The engine says which of its resources are there. -/
structure TelemetryEngine.Reflects (engine : TelemetryEngine) (s : Sight) : Prop where
  stopEvent : engine.stopEvent = true ↔ s.resources.stopEvent = .live
  winsock : engine.winsockInitialized = s.resources.networkAvailable
  network : s.resources.networkAvailable = true ↔ s.resources.winsock = .live
  running : engine.running = true → engine.workerThread = true ∧
    s.resources.workerThread = .live ∧ s.resources.stopEvent = .live
  stopped : engine.running = false → s.resources.workerThread ≠ .live ∧ s.workerGone = true
  etw : engine.etw.Reflects s.resources.etw s.consumerGone

/-- Everything of the engine is released, and its threads do not run. -/
structure Sight.Stopped (s : Sight) : Prop where
  worker : s.workerGone = true
  consumer : s.consumerGone = true
  thread : s.resources.workerThread ≠ .live
  stopEvent : s.resources.stopEvent ≠ .live
  winsock : s.resources.winsock ≠ .live
  etw : s.resources.etw.Down
  processes : s.processMonitor = processMonitorInitialize
  connections : s.networkMonitor = networkMonitorInitialize

/-- The two differ in what the engine is about only. -/
structure Sight.Alike (s s' : Sight) : Prop where
  shell : s'.shell = s.shell
  thread : s'.thread = s.thread
  hand : s'.hand = s.hand
  inside : s'.inside = s.inside
  node : s'.node = s.node
  initialized : s'.initialized = s.initialized

/-- The engine is initialized and has not been started. -/
structure TelemetryEngine.Ready (engine : TelemetryEngine) (s : Sight) : Prop where
  reflects : engine.Reflects s
  stopEvent : engine.stopEvent = true
  running : engine.running = false
  worker : s.resources.workerThread = .absent
  etw : s.resources.etw = ⟨false, .absent, .absent, false, 0, false, false⟩
  signaled : s.resources.signaled = false
  workerGone : s.workerGone = true
  consumerGone : s.consumerGone = true

/-- The telemetry resources before `initialize_telemetry`. -/
def freshResources : Resources :=
  ⟨.absent, false, .absent, .absent, false, ⟨false, .absent, .absent, false, 0, false, false⟩⟩

lemma freshEtw_down : freshResources.etw.Down := ⟨nofun, nofun, nofun, rfl⟩

/-- Those behind it, where Winsock and the stop event are there or not. -/
def initializedResources (available event : Bool) : Resources :=
  { freshResources with
    winsock := if available then .live else .absent
    networkAvailable := available
    stopEvent := if event then .live else .absent }

section Telemetry

attribute [local simp] Sight.own Sight.withEtw OwnCall.executeShell OwnCall.executeTelemetry
  OwnCall.executeEtw OwnCall.starts OwnCall.answer initializedResources freshResources

variable {engine : TelemetryEngine}

/-- The two are alike, and nothing has told the worker to stop. -/
abbrev Sight.Unsignaled (s s' : Sight) : Prop := s.Alike s' ∧ s'.resources.signaled = false

lemma step_logWhen {condition : Bool} {next : Unit → Program α} (hlogger : s.shell.logger = .live)
    (hnext : (discipline setting).Triple .window (Sees s) (next ()) Q) :
    (discipline setting).Triple .window (Sees s) (when condition (perform .log) >>= next) Q := by
  cases condition with
  | false => exact hnext
  | true => exact step_log hlogger hnext

/-- `network_monitor_destroy` of a monitor that has Winsock. -/
lemma step_networkMonitorDestroy {next : TelemetryEngine → Program α}
    (hwinsock : engine.winsockInitialized = true) (hlive : s.resources.winsock = .live)
    (hworker : s.workerGone = true)
    (hnext : (discipline setting).Triple .window
      (Sees { s with
        resources := { s.resources with winsock := .gone }
        networkMonitor := networkMonitorInitialize })
      (next { engine with winsockInitialized := false }) Q) :
    (discipline setting).Triple .window (Sees s) (networkMonitorDestroy engine >>= next) Q := by
  simp only [networkMonitorDestroy, hwinsock, when, if_true, bind_assoc, pure_bind]
  refine step_own (fun w _ hs => ⟨by rw [hs.resources, hlive], hs.worker hworker⟩) fun _ => ?_
  exact step_forgetConnections (by simpa using hworker) (Triple.known _ (by simp) hnext)

/-- `initialize_telemetry`. -/
lemma triple_initializeTelemetry (hlogger : s.shell.logger = .live)
    (hresources : s.resources = freshResources) (hworker : s.workerGone = true)
    (hconsumer : s.consumerGone = true) :
    (discipline setting).Triple .window (Sees s) initializeTelemetry fun result =>
      Found fun s' => s.Unsignaled s' ∧ (result.2 = true → result.1.Ready s') ∧
        (result.2 = false → s'.Stopped) := by
  refine step_own (fun w hw hs => ?_) fun _ => step_forgetProcesses (by simpa using hworker) <|
    step_forgetConnections (by simpa using hworker) <|
      step_own (fun w hw hs => ?_) fun available => ?_
  · exact ⟨hs.worker hworker, fun _ => hw.unpolled (by simp [hs.resources, hresources])⟩
  · simp [OwnCall.Permitted, hs.resources, hresources]
  refine step_logWhen (by simpa using hlogger) <| step_own (fun w _ hs => ?_) fun _ =>
    step_logWhen (by simpa using hlogger) <| step_own (fun w _ hs => ?_) fun event => ?_
  · exact ⟨hs.worker (by simpa using hworker), fun _ => (hs.monitors (by simpa using hworker)).2⟩
  · cases hok : available.ok <;>
      simp [OwnCall.Permitted, hs.resources, hresources, hok]
  refine Triple.known { s with
    resources := initializedResources available.ok event.ok
    processMonitor := processMonitorInitialize
    networkMonitor := networkMonitorInitialize } ?_ ?_
  · cases hok : available.ok <;> cases hevent : event.ok <;>
      simp [hresources, hok, hevent]
  simp only [OwnCall.answer]
  refine Triple.ite (fun hevent => ?_) fun hevent => Triple.ite (fun hok => ?_) fun hok => ?_
  · rw [hevent]
    refine Triple.found_ret ⟨⟨⟨rfl, rfl, rfl, rfl, rfl, rfl⟩, rfl⟩, fun _ => ?_, nofun⟩
    refine ⟨⟨by simp, rfl, ?_, nofun, fun _ => ⟨by simp,
      hworker⟩, nofun, fun _ => ⟨?_, hconsumer⟩⟩, rfl, rfl, rfl, rfl, rfl, hworker, hconsumer⟩
    · cases available.ok <;> simp
    · exact freshEtw_down
  · rw [hok, Bool.eq_false_of_not_eq_true hevent]
    refine step_networkMonitorDestroy rfl (by simp) hworker ?_
    refine Triple.found_ret ⟨⟨⟨rfl, rfl, rfl, rfl, rfl, rfl⟩, rfl⟩, nofun, fun _ => ?_⟩
    exact ⟨hworker, hconsumer, by simp, by simp, by simp, freshEtw_down, rfl, rfl⟩
  · rw [Bool.eq_false_of_not_eq_true hok, Bool.eq_false_of_not_eq_true hevent]
    refine Triple.found_ret ⟨⟨⟨rfl, rfl, rfl, rfl, rfl, rfl⟩, rfl⟩, nofun, fun _ => ?_⟩
    exact ⟨hworker, hconsumer, by simp, by simp, by simp, freshEtw_down, rfl, rfl⟩

/-- `start_telemetry`. -/
lemma triple_startTelemetry (hlogger : s.shell.logger = .live) (hinit : s.initialized = true)
    (hwindow : s.shell.window ≠ none) (hinside : s.inside = false) (hready : engine.Ready s) :
    (discipline setting).Triple .window (Sees s) (startTelemetry engine) fun result =>
      Found fun s' => s.Unsignaled s' ∧ result.1.Reflects s' := by
  have hevent := hready.reflects.stopEvent.mp hready.stopEvent
  refine Triple.ite (fun h => ?_) fun _ => ?_
  · exact absurd h (by simp [hready.stopEvent, hready.running])
  refine step_own (fun w _ hs => ?_) fun _ => step_log hlogger ?_
  · rw [OwnCall.Permitted, hs.resources]
    exact ⟨hevent, hready.worker⟩
  have hreset : { s.resources with signaled := false } = s.resources := by rw [← hready.signaled]
  refine Triple.known s (by simp [hreset]) ?_
  refine Triple.bind
    (triple_etwProcessMonitorStart hready.consumerGone hlogger hinit hwindow hready.etw)
    fun ⟨monitor, enabled⟩ => Triple.found ?_
  rintro s' ⟨etw, gone, rfl, hreflects, henabled⟩
  have hlogs :
      ∀ {next : Unit → Program (TelemetryEngine × Bool)} {Q : _ → World → Prop} {s' : Sight},
      s'.shell.logger = .live → (discipline setting).Triple .window (Sees s') (next ()) Q →
      (discipline setting).Triple .window (Sees s')
        (when (!enabled) (perform .log >>= fun _ => perform .log) >>= next) Q := by
    intro next Q s' hlogger hnext
    cases enabled with
    | true => exact hnext
    | false =>
      simp only [when, Bool.not_false, if_true, bind_assoc]
      exact step_log hlogger (step_log hlogger hnext)
  refine hlogs (by simpa using hlogger) (step_own (fun w _ hs => ?_) fun created => ?_)
  · refine ⟨?_, ?_, ?_, hs.initialized.trans hinit, ?_⟩
    · simp [hs.resources, hready.worker]
    · simp [hs.resources, hevent]
    · simp [hs.shell, hlogger]
    · simpa [hs.shell] using hwindow
  · simp only [OwnCall.answer]
    refine Triple.ite (fun hcreated => ?_) fun hcreated => ?_
    · refine Triple.found_ret ⟨⟨⟨rfl, rfl, rfl, rfl, rfl, rfl⟩, ?_⟩, ?_⟩
      · simp [hcreated, hready.signaled]
      · refine ⟨?_, ?_, ?_, fun _ => ?_, nofun, ?_⟩
        · simp [hcreated, hready.stopEvent, hevent]
        · simp [hcreated, hready.reflects.winsock]
        · simp [hcreated, hready.reflects.network]
        · simp [hcreated, hevent]
        · simpa [hcreated] using hreflects
    · refine Triple.bind (triple_etwProcessMonitorStop ?_ ?_) fun monitor => Triple.found ?_
      · simpa using hinside
      · simpa [hcreated] using hreflects
      · rintro s' ⟨hdisabled, etw, queue, rfl, hdown⟩
        refine step_log (by simpa using hlogger) (Triple.found_ret
          ⟨⟨⟨rfl, rfl, rfl, rfl, rfl, rfl⟩, ?_⟩, ?_, ?_, ?_, nofun, fun _ => ?_, ?_⟩)
        · simp [hcreated, hready.signaled]
        · simp [hcreated, hready.stopEvent, hevent]
        · simp [hcreated, hready.reflects.winsock]
        · simp [hcreated, hready.reflects.network]
        · simp [hcreated, hready.worker, hready.workerGone]
        · exact ⟨fun h => by simp [hdisabled] at h, fun _ => ⟨hdown, rfl⟩⟩

/-- The first block of `shutdown_telemetry` lets the worker end. -/
lemma triple_stopWorker (hinside : s.inside = false) (hreflects : engine.Reflects s) :
    (discipline setting).Triple .window (Sees s) (stopWorker engine) fun engine =>
      Found fun s' => s.Alike s' ∧ engine.running = false ∧ engine.Reflects s' := by
  refine Triple.ite (fun hrunning => ?_) fun hstopped => ?_
  · obtain ⟨hthread, hlive, hevent⟩ := hreflects.running hrunning
    simp only [hthread, when, if_true, bind_assoc]
    refine step_own (fun w _ hs => ?_) fun _ => step_waitWorker ?_ ?_ ?_ fun _ _ _ =>
      step_own (fun w _ hs => ?_) fun _ => ?_
    · rw [OwnCall.Permitted, hs.resources, hevent]
    · simpa using hinside
    · simpa using hlive
    · simp
    · simp [OwnCall.Permitted, hs.resources, hlive]
    · refine Triple.found_ret
        ⟨⟨rfl, rfl, rfl, rfl, rfl, rfl⟩, rfl, ?_, ?_, ?_, nofun, fun _ => ?_, ?_⟩
      · simpa using hreflects.stopEvent
      · simpa using hreflects.winsock
      · simpa using hreflects.network
      · simp
      · simpa using hreflects.etw
  · exact Triple.found_ret ⟨⟨rfl, rfl, rfl, rfl, rfl, rfl⟩, by simpa using hstopped, hreflects⟩

/-- The second block ends Winsock if it was started, and forgets the connections. -/
lemma triple_closeNetwork (hworker : s.workerGone = true)
    (hwinsock : engine.winsockInitialized = s.resources.networkAvailable)
    (hnetwork : s.resources.networkAvailable = true ↔ s.resources.winsock = .live) :
    (discipline setting).Triple .window (Sees s) (closeNetwork engine) fun engine' =>
      Found fun s' => engine'.stopEvent = engine.stopEvent ∧ ∃ winsock,
        s' = { s with
          resources := { s.resources with winsock := winsock, networkAvailable := false }
          networkMonitor := networkMonitorInitialize } ∧ winsock ≠ .live := by
  refine Triple.informed fun w hw hs => step_networkAvailable ?_
  refine Triple.ite (fun havailable => ?_) fun hunavailable => ?_
  · refine step_networkMonitorDestroy (hwinsock.trans havailable) (hnetwork.mp havailable)
      hworker ?_
    refine step_own (fun w _ hs => ⟨hs.worker hworker, fun _ => (hs.monitors hworker).2⟩)
      fun _ => ?_
    exact Triple.found_ret ⟨rfl, .gone, by simp, by simp⟩
  · -- without Winsock the network has never been polled
    have hnone : s.resources.networkAvailable = false := by simpa using hunavailable
    have hunpolled := hw.unpolled (hs.resources ▸ hnone)
    rw [(hs.monitors hworker).2] at hunpolled
    refine Triple.found_ret ⟨rfl, s.resources.winsock, ?_, ?_⟩
    · rw [← hunpolled, ← hnone]
    · exact fun h => hunavailable (hnetwork.mpr h)

/-- `shutdown_telemetry` leaves nothing. -/
lemma triple_shutdownTelemetry (hinside : s.inside = false) (hreflects : engine.Reflects s) :
    (discipline setting).Triple .window (Sees s) (shutdownTelemetry engine) fun _ =>
      Found fun s' => s.Alike s' ∧ s'.Stopped := by
  refine Triple.bind (triple_stopWorker hinside hreflects) fun engine => Triple.found ?_
  rintro s' ⟨halike, hrunning, hreflects⟩
  obtain ⟨hthread, hworker⟩ := hreflects.stopped hrunning
  refine Triple.bind (triple_etwProcessMonitorStop (halike.inside.trans hinside) hreflects.etw)
    fun monitor => Triple.found ?_
  rintro s'' ⟨-, etw, queue, rfl, hdown⟩
  refine step_forgetProcesses hworker (Triple.bind
    (triple_closeNetwork hworker hreflects.winsock hreflects.network)
    fun engine' => Triple.found ?_)
  rintro s'' ⟨hevent, winsock, rfl, hwinsock⟩
  rw [hevent]
  cases hcase : engine.stopEvent with
  | false =>
    have habsent : s'.resources.stopEvent ≠ .live := by
      simp [← hreflects.stopEvent, hcase]
    exact Triple.found_ret ⟨⟨halike.shell, halike.thread, halike.hand, halike.inside, halike.node,
      halike.initialized⟩, hworker, rfl, hthread, habsent, hwinsock, hdown, rfl, rfl⟩
  | true =>
    have hlive := hreflects.stopEvent.mp hcase
    refine step_own (fun w _ hs => ?_) fun _ => ?_
    · exact ⟨by simp [hs.resources, hlive], hs.worker hworker⟩
    refine Triple.found_ret ⟨⟨halike.shell, halike.thread, halike.hand, halike.inside, halike.node,
      halike.initialized⟩, by simpa using hworker, by simp, by simpa using hthread, by simp,
      by simpa using hwinsock, by simpa using hdown, rfl, rfl⟩

end Telemetry

end TraceGlass
