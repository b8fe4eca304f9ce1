import TraceGlass.Lib.Solo
import TraceGlass.Monitor.Fallback
import TraceGlass.Telemetry.Shutdown

/-!
# What the collecting threads report

The worker reads its monitors back from the world, asks the system what runs and what is connected,
and pushes what is new; the consumer pushes what the callback makes of each record it is delivered.
`collected` is what a list of such answers makes a thread report, as one function of the answers,
and `Reporting` says how far a thread has come with pushing it.  Between two polls, or two records,
everything collected has been pushed, unless something was `lost`.
-/

namespace TraceGlass

open Threads Threads.Discipline Prog

/-! ## Reading a past -/

/-- A thread's part of a history. -/
abbrev Past := List (Deed Operation Operation.Answer)

/-- The events a thread has put into the queue. -/
def pushes (past : Past) : List TraceGlassEvent :=
  past.filterMap fun
    | ⟨.link _ event, _⟩ => some event
    | _ => none

/-- What a collecting thread gets to report on. -/
inductive Finding
  | processes (input : PollInput)
  | connections (input : TcpPollInput)
  | record (env : CallbackEnv) (record : EventRecord)

/-- What a thread has got to report on, in order. -/
def findings (past : Past) : List Finding :=
  past.filterMap fun
    | ⟨.queryProcesses, input⟩ => some (.processes input)
    | ⟨.queryConnections, input⟩ => some (.connections input)
    | ⟨.processTrace, .inr (env, record)⟩ => some (.record env record)
    | _ => none

/-- `malloc` has answered `NULL` in a `push_event`, or a record has found the ETW monitor
stopped. -/
def lost (past : Past) : Bool :=
  past.any fun
    | ⟨.mallocNode, none⟩ => true
    | ⟨.etwRunning, false⟩ => true
    | _ => false

/-- The process monitors written, in order. -/
def processMonitors (past : Past) : List ProcessMonitor :=
  past.filterMap fun
    | ⟨.setProcessMonitor monitor, _⟩ => some monitor
    | _ => none

/-- The network monitors written, in order. -/
def networkMonitors (past : Past) : List NetworkMonitor :=
  past.filterMap fun
    | ⟨.setNetworkMonitor monitor, _⟩ => some monitor
    | _ => none

/-- Both monitors of the worker. -/
structure Monitors where
  processes : ProcessMonitor
  network : NetworkMonitor

def Monitors.initial : Monitors := ⟨processMonitorInitialize, networkMonitorInitialize⟩

/-- The monitors as a thread has left them. -/
def monitors (past : Past) : Monitors where
  processes := (processMonitors past).getLast?.getD processMonitorInitialize
  network := (networkMonitors past).getLast?.getD networkMonitorInitialize

/-- What a deed adds to its past, where it writes no monitor. -/
structure Adds (deed : Deed Operation Operation.Answer) (pushed : List TraceGlassEvent)
    (found : List Finding) (loses : Bool) : Prop where
  pushes : pushes [deed] = pushed
  findings : findings [deed] = found
  lost : lost [deed] = loses
  processes : processMonitors [deed] = []
  network : networkMonitors [deed] = []

/-- A deed that adds nothing. -/
abbrev Silent (deed : Deed Operation Operation.Answer) : Prop := Adds deed [] [] false

section Snoc

variable {past : Past} {deed : Deed Operation Operation.Answer}

lemma pushes_snoc {pushed : List TraceGlassEvent} (h : pushes [deed] = pushed) :
    pushes (past ++ [deed]) = pushes past ++ pushed :=
  h ▸ List.filterMap_append

lemma findings_snoc {found : List Finding} (h : findings [deed] = found) :
    findings (past ++ [deed]) = findings past ++ found :=
  h ▸ List.filterMap_append

lemma lost_snoc {loses : Bool} (h : lost [deed] = loses) :
    lost (past ++ [deed]) = (lost past || loses) :=
  h ▸ List.any_append

lemma monitors_snoc : monitors (past ++ [deed]) =
    ⟨(processMonitors [deed]).head?.getD (monitors past).processes,
      (networkMonitors [deed]).head?.getD (monitors past).network⟩ := by
  have hprocesses :
      processMonitors (past ++ [deed]) = processMonitors past ++ processMonitors [deed] :=
    List.filterMap_append
  have hnetwork :
      networkMonitors (past ++ [deed]) = networkMonitors past ++ networkMonitors [deed] :=
    List.filterMap_append
  rw [monitors, hprocesses, hnetwork]
  obtain ⟨op, ans⟩ := deed
  cases op <;> simp [monitors, processMonitors, networkMonitors]

lemma Adds.monitors_eq {pushed : List TraceGlassEvent} {found : List Finding} {loses : Bool}
    (h : Adds deed pushed found loses) : monitors (past ++ [deed]) = monitors past := by
  rw [monitors_snoc, h.processes, h.network]
  rfl

end Snoc

/-! ## What the answers make of it -/

/-- The monitors after some answers, with the events to be reported. -/
structure Collected where
  monitors : Monitors
  reported : List TraceGlassEvent

/-- One poll, or one record. -/
def collect (setting : Setting) (state : Collected) : Finding → Collected
  | .processes input =>
      let result :=
        processMonitorPoll setting.win32 setting.processSort state.monitors.processes input
      ⟨{ state.monitors with processes := result.monitor }, state.reported ++ result.pushed⟩
  | .connections input =>
      let result := networkMonitorPoll setting.connectionSort setting.connectionSearch
        state.monitors.network input
      ⟨{ state.monitors with network := result.monitor }, state.reported ++ result.pushed⟩
  | .record env record =>
      { state with
        reported := state.reported ++ (etwEventCallback setting.win32 true env record).toList }

/-- What these answers make a thread report, one after the other. -/
def collected (setting : Setting) (found : List Finding) : Collected :=
  found.foldl (collect setting) ⟨.initial, []⟩

lemma collected_snoc (setting : Setting) (found : List Finding) (finding : Finding) :
    collected setting (found ++ [finding]) = collect setting (collected setting found) finding := by
  simp [collected]

lemma collected_prefix (setting : Setting) (found more : List Finding) :
    (collected setting found).reported <+: (collected setting (found ++ more)).reported := by
  induction more using List.reverseRecOn with
  | nil => rw [List.append_nil]
  | append_singleton more finding ih =>
    rw [← List.append_assoc, collected_snoc]
    cases finding <;> exact ih.trans (List.prefix_append _ _)

/-! ## A collecting thread alone -/

/-- How far a thread has come: `pending` is collected and still to be pushed, `kept` are the
monitors as it has left them, and `due` those it has come to. -/
structure Reporting (setting : Setting) (pending : List TraceGlassEvent) (kept due : Monitors)
    (past : Past) : Prop where
  sublist : (pushes past ++ pending).Sublist (collected setting (findings past)).reported
  whole : lost past = false →
    pushes past ++ pending = (collected setting (findings past)).reported
  kept : monitors past = kept
  due : (collected setting (findings past)).monitors = due

/-- The thread is between two polls, or two records. -/
def AtRest (setting : Setting) (past : Past) : Prop := ∃ kept, Reporting setting [] kept kept past

/-- What holds of it at any time: it has pushed a beginning of what it has collected, but for what
was lost. -/
structure Reports (setting : Setting) (past : Past) : Prop where
  sublist : (pushes past).Sublist (collected setting (findings past)).reported
  isPrefix : lost past = false → pushes past <+: (collected setting (findings past)).reported

section Deeds

variable {setting : Setting} {pending : List TraceGlassEvent} {kept due : Monitors} {past : Past}
  {event : TraceGlassEvent} {deed : Deed Operation Operation.Answer}

lemma Reporting.silent (h : Reporting setting pending kept due past) (hsilent : Silent deed) :
    Reporting setting pending kept due (past ++ [deed]) := by
  constructor <;> simp only [pushes_snoc hsilent.pushes, findings_snoc hsilent.findings,
    lost_snoc hsilent.lost, hsilent.monitors_eq, List.append_nil, Bool.or_false]
  exacts [h.sublist, h.whole, h.kept, h.due]

lemma AtRest.silent (h : AtRest setting past) (hsilent : Silent deed) :
    AtRest setting (past ++ [deed]) :=
  h.imp fun _ h => h.silent hsilent

/-- What is still to be pushed is lost, or a part of it. -/
lemma Reporting.lost {pending' : List TraceGlassEvent} (h : Reporting setting pending kept due past)
    (hsub : pending'.Sublist pending) (hadds : Adds deed [] [] true) :
    Reporting setting pending' kept due (past ++ [deed]) := by
  constructor <;> simp only [pushes_snoc hadds.pushes, findings_snoc hadds.findings,
    lost_snoc hadds.lost, hadds.monitors_eq, List.append_nil, Bool.or_true]
  · exact ((List.Sublist.refl _).append hsub).trans h.sublist
  · exact nofun
  · exact h.kept
  · exact h.due

/-- The next event is pushed. -/
lemma Reporting.pushed (h : Reporting setting (event :: pending) kept due past)
    (hadds : Adds deed [event] [] false) : Reporting setting pending kept due (past ++ [deed]) := by
  constructor <;> simp only [pushes_snoc hadds.pushes, findings_snoc hadds.findings,
    lost_snoc hadds.lost, hadds.monitors_eq, List.append_nil, Bool.or_false, List.append_assoc,
    List.singleton_append]
  exacts [h.sublist, h.whole, h.kept, h.due]

/-- The thread has got something to report on. -/
lemma Reporting.asked (h : Reporting setting [] kept due past) (finding : Finding)
    {events : List TraceGlassEvent} {due' : Monitors} (hadds : Adds deed [] [finding] false)
    (hcollect : ∀ state, state.monitors = due →
      collect setting state finding = ⟨due', state.reported ++ events⟩) :
    Reporting setting events kept due' (past ++ [deed]) := by
  have hsublist := h.sublist
  have hwhole := h.whole
  rw [List.append_nil] at hsublist hwhole
  constructor <;> simp only [pushes_snoc hadds.pushes, findings_snoc hadds.findings,
    lost_snoc hadds.lost, hadds.monitors_eq, List.append_nil, Bool.or_false, collected_snoc,
    hcollect _ h.due]
  · exact hsublist.append (List.Sublist.refl _)
  · exact fun hno => by rw [hwhole hno]
  · exact h.kept

/-- The thread has written the monitors it has come to. -/
lemma Reporting.written (h : Reporting setting [] kept due past) (hpushes : pushes [deed] = [])
    (hfindings : findings [deed] = []) (hlost : TraceGlass.lost [deed] = false)
    (hmonitors : monitors (past ++ [deed]) = due) : AtRest setting (past ++ [deed]) := by
  refine ⟨due, ?_⟩
  constructor <;> simp only [pushes_snoc hpushes, findings_snoc hfindings, lost_snoc hlost,
    hmonitors, List.append_nil, Bool.or_false]
  exacts [by simpa using h.sublist, by simpa using h.whole, h.due]

lemma Reporting.reports (h : Reporting setting pending kept due past) : Reports setting past :=
  ⟨(List.sublist_append_left _ _).trans h.sublist,
    fun hno => h.whole hno ▸ List.prefix_append _ _⟩

/-- A thread that pushes and loses nothing has at most more to report. -/
lemma Reports.snoc (h : Reports setting past) (hpushes : pushes [deed] = [])
    (hlost : lost [deed] = false) : Reports setting (past ++ [deed]) := by
  have hmore : (collected setting (findings past)).reported <+:
      (collected setting (findings (past ++ [deed]))).reported := by
    rw [findings_snoc rfl]
    exact collected_prefix setting _ _
  constructor <;> simp only [pushes_snoc hpushes, lost_snoc hlost, List.append_nil, Bool.or_false]
  · exact h.sublist.trans hmore.sublist
  · exact fun hno => (h.isPrefix hno).trans hmore

end Deeds

/-- A collecting thread finds the monitors as it has left them, and the queue initialized; it pushes
what is to be pushed next, and waits for more with everything reported. -/
def collectorAlone (setting : Setting) : Solo Operation Operation.Answer where
  possible past
    | ⟨.processMonitor, monitor⟩ => monitor = (monitors past).processes
    | ⟨.networkMonitor, monitor⟩ => monitor = (monitors past).network
    | ⟨.queueInitialized, initialized⟩ => initialized = true
    | _ => True
  fits
    | .stopSignaled, past => AtRest setting past
    | .processTrace, past => AtRest setting past
    | .mallocNode, past =>
      ∃ event pending kept due, Reporting setting (event :: pending) kept due past
    | .link _ event, past => ∃ pending kept due, Reporting setting (event :: pending) kept due past
    | .etwRunning, past => ∃ pending kept due, Reporting setting pending kept due past
    | _, _ => True
  Inv := Reports setting
  keeps := by
    rintro past ⟨op, ans⟩ h hfits -
    cases op with
    | mallocNode =>
      obtain ⟨event, pending, kept, due, hreporting⟩ := hfits
      cases ans with
      | none =>
        exact (hreporting.lost (List.sublist_cons_self event pending)
          ⟨rfl, rfl, rfl, rfl, rfl⟩).reports
      | some node => exact h.snoc rfl rfl
    | link node event =>
      obtain ⟨pending, kept, due, hreporting⟩ := hfits
      exact (@Reporting.pushed _ _ _ _ _ event ⟨.link node event, ans⟩ hreporting
        ⟨rfl, rfl, rfl, rfl, rfl⟩).reports
    | etwRunning =>
      obtain ⟨pending, kept, due, hreporting⟩ := hfits
      cases ans with
      | false =>
        exact (hreporting.lost (List.Sublist.refl pending) ⟨rfl, rfl, rfl, rfl, rfl⟩).reports
      | true => exact h.snoc rfl rfl
    | _ => exact h.snoc rfl rfl

section Programs

variable {setting : Setting} {pending : List TraceGlassEvent} {kept due : Monitors}

/-- What is shown of the programs of a collecting thread. -/
abbrev CollectorTriple (setting : Setting) {α : Type} (P : Past → Prop) (p : Program α)
    (Q : α → Past → Prop) : Prop :=
  (collectorAlone setting).discipline.Triple () P p Q

/-- An operation that adds nothing. -/
lemma collectorTriple_silent (op : Operation)
    (hfits : ∀ past, (collectorAlone setting).fits op past)
    (hsilent : ∀ ans, Silent ⟨op, ans⟩) :
    CollectorTriple setting (Reporting setting pending kept due) (perform op)
      fun _ => Reporting setting pending kept due :=
  Solo.triple_call (fun past _ => hfits past) fun _ ans h _ => h.silent (hsilent ans)

lemma collectorTriple_atRest (op : Operation)
    (hfits : ∀ past, (collectorAlone setting).fits op past)
    (hsilent : ∀ ans, Silent ⟨op, ans⟩) :
    CollectorTriple setting (AtRest setting) (perform op) fun _ => AtRest setting :=
  Solo.triple_call (fun past _ => hfits past) fun _ ans h _ => h.silent (hsilent ans)

/-- `push_event` on the next event to be pushed. -/
lemma collectorTriple_pushEvent (event : TraceGlassEvent) :
    CollectorTriple setting (Reporting setting (event :: pending) kept due) (pushEventProgram event)
      fun _ => Reporting setting pending kept due := by
  refine Triple.bind (Q := fun initialized past =>
      initialized = true ∧ Reporting setting (event :: pending) kept due past)
    (Solo.triple_call (fun _ _ => trivial)
      fun _ _ h hpossible => ⟨hpossible, h.silent ⟨rfl, rfl, rfl, rfl, rfl⟩⟩) fun initialized => ?_
  cases initialized with
  | false => exact fun _ _ h => absurd h.1 Bool.false_ne_true
  | true =>
    refine Triple.bind (Q := fun node =>
        Reporting setting (node.elim pending fun _ => event :: pending) kept due)
      (Solo.triple_call (fun _ h => ⟨_, _, _, _, h.2⟩) fun past node h _ => ?_) fun node => ?_
    · cases node with
      | none => exact h.2.lost (List.sublist_cons_self event pending) ⟨rfl, rfl, rfl, rfl, rfl⟩
      | some node => exact h.2.silent ⟨rfl, rfl, rfl, rfl, rfl⟩
    · cases node with
      | none => exact Solo.triple_ret fun _ h => h
      | some node =>
        refine (collectorTriple_silent .enterQueue (fun _ => trivial)
          fun _ => ⟨rfl, rfl, rfl, rfl, rfl⟩).bind fun _ => ?_
        refine Triple.bind (Q := fun _ => Reporting setting pending kept due)
          (Solo.triple_call (fun _ h => ⟨_, _, _, h⟩)
            fun _ _ h _ => h.pushed ⟨rfl, rfl, rfl, rfl, rfl⟩) fun locals => ?_
        refine (collectorTriple_silent .leaveQueue (fun _ => trivial)
          fun _ => ⟨rfl, rfl, rfl, rfl, rfl⟩).bind fun _ => ?_
        exact collectorTriple_silent (.notify locals) (fun _ => trivial)
          fun _ => ⟨rfl, rfl, rfl, rfl, rfl⟩

lemma collectorTriple_pushAll (events : List TraceGlassEvent) :
    CollectorTriple setting (Reporting setting events kept due) (pushAll events)
      fun _ => Reporting setting [] kept due := by
  induction events with
  | nil => exact Solo.triple_ret fun _ h => h
  | cons event events ih => exact (collectorTriple_pushEvent event).bind fun _ => ih

lemma collectorTriple_log (condition : Bool) :
    CollectorTriple setting (Reporting setting pending kept due) (when condition (perform .log))
      fun _ => Reporting setting pending kept due := by
  cases condition with
  | false => exact Solo.triple_ret fun _ h => h
  | true => exact collectorTriple_silent .log (fun _ => trivial) fun _ => ⟨rfl, rfl, rfl, rfl, rfl⟩

/-! ### The worker -/

/-- `process_monitor_poll`. -/
lemma collectorTriple_processMonitorPoll :
    CollectorTriple setting (AtRest setting) (processMonitorPollProgram setting)
      fun _ => AtRest setting := by
  refine Triple.exists fun kept => ?_
  refine Triple.bind (Q := fun monitor past =>
      monitor = kept.processes ∧ Reporting setting [] kept kept past)
    (Solo.triple_call (fun _ _ => trivial) fun past monitor h hpossible =>
      ⟨hpossible.trans (congrArg Monitors.processes h.kept), h.silent ⟨rfl, rfl, rfl, rfl, rfl⟩⟩)
    fun monitor => ?_
  refine Triple.bind (Q := fun input => Reporting setting
      (processMonitorPoll setting.win32 setting.processSort monitor input).pushed kept
      { kept with
        processes := (processMonitorPoll setting.win32 setting.processSort monitor input).monitor })
    (Solo.triple_call (fun _ _ => trivial) fun past input h _ => ?_) fun input => ?_
  · obtain ⟨rfl, h⟩ := h
    refine h.asked (.processes input) ⟨rfl, rfl, rfl, rfl, rfl⟩ fun state hstate => ?_
    simp only [collect, hstate]
  · refine (collectorTriple_log _).bind fun _ => (collectorTriple_pushAll _).bind fun _ => ?_
    refine Solo.triple_call (fun _ _ => trivial) fun past _ h _ => h.written rfl rfl rfl ?_
    rw [monitors_snoc, h.kept]
    rfl

/-- `network_monitor_poll`. -/
lemma collectorTriple_networkMonitorPoll :
    CollectorTriple setting (AtRest setting) (networkMonitorPollProgram setting)
      fun _ => AtRest setting := by
  refine Triple.exists fun kept => ?_
  refine Triple.bind (Q := fun monitor past =>
      monitor = kept.network ∧ Reporting setting [] kept kept past)
    (Solo.triple_call (fun _ _ => trivial) fun past monitor h hpossible =>
      ⟨hpossible.trans (congrArg Monitors.network h.kept), h.silent ⟨rfl, rfl, rfl, rfl, rfl⟩⟩)
    fun monitor => ?_
  refine Triple.bind (Q := fun input => Reporting setting
      (networkMonitorPoll setting.connectionSort setting.connectionSearch monitor input).pushed kept
      { kept with
        network := (networkMonitorPoll setting.connectionSort setting.connectionSearch monitor
          input).monitor })
    (Solo.triple_call (fun _ _ => trivial) fun past input h _ => ?_) fun input => ?_
  · obtain ⟨rfl, h⟩ := h
    refine h.asked (.connections input) ⟨rfl, rfl, rfl, rfl, rfl⟩ fun state hstate => ?_
    simp only [collect, hstate]
  · refine (collectorTriple_log _).bind fun _ => (collectorTriple_pushAll _).bind fun _ => ?_
    refine Solo.triple_call (fun _ _ => trivial) fun past _ h _ => h.written rfl rfl rfl ?_
    rw [monitors_snoc, h.kept]
    rfl

/-- Whether the worker waits or asks, it has reported everything. -/
lemma collectorTriple_stopSignaled :
    CollectorTriple setting (AtRest setting) (perform .stopSignaled) fun _ => AtRest setting :=
  Solo.triple_call (fun _ h => h) fun _ _ h _ => h.silent ⟨rfl, rfl, rfl, rfl, rfl⟩

lemma collectorTriple_workerTurn :
    CollectorTriple setting (AtRest setting) (workerTurn setting)
      (turned (fun _ => AtRest setting) fun _ => AtRest setting) := by
  refine collectorTriple_stopSignaled.bind fun stopped => ?_
  cases stopped with
  | true => exact Solo.triple_ret fun _ h => h
  | false =>
    refine collectorTriple_processMonitorPoll.bind fun _ => ?_
    refine (collectorTriple_atRest .networkAvailable (fun _ => trivial)
      fun _ => ⟨rfl, rfl, rfl, rfl, rfl⟩).bind fun available => ?_
    refine Triple.bind (Q := fun _ => AtRest setting) ?_ fun _ =>
      collectorTriple_stopSignaled.bind fun stopped => ?_
    · cases available with
      | false => exact Solo.triple_ret fun _ h => h
      | true => exact collectorTriple_networkMonitorPoll
    · cases stopped <;> exact Solo.triple_ret fun _ h => h

/-- `telemetry_worker`. -/
lemma collectorTriple_telemetryWorker :
    CollectorTriple setting (AtRest setting) (telemetryWorker setting) fun _ => AtRest setting := by
  refine (collectorTriple_atRest .started (fun _ => trivial)
    fun _ => ⟨rfl, rfl, rfl, rfl, rfl⟩).bind fun _ => ?_
  refine (collectorTriple_atRest .log (fun _ => trivial)
    fun _ => ⟨rfl, rfl, rfl, rfl, rfl⟩).bind fun _ => ?_
  refine (Solo.triple_iterate (I := fun _ => AtRest setting) (R := fun _ => AtRest setting)
    (fun _ => collectorTriple_workerTurn) ()).bind fun _ => ?_
  refine (collectorTriple_atRest .log (fun _ => trivial)
    fun _ => ⟨rfl, rfl, rfl, rfl, rfl⟩).bind fun _ => ?_
  exact collectorTriple_atRest .exitThread (fun _ => trivial) fun _ => ⟨rfl, rfl, rfl, rfl, rfl⟩

/-! ### The consumer -/

/-- A record makes the consumer push what the callback makes of it, or finds the monitor stopped. -/
lemma collectorTriple_consumerTurn :
    CollectorTriple setting (AtRest setting) (consumerTurn setting)
      (turned (fun _ => AtRest setting) fun _ => AtRest setting) := by
  refine Triple.exists fun kept => ?_
  refine Triple.bind (Q := fun answer => Reporting setting (answer.elim (fun _ => []) fun found =>
      (etwEventCallback setting.win32 true found.1 found.2).toList) kept kept)
    (Solo.triple_call (fun _ h => ⟨kept, h⟩) fun past answer h _ => ?_) fun answer => ?_
  · rcases answer with status | ⟨env, record⟩
    · exact h.silent ⟨rfl, rfl, rfl, rfl, rfl⟩
    · refine h.asked (.record env record) ⟨rfl, rfl, rfl, rfl, rfl⟩ fun state hstate => ?_
      simp only [collect, hstate, Sum.elim_inr]
  · rcases answer with status | ⟨env, record⟩
    · exact Solo.triple_ret fun _ h => ⟨kept, h⟩
    · refine Triple.bind (Q := fun running =>
          Reporting setting (etwEventCallback setting.win32 running env record).toList kept kept)
        (Solo.triple_call (fun _ h => ⟨_, _, _, h⟩) fun past running h _ => ?_) fun running => ?_
      · cases running with
        | true => exact h.silent ⟨rfl, rfl, rfl, rfl, rfl⟩
        | false => exact h.lost (List.nil_sublist _) ⟨rfl, rfl, rfl, rfl, rfl⟩
      · cases etwEventCallback setting.win32 running env record with
        | none => exact Solo.triple_ret fun _ h => ⟨kept, h⟩
        | some event =>
          refine (collectorTriple_pushEvent event).bind fun _ => ?_
          exact Solo.triple_ret fun _ h => ⟨kept, h⟩

/-- `etw_consumer_thread`. -/
lemma collectorTriple_etwConsumerThread :
    CollectorTriple setting (AtRest setting) (etwConsumerThread setting)
      fun _ => AtRest setting := by
  refine (collectorTriple_atRest .started (fun _ => trivial)
    fun _ => ⟨rfl, rfl, rfl, rfl, rfl⟩).bind fun _ => ?_
  refine (Solo.triple_iterate (I := fun _ => AtRest setting) (R := fun _ => AtRest setting)
    (fun _ => collectorTriple_consumerTurn) ()).bind fun status => ?_
  refine Triple.bind (Q := fun _ => AtRest setting) ?_ fun _ =>
    collectorTriple_atRest .exitThread (fun _ => trivial) fun _ => ⟨rfl, rfl, rfl, rfl, rfl⟩
  exact Triple.exists fun kept => (collectorTriple_log _).post fun _ _ _ h => ⟨kept, h⟩

end Programs

/-! ## In a run -/

section Run

variable {setting : Setting} {records : ℕ} {actions : List (ThreadId × Choice)}
  {c c' : Config ThreadId Operation Operation.Answer World} {w w' : World} {t : ThreadId}
  {op : Operation} {choice : Choice} {ans : op.Answer}

/-- Only the writes of the monitors change them. -/
lemma execute_monitors (he : execute setting t op choice w = some (ans, w')) :
    w'.processMonitor = (processMonitors [⟨op, ans⟩]).head?.getD w.processMonitor ∧
      w'.networkMonitor = (networkMonitors [⟨op, ans⟩]).head?.getD w.networkMonitor := by
  cases op with
  | own =>
    obtain ⟨rfl, rfl⟩ := Prod.mk.inj (Option.some.inj he)
    exact ⟨rfl, rfl⟩
  | link =>
    obtain ⟨answer, -, heq⟩ := Option.map_eq_some_iff.mp he
    obtain ⟨rfl, rfl⟩ := Prod.mk.inj heq
    exact ⟨rfl, rfl⟩
  | nextNode =>
    obtain ⟨block, -, heq⟩ := Option.map_eq_some_iff.mp he
    obtain ⟨rfl, rfl⟩ := Prod.mk.inj heq
    exact ⟨rfl, rfl⟩
  | getMessage queueReady =>
    obtain ⟨w'', hmessage, heq⟩ := Option.map_eq_some_iff.mp he
    obtain ⟨rfl, rfl⟩ := Prod.mk.inj heq
    have harrives := arrives hmessage
    generalize choice.message = message at harrives ⊢
    cases harrives <;> exact ⟨rfl, rfl⟩
  | _ =>
    simp only [execute] at he
    repeat' split at he
    all_goals first
      | (obtain ⟨rfl, rfl⟩ := Prod.mk.inj (Option.some.inj he)
         exact ⟨rfl, rfl⟩)
      | cases he

/-- What the world and the worker's past have to do with each other. -/
structure WorkerKnown (w : World) (past : Past) : Prop where
  unstarted : w.created .worker = false → past = []
  processes : w.ended .worker = false → w.processMonitor = (monitors past).processes
  network : w.ended .worker = false → w.networkMonitor = (monitors past).network

/-- Where a thread has got, no step takes back. -/
lemma execute_lives (hw : Sound w) (hallowed : Allowed t op w)
    (he : execute setting t op choice w = some (ans, w')) (u : ThreadId) :
    (w.created u = true → w'.created u = true) ∧ (w.ended u = true → w'.ended u = true) := by
  obtain ⟨other, hother⟩ : ∃ other : ThreadId, other ≠ t := by
    cases t
    exacts [⟨.worker, nofun⟩, ⟨.window, nofun⟩, ⟨.window, nofun⟩]
  have hframe := ((discipline setting).keeps hw hallowed he).2.1 other hother
  exact ⟨hframe.created u, hframe.ended u⟩

/-- A monitor is the worker's to write, but where the worker is not running the window's thread can
empty it. -/
lemma written_by (ans : op.Answer) (hallowed : Allowed t op w) (ht : t ≠ .worker) :
    (∀ m ∈ processMonitors [⟨op, ans⟩],
      w.active .worker = false ∧ m = processMonitorInitialize) ∧
    ∀ m ∈ networkMonitors [⟨op, ans⟩],
      w.active .worker = false ∧ m = networkMonitorInitialize := by
  cases op with
  | setProcessMonitor monitor =>
    obtain ⟨-, rfl | ⟨-, hworker, rfl⟩⟩ := hallowed
    · exact absurd rfl ht
    · exact ⟨fun m hm => ⟨hworker, List.mem_singleton.mp hm⟩, nofun⟩
  | setNetworkMonitor monitor =>
    obtain ⟨-, ⟨rfl, -⟩ | ⟨-, hworker, rfl⟩⟩ := hallowed
    · exact absurd rfl ht
    · exact ⟨nofun, fun m hm => ⟨hworker, List.mem_singleton.mp hm⟩⟩
  | _ => exact ⟨nofun, nofun⟩

/-- A thread performs nothing before it has been created. -/
lemma created_of_execute (hallowed : Allowed t op w)
    (he : execute setting t op choice w = some (ans, w')) : w.created t = true := by
  cases op with
  | started =>
    simp only [execute] at he
    split at he
    · assumption
    · cases he
  | _ =>
    have hactive := hallowed.1
    simp only [World.active, Bool.and_eq_true] at hactive
    exact hactive.1

lemma WorkerKnown.step {past : Past} (h : WorkerKnown w past) (hw : Sound w)
    (hallowed : Allowed t op w) (he : execute setting t op choice w = some (ans, w')) :
    WorkerKnown w' (past ++ if t = .worker then [⟨op, ans⟩] else []) := by
  obtain ⟨hprocesses, hnetwork⟩ := execute_monitors he
  obtain ⟨hcreated, hended⟩ := execute_lives hw hallowed he .worker
  have hrunning : w'.ended .worker = false → w.ended .worker = false := fun h' =>
    Bool.eq_false_iff.mpr fun hw => Bool.false_ne_true (h'.symm.trans (hended hw))
  have hunborn : w'.created .worker = false → w.created .worker = false := fun h' =>
    Bool.eq_false_iff.mpr fun hw => Bool.false_ne_true (h'.symm.trans (hcreated hw))
  split
  · next ht =>
    subst ht
    have hborn := created_of_execute hallowed he
    refine ⟨fun h' => ?_, fun h' => ?_, fun h' => ?_⟩
    · exact absurd ((hunborn h').symm.trans hborn) Bool.false_ne_true
    · rw [hprocesses, monitors_snoc, h.processes (hrunning h')]
    · rw [hnetwork, monitors_snoc, h.network (hrunning h')]
  · next ht =>
    obtain ⟨hprocess, hconnections⟩ := written_by ans hallowed ht
    -- who writes while the worker is not running finds it not created yet, or ended
    have hempty : w.active .worker = false → w'.ended .worker = false → past = [] := by
      intro hinactive h'
      refine h.unstarted ?_
      simpa [World.active, hrunning h'] using hinactive
    rw [List.append_nil]
    refine ⟨fun h' => h.unstarted (hunborn h'), fun h' => ?_, fun h' => ?_⟩
    · rw [hprocesses]
      cases hwritten : processMonitors [⟨op, ans⟩] with
      | nil => exact h.processes (hrunning h')
      | cons m ms =>
        obtain ⟨hinactive, rfl⟩ := hprocess m (by simp [hwritten])
        rw [hempty hinactive h']
        rfl
    · rw [hnetwork]
      cases hwritten : networkMonitors [⟨op, ans⟩] with
      | nil => exact h.network (hrunning h')
      | cons m ms =>
        obtain ⟨hinactive, rfl⟩ := hconnections m (by simp [hwritten])
        rw [hempty hinactive h']
        rfl

/-- What a running collecting thread is answered. -/
lemma possible_of_execute {past : Past} (hw : Sound w) (hallowed : Allowed t op w)
    (ht : t ≠ .window) (hknown : t = .worker → WorkerKnown w past)
    (he : execute setting t op choice w = some (ans, w')) :
    (collectorAlone setting).possible past ⟨op, ans⟩ := by
  have hrunning : w.active t = true → w.ended t = false := fun hactive => by
    simp only [World.active, Bool.and_eq_true, Bool.not_eq_true'] at hactive
    exact hactive.2
  cases op with
  | processMonitor =>
    obtain ⟨hactive, rfl⟩ := hallowed
    obtain ⟨rfl, -⟩ := Prod.mk.inj (Option.some.inj he)
    exact (hknown rfl).processes (hrunning hactive)
  | networkMonitor =>
    obtain ⟨hactive, rfl⟩ := hallowed
    obtain ⟨rfl, -⟩ := Prod.mk.inj (Option.some.inj he)
    exact (hknown rfl).network (hrunning hactive)
  | queueInitialized =>
    obtain ⟨rfl, -⟩ := Prod.mk.inj (Option.some.inj he)
    exact (hw.collectable t ht hallowed.1).queue
  | _ => trivial

/-- What a thread has performed in a run of the program. -/
def pastOf (setting : Setting) (records : ℕ) (actions : List (ThreadId × Choice))
    (t : ThreadId) : Past :=
  own t ((telemetrySystem setting).history (programStart setting records) actions)

/-- What is known of the collecting threads along a run. -/
structure Watched (setting : Setting) (records : ℕ) (actions : List (ThreadId × Choice))
    (c : Config ThreadId Operation Operation.Answer World) : Prop where
  run : Machine.run (telemetrySystem setting).step (programStart setting records) actions = some c
  holds : (discipline setting).Holds Finished c
  worker : WorkerKnown c.world (pastOf setting records actions .worker)
  alone : ∀ t, t ≠ .window → (collectorAlone setting).Holds (AtRest setting) t
    ((telemetrySystem setting).history (programStart setting records) actions) c

lemma watched_start : Watched setting records [] (programStart setting records) := by
  refine ⟨rfl, @holds_of_run setting records [] _ rfl, ⟨fun _ => rfl, fun _ => rfl, fun _ => rfl⟩,
    fun t ht => ?_⟩
  have hreports : Reports setting [] := ⟨List.Sublist.slnil, fun _ => List.prefix_rfl⟩
  have hrest : AtRest setting [] := ⟨.initial, List.Sublist.slnil, fun _ => rfl, rfl, rfl⟩
  cases t with
  | window => exact absurd rfl ht
  | worker => exact Solo.holds_start collectorTriple_telemetryWorker hreports hrest
  | consumer => exact Solo.holds_start collectorTriple_etwConsumerThread hreports hrest

lemma Watched.step {action : ThreadId × Choice} (h : Watched setting records actions c)
    (hstep : (telemetrySystem setting).step c action = some c') :
    Watched setting records (actions ++ [action]) c' := by
  have hhistory := history_snoc h.run action
  refine ⟨Machine.run_snoc_eq_some.mpr ⟨c, h.run, hstep⟩, h.holds.step hstep, ?_, fun t ht => ?_⟩
  · rw [pastOf, hhistory, own_append]
    cases Threads.stepped hstep with
    | @performed u op next choice ans w hprog hexec =>
      have hworker := h.worker.step h.holds.inv (h.holds.perform hprog 0).1 hexec
      rw [performed_eq hprog hexec, Option.toList_some]
      rcases eq_or_ne u .worker with rfl | hu
      · simpa [pastOf] using hworker
      · simpa [pastOf, hu, own_of_ne hu] using hworker
    | turned hprog =>
      rw [performed_loop hprog, Option.toList_none, own_nil, List.append_nil]
      exact h.worker
  · rw [hhistory]
    refine Solo.holds_step (h.alone t ht) hstep fun deed hdeed => ?_
    cases Threads.stepped hstep with
    | performed hprog hexec =>
      obtain ⟨rfl, rfl⟩ :=
        Prod.mk.inj (Option.some.inj ((performed_eq hprog hexec).symm.trans hdeed))
      exact possible_of_execute h.holds.inv (h.holds.perform hprog 0).1 ht (fun ht => ht ▸ h.worker)
        hexec
    | turned hprog => simp [performed_loop hprog] at hdeed

lemma watched_of_run
    (hrun : Machine.run (telemetrySystem setting).step (programStart setting records) actions =
      some c) :
    Watched setting records actions c :=
  Machine.run_trace_invariant (I := fun pre c => Watched setting records pre c) hrun watched_start
    fun _ _ _ _ h _ hstep => h.step hstep

/-- The thread is not in the middle of reporting: it waits for the next poll or record, or it has
ended. -/
def waiting (c : Config ThreadId Operation Operation.Answer World) (t : ThreadId) : Bool :=
  match c.threads t with
  | .perform .stopSignaled _ => true
  | .perform .processTrace _ => true
  | .ret _ => true
  | _ => false

/-- A thread that waits has pushed everything it has collected, where nothing was lost. -/
lemma pushes_of_waiting {t : ThreadId}
    (hrun : Machine.run (telemetrySystem setting).step (programStart setting records) actions =
      some c)
    (ht : t ≠ .window) (hlost : lost (pastOf setting records actions t) = false)
    (hwaiting : waiting c t = true) :
    pushes (pastOf setting records actions t) =
      (collected setting (findings (pastOf setting records actions t))).reported := by
  have halone := (watched_of_run hrun).alone t ht
  have hrest : AtRest setting (pastOf setting records actions t) := by
    unfold waiting at hwaiting
    split at hwaiting
    · next hnext => exact Solo.fits_of_holds halone hnext
    · next hnext => exact Solo.fits_of_holds halone hnext
    · next hend => exact Solo.ended_of_holds halone hend
    · cases hwaiting
  obtain ⟨kept, hreporting⟩ := hrest
  simpa using hreporting.whole hlost

/-- **What the collecting threads report.**  In every run, a collecting thread has put into the
queue, in order, events of what its polls or records make it report; all of them up to some point,
where nothing was lost; and all of them up to now, where besides it is waiting. -/
theorem pushes_reported {t : ThreadId}
    (hrun : Machine.run (telemetrySystem setting).step (programStart setting records) actions =
      some c)
    (ht : t ≠ .window) :
    let past := pastOf setting records actions t
    let reported := (collected setting (findings past)).reported
    (pushes past).Sublist reported ∧
      (lost past = false →
        pushes past <+: reported ∧ (waiting c t = true → pushes past = reported)) := by
  intro past reported
  have hreports : Reports setting past := ((watched_of_run hrun).alone t ht).inv
  exact ⟨hreports.sublist, fun hno => ⟨hreports.isPrefix hno, pushes_of_waiting hrun ht hno⟩⟩

/-- The poll of a machine on which one process runs. -/
def oneRunning : Choice :=
  { Choice.plain with processes := samplePoll [sampleRow 8 (some 5)] }

/-- The worker polls once, and waits. -/
def polledOnce : List (ThreadId × Choice) :=
  List.replicate 27 (.window, .plain) ++ List.replicate 5 (.worker, .plain) ++
    [(.worker, oneRunning), (.worker, .plain), (.worker, { Choice.plain with node := some 0 })] ++
    List.replicate 10 (.worker, .plain)

/-- There the START of the process has been pushed. -/
theorem pushes_reported_polledOnce :
    pushes (pastOf .sample 0 polledOnce .worker) =
      (collected .sample (findings (pastOf .sample 0 polledOnce .worker))).reported := by
  have hsome : (Machine.run (telemetrySystem .sample).step (programStart .sample 0) polledOnce).map
      (fun c => waiting c .worker) = some true := by
    decide +kernel
  obtain ⟨c, hrun, hwaiting⟩ := Option.map_eq_some_iff.mp hsome
  exact ((pushes_reported hrun (by decide)).2 (by decide +kernel)).2 hwaiting

end Run

end TraceGlass
