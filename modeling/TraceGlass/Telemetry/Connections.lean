import TraceGlass.Network.Edges
import TraceGlass.Telemetry.Tracking

/-!
# The connections in the history

The worker alone reports connections, and the history takes every one of them: no alert is one, and
no report of a process.  So in a run of the program in which nothing was refused, once the queue is
drained while the worker waits, the connections in the history are the rising edges of the tables
the worker has read, in the order in which it has read them, whatever the ETW session has delivered
in between.
-/

namespace TraceGlass

open Threads Prog SortedArray

variable {setting : Setting} {records : ℕ} {actions : List (ThreadId × Choice)}
  {c : Config ThreadId Operation Operation.Answer World}

/-- What the polls of the connections have read. -/
def connectionInputs (found : List Finding) : List TcpPollInput :=
  found.filterMap fun
    | .connections input => some input
    | _ => none

/-- An event of a connection. -/
def isConnection (event : TraceGlassEvent) : Bool := event.type == .network

/-- The event without its number in the history. -/
def unnumbered (event : TraceGlassEvent) : TraceGlassEvent := { event with sequence := 0 }

/-! ## What is reported -/

lemma isConnection_eq_false {event : TraceGlassEvent}
    (h : event.type = .processStart ∨ event.type = .processStop) : isConnection event = false := by
  rcases h with h | h <;> simp [isConnection, h]

/-- A poll of the processes reports STARTs and STOPs only. -/
lemma type_of_mem_processMonitorPoll {w : Win32} {qsort : QSort snapshotLe}
    {monitor : ProcessMonitor} {input : PollInput} {event : TraceGlassEvent}
    (h : event ∈ (processMonitorPoll w qsort monitor input).pushed) :
    event.type = .processStart ∨ event.type = .processStop := by
  unfold processMonitorPoll at h
  split at h
  · cases h
  · rcases List.mem_append.mp h with h | h
    · obtain ⟨i, hi, rfl⟩ := List.mem_mapIdx.mp h
      exact .inl (entryEvent_type ..)
    · unfold pollStops at h
      split at h
      · obtain ⟨i, hi, rfl⟩ := List.mem_mapIdx.mp h
        exact .inr (entryEvent_type ..)
      · cases h

/-- And so does the callback. -/
lemma type_of_etwEventCallback {w : Win32} {running : Bool} {env : CallbackEnv}
    {record : EventRecord} {event : TraceGlassEvent}
    (h : etwEventCallback w running env record = some event) :
    event.type = .processStart ∨ event.type = .processStop := by
  unfold etwEventCallback at h
  split_ifs at h
  · obtain rfl := Option.some.inj h
    exact .inl (etwParentFields_type ..)
  · obtain rfl := Option.some.inj h
    exact .inr (etwParentFields_type ..)

/-- The connections reported are those of the run of the polls. -/
lemma collected_connections (found : List Finding) :
    (collected setting found).monitors.network = (tcpPollRun setting.connectionSort
        setting.connectionSearch (connectionInputs found)).1 ∧
      (collected setting found).reported.filter isConnection = (tcpPollRun setting.connectionSort
        setting.connectionSearch (connectionInputs found)).2 := by
  induction found using List.reverseRecOn with
  | nil => exact ⟨rfl, rfl⟩
  | append_singleton found finding ih =>
    obtain ⟨hmonitor, hreported⟩ := ih
    have hinputs : connectionInputs (found ++ [finding]) =
        connectionInputs found ++ connectionInputs [finding] := List.filterMap_append
    rw [collected_snoc, hinputs]
    cases finding with
    | processes input =>
      have hnone : connectionInputs [.processes input] = [] := rfl
      have hpoll : (processMonitorPoll setting.win32 setting.processSort
          (collected setting found).monitors.processes input).pushed.filter isConnection = [] :=
        List.filter_eq_nil_iff.mpr fun event hmem => by
          simp [isConnection_eq_false (type_of_mem_processMonitorPoll hmem)]
      simp only [hnone, List.append_nil, collect, List.filter_append, hpoll, hmonitor, hreported,
        and_self]
    | connections input =>
      have hrun : tcpPollRun setting.connectionSort setting.connectionSearch
          (connectionInputs found ++ connectionInputs [.connections input]) =
          tcpPollStep setting.connectionSort setting.connectionSearch
            (tcpPollRun setting.connectionSort setting.connectionSearch (connectionInputs found))
            input :=
        tcpPollRun_snoc ..
      have hpoll : (networkMonitorPoll setting.connectionSort setting.connectionSearch
          (collected setting found).monitors.network input).pushed.filter isConnection =
          (networkMonitorPoll setting.connectionSort setting.connectionSearch
            (collected setting found).monitors.network input).pushed :=
        List.filter_eq_self.mpr fun event hmem => by
          simp [isConnection, type_of_mem_networkMonitorPoll hmem]
      rw [hrun, tcpPollStep, ← hmonitor, ← hreported]
      simp only [collect, List.filter_append, hpoll, and_self]
    | record env record =>
      have hnone : connectionInputs [.record env record] = [] := rfl
      have hcallback : (etwEventCallback setting.win32 true env record).toList.filter isConnection =
          [] := by
        refine List.filter_eq_nil_iff.mpr fun event hmem => ?_
        simp [isConnection_eq_false (type_of_etwEventCallback (Option.mem_toList.mp hmem))]
      simp only [hnone, List.append_nil, collect, List.filter_append, hcallback, hmonitor,
        hreported, and_self]

/-- The consumer pushes no connection. -/
lemma connections_of_consumer
    (hrun : Machine.run (telemetrySystem setting).step (programStart setting records) actions =
      some c) :
    (pushes (pastOf setting records actions .consumer)).filter isConnection = [] := by
  have hnone : connectionInputs (findings (pastOf setting records actions .consumer)) = [] := by
    refine List.filterMap_eq_nil_iff.mpr fun finding hmem => ?_
    have hthread := thread_of_mem_findings (t := .consumer) hrun hmem
    cases finding with
    | connections input => cases hthread
    | _ => rfl
  have hsublist :=
    ((watched_of_run hrun).alone .consumer (by decide)).inv.sublist.filter isConnection
  rw [← pastOf, (collected_connections _).2, hnone] at hsublist
  exact List.sublist_nil.mp hsublist

/-! ## What is recorded -/

lemma unnumbered_edgeEvents (answers : ℕ → ConnectionEnv) (count : ℕ) (rows : List TcpRow) :
    (edgeEvents answers count rows).map unnumbered = edgeEvents answers count rows := by
  induction rows generalizing count with
  | nil => rfl
  | cons row rows ih =>
    rw [edgeEvents_cons, List.map_cons, ih]
    rfl

/-- The events come without a number. -/
lemma unnumbered_edgesOf (keys : List NetworkConnectionKey) (inputs : List TcpPollInput) :
    (edgesOf keys inputs).map unnumbered = edgesOf keys inputs := by
  induction inputs generalizing keys with
  | nil => rfl
  | cons input inputs ih =>
    rw [edgesOf]
    split
    · rw [List.map_append, unnumbered_edgeEvents, ih]
    · exact ih keys

lemma unnumbered_recorded (sequence : ULONGLONG) (events : List TraceGlassEvent) :
    ((recorded sequence events).filter isConnection).map unnumbered =
      (events.filter isConnection).map unnumbered := by
  induction events generalizing sequence with
  | nil => rfl
  | cons event events ih =>
    have hsame : isConnection { event with sequence := sequence } = isConnection event := rfl
    rw [recorded, List.filter_cons, List.filter_cons, hsame]
    split
    · rw [List.map_cons, List.map_cons, ih]
      rfl
    · exact ih _

/-- No alert is an event of a connection. -/
lemma connections_withAlerts (w : Win32) (events : List TraceGlassEvent) :
    (events.flatMap (withAlerts w)).filter isConnection = events.filter isConnection := by
  induction events with
  | nil => rfl
  | cons event events ih =>
    have halerts : (detectionEvaluate w event maxAlertsPerEvent).filter isConnection = [] :=
      List.filter_eq_nil_iff.mpr fun alert hmem => by
        simp [isConnection, type_of_mem_detectionEvaluate hmem]
    rw [List.flatMap_cons, withAlerts, List.cons_append, List.filter_cons, List.filter_cons,
      List.filter_append, halerts, List.nil_append, ih]

/-- And no event of a connection is refused. -/
lemma connections_accepted {w : Win32} {store : EventStore} {events : List TraceGlassEvent}
    (h : SessionSucceeds w store events) :
    (acceptedEvents w store events).filter isConnection = events.filter isConnection := by
  induction events generalizing store with
  | nil => rfl
  | cons event events ih =>
    rw [acceptedEvents]
    split
    · rw [List.filter_cons, List.filter_cons, ih h.2]
    · next hrefused =>
      have hother : isConnection event = false := by
        refine Bool.eq_false_iff.mpr fun hconnection => hrefused ?_
        have hnetwork : event.type = .network := by simpa [isConnection] using hconnection
        exact accepted_of_reportOf_none h.1.1 (by simp [reportOf, hnetwork])
      rw [ih h.2, List.filter_cons_of_neg (by simp [hother])]

/-- **The connections in the history.**  In every run of the program where no memory was refused,
once the queue is drained while the worker waits, the events of connections in the history are, but
for their numbers, those of the rising edges from each table of connections the worker has read to
the next, in this order. -/
theorem connections_of_run
    (hrun : Machine.run (telemetrySystem setting).step (programStart setting records) actions =
      some c)
    (hprovided : Provided setting records actions) (hsettled : Settled c) :
    (c.world.gui.store.events.filter isConnection).map unnumbered =
      edgesOf [] (connectionInputs (findings (pastOf setting records actions .worker))) := by
  have hworker : (pushes (pastOf setting records actions .worker)).filter isConnection =
      edgesOf [] (connectionInputs (findings (pastOf setting records actions .worker))) := by
    rw [pushes_of_waiting hrun (by decide) hprovided.nodes hsettled.waiting,
      (collected_connections _).2, tcpPollRun_edges]
  have hpushed : (pushOrder (appActions setting (programStart setting records) actions)).filter
      isConnection =
        edgesOf [] (connectionInputs (findings (pastOf setting records actions .worker))) := by
    have hinter := (interleaves_pushOrder hrun).filter isConnection
    rw [connections_of_consumer hrun] at hinter
    rw [hinter.eq_of_nil, hworker]
  have hevents := session_events hprovided.arrays
  have hempty : eventStoreInitialize.events = [] := rfl
  rw [store_of_run hrun hprovided hsettled, hevents, hempty, List.nil_append, unnumbered_recorded,
    connections_withAlerts, connections_accepted hprovided.arrays, hpushed, unnumbered_edgesOf]

/-- The worker polls twice and finds the same connection, and the window's thread drains what it has
pushed. -/
def connectedAndDrained : List (ThreadId × Choice) :=
  let row : TcpRow := ⟨mibTcpStateEstab, 16777343, 47873, 16777343, 20480, 8⟩
  List.replicate 27 (.window, .plain) ++
    List.replicate 29
      (.worker, { Choice.plain with connections := .reading [row], node := some 0 }) ++
    [(.window, { Choice.plain with message := .eventsReady })] ++
    List.replicate 13 (.window, .plain)

/-- It is in the history once. -/
theorem connections_of_run_connectedAndDrained : ∃ c,
    Machine.run (telemetrySystem .sample).step (programStart .sample 0) connectedAndDrained =
      some c ∧
      ((c.world.gui.store.events.filter isConnection).map unnumbered).map
        (fun event => event.localPort) = [443] := by
  have hsome : (Machine.run (telemetrySystem .sample).step (programStart .sample 0)
      connectedAndDrained).map (fun c => (c.world.queue.initialized, c.world.queue.head.isNone,
        c.world.hand.isNone, waiting c .worker)) = some (true, true, true, true) := by
    decide +kernel
  obtain ⟨c, hrun, hend⟩ := Option.map_eq_some_iff.mp hsome
  simp only [Prod.mk.injEq, Option.isNone_iff_eq_none] at hend
  obtain ⟨hinit, hhead, hhand, hwaiting⟩ := hend
  have hprovided : Provided .sample 0 connectedAndDrained := by
    refine ⟨by decide +kernel, fun action haction turn => ?_, by decide +kernel⟩
    simp only [connectedAndDrained, List.mem_append, List.mem_replicate, List.mem_cons,
      List.not_mem_nil, or_false] at haction
    rcases haction with ((⟨-, rfl⟩ | ⟨-, rfl⟩) | rfl) | ⟨-, rfl⟩ <;> rfl
  refine ⟨c, hrun, ?_⟩
  rw [connections_of_run hrun hprovided ⟨hinit, hhead, hhand, hwaiting⟩]
  decide +kernel

end TraceGlass
