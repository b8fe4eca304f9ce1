import TraceGlass.App.History
import TraceGlass.Etw.Delivery
import TraceGlass.Telemetry.Refinement
import TraceGlass.Telemetry.Reports

/-!
# What the session shows of the system

The threads, the queue and the store together: in a run of the program in which nothing is refused,
once the queue is drained while the worker waits, the active records are decided by what the system
has answered and what the ETW session has delivered.  The worker's part is the run of its polls
(`collected`), the two threads' parts interleave in the queue (`pushOrder_of_run`), and the table of
the store does not mind how.
-/

namespace TraceGlass

open Threads Threads.Discipline Prog SortedArray

variable {setting : Setting} {records : ℕ} {actions : List (ThreadId × Choice)}
  {c : Config ThreadId Operation Operation.Answer World}

/-! ## What is in the queue, by thread -/

/-- Whatever a thread has performed was allowed. -/
lemma allowed_of_mem_history
    (hrun : Machine.run (telemetrySystem setting).step (programStart setting records) actions =
      some c)
    {entry : ThreadId × Deed Operation Operation.Answer}
    (hmem : entry ∈ (telemetrySystem setting).history (programStart setting records) actions) :
    ∃ w, Allowed entry.1 entry.2.1 w := by
  induction actions using List.reverseRecOn generalizing c with
  | nil => cases hmem
  | append_singleton actions action ih =>
    obtain ⟨before, hbefore, hstep⟩ := Machine.run_snoc_eq_some.mp hrun
    rw [history_snoc hbefore, List.mem_append] at hmem
    rcases hmem with hmem | hmem
    · exact ih hbefore hmem
    · cases Threads.stepped hstep with
      | performed hprog hexec =>
        rw [performed_eq hprog hexec, Option.toList_some, List.mem_singleton] at hmem
        subst hmem
        exact ⟨before.world, ((holds_of_run hbefore).perform hprog 0).1⟩
      | turned hprog =>
        rw [performed_loop hprog] at hmem
        cases hmem

/-- The events pushed into the queue are those the threads have linked. -/
lemma pushOrder_of_run
    (hrun : Machine.run (telemetrySystem setting).step (programStart setting records) actions =
      some c) :
    pushOrder (appActions setting (programStart setting records) actions) =
      pushes (((telemetrySystem setting).history (programStart setting records) actions).map
        Prod.snd) := by
  induction actions using List.reverseRecOn generalizing c with
  | nil => rfl
  | append_singleton actions action ih =>
    obtain ⟨before, hbefore, hstep⟩ := Machine.run_snoc_eq_some.mp hrun
    have hlast : pushOrder (appAction before action).toList =
        pushes (((telemetrySystem setting).performed before action).toList.map Prod.snd) := by
      cases Threads.stepped hstep with
      | @performed t op next choice ans w hprog hexec =>
        have hallowed := ((holds_of_run hbefore).perform hprog 0).1
        rw [performed_eq hprog hexec]
        simp only [appAction, hprog]
        cases op with
        | link node event =>
          obtain ⟨-, -, -, -, -, hinit⟩ := hallowed
          rw [if_pos hinit]
          rfl
        | getMessage queueReady =>
          split
          · simp only [Operation.appAction]
            cases choice.message <;> rfl
          · rfl
        | _ => split <;> rfl
      | turned hprog =>
        rw [performed_loop hprog]
        simp only [appAction, hprog, ite_self]
        rfl
    rw [appActions_snoc hbefore, history_snoc hbefore, List.map_append, pushes,
      List.filterMap_append, ← pushes, ← pushes, ← ih hbefore, ← hlast]
    exact List.filterMap_append

/-- The events in a history are an interleaving of those of the two threads that push. -/
lemma interleaves_pushes {history : List (ThreadId × Deed Operation Operation.Answer)}
    (hhistory : ∀ entry ∈ history, ∃ w, Allowed entry.1 entry.2.1 w) :
    ListLib.Interleaves (pushes (own .worker history)) (pushes (own .consumer history))
      (pushes (history.map Prod.snd)) := by
  induction history with
  | nil => exact .nil
  | cons entry history ih =>
    obtain ⟨t, op, ans⟩ := entry
    have hrest := ih fun entry hmem => hhistory entry (List.mem_cons_of_mem _ hmem)
    obtain ⟨w, hallowed⟩ := hhistory (t, ⟨op, ans⟩) (by simp)
    cases op with
    | link node event =>
      cases t with
      | window => exact absurd rfl hallowed.2.1
      | worker => exact .left hrest
      | consumer => exact .right hrest
    | _ => cases t <;> exact hrest

/-- **The queue takes the events of the worker and of the consumer**, each thread's in its order. -/
lemma interleaves_pushOrder
    (hrun : Machine.run (telemetrySystem setting).step (programStart setting records) actions =
      some c) :
    ListLib.Interleaves (pushes (pastOf setting records actions .worker))
      (pushes (pastOf setting records actions .consumer))
      (pushOrder (appActions setting (programStart setting records) actions)) := by
  rw [pushOrder_of_run hrun]
  exact interleaves_pushes fun _ hmem => allowed_of_mem_history hrun hmem

/-! ## What the worker has found -/

/-- What the polls of the processes have read. -/
def processInputs (found : List Finding) : List PollInput :=
  found.filterMap fun
    | .processes input => some input
    | _ => none

/-- A poll of the connections reports no process. -/
lemma type_of_mem_networkMonitorPoll {qsort : CompareSort NetworkConnectionKey}
    {bsearch : CompareSearch NetworkConnectionKey} {monitor : NetworkMonitor} {input : TcpPollInput}
    {event : TraceGlassEvent}
    (h : event ∈ (networkMonitorPoll qsort bsearch monitor input).pushed) :
    event.type = .network :=
  forall_networkMonitorPoll (P := fun e => e.type = .network) (fun _ _ => rfl) event h

lemma reportsOf_networkMonitorPoll (qsort : CompareSort NetworkConnectionKey)
    (bsearch : CompareSearch NetworkConnectionKey) (monitor : NetworkMonitor)
    (input : TcpPollInput) :
    reportsOf (networkMonitorPoll qsort bsearch monitor input).pushed = [] :=
  List.filterMap_eq_nil_iff.mpr fun event hevent => by
    simp [reportOf, type_of_mem_networkMonitorPoll hevent]

/-- What the worker finds of the processes is the run of its polls. -/
lemma collected_processes {found : List Finding}
    (hfound : ∀ env record, Finding.record env record ∉ found) :
    (collected setting found).monitors.processes =
        (pollRun setting.win32 setting.processSort (processInputs found)).1 ∧
      reportsOf (collected setting found).reported =
        reportsOf (pollRun setting.win32 setting.processSort (processInputs found)).2 := by
  induction found using List.reverseRecOn with
  | nil => exact ⟨rfl, rfl⟩
  | append_singleton found finding ih =>
    obtain ⟨hmonitor, hreports⟩ := ih fun env record hmem =>
      hfound env record (List.mem_append_left _ hmem)
    have hinputs :
        processInputs (found ++ [finding]) = processInputs found ++ processInputs [finding] :=
      List.filterMap_append
    rw [collected_snoc, hinputs]
    cases finding with
    | processes input =>
      have hrun : pollRun setting.win32 setting.processSort
          (processInputs found ++ processInputs [.processes input]) =
          pollStep setting.win32 setting.processSort
            (pollRun setting.win32 setting.processSort (processInputs found)) input :=
        pollRun_snoc ..
      simp only [hrun, collect, pollStep, hmonitor, reportsOf_append, hreports, and_self]
    | connections input =>
      have hnone : processInputs [.connections input] = [] := rfl
      simp only [hnone, List.append_nil, collect, reportsOf_append, reportsOf_networkMonitorPoll,
        hmonitor, hreports, and_self]
    | record env record => exact absurd (by simp) (hfound env record)

/-- The connections are the worker's to find, and the records the consumer's. -/
lemma thread_of_mem_findings {t : ThreadId}
    (hrun : Machine.run (telemetrySystem setting).step (programStart setting records) actions =
      some c)
    {finding : Finding} (hmem : finding ∈ findings (pastOf setting records actions t)) :
    t = match finding with
      | .record _ _ => .consumer
      | _ => .worker := by
  obtain ⟨⟨op, ans⟩, hpast, hfinding⟩ := List.mem_filterMap.mp hmem
  obtain ⟨⟨u, deed⟩, hhistory, hown⟩ := List.mem_filterMap.mp hpast
  split at hown
  · next hu =>
    obtain rfl := Option.some.inj hown
    obtain ⟨w, hallowed⟩ := allowed_of_mem_history hrun hhistory
    subst hu
    cases op with
    | queryProcesses =>
      obtain rfl := Option.some.inj hfinding
      exact hallowed.2
    | queryConnections =>
      obtain rfl := Option.some.inj hfinding
      exact hallowed.2
    | processTrace =>
      cases ans with
      | inl => cases hfinding
      | inr =>
        obtain rfl := Option.some.inj hfinding
        exact hallowed.2.elim (·.1) (·.1)
    | _ => cases hfinding
  · cases hown

/-! ## The session -/

/-- The `realloc`s of the store succeed in the application where they do in the program. -/
lemma storeAllocates_of_mem {start : Config ThreadId Operation Operation.Answer World}
    (halloc : ∀ action ∈ actions, ∀ turn, action.2.drain.alloc turn = .succeed) :
    ∀ action ∈ appActions setting start actions, action.StoreAllocates := by
  induction actions generalizing start with
  | nil => exact nofun
  | cons first actions ih =>
    intro action haction
    simp only [appActions, List.mem_append] at haction
    rcases haction with haction | haction
    · have hfirst := halloc first (by simp)
      simp only [appAction] at haction
      repeat' split at haction
      · next op next hprog =>
        cases op with
        | unlink =>
          obtain rfl := List.mem_singleton.mp haction
          exact hfirst
        | getMessage =>
          simp only [Operation.appAction] at haction
          split at haction
          all_goals first
            | (obtain rfl := List.mem_singleton.mp haction
               trivial)
            | cases haction
        | _ =>
          first
          | (obtain rfl := List.mem_singleton.mp haction
             trivial)
          | cases haction
      all_goals cases haction
    · split at haction
      · cases haction
      · exact ih (fun action hmem => halloc action (List.mem_cons_of_mem _ hmem)) action haction

/-- No memory was refused on the way of an event into the store. -/
structure Provided (setting : Setting) (records : ℕ) (actions : List (ThreadId × Choice)) :
    Prop where
  nodes : lost (pastOf setting records actions .worker) = false
  blocks : ∀ action ∈ actions, ∀ turn, action.2.drain.alloc turn = .succeed
  arrays : SessionSucceeds setting.win32 eventStoreInitialize
    (pushOrder (appActions setting (programStart setting records) actions))

/-- The queue is drained, and the worker waits. -/
structure Settled (c : Config ThreadId Operation Operation.Answer World) : Prop where
  initialized : c.world.queue.initialized = true
  drained : c.world.queue.head = none
  hand : c.world.hand = none
  waiting : waiting c .worker = true

/-- The store of a settled run is the session of what was pushed. -/
lemma store_of_run
    (hrun : Machine.run (telemetrySystem setting).step (programStart setting records) actions =
      some c)
    (hprovided : Provided setting records actions) (hsettled : Settled c) :
    c.world.gui.store = session setting.win32 eventStoreInitialize
      (pushOrder (appActions setting (programStart setting records) actions)) := by
  obtain ⟨window, happ⟩ := (follows_of_run hrun).since hsettled.initialized
  have hstore := session_run (storeAllocates_of_mem hprovided.blocks) happ
    (eventQueueInitialize_holds _ _) hsettled.drained
  rw [List.nil_append] at hstore
  rw [← show (App.created window 2).gui.store = eventStoreInitialize from rfl, ← hstore]
  simp only [World.app, hsettled.hand]

/-- The active records are the keys that have started and have not stopped, wherever that was
reported. -/
lemma active_iff_of_run
    (hrun : Machine.run (telemetrySystem setting).step (programStart setting records) actions =
      some c)
    (hprovided : Provided setting records actions) (hsettled : Settled c)
    (hknown :
      ∀ r ∈ reportsOf (pushOrder (appActions setting (programStart setting records) actions)),
        r.Known)
    (key : ProcessKey) :
    (∃ record ∈ c.world.gui.store.processes, record.active = true ∧ record.key = key) ↔
      ⟨.start, key⟩ ∈
          reportsOf (pushOrder (appActions setting (programStart setting records) actions)) ∧
        ⟨.stop, key⟩ ∉
          reportsOf (pushOrder (appActions setting (programStart setting records) actions)) := by
  have htable := table_session hprovided.arrays
  rw [← store_of_run hrun hprovided hsettled] at htable
  have hsum := Table.summarizes_nil.applyAll hknown
  rw [List.nil_append] at hsum
  have hsum : c.world.gui.store.table.Summarizes _ := htable ▸ hsum
  rw [show (∃ record ∈ c.world.gui.store.processes, record.active = true ∧ record.key = key) ↔
      ∃ s ∈ c.world.gui.store.table, s.active = true ∧ s.key = key from
    EventStore.exists_processes (p := fun s => s.active = true ∧ s.key = key)]
  constructor
  · rintro ⟨s, hs, hactive, rfl⟩
    exact (hsum.active_iff s hs).mp hactive
  · rintro ⟨hstart, hstop⟩
    obtain ⟨s, hs, rfl⟩ := (hsum.key_iff key).mpr ⟨_, hstart, rfl⟩
    exact ⟨s, hs, (hsum.active_iff s hs).mpr ⟨hstart, hstop⟩, rfl⟩

/-- The snapshots the worker's polls have captured. -/
def snapshotsOf (setting : Setting) (records : ℕ) (actions : List (ThreadId × Choice)) :
    List (List ProcessKey) :=
  captures setting.processSort (processInputs (findings (pastOf setting records actions .worker)))

/-- What the ETW session has reported of the processes. -/
def etwReports (setting : Setting) (records : ℕ) (actions : List (ThreadId × Choice)) :
    List Report :=
  reportsOf (pushes (pastOf setting records actions .consumer))

namespace Lists

variable {snapshots : List (List ProcessKey)} {reports : List Report}

lemma seen_of_mem_last {key : ProcessKey} (h : key ∈ snapshots.getLast?.getD []) :
    ∃ s ∈ snapshots, key ∈ s := by
  cases hlast : snapshots.getLast? with
  | none => simp [hlast] at h
  | some last => exact ⟨last, List.mem_of_getLast? hlast, by simpa [hlast] using h⟩

/-- A key has a START once it has been listed, and a STOP once it is listed no longer. -/
lemma mem_iff (h : Lists snapshots reports) (key : ProcessKey) :
    (⟨.start, key⟩ ∈ reports ↔ ∃ s ∈ snapshots, key ∈ s) ∧
      (⟨.stop, key⟩ ∈ reports ↔
        (∃ s ∈ snapshots, key ∈ s) ∧ key ∉ snapshots.getLast?.getD []) := by
  have hmem : ∀ kind, ⟨kind, key⟩ ∈ reports ↔
      ⟨kind, key⟩ ∈ reports.filter fun r => r.key == key := by simp
  rw [hmem, hmem]
  by_cases hlast : key ∈ snapshots.getLast?.getD []
  · simp [h.listed key hlast, seen_of_mem_last hlast, hlast]
  · by_cases hseen : ∃ s ∈ snapshots, key ∈ s
    · simp [h.gone key hlast hseen, hseen, hlast]
    · have hnever : ∀ s ∈ snapshots, key ∉ s := fun s hs hin => hseen ⟨s, hs, hin⟩
      simp [h.unseen key hnever, hseen]

end Lists

/-- What is listed has been seen, and what has been seen and is not listed has stopped. -/
lemma started_iff {listed seen started stopped : Prop} (h : listed → seen) :
    (seen ∨ started) ∧ ¬(seen ∧ ¬listed ∨ stopped) ↔ (listed ∨ ¬seen ∧ started) ∧ ¬stopped := by
  tauto

/-- **What the session shows of the system.**  In every run of the program where no memory was
refused, once the queue is drained while the worker waits, where the polls have captured snapshots
that name their processes in full and to which no process comes back, and where the reports of the
ETW session name theirs in full: a process is shown as running if and only if the last snapshot
lists it, or none does and the session has reported its start, and in either case the session has
not reported its stop. -/
theorem active_iff
    (hrun : Machine.run (telemetrySystem setting).step (programStart setting records) actions =
      some c)
    (hprovided : Provided setting records actions) (hsettled : Settled c)
    (hid : ∀ s ∈ snapshotsOf setting records actions, Identified s)
    (hcont : ListLib.Contiguous (snapshotsOf setting records actions))
    (hknown : ∀ r ∈ etwReports setting records actions, r.Known) (key : ProcessKey) :
    (∃ record ∈ c.world.gui.store.processes, record.active = true ∧ record.key = key) ↔
      (key ∈ (snapshotsOf setting records actions).getLast?.getD [] ∨
          (∀ s ∈ snapshotsOf setting records actions, key ∉ s) ∧
            ⟨.start, key⟩ ∈ etwReports setting records actions) ∧
        ⟨.stop, key⟩ ∉ etwReports setting records actions := by
  have hworker : reportsOf (pushes (pastOf setting records actions .worker)) =
      reportsOf (pollRun setting.win32 setting.processSort
        (processInputs (findings (pastOf setting records actions .worker)))).2 := by
    rw [pushes_of_waiting hrun (by decide) hprovided.nodes hsettled.waiting]
    refine (collected_processes fun env record hmem => ?_).2
    exact absurd (thread_of_mem_findings (t := .worker) hrun hmem) (by simp)
  have hlists := lists_pollRun (w := setting.win32) hid hcont
  rw [← hworker] at hlists
  have hmem : ∀ r, r ∈ reportsOf (pushOrder (appActions setting (programStart setting records)
      actions)) ↔ r ∈ reportsOf (pushes (pastOf setting records actions .worker)) ∨
        r ∈ etwReports setting records actions := by
    intro r
    simp only [etwReports, reportsOf, List.mem_filterMap, (interleaves_pushOrder hrun).mem_iff,
      or_and_right, exists_or]
  rw [active_iff_of_run hrun hprovided hsettled (fun r hr => ?_) key, hmem, hmem]
  · obtain ⟨hstart, hstop⟩ := hlists.mem_iff key
    have hnever : (∀ s ∈ snapshotsOf setting records actions, key ∉ s) ↔
        ¬∃ s ∈ snapshotsOf setting records actions, key ∈ s := by simp
    rw [hstart, hstop, hnever]
    exact started_iff Lists.seen_of_mem_last
  · rcases (hmem r).mp hr with hr | hr
    · exact hlists.known r hr
    · exact hknown r hr

/-- The ETW session delivers the kernel's record of a transition of a process that cannot be
opened. -/
def delivering (report : Report) (node : ℕ) : Choice :=
  { Choice.plain with
    node := some node
    trace := .inr (⟨fun _ => none, some [], .zero, []⟩,
      { providerId := kernelProcessProvider
        id := report.kind.eventId
        processId := report.key.pid
        timeStamp := 1
        property := fun name =>
          if name = wide "ProcessID" then some (littleEndianBytes 4 report.key.pid.toNat)
          else if name = wide "CreateTime" then
            some (littleEndianBytes 8 report.key.creationTime.toNat)
          else none }) }

/-- The worker polls once, the consumer reports two starts and a stop, and the window's thread
drains what they have pushed. -/
def reportedAndDrained : List (ThreadId × Choice) :=
  polledOnce ++ [(.consumer, .plain)] ++
    List.replicate 9 (.consumer, delivering ⟨.start, ⟨9, 7⟩⟩ 1) ++
    List.replicate 9 (.consumer, delivering ⟨.start, ⟨10, 6⟩⟩ 2) ++
    List.replicate 9 (.consumer, delivering ⟨.stop, ⟨10, 6⟩⟩ 3) ++
    [(.window, { Choice.plain with message := .eventsReady })] ++
    List.replicate 35 (.window, .plain)

/-- The process that was listed and the one whose start alone was delivered are shown as running,
and the one whose stop was delivered is not. -/
theorem active_iff_reportedAndDrained : ∃ c,
    Machine.run (telemetrySystem .sample).step (programStart .sample 3) reportedAndDrained =
      some c ∧
      ∀ key ∈ [⟨8, 5⟩, ⟨9, 7⟩, (⟨10, 6⟩ : ProcessKey)],
        (∃ record ∈ c.world.gui.store.processes, record.active = true ∧ record.key = key) ↔
          key ≠ ⟨10, 6⟩ := by
  have hsome : (Machine.run (telemetrySystem .sample).step (programStart .sample 3)
      reportedAndDrained).map (fun c => (c.world.queue.initialized, c.world.queue.head.isNone,
        c.world.hand.isNone, waiting c .worker)) = some (true, true, true, true) := by
    decide +kernel
  obtain ⟨c, hrun, hend⟩ := Option.map_eq_some_iff.mp hsome
  simp only [Prod.mk.injEq, Option.isNone_iff_eq_none] at hend
  obtain ⟨hinit, hhead, hhand, hwaiting⟩ := hend
  have hblocks : ∀ action ∈ reportedAndDrained, ∀ turn, action.2.drain.alloc turn = .succeed := by
    have hdrain : ∀ action ∈ reportedAndDrained, action.2.drain = .succeed := by
      simp only [reportedAndDrained, polledOnce, List.forall_mem_append, List.forall_mem_cons]
      simp [delivering, oneRunning, Choice.plain]
    exact fun action haction turn => hdrain action haction ▸ rfl
  have hprovided : Provided .sample 3 reportedAndDrained :=
    ⟨by decide +kernel, hblocks, by decide +kernel⟩
  have hetw : etwReports .sample 3 reportedAndDrained =
      [⟨.start, ⟨9, 7⟩⟩, ⟨.start, ⟨10, 6⟩⟩, ⟨.stop, ⟨10, 6⟩⟩] := by
    decide +kernel
  have hsnapshots : snapshotsOf .sample 3 reportedAndDrained = [[⟨8, 5⟩]] := by
    decide +kernel
  refine ⟨c, hrun, fun key hkey => ?_⟩
  rw [active_iff hrun hprovided ⟨hinit, hhead, hhand, hwaiting⟩ (hsnapshots ▸ by decide)
    (hsnapshots ▸ by decide) (hetw ▸ by decide) key, hetw, hsnapshots]
  revert key
  decide

end TraceGlass
