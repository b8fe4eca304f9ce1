import TraceGlass.Telemetry.Discipline

/-!
# The collecting threads

The worker and the consumer perform permitted operations only, whatever the other threads do
meanwhile, and end.  `Stands` is where a thread is on its way through the event queue; a push comes
back to where it started from, and so does a turn of each thread's loop.
-/

namespace TraceGlass

open Threads Threads.Discipline Prog

/-- What a collecting thread knows of the world: the consumer how many records are left, the worker
whether the network is polled. -/
structure Kept where
  records : ℕ
  available : Bool

variable {setting : Setting} {t : ThreadId} {inside : Bool} {node : Option ℕ}
  {between : Option PushLocals} {k : Kept} {m : ℕ} {available : Bool}

/-- The thread runs, and is or is not inside the critical section of the queue, with this node and
these locals. -/
structure Stands (t : ThreadId) (inside : Bool) (node : Option ℕ) (between : Option PushLocals)
    (k : Kept) (w : World) : Prop where
  active : w.active t = true
  inside : w.holder = some t ↔ inside = true
  node : w.node t = node
  between : w.between t = between
  records : t = .consumer → w.records = k.records
  available : t = .worker → w.resources.networkAvailable = k.available

/-- The thread runs and has nothing to do with the queue. -/
abbrev Outside (t : ThreadId) (k : Kept) (w : World) : Prop := Stands t false none none k w

lemma Stands.not_inside {w : World} (h : Stands t false node between k w) : w.holder ≠ some t :=
  fun hholder => Bool.false_ne_true (h.inside.mp hholder)

lemma stands_stable : (discipline setting).Stable t (Stands t inside node between k) :=
  fun _ _ _ hf h =>
    ⟨World.active_of_frame hf h.active, hf.holder.trans h.inside, hf.node.trans h.node,
      hf.between.trans h.between, fun ht => (hf.records ht).trans (h.records ht),
      fun ht => (hf.available ht (ht ▸ h.active)).trans (h.available ht)⟩

/-- An operation outside the queue. -/
lemma triple_outside {op : Operation} {k' : Kept}
    (hallowed : ∀ w, Sound w → Outside t k w → Allowed t op w)
    (hexec : ∀ w choice ans w', Outside t k w → execute setting t op choice w = some (ans, w') →
      Outside t k' w') :
    (discipline setting).Triple t (Outside t k) (perform op) fun _ => Outside t k' :=
  Triple.call stands_stable hallowed (fun w choice ans w' _ hs _ he => hexec w choice ans w' hs he)
    fun _ => stands_stable

/-- An operation that only reads. -/
lemma triple_read (op : Operation) (hallowed : ∀ w, Sound w → Outside t k w → Allowed t op w)
    (hexec : ∀ w choice ans w', execute setting t op choice w = some (ans, w') → w' = w) :
    (discipline setting).Triple t (Outside t k) (perform op) fun _ => Outside t k :=
  triple_outside hallowed fun w choice ans w' hs he => hexec w choice ans w' he ▸ hs

/-! ## Pushing -/

section Push

lemma triple_leaveQueue :
    (discipline setting).Triple t (Stands t true node between k) (perform .leaveQueue)
      fun _ => Stands t false node between k := by
  refine Triple.call stands_stable (fun w _ hs => ⟨hs.active, hs.inside.mpr rfl⟩)
    (fun w choice ans w' _ hs _ he => ?_) fun _ => stands_stable
  obtain ⟨-, rfl⟩ := Prod.mk.inj (Option.some.inj he)
  exact ⟨hs.active, by simp, hs.node, hs.between, hs.records, hs.available⟩

lemma triple_mallocNode :
    (discipline setting).Triple t (Outside t k) (perform .mallocNode)
      fun node => Stands t false node none k := by
  refine Triple.call stands_stable (fun w _ hs => ⟨hs.active, hs.node⟩)
    (fun w choice ans w' _ hs _ he => ?_) fun _ => stands_stable
  simp only [telemetrySystem, execute] at he
  split at he
  · obtain ⟨rfl, rfl⟩ := Prod.mk.inj (Option.some.inj he)
    exact hs
  · split at he
    · obtain ⟨rfl, rfl⟩ := Prod.mk.inj (Option.some.inj he)
      exact ⟨hs.active, hs.inside, by simp, hs.between, hs.records, hs.available⟩
    · cases he

variable (ht : t ≠ .window)

include ht

lemma triple_notify (locals : PushLocals) :
    (discipline setting).Triple t (Stands t false none (some locals) k) (perform (.notify locals))
      fun _ => Outside t k := by
  refine Triple.call stands_stable (fun w hw hs => ?_) (fun w choice ans w' _ hs _ he => ?_)
    fun _ => stands_stable
  · exact ⟨hs.active, ht, hs.between, hw.notified t locals ht hs.between,
      (hw.collectable t ht hs.active).window⟩
  obtain ⟨-, rfl⟩ := Prod.mk.inj (Option.some.inj he)
  exact ⟨hs.active, hs.inside, hs.node, by simp, hs.records, hs.available⟩

lemma triple_enterQueue :
    (discipline setting).Triple t (Stands t false node between k) (perform .enterQueue)
      fun _ => Stands t true node between k := by
  refine Triple.call stands_stable (fun w hw hs => ?_) (fun w choice ans w' _ hs _ he => ?_)
    fun _ => stands_stable
  · exact ⟨hs.active, hw.lock (hw.collectable t ht hs.active).queue, hs.not_inside⟩
  · simp only [telemetrySystem, execute] at he
    split at he
    · obtain ⟨-, rfl⟩ := Prod.mk.inj (Option.some.inj he)
      exact ⟨hs.active, by simp, hs.node, hs.between, hs.records, hs.available⟩
    · cases he

lemma triple_link (node : ℕ) (event : TraceGlassEvent) :
    (discipline setting).Triple t (Stands t true (some node) none k) (perform (.link node event))
      fun locals => Stands t true none (some locals) k := by
  refine Triple.call stands_stable (fun w hw hs => ?_) (fun w choice ans w' _ hs _ he => ?_)
    fun _ => stands_stable
  · exact ⟨hs.active, ht, hs.inside.mpr rfl, hs.node, hs.between,
      (hw.collectable t ht hs.active).queue⟩
  · obtain ⟨⟨queue, locals⟩, -, heq⟩ := Option.map_eq_some_iff.mp he
    obtain ⟨rfl, rfl⟩ := Prod.mk.inj heq
    exact ⟨hs.active, hs.inside, by simp, by simp, hs.records, hs.available⟩

/-- `push_event` comes back out of the queue. -/
lemma triple_pushEvent (event : TraceGlassEvent) :
    (discipline setting).Triple t (Outside t k) (pushEventProgram event) fun _ => Outside t k := by
  refine (triple_read .queueInitialized (fun _ _ hs => ⟨hs.active, trivial⟩)
    fun _ _ _ _ he => ?_).bind fun initialized => ?_
  · exact (Prod.mk.inj (Option.some.inj he)).2.symm
  · cases initialized with
    | false => exact .ret stands_stable fun _ _ h => h
    | true =>
      refine triple_mallocNode.bind fun node => ?_
      cases node with
      | none => exact .ret stands_stable fun _ _ h => h
      | some node =>
        refine (triple_enterQueue ht).bind fun _ => ?_
        refine (triple_link ht node event).bind fun locals => ?_
        exact triple_leaveQueue.bind fun _ => triple_notify ht locals

lemma triple_pushAll (events : List TraceGlassEvent) :
    (discipline setting).Triple t (Outside t k) (pushAll events) fun _ => Outside t k := by
  induction events with
  | nil => exact .ret stands_stable fun _ _ h => h
  | cons event events ih => exact (triple_pushEvent ht event).bind fun _ => ih

lemma triple_log :
    (discipline setting).Triple t (Outside t k) (perform .log) fun _ => Outside t k :=
  triple_read .log (fun _ hw hs => ⟨hs.active, (hw.collectable t ht hs.active).logger⟩)
    fun _ _ _ _ he => (Prod.mk.inj (Option.some.inj he)).2.symm

end Push

/-! ## A thread's life -/

/-- The thread has not started. -/
structure Unstarted (t : ThreadId) (m : ℕ) (w : World) : Prop where
  ended : w.ended t = false
  outside : w.holder ≠ some t
  node : w.node t = none
  between : w.between t = none
  records : t = .consumer → w.records = m

lemma unstarted_stable : (discipline setting).Stable t (Unstarted t m) :=
  fun _ _ _ hf h =>
    ⟨hf.self.trans h.ended, fun hw' => h.outside (hf.holder.mp hw'), hf.node.trans h.node,
      hf.between.trans h.between, fun ht => (hf.records ht).trans (h.records ht)⟩

lemma triple_started :
    (discipline setting).Triple t (Unstarted t m) (perform .started)
      fun _ w => ∃ available, Outside t ⟨m, available⟩ w := by
  refine Triple.call unstarted_stable (fun w _ hs => hs.outside)
    (fun w choice ans w' _ hs _ he => ?_) fun _ => Stable.exists fun _ => stands_stable
  simp only [telemetrySystem, execute] at he
  split at he
  · next hcreated =>
    obtain ⟨-, rfl⟩ := Prod.mk.inj (Option.some.inj he)
    exact ⟨w.resources.networkAvailable, by simp [World.active, hcreated, hs.ended],
      by simp [hs.outside], hs.node, hs.between, hs.records, fun _ => rfl⟩
  · cases he

/-- The thread has ended. -/
abbrev Ended (t : ThreadId) (w : World) : Prop := w.ended t = true

lemma triple_exitThread :
    (discipline setting).Triple t (Outside t k) (perform .exitThread) fun _ => Ended t := by
  refine Triple.call stands_stable
    (fun w _ hs => ⟨hs.active, hs.not_inside, hs.node, hs.between⟩)
    (fun w choice ans w' _ hs _ he => ?_) fun _ w w' _ hf h => hf.ended t h
  obtain ⟨-, rfl⟩ := Prod.mk.inj (Option.some.inj he)
  simp [Ended]

/-! ## The worker -/

section Worker

/-- A poll's read of what it needs, and its write of the monitor. -/
lemma triple_setProcessMonitor (monitor : ProcessMonitor) :
    (discipline setting).Triple .worker (Outside .worker k) (perform (.setProcessMonitor monitor))
      fun _ => Outside .worker k := by
  refine triple_outside (fun _ _ hs => ⟨hs.active, .inl rfl⟩) fun w choice ans w' hs he => ?_
  obtain ⟨-, rfl⟩ := Prod.mk.inj (Option.some.inj he)
  exact ⟨hs.active, hs.inside, hs.node, hs.between, hs.records, hs.available⟩

lemma triple_setNetworkMonitor (monitor : NetworkMonitor) (havailable : k.available = true) :
    (discipline setting).Triple .worker (Outside .worker k) (perform (.setNetworkMonitor monitor))
      fun _ => Outside .worker k := by
  refine triple_outside
    (fun _ _ hs => ⟨hs.active, .inl ⟨rfl, (hs.available rfl).trans havailable⟩⟩)
    fun w choice ans w' hs he => ?_
  obtain ⟨-, rfl⟩ := Prod.mk.inj (Option.some.inj he)
  exact ⟨hs.active, hs.inside, hs.node, hs.between, hs.records, hs.available⟩

lemma triple_when {P : World → Prop} {p : Program Unit} (condition : Bool)
    (hP : (discipline setting).Stable t P)
    (h : condition = true → (discipline setting).Triple t P p fun _ => P) :
    (discipline setting).Triple t P (when condition p) fun _ => P := by
  cases condition with
  | false => exact .ret hP fun _ _ hs => hs
  | true => exact h rfl

lemma triple_processMonitorPoll :
    (discipline setting).Triple .worker (Outside .worker k) (processMonitorPollProgram setting)
      fun _ => Outside .worker k := by
  refine (triple_read .processMonitor (fun _ _ hs => ⟨hs.active, rfl⟩)
    fun _ _ _ _ he => (Prod.mk.inj (Option.some.inj he)).2.symm).bind fun monitor => ?_
  refine (triple_read .queryProcesses (fun _ _ hs => ⟨hs.active, rfl⟩)
    fun _ _ _ _ he => (Prod.mk.inj (Option.some.inj he)).2.symm).bind fun input => ?_
  refine (triple_when _ stands_stable fun _ => triple_log (by decide)).bind fun _ => ?_
  exact (triple_pushAll (by decide) _).bind fun _ => triple_setProcessMonitor _

lemma triple_networkMonitorPoll (havailable : k.available = true) :
    (discipline setting).Triple .worker (Outside .worker k) (networkMonitorPollProgram setting)
      fun _ => Outside .worker k := by
  refine (triple_read .networkMonitor (fun _ _ hs => ⟨hs.active, rfl⟩)
    fun _ _ _ _ he => (Prod.mk.inj (Option.some.inj he)).2.symm).bind fun monitor => ?_
  refine (triple_read .queryConnections (fun _ _ hs => ⟨hs.active, rfl⟩)
    fun _ _ _ _ he => (Prod.mk.inj (Option.some.inj he)).2.symm).bind fun input => ?_
  refine (triple_when _ stands_stable fun _ => triple_log (by decide)).bind fun _ => ?_
  exact (triple_pushAll (by decide) _).bind fun _ => triple_setNetworkMonitor _ havailable

/-- What the worker reads stays so while it runs. -/
lemma triple_networkAvailable :
    (discipline setting).Triple .worker (Outside .worker k) (perform .networkAvailable)
      fun available w => Outside .worker k w ∧ available = k.available := by
  refine Triple.call stands_stable (fun _ _ hs => ⟨hs.active, trivial⟩)
    (fun w choice ans w' _ hs _ he => ?_) fun _ => stands_stable.and (Stable.pure _)
  obtain ⟨rfl, rfl⟩ := Prod.mk.inj (Option.some.inj he)
  exact ⟨hs, hs.available rfl⟩

/-- A turn of the worker's loop. -/
lemma triple_workerTurn :
    (discipline setting).Triple .worker (Outside .worker k) (workerTurn setting)
      (turned (fun _ => Outside .worker k) fun _ => Outside .worker k) := by
  have hasks : (discipline setting).Triple .worker (Outside .worker k) (perform .stopSignaled)
      fun _ => Outside .worker k :=
    triple_read .stopSignaled (fun _ hw hs => ⟨hs.active, hw.worker hs.active⟩)
      fun _ _ _ _ he => (Prod.mk.inj (Option.some.inj he)).2.symm
  refine hasks.bind fun stopped => ?_
  cases stopped with
  | true => exact .ret stands_stable fun _ _ hs => hs
  | false =>
    refine triple_processMonitorPoll.bind fun _ => ?_
    refine triple_networkAvailable.bind fun available => ?_
    refine Triple.bind (Q := fun _ => Outside .worker k) (fun w hw hs => ?_) fun _ => ?_
    · exact triple_when available stands_stable
        (fun h => triple_networkMonitorPoll (hs.2.symm.trans h)) w hw hs.1
    refine hasks.bind fun stopped => ?_
    cases stopped <;> exact .ret stands_stable fun _ _ hs => hs

/-- Once the worker has been told to stop, its loop takes no further turn. -/
lemma triple_lastTurn :
    (discipline setting).Triple .worker (fun w => Outside .worker k w ∧ w.Closing)
      (workerTurn setting) (turned (fun _ _ => False) fun _ => Outside .worker k) := by
  have hstable : (discipline setting).Stable .worker fun w => Outside .worker k w ∧ w.Closing :=
    stands_stable.and fun _ _ _ hf hc => hf.closing hc
  refine Triple.bind (Q := fun stopped w => Outside .worker k w ∧ stopped = true) ?_
    fun stopped => ?_
  · refine Triple.call hstable (fun _ hw hs => ⟨hs.1.active, hw.worker hs.1.active⟩)
      (fun w choice ans w' _ hs _ he => ?_)
      fun ans => stands_stable.and (Stable.pure _)
    obtain ⟨rfl, rfl⟩ := Prod.mk.inj (Option.some.inj he)
    exact ⟨hs.1, hs.2.1⟩
  · cases stopped with
    | true => exact .ret (stands_stable.and (Stable.pure _)) fun _ _ hs => hs.1
    | false => exact fun w _ hs => absurd hs.2 Bool.false_ne_true

/-- `telemetry_worker` keeps the discipline. -/
lemma triple_telemetryWorker :
    (discipline setting).Triple .worker (Unstarted .worker m) (telemetryWorker setting)
      fun _ => Ended .worker := by
  refine triple_started.bind fun _ => Triple.exists fun available =>
    (triple_log (by decide)).bind fun _ => ?_
  refine Triple.bind (Q := fun _ => Outside .worker ⟨m, available⟩) ?_ fun _ =>
    (triple_log (by decide)).bind fun _ => triple_exitThread
  exact Triple.iterate_of_last (I := fun _ => Outside .worker ⟨m, available⟩)
    (fun _ => stands_stable) (fun _ => stands_stable) (fun _ => triple_workerTurn)
    (fun _ => triple_lastTurn) ()

end Worker

/-! ## The consumer -/

section Consumer

/-- `ProcessTrace` ends, or delivers one of the records that are left.  The trace is there, or has
been closed a moment ago. -/
lemma triple_processTrace :
    (discipline setting).Triple .consumer (Outside .consumer ⟨m, available⟩) (perform .processTrace)
      (Sum.elim (fun _ => Outside .consumer ⟨m, available⟩)
        fun _ w => ∃ m' < m, Outside .consumer ⟨m', available⟩ w) := by
  have hstable : ∀ ans, (discipline setting).Stable .consumer
      (Sum.elim (fun _ => Outside .consumer ⟨m, available⟩)
        (fun _ w => ∃ m' < m, Outside .consumer ⟨m', available⟩ w)
        (ans : DWORD ⊕ (CallbackEnv × EventRecord))) := by
    intro ans
    cases ans with
    | inl status => exact stands_stable
    | inr record => exact Stable.exists fun m' => (Stable.pure _).and stands_stable
  refine Triple.call stands_stable (fun w hw hs => ?_) (fun w choice ans w' _ hs _ he => ?_) hstable
  · exact ⟨hs.active, (hw.consumer hs.active).imp (fun h => ⟨rfl, hs.not_inside, h⟩)
      fun h => ⟨rfl, hs.not_inside, h⟩⟩
  simp only [telemetrySystem, execute] at he
  split at he
  · split at he
    · obtain ⟨rfl, rfl⟩ := Prod.mk.inj (Option.some.inj he)
      exact hs
    · cases he
  · split at he
    · next hleft =>
      obtain ⟨rfl, rfl⟩ := Prod.mk.inj (Option.some.inj he)
      have hrecords : w.records = m := hs.records rfl
      exact ⟨w.records - 1, by omega, hs.active, hs.inside, hs.node, hs.between, fun _ => rfl,
        hs.available⟩
    · cases he

/-- Every turn of the consumer's loop uses up a record, or is the last. -/
lemma triple_consumerTurn :
    (discipline setting).Triple .consumer (Outside .consumer ⟨m, available⟩) (consumerTurn setting)
      (turned (fun _ w => ∃ m' < m, Outside .consumer ⟨m', available⟩ w)
        fun _ w => ∃ m', Outside .consumer ⟨m', available⟩ w) := by
  refine triple_processTrace.bind fun answer => ?_
  cases answer with
  | inl status => exact .ret stands_stable fun _ _ hs => ⟨m, hs⟩
  | inr record =>
    obtain ⟨env, record⟩ := record
    have hreturns : ∀ m' < m, (discipline setting).Triple .consumer
        (Outside .consumer ⟨m', available⟩) (pure (.inl ()) : Program (Unit ⊕ DWORD))
        (turned (fun _ w => ∃ m' < m, Outside .consumer ⟨m', available⟩ w)
          fun _ w => ∃ m', Outside .consumer ⟨m', available⟩ w) :=
      fun m' hlt => .ret stands_stable fun _ _ hs => ⟨m', hlt, hs⟩
    refine Triple.exists fun m' w hw ⟨hlt, hs⟩ => ?_
    refine ((triple_read .etwRunning (fun _ _ hs => ⟨hs.active, trivial⟩)
      fun _ _ _ _ he => (Prod.mk.inj (Option.some.inj he)).2.symm).bind fun running => ?_) w hw hs
    cases etwEventCallback setting.win32 running env record with
    | none => exact hreturns m' hlt
    | some event => exact (triple_pushEvent (by decide) event).bind fun _ => hreturns m' hlt

/-- `etw_consumer_thread` keeps the discipline. -/
lemma triple_etwConsumerThread :
    (discipline setting).Triple .consumer (Unstarted .consumer m) (etwConsumerThread setting)
      fun _ => Ended .consumer := by
  refine triple_started.bind fun _ => Triple.exists fun available => ?_
  refine (Triple.iterate_of_lt (I := fun m _ => Outside .consumer ⟨m, available⟩)
    (R := fun _ w => ∃ m, Outside .consumer ⟨m, available⟩ w) (fun _ _ => stands_stable)
    (fun _ => Stable.exists fun _ => stands_stable) (fun _ _ => triple_consumerTurn) m ()).bind
    fun status => Triple.exists fun m => ?_
  exact (triple_when _ stands_stable fun _ => triple_log (by decide)).bind
    fun _ => triple_exitThread

end Consumer

end TraceGlass
