import TraceGlass.Etw.Model
import TraceGlass.Monitor.Fallback
import TraceGlass.Store.Identity
import TraceGlass.Lib.Run

/-!
# Delayed delivery

The system creates and ends processes and reuses their PIDs; each time it puts a record in flight
that carries the PID and the creation time of the very process.  A record is delivered any time
later and in any order, and the callback then asks about its PID.  `OsWorld` with `osStep` is that
system, and `event_process_iff` the exact condition under which the event keeps the record's key:
no other process has the PID with a creation time the callback can read.

`eventStoreAdd_stop_known` is the store's side: a STOP with a known key touches no record of another
known creation time, whatever the store holds and whatever the allocator does.
-/

namespace TraceGlass

/-! ## Kernel records -/

/-- The `size` low bytes of a value, in little-endian order. -/
def littleEndianBytes : ℕ → ℕ → List BYTE
  | 0, _ => []
  | size + 1, value => .ofNat value :: littleEndianBytes size (value / 256)

@[simp] lemma length_littleEndianBytes (size value : ℕ) :
    (littleEndianBytes size value).length = size := by
  induction size generalizing value with
  | zero => rfl
  | succ size ih => simp [littleEndianBytes, ih]

lemma littleEndian_littleEndianBytes (size value : ℕ) :
    littleEndian (littleEndianBytes size value) = value % 256 ^ size := by
  induction size generalizing value with
  | zero => simp [littleEndianBytes, littleEndian, Nat.mod_one]
  | succ size ih =>
    rw [littleEndianBytes, littleEndian, ih, Nat.pow_succ', Nat.mod_mul]
    simp

/-- The event id of a transition. -/
def ReportKind.eventId : ReportKind → USHORT
  | .start => processStartEventId
  | .stop => processStopEventId

/-- The record carries the report of its own process: the provider, the id of the transition, the
PID and the creation time. -/
structure Carries (record : EventRecord) (report : Report) : Prop where
  provider : record.providerId = kernelProcessProvider
  id : record.id = report.kind.eventId
  pid : record.property (wide "ProcessID") = some (littleEndianBytes 4 report.key.pid.toNat)
  creationTime :
    record.property (wide "CreateTime") = some (littleEndianBytes 8 report.key.creationTime.toNat)
  known : report.Known

instance (report : Report) : Decidable report.Known :=
  inferInstanceAs (Decidable (_ ∧ _))

/-- A record in flight, with the transition it is about. -/
structure KernelRecord where
  record : EventRecord
  report : Report
  carries : Carries record report

lemma readEventNumber_of_property {record : EventRecord} {size value : ℕ}
    {first : List WCHAR} (second : List WCHAR) (hsize : size ≠ 0) (hvalue : value < 256 ^ size)
    (h : record.property first = some (littleEndianBytes size value)) :
    readEventNumber size record first second = value := by
  have hread : (readEventProperty record first size).filter
      (fun bytes => decide (bytes.length ≥ size)) = some (littleEndianBytes size value) := by
    simp [readEventProperty, h, hsize, Option.filter]
  rw [readEventNumber, hread]
  exact (littleEndian_littleEndianBytes size value).trans (Nat.mod_eq_of_lt hvalue)

lemma Carries.readEventDword {record : EventRecord} {report : Report} (h : Carries record report) :
    readEventDword record (wide "ProcessID") (wide "ProcessId") = report.key.pid := by
  rw [TraceGlass.readEventDword, readEventNumber_of_property _ (by decide)
    report.key.pid.toNat_lt h.pid]
  simp

lemma Carries.readEventQword {record : EventRecord} {report : Report} (h : Carries record report) :
    readEventQword record (wide "CreateTime") (wide "CreationTime") = report.key.creationTime := by
  rw [TraceGlass.readEventQword, readEventNumber_of_property _ (by decide)
    report.key.creationTime.toNat_lt h.creationTime]
  simp

/-! ## The system -/

/-- What of a process the callback may see, and the rest of what it is answered. -/
structure Access where
  /-- Whether `OpenProcess` succeeds on the PID, if a process has it. -/
  opens : DWORD → Bool
  /-- Whether `GetProcessTimes` succeeds on it. -/
  readsTime : DWORD → Bool
  /-- What `QueryFullProcessImageNameW` answers for it. -/
  imageName : DWORD → Option (WString maxPath)
  toolhelp : Option (List ProcessEntry32)
  now : SystemTime
  stack : List BYTE

/-- The answers about the processes running at one moment. -/
def Access.env (access : Access) (running : List ProcessKey) : CallbackEnv where
  openProcess pid :=
    match running.find? fun key => key.pid == pid with
    | none => none
    | some key =>
        if access.opens pid then
          some ⟨if access.readsTime pid then some key.creationTime else none, access.imageName pid⟩
        else none
  toolhelp := access.toolhelp
  now := access.now
  stack := access.stack

/-- The processes running, all there ever were, the records in flight, and those delivered with the
events the callback pushed for them. -/
structure OsWorld where
  running : List ProcessKey
  created : List ProcessKey
  inFlight : List KernelRecord
  delivered : List (KernelRecord × TraceGlassEvent)

/-- Nothing has happened yet. -/
def OsWorld.initial : OsWorld := ⟨[], [], [], []⟩

/-- What can happen. -/
inductive OsAction
  /-- A process is created, and this record put in flight. -/
  | create (record : KernelRecord)
  /-- A process ends, and this record is put in flight. -/
  | exit (record : KernelRecord)
  /-- The record at this position is delivered, and the callback runs on it. -/
  | deliver (index : ℕ) (access : Access)

/-- One step; `none` where the action is not possible. -/
def osStep (w : Win32) (world : OsWorld) : OsAction → Option OsWorld
  | .create r =>
      if r.report.kind = .start ∧ r.report.key ∉ world.created ∧
          ∀ key ∈ world.running, key.pid ≠ r.report.key.pid then
        some { world with
          running := world.running ++ [r.report.key]
          created := world.created ++ [r.report.key]
          inFlight := world.inFlight ++ [r] }
      else none
  | .exit r =>
      if r.report.kind = .stop ∧ r.report.key ∈ world.running then
        some { world with
          running := world.running.erase r.report.key
          inFlight := world.inFlight ++ [r] }
      else none
  | .deliver index access =>
      match world.inFlight[index]? with
      | none => none
      | some r =>
          (etwEventCallback w true (access.env world.running) r.record).map fun event =>
            { world with
              inFlight := world.inFlight.eraseIdx index
              delivered := world.delivered ++ [(r, event)] }

/-- No other process has the PID of the key with a creation time the callback can read. -/
def OwnTimeRead (running : List ProcessKey) (access : Access) (key : ProcessKey) : Prop :=
  ∀ other ∈ running, other.pid = key.pid → access.opens key.pid = true →
    access.readsTime key.pid = true → other = key

instance (running : List ProcessKey) (access : Access) (key : ProcessKey) :
    Decidable (OwnTimeRead running access key) :=
  inferInstanceAs (Decidable (∀ other ∈ running, _))

/-- What the action must satisfy for the event to keep its key. -/
def Undisturbed (world : OsWorld) : OsAction → Prop
  | .create _ | .exit _ => True
  | .deliver index access =>
      ∀ r ∈ world.inFlight[index]?, OwnTimeRead world.running access r.report.key

instance (world : OsWorld) (action : OsAction) : Decidable (Undisturbed world action) := by
  unfold Undisturbed
  cases action <;> infer_instance

/-! ## The key of the event -/

/-- The creation time the callback is answered for a PID. -/
lemma queried_creationTime {running : List ProcessKey} (access : Access) {pid : DWORD}
    (hpid : pid ≠ 0) :
    (queryProcessIdentity ((access.env running).openProcess pid) pid).key.creationTime =
      match running.find? fun key => key.pid == pid with
      | none => 0
      | some key =>
          if access.opens pid = true ∧ access.readsTime pid = true then key.creationTime
          else 0 := by
  unfold queryProcessIdentity Access.env
  rw [if_neg hpid]
  dsimp only
  cases running.find? fun key => key.pid == pid with
  | none => rfl
  | some key =>
    by_cases hopens : access.opens pid = true <;> by_cases hreads : access.readsTime pid = true <;>
      simp [hopens, hreads]

/-- The event the callback pushes for a record in flight. -/
lemma etwEventCallback_of_carries (w : Win32) (env : CallbackEnv) {record : EventRecord}
    {report : Report} (h : Carries record report) :
    ∃ event, etwEventCallback w true env record = some event ∧
      event.type = (match report.kind with
        | .start => .processStart
        | .stop => .processStop) ∧
      event.process = ⟨report.key.pid,
        if (queryProcessIdentity (env.openProcess report.key.pid) report.key.pid).key.creationTime ≠
            0 then
          (queryProcessIdentity (env.openProcess report.key.pid) report.key.pid).key.creationTime
        else report.key.creationTime⟩ := by
  have hid := h.id
  have hne : processStopEventId ≠ processStartEventId := by decide
  unfold etwEventCallback
  rw [if_neg (by simp [h.provider])]
  obtain ⟨kind, key⟩ := report
  cases kind <;>
  · simp only [ReportKind.eventId] at hid
    rw [if_neg (by simp [hid])]
    refine ⟨_, rfl, ?_, ?_⟩
    · simp [etwFinish, etwParentFields_type, etwProcessFields, hid, hne]
    · simp [etwFinish, etwParentFields_process, etwProcessFields, h.readEventDword,
        h.readEventQword, h.known.1]

/-- **When the event keeps the key of its record.** -/
theorem event_process_iff (w : Win32) {running : List ProcessKey} (hrunning : Identified running)
    (access : Access) (r : KernelRecord) :
    ∃ event, etwEventCallback w true (access.env running) r.record = some event ∧
      (reportOf event = some r.report ↔ OwnTimeRead running access r.report.key) ∧
      (event.process = r.report.key ↔ OwnTimeRead running access r.report.key) := by
  obtain ⟨event, hevent, htype, hprocess⟩ :=
    etwEventCallback_of_carries w (access.env running) r.carries
  obtain ⟨hpid, htime⟩ := r.carries.known
  have hkey : event.process = r.report.key ↔ OwnTimeRead running access r.report.key := by
    rw [hprocess, queried_creationTime access hpid]
    have hext : ∀ time, (⟨r.report.key.pid, time⟩ : ProcessKey) = r.report.key ↔
        time = r.report.key.creationTime := by
      intro time
      rw [ProcessKey.ext_iff]
      simp
    rw [hext]
    unfold OwnTimeRead
    cases hfind : running.find? fun key => key.pid == r.report.key.pid with
    | none =>
      have hfree : ∀ other ∈ running, other.pid ≠ r.report.key.pid := by
        simpa using hfind
      refine iff_of_true (by simp) fun other hother heq => ?_
      exact absurd heq (hfree other hother)
    | some other =>
      have hother : other ∈ running := List.mem_of_find?_eq_some hfind
      have hotherpid : other.pid = r.report.key.pid := by
        simpa using List.find?_some hfind
      have honly : ∀ o ∈ running, o.pid = r.report.key.pid → o = other := fun o ho heq =>
        List.inj_on_of_nodup_map hrunning.nodup ho hother (heq.trans hotherpid.symm)
      by_cases hseen : access.opens r.report.key.pid = true ∧
          access.readsTime r.report.key.pid = true
      · simp only [if_pos hseen, if_pos (hrunning.known other hother).2]
        constructor
        · intro heq o ho hopid _ _
          rw [honly o ho hopid]
          exact ProcessKey.ext hotherpid heq
        · intro h
          rw [h other hother hotherpid hseen.1 hseen.2]
      · simp only [if_neg hseen, ne_eq, not_true_eq_false, if_false]
        refine iff_of_true trivial fun o _ _ hopens hreads => ?_
        exact absurd ⟨hopens, hreads⟩ hseen
  refine ⟨event, hevent, ?_, hkey⟩
  rw [← hkey]
  obtain ⟨record, ⟨kind, key⟩, hcarries⟩ := r
  cases kind with
  | start =>
    rw [reportOf_start htype]
    simp
  | stop =>
    rw [reportOf_stop htype]
    simp

/-! ## Runs -/

/-- What holds of the processes running in a reachable world. -/
lemma identified_running {w : Win32} {actions : List OsAction} {world : OsWorld}
    (hrun : Machine.run (osStep w) .initial actions = some world) : Identified world.running := by
  have hinit : Identified OsWorld.initial.running := ⟨List.nodup_nil, by simp [OsWorld.initial]⟩
  refine Machine.run_trace_invariant (I := fun _ s => Identified s.running) hrun hinit ?_
  intro _ u action v hu _ hstep
  cases action with
  | create r =>
    simp only [osStep] at hstep
    split at hstep
    · next hcreate =>
      obtain rfl := Option.some.inj hstep
      obtain ⟨-, -, hfree⟩ := hcreate
      constructor
      · rw [List.map_append, List.map_singleton, List.nodup_append]
        refine ⟨hu.nodup, List.nodup_singleton _, ?_⟩
        intro pid hpid pid' hpid'
        obtain ⟨key, hkey, rfl⟩ := List.mem_map.mp hpid
        rw [List.mem_singleton.mp hpid']
        exact hfree key hkey
      · intro key hkey
        rcases List.mem_append.mp hkey with hkey | hkey
        · exact hu.known key hkey
        · rw [List.mem_singleton.mp hkey]
          exact r.carries.known
    · cases hstep
  | exit r =>
    simp only [osStep] at hstep
    split at hstep
    · obtain rfl := Option.some.inj hstep
      exact ⟨hu.nodup.sublist (List.erase_sublist.map _),
        fun key hkey => hu.known key (List.mem_of_mem_erase hkey)⟩
    · cases hstep
  | deliver index access =>
    simp only [osStep] at hstep
    split at hstep
    · cases hstep
    · obtain ⟨event, -, rfl⟩ := Option.map_eq_some_iff.mp hstep
      exact hu

/-- A run whose deliveries are undisturbed is a run. -/
lemma run_of_undisturbed {w : Win32} {actions : List OsAction} {world : OsWorld}
    (hrun : Machine.run (Machine.restrict Undisturbed (osStep w)) .initial actions = some world) :
    Machine.run (osStep w) .initial actions = some world := by
  induction actions using List.reverseRecOn generalizing world with
  | nil => exact hrun
  | append_singleton actions action ih =>
    obtain ⟨u, hu, hlast⟩ := Machine.run_snoc_eq_some.mp hrun
    exact Machine.run_snoc_eq_some.mpr ⟨u, ih hu, (Machine.restrict_eq_some.mp hlast).2⟩

/-- Every event pushed in an undisturbed run makes the report of its record. -/
lemma reportOf_delivered {w : Win32} {actions : List OsAction} {world : OsWorld}
    (hrun : Machine.run (Machine.restrict Undisturbed (osStep w)) .initial actions = some world) :
    ∀ p ∈ world.delivered, reportOf p.2 = some p.1.report := by
  induction actions using List.reverseRecOn generalizing world with
  | nil =>
    rw [← Option.some.inj hrun]
    simp [OsWorld.initial]
  | append_singleton actions action ih =>
    obtain ⟨u, hu, hlast⟩ := Machine.run_snoc_eq_some.mp hrun
    obtain ⟨hundisturbed, hstep⟩ := Machine.restrict_eq_some.mp hlast
    have hrunning := identified_running (run_of_undisturbed hu)
    cases action with
    | create r =>
      simp only [osStep] at hstep
      split at hstep
      · obtain rfl := Option.some.inj hstep
        intro p hp
        exact ih hu p hp
      · cases hstep
    | exit r =>
      simp only [osStep] at hstep
      split at hstep
      · obtain rfl := Option.some.inj hstep
        intro p hp
        exact ih hu p hp
      · cases hstep
    | deliver index access =>
      simp only [osStep] at hstep
      split at hstep
      · cases hstep
      · next r hr =>
        obtain ⟨event, hevent, rfl⟩ := Option.map_eq_some_iff.mp hstep
        intro p hp
        rcases List.mem_append.mp hp with hp | hp
        · exact ih hu p hp
        · rw [List.mem_singleton.mp hp]
          obtain ⟨event', hevent', hreport, -⟩ := event_process_iff w hrunning access r
          rw [hevent, Option.some.injEq] at hevent'
          rw [hevent']
          exact hreport.mpr (hundisturbed r hr)

/-- What adding the STOP of a process must leave alone: the records of other known keys, and no
active record of its own. -/
def StopsOnly (store : EventStore) (alloc : ReallocOutcome) (event : TraceGlassEvent)
    (key : ProcessKey) : Prop :=
  (∀ (i : ℕ) (record : ProcessRecord), store.processes[i]? = some record →
    record.key.creationTime ≠ 0 → record.key ≠ key →
      (eventStoreAdd alloc store event).store.processes[i]? = some record) ∧
  ∀ record ∈ (eventStoreAdd alloc store event).store.processes,
    record.key = key → record.active = false

/-- **Delayed delivery.**  In any run of the system, the event the callback pushes for a record
carries the record's key exactly when no other process has the PID at that moment with a creation
time the callback can read.  In a run where that is so at every delivery, adding a pushed STOP to
any reachable store closes the process it is about and touches no other known one. -/
theorem etw_key_iff_and_stops (w : Win32) :
    (∀ (actions : List OsAction) (world : OsWorld),
      Machine.run (osStep w) .initial actions = some world →
        ∀ (index : ℕ) (access : Access) (r : KernelRecord), world.inFlight[index]? = some r →
          ∃ event, etwEventCallback w true (access.env world.running) r.record = some event ∧
            (event.process = r.report.key ↔ OwnTimeRead world.running access r.report.key)) ∧
    ∀ (actions : List OsAction) (world : OsWorld),
      Machine.run (Machine.restrict Undisturbed (osStep w)) .initial actions = some world →
        ∀ (r : KernelRecord) (event : TraceGlassEvent), (r, event) ∈ world.delivered →
          event.process = r.report.key ∧
            (r.report.kind = .stop → ∀ store : EventStore, Reachable store → ∀ alloc,
              StopsOnly store alloc event r.report.key) := by
  constructor
  · intro actions world hrun index access r _
    obtain ⟨event, hevent, -, hkey⟩ := event_process_iff w (identified_running hrun) access r
    exact ⟨event, hevent, hkey⟩
  · intro actions world hrun r event hdelivered
    have hreport := reportOf_delivered hrun (r, event) hdelivered
    obtain ⟨record, ⟨kind, key⟩, hcarries⟩ := r
    obtain ⟨hpid, htime⟩ := hcarries.known
    simp only at hreport hpid htime ⊢
    have hprocess : event.process = key := by
      cases htype : event.type <;> simp_all [reportOf]
    refine ⟨hprocess, ?_⟩
    rintro rfl store hstore alloc
    have htype : event.type = .processStop := by
      cases htype : event.type <;> simp_all [reportOf]
    have hstop := eventStoreAdd_stop_known hstore alloc htype (hprocess ▸ hpid) (hprocess ▸ htime)
    rw [hprocess] at hstop
    exact hstop

/-! ## A PID reused before delivery -/

/-- The record of a transition of the process. -/
def kernelRecord (kind : ReportKind) (key : ProcessKey) (hknown : Report.Known ⟨kind, key⟩) :
    KernelRecord where
  record :=
    { providerId := kernelProcessProvider
      id := kind.eventId
      processId := 4
      timeStamp := 9
      property := fun name =>
        if name = wide "ProcessID" then some (littleEndianBytes 4 key.pid.toNat)
        else if name = wide "CreateTime" then some (littleEndianBytes 8 key.creationTime.toNat)
        else none }
  report := ⟨kind, key⟩
  carries := ⟨rfl, rfl, rfl, rfl, hknown⟩

/-- Every process can be opened and its creation time read. -/
def fullAccess : Access where
  opens _ := true
  readsTime _ := true
  imageName _ := none
  toolhelp := none
  now := .zero
  stack := List.replicate 2048 0

/-- PID 8 passes to another process before the STOP of the first is delivered. -/
def reusedActions : List OsAction :=
  [.create (kernelRecord .start ⟨8, 5⟩ (by decide)), .deliver 0 fullAccess,
    .exit (kernelRecord .stop ⟨8, 5⟩ (by decide)),
    .create (kernelRecord .start ⟨8, 6⟩ (by decide)), .deliver 0 fullAccess,
    .deliver 0 fullAccess]

/-- The events the callback pushes in a run. -/
def pushedEvents (w : Win32) (actions : List OsAction) : List TraceGlassEvent :=
  match Machine.run (osStep w) .initial actions with
  | some world => world.delivered.map Prod.snd
  | none => []

/-- There the STOP of the first process carries the key of the second: the first stays active, and
the second, which is running, ends up inactive. -/
theorem etw_key_reusedActions :
    (Machine.run (osStep .sample) .initial reusedActions).map
        (fun world => world.delivered.map fun p => (p.1.report, reportOf p.2)) =
      some [(⟨.start, ⟨8, 5⟩⟩, some ⟨.start, ⟨8, 5⟩⟩), (⟨.stop, ⟨8, 5⟩⟩, some ⟨.stop, ⟨8, 6⟩⟩),
        (⟨.start, ⟨8, 6⟩⟩, some ⟨.start, ⟨8, 6⟩⟩)] ∧
    (addEvents eventStoreInitialize (pushedEvents .sample reusedActions)).table =
      [⟨⟨8, 5⟩, true⟩, ⟨⟨8, 6⟩, false⟩] := by
  constructor <;> decide +kernel

/-- PID 8 ends and nothing else has it when its records are delivered. -/
def endedActions : List OsAction :=
  [.create (kernelRecord .start ⟨8, 5⟩ (by decide)), .exit (kernelRecord .stop ⟨8, 5⟩ (by decide)),
    .deliver 0 fullAccess, .deliver 0 fullAccess]

/-- There both events carry the key of the process. -/
theorem etw_key_endedActions :
    ∃ world, Machine.run (Machine.restrict Undisturbed (osStep .sample)) .initial endedActions =
        some world ∧
      ∀ (r : KernelRecord) (event : TraceGlassEvent), (r, event) ∈ world.delivered →
        event.process = r.report.key := by
  obtain ⟨world, hrun⟩ := Option.isSome_iff_exists.mp (show (Machine.run
    (Machine.restrict Undisturbed (osStep .sample)) .initial endedActions).isSome = true by
      decide +kernel)
  exact ⟨world, hrun, fun r event hdelivered =>
    ((etw_key_iff_and_stops .sample).2 endedActions world hrun r event hdelivered).1⟩

end TraceGlass
