import TraceGlass.Monitor.Diff
import TraceGlass.Telemetry.Collectors
import TraceGlass.Telemetry.Window

/-!
# The program as a whole

What holds in every run of the three threads, however their steps interleave and whatever Windows
answers: every operation a thread is about to perform is allowed where the world stands, a program
that has ended has released everything, and once the worker has been told to stop the end is
inevitable.
-/

namespace TraceGlass

open Threads Threads.Discipline Prog

/-- What a thread that has ended leaves. -/
def Finished : ThreadId → World → Prop
  | .window => World.Released
  | t => Ended t

/-- What each thread knows before its first step. -/
def Starts (records : ℕ) : ThreadId → World → Prop
  | .window => Sees .initial
  | t => Unstarted t records

variable {setting : Setting} {records : ℕ} {actions : List (ThreadId × Choice)}
  {c : Config ThreadId Operation Operation.Answer World}

lemma sound_initial : Sound (World.initial records) := by
  have hinactive : ∀ t, t ≠ .window → (World.initial records).active t = false := by
    intro t ht
    cases t with
    | window => exact absurd rfl ht
    | worker => rfl
    | consumer => rfl
  refine ⟨nofun, nofun, fun t ht ha => ?_, nofun, nofun, nofun, nofun, fun _ _ => ⟨rfl, rfl⟩, nofun,
    nofun, fun _ => rfl, fun _ => rfl, nofun, nofun⟩
  simp [hinactive t ht] at ha

/-- The discipline holds in every run of the program. -/
lemma holds_of_run
    (hrun : Machine.run (telemetrySystem setting).step (programStart setting records) actions =
      some c) :
    (discipline setting).Holds Finished c := by
  refine sound (P := Starts records) (fun t => ?_) ?_ (fun t => ?_) hrun
  · cases t with
    | window => exact triple_wWinMain
    | worker => exact triple_telemetryWorker
    | consumer => exact triple_etwConsumerThread
  · exact sound_initial
  · cases t with
    | window => exact sees_initial records
    | worker => exact ⟨rfl, nofun, rfl, rfl, nofun⟩
    | consumer => exact ⟨rfl, nofun, rfl, rfl, fun _ => rfl⟩

/-! ## Progress -/

/-- The operations that can have to wait. -/
def Operation.Waits : Operation → Prop
  | .enterQueue | .waitThread _ | .started | .processTrace => True
  | _ => False

/-- In a closing world an allowed operation that never waits is answered. -/
lemma answered_plain {w : World} {t : ThreadId} {op : Operation} (hw : Sound w)
    (hclosing : w.Closing) (hallowed : Allowed t op w) (hwaits : ¬op.Waits) :
    ∃ answer, execute setting t op .plain w = some answer := by
  cases op with
  | enterQueue | waitThread | started | processTrace => exact absurd trivial hwaits
  | link node event =>
    obtain ⟨-, -, -, -, -, hinit⟩ := hallowed
    obtain ⟨events, hexact⟩ := hw.queue hinit
    have hpush := pushEvent_isSome ⟨hinit, hexact.linked⟩ node event
    obtain ⟨answer, hanswer⟩ := Option.isSome_iff_exists.mp hpush
    exact ⟨_, by simp only [execute, hanswer]; rfl⟩
  | unlink =>
    obtain ⟨-, -, -, -, -, ⟨locals, hthread⟩, hinit⟩ := hallowed
    obtain ⟨events, hexact⟩ := hw.queue hinit
    cases events with
    | nil =>
      have hpop := popEvent_nil ⟨hinit, hexact.linked⟩
      exact ⟨_, by simp only [execute, hthread, hpop]; rfl⟩
    | cons event events =>
      obtain ⟨queue, hpop, -⟩ := popEvent_cons ⟨hinit, hexact.linked⟩
      exact ⟨_, by simp only [execute, hthread, hpop]; rfl⟩
  | nextNode node =>
    obtain ⟨-, -, hnode, -⟩ := hallowed
    obtain ⟨block, hblock⟩ := Option.ne_none_iff_exists'.mp hnode
    exact ⟨_, by simp only [execute, hblock]; rfl⟩
  | ingest =>
    obtain ⟨-, -, -, hhand, locals, hthread⟩ := hallowed
    obtain ⟨hand, hhand⟩ := Option.ne_none_iff_exists'.mp hhand
    exact ⟨_, by simp only [execute, hhand, hthread]; rfl⟩
  | finishDrain =>
    obtain ⟨-, -, -, locals, hthread⟩ := hallowed
    exact ⟨_, by simp only [execute, hthread]; rfl⟩
  | getMessage queueReady =>
    obtain ⟨-, -, -, -, -, -, hquits⟩ := hallowed
    exact ⟨_, by simp only [execute, getMessage, Choice.plain, hquits hclosing]; rfl⟩
  | _ => exact ⟨_, rfl⟩

section Progress

variable {t u : ThreadId} (h : (discipline setting).Holds Finished c) (hclosing : c.world.Closing)

/-- The thread can take a step. -/
def CanStep (setting : Setting) (c : Config ThreadId Operation Operation.Answer World)
    (t : ThreadId) : Prop :=
  ∃ c', (telemetrySystem setting).step c (t, .plain) = some c'

lemma canStep_of_answered {op : Operation} {next : op.Answer → Program Unit}
    (hprog : c.threads t = .perform op next)
    (hanswered : ∃ answer, execute setting t op .plain c.world = some answer) :
    CanStep setting c t := by
  obtain ⟨answer, hanswer⟩ := hanswered
  exact ⟨_, by simp only [System.step, hprog, telemetrySystem, hanswer, Option.map_some]; rfl⟩

include h hclosing

/-- A running thread has not come to the end of its program, so that it can take a step unless its
next operation has to wait. -/
lemma canStep_of_active (hactive : c.world.active t = true)
    (hwaits : ∀ op next, c.threads t = .perform op next → op.Waits →
      ∃ answer, execute setting t op .plain c.world = some answer) : CanStep setting c t := by
  cases hprog : c.threads t with
  | ret value =>
    have hfinished := h.ended hprog
    cases t with
    | window => simp [World.Released.threads hfinished .window] at hactive
    | worker => simp [World.active, show c.world.ended .worker = true from hfinished] at hactive
    | consumer => simp [World.active, show c.world.ended .consumer = true from hfinished] at hactive
  | perform op next =>
    refine canStep_of_answered hprog ?_
    by_cases hop : op.Waits
    · exact hwaits op next hprog hop
    · exact answered_plain h.inv hclosing (h.perform hprog 0).1 hop
  | loop body state next =>
    exact ⟨_, by simp only [System.step, hprog]; rfl⟩

/-- The thread inside the critical section never waits. -/
lemma canStep_of_holder (hholder : c.world.holder = some t) : CanStep setting c t := by
  refine canStep_of_active h hclosing (h.inv.holder t hholder).1 fun op next hprog hop => ?_
  have hallowed := (h.perform hprog 0).1
  cases op with
  | enterQueue => exact absurd hholder hallowed.2.2
  | waitThread u =>
    obtain ⟨-, rfl, -, houtside, -⟩ := hallowed
    exact absurd hholder houtside
  | started => exact absurd hholder hallowed
  | processTrace => exact absurd hholder (hallowed.2.elim (·.2.1) (·.2.1))
  | _ => exact hop.elim

/-- A thread at the critical section gets in, or the one inside can take a step. -/
lemma canStep_of_enterQueue {next : Unit → Program Unit}
    (hprog : c.threads t = .perform .enterQueue next) : ∃ u, CanStep setting c u := by
  cases hholder : c.world.holder with
  | none => exact ⟨t, canStep_of_answered hprog ⟨_, by simp only [execute, hholder]; rfl⟩⟩
  | some u => exact ⟨u, canStep_of_holder h hclosing hholder⟩

/-- A collecting thread the window's thread waits for gets on: once it has been told to end, nothing
keeps it but the critical section. -/
lemma canStep_of_collector (ht : t ≠ .window) (htold : c.world.told t = true)
    (hactive : c.world.active t = true) : ∃ u, CanStep setting c u := by
  by_cases hprog : ∃ next, c.threads t = .perform .enterQueue next
  · obtain ⟨next, hprog⟩ := hprog
    exact canStep_of_enterQueue h hclosing hprog
  · refine ⟨t, canStep_of_active h hclosing hactive fun op next hnext hop => ?_⟩
    cases op with
    | enterQueue => exact absurd ⟨next, hnext⟩ hprog
    | waitThread u => exact absurd (h.perform hnext 0).1.2.1 ht
    | started =>
      have hcreated : c.world.created t = true := by
        simp only [World.active, Bool.and_eq_true] at hactive
        exact hactive.1
      exact ⟨_, by simp only [execute, hcreated]; rfl⟩
    | processTrace =>
      obtain rfl : t = .consumer := (h.perform hnext 0).1.2.elim (·.1) (·.1)
      -- `ProcessTrace` returns now that the tracing is over
      have hover : c.world.resources.etw.over = true := htold
      exact ⟨_, by simp only [execute, Choice.plain, hover, or_true, if_true]; rfl⟩
    | _ => exact hop.elim

/-- **No deadlock.**  Until the window's thread has ended, some thread can take a step. -/
lemma canStep (hrunning : c.threads .window ≠ .ret ()) : ∃ u, CanStep setting c u := by
  cases hprog : c.threads .window with
  | ret value => exact absurd hprog hrunning
  | loop body state next => exact ⟨.window, _, by simp only [System.step, hprog]; rfl⟩
  | perform op next =>
    have hallowed := (h.perform hprog 0).1
    cases op with
    | enterQueue => exact canStep_of_enterQueue h hclosing hprog
    | started => exact ⟨.window, canStep_of_answered hprog ⟨_, rfl⟩⟩
    | waitThread u =>
      obtain ⟨-, -, hne, -, hlive, htold⟩ := hallowed
      cases hended : c.world.ended u with
      | true => exact ⟨.window, canStep_of_answered hprog ⟨_, by simp only [execute, hended]; rfl⟩⟩
      | false =>
        refine canStep_of_collector h hclosing hne htold ?_
        cases u with
        | window => exact absurd rfl hne
        | worker =>
          have hlive : c.world.resources.workerThread = .live := hlive
          simp [World.active, World.created, hlive, hended]
        | consumer =>
          have hlive : c.world.resources.etw.thread = .live := hlive
          simp [World.active, World.created, hlive, hended]
    | processTrace => exact absurd (hallowed.2.elim (·.1) (·.1)) (by simp)
    | _ => exact ⟨.window, canStep_of_answered hprog (answered_plain h.inv hclosing hallowed id)⟩

end Progress

/-! ## Every run -/

/-- A setting for concrete runs. -/
def Setting.sample : Setting where
  win32 := .sample
  rowSort := .insertion ℕ
  processSort := snapshotInsertion
  connectionSort := .insertion NetworkConnectionKey
  connectionSearch := .halving NetworkConnectionKey

/-- The user closes the window as soon as it is there, and the window's thread waits for the
worker. -/
def closedAtOnce : List (ThreadId × Choice) :=
  List.replicate 27 (.window, .plain) ++
    [(.window, { Choice.plain with message := .close }), (.window, .plain)]

/-- The threads come to their ends one after the other. -/
def endedInTurn : List (ThreadId × Choice) :=
  closedAtOnce ++ List.replicate 6 (.worker, .plain) ++ List.replicate 8 (.window, .plain) ++
    List.replicate 4 (.consumer, .plain) ++ List.replicate 29 (.window, .plain)

-- The exception occurs: a consumer that starts late calls `ProcessTrace` on a closed trace.
example : ∃ c next,
    Machine.run (telemetrySystem .sample).step (programStart .sample 0)
      (closedAtOnce ++ List.replicate 6 (.worker, .plain) ++ List.replicate 8 (.window, .plain) ++
        List.replicate 2 (.consumer, .plain)) = some c ∧
      c.threads .consumer = .perform .processTrace next ∧ c.world.resources.etw.trace = .gone :=
  ⟨_, _, rfl, rfl, rfl⟩

/-- **Nothing is left.**  Where `wWinMain` has come to its end, everything is released. -/
theorem released_at_end
    (hrun : Machine.run (telemetrySystem setting).step (programStart setting records) actions =
      some c)
    (hend : c.threads .window = .ret ()) : c.world.Released :=
  (holds_of_run hrun).ended hend

/-- A session that is closed at once. -/
theorem released_at_end_closed : ∃ c,
    Machine.run (telemetrySystem .sample).step (programStart .sample 0) endedInTurn = some c ∧
      c.world.Released :=
  ⟨_, rfl, @released_at_end .sample 0 endedInTurn _ rfl rfl⟩

/-- **The shutdown comes to its end.**  Once the worker has been told to stop, it is inevitable that
`wWinMain` returns, with everything released. -/
theorem shutdown_inevitable
    (hrun : Machine.run (telemetrySystem setting).step (programStart setting records) actions =
      some c)
    (hclosing : c.world.Closing) :
    Inevitable (telemetrySystem setting).step (fun action => action.2 = .plain)
      (fun c => c.threads .window = .ret () ∧ c.world.Released) c := by
  refine inevitable (fun c h hclosing => ?_) (holds_of_run hrun) hclosing
  by_cases hend : c.threads .window = .ret ()
  · exact .inl ⟨hend, h.ended hend⟩
  · obtain ⟨u, c', hstep⟩ := canStep h hclosing hend
    exact .inr ⟨(u, .plain), c', rfl, hstep⟩

/-- From the moment the worker is told to stop, with both collecting threads not started yet. -/
theorem shutdown_inevitable_closed : ∃ c,
    Machine.run (telemetrySystem .sample).step (programStart .sample 0) closedAtOnce = some c ∧
      Inevitable (telemetrySystem .sample).step (fun action => action.2 = .plain)
        (fun c => c.threads .window = .ret () ∧ c.world.Released) c :=
  ⟨_, rfl, @shutdown_inevitable .sample 0 closedAtOnce _ rfl ⟨rfl, nofun⟩⟩

end TraceGlass
