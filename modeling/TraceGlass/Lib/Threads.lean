import Mathlib.Data.DFinsupp.WellFounded
import TraceGlass.Lib.Run

/-!
# Threads that share a world

A program performs operations one at a time and goes on with their answers; `loop` is a source loop
that runs its body again for as long as the body asks for it.  A system says what an operation of a
thread does to the world the threads share, where a choice of the surroundings decides what the
world leaves open and `none` is an operation that has to wait.  The steps of the threads interleave
in any way.

`Discipline` is what a proof about such a system rests on: the operations a thread is allowed where
the world stands, an invariant of the world, and for each thread a frame, which is what the steps of
the others leave to it.  `keeps` is the one obligation about operations: an allowed one keeps the
invariant and the frames of the other threads.  `Triple` is what is shown of programs, with one rule
for each way a program is built.

A triple is about safety as long as the world is not `closing`, and about termination as well from
there on.  `Discipline.sound` carries triples to every interleaving, and `Discipline.finite` says
that no run is infinite once the world is closing.
-/

namespace Threads

/-- A program over operations `Op`, which are answered by `Ans`. -/
inductive Prog (Op : Type) (Ans : Op → Type) : Type → Type 1
  | ret {α : Type} (value : α) : Prog Op Ans α
  | perform {α : Type} (op : Op) (next : Ans op → Prog Op Ans α) : Prog Op Ans α
  /-- Run the body; `inl` is another turn, `inr` the end of the loop. -/
  | loop {σ β α : Type} (body : σ → Prog Op Ans (σ ⊕ β)) (state : σ) (next : β → Prog Op Ans α) :
      Prog Op Ans α

namespace Prog

variable {Op : Type} {Ans : Op → Type} {α β σ : Type}

/-- Run a program, then the one its result gives. -/
def andThen : Prog Op Ans α → (α → Prog Op Ans β) → Prog Op Ans β
  | .ret value, f => f value
  | .perform op next, f => .perform op fun ans => (next ans).andThen f
  | .loop body state next, f => .loop body state fun b => (next b).andThen f

instance : Monad (Prog Op Ans) where
  pure := .ret
  bind := andThen

/-- One operation. -/
def call (op : Op) : Prog Op Ans (Ans op) := .perform op .ret

/-- A source loop. -/
def iterate (body : σ → Prog Op Ans (σ ⊕ β)) (state : σ) : Prog Op Ans β := .loop body state .ret

/-- What follows a turn of a loop. -/
def resume (body : σ → Prog Op Ans (σ ⊕ β)) (next : β → Prog Op Ans α) :
    σ ⊕ β → Prog Op Ans α
  | .inl state => .loop body state next
  | .inr value => next value

/-- A loop at the start of a turn. -/
def unfold (body : σ → Prog Op Ans (σ ⊕ β)) (state : σ) (next : β → Prog Op Ans α) :
    Prog Op Ans α :=
  (body state).andThen (resume body next)

lemma andThen_assoc {γ : Type} (p : Prog Op Ans α) (f : α → Prog Op Ans β)
    (g : β → Prog Op Ans γ) : (p.andThen f).andThen g = p.andThen fun a => (f a).andThen g := by
  induction p with
  | ret value => rfl
  | perform op next ih => exact congrArg _ (funext fun ans => ih ans f)
  | loop body state next _ ih => exact congrArg _ (funext fun b => ih b f)

lemma andThen_ret (p : Prog Op Ans α) : p.andThen .ret = p := by
  induction p with
  | ret value => rfl
  | perform op next ih => exact congrArg _ (funext ih)
  | loop body state next _ ih => exact congrArg _ (funext ih)

instance : LawfulMonad (Prog Op Ans) :=
  .mk' _ andThen_ret (fun _ _ => rfl) andThen_assoc

lemma andThen_unfold {γ : Type} (body : σ → Prog Op Ans (σ ⊕ β)) (state : σ)
    (next : β → Prog Op Ans α) (f : α → Prog Op Ans γ) :
    (unfold body state next).andThen f = unfold body state fun b => (next b).andThen f := by
  rw [unfold, andThen_assoc, unfold]
  congr 1
  funext r
  cases r <;> rfl

end Prog

/-! ## Systems and their runs -/

/-- What the operations of the threads do. -/
structure System (T Op : Type) (Ans : Op → Type) (Choice W : Type) where
  exec : T → (op : Op) → Choice → W → Option (Ans op × W)

/-- The world and what is left of each thread's program. -/
structure Config (T Op : Type) (Ans : Op → Type) (W : Type) where
  world : W
  threads : T → Prog Op Ans Unit

variable {T Op Choice W : Type} {Ans : Op → Type}

/-- One step of one thread: its next operation, or the start of the next turn of a loop. -/
def System.step [DecidableEq T] (S : System T Op Ans Choice W) (c : Config T Op Ans W)
    (action : T × Choice) : Option (Config T Op Ans W) :=
  match c.threads action.1 with
  | .ret _ => none
  | .perform op next =>
      (S.exec action.1 op action.2 c.world).map fun answer =>
        ⟨answer.2, Function.update c.threads action.1 (next answer.1)⟩
  | .loop body state next =>
      some ⟨c.world, Function.update c.threads action.1 (Prog.unfold body state next)⟩

/-- The steps that are possible, with where they lead. -/
inductive Stepped [DecidableEq T] (S : System T Op Ans Choice W) (c : Config T Op Ans W) :
    T × Choice → Config T Op Ans W → Prop
  | performed {t : T} {op : Op} {next : Ans op → Prog Op Ans Unit} {choice : Choice} {ans : Ans op}
      {w : W} (hprog : c.threads t = .perform op next)
      (hexec : S.exec t op choice c.world = some (ans, w)) :
      Stepped S c (t, choice) ⟨w, Function.update c.threads t (next ans)⟩
  | turned {t : T} {σ β : Type} {body : σ → Prog Op Ans (σ ⊕ β)} {state : σ}
      {next : β → Prog Op Ans Unit} {choice : Choice}
      (hprog : c.threads t = .loop body state next) :
      Stepped S c (t, choice) ⟨c.world, Function.update c.threads t (Prog.unfold body state next)⟩

/-- **The inversion of one step.** -/
lemma stepped [DecidableEq T] {S : System T Op Ans Choice W} {c c' : Config T Op Ans W}
    {action : T × Choice} (h : S.step c action = some c') : Stepped S c action c' := by
  obtain ⟨t, choice⟩ := action
  unfold System.step at h
  split at h
  · cases h
  · next op next hprog =>
    obtain ⟨⟨ans, w⟩, hexec, rfl⟩ := Option.map_eq_some_iff.mp h
    exact .performed hprog hexec
  · next body state next hprog =>
    obtain rfl := Option.some.inj h
    exact .turned hprog

/-! ## Disciplines -/

/-- What the threads of a system keep to. -/
structure Discipline (S : System T Op Ans Choice W) where
  /-- The operation does no harm where the world stands. -/
  allowed : T → Op → W → Prop
  Inv : W → Prop
  /-- What a thread still finds as it left it, whatever the others did. -/
  frame : T → W → W → Prop
  /-- From here on the programs have to end. -/
  closing : W → Prop
  frame_refl : ∀ t w, frame t w w
  frame_trans : ∀ {t w w' w''}, frame t w w' → frame t w' w'' → frame t w w''
  closing_frame : ∀ {t w w'}, frame t w w' → closing w → closing w'
  /-- An allowed operation keeps the invariant, the frames of the others, and that the world is
  closing. -/
  keeps : ∀ {t op choice ans w w'}, Inv w → allowed t op w →
    S.exec t op choice w = some (ans, w') →
      Inv w' ∧ (∀ u, u ≠ t → frame u w w') ∧ (closing w → closing w')

namespace Discipline

variable {S : System T Op Ans Choice W} (D : Discipline S) {t : T} {α β σ : Type}

/-- The program ends, whatever the other threads do meanwhile, performs allowed operations only,
and its result meets `Q`.  Waiting is not excluded. -/
inductive Total (t : T) (Q : α → W → Prop) : Prog Op Ans α → W → Prop
  | ret {value : α} {w : W} (h : ∀ w', D.Inv w' → D.frame t w w' → Q value w') :
      Total t Q (.ret value) w
  | perform {op : Op} {next : Ans op → Prog Op Ans α} {w : W}
      (hallowed : ∀ w', D.Inv w' → D.frame t w w' → D.allowed t op w')
      (hnext : ∀ w' choice ans w'', D.Inv w' → D.frame t w w' →
        S.exec t op choice w' = some (ans, w'') → Total t Q (next ans) w'') :
      Total t Q (.perform op next) w
  | loop {σ β : Type} {body : σ → Prog Op Ans (σ ⊕ β)} {state : σ} {next : β → Prog Op Ans α}
      {w : W} (h : ∀ w', D.Inv w' → D.frame t w w' → Total t Q (Prog.unfold body state next) w') :
      Total t Q (.loop body state next) w

/-- For `n` steps the program performs allowed operations only, whatever the other threads do
meanwhile, its result meets `Q`, and it ends if the world is closing. -/
def SafeFor (t : T) (Q : α → W → Prop) : ℕ → Prog Op Ans α → W → Prop
  | 0, _, _ => True
  | n + 1, p, w => ∀ w', D.Inv w' → D.frame t w w' →
      (D.closing w' → D.Total t Q p w') ∧
        match p with
        | .ret value => Q value w'
        | .perform op next => D.allowed t op w' ∧ ∀ choice ans w'',
            S.exec t op choice w' = some (ans, w'') → SafeFor t Q n (next ans) w''
        | .loop body state next => SafeFor t Q n (Prog.unfold body state next) w'

/-- The other threads do not invalidate the assertion. -/
def Stable (t : T) (P : W → Prop) : Prop :=
  ∀ w w', D.Inv w' → D.frame t w w' → P w → P w'

/-- Wherever `P` holds, thread `t` may run the program, and its result meets `Q`. -/
def Triple (t : T) (P : W → Prop) (p : Prog Op Ans α) (Q : α → W → Prop) : Prop :=
  ∀ w, D.Inv w → P w → ∀ n, D.SafeFor t Q n p w

variable {D} {P P' : W → Prop} {Q Q' : α → W → Prop} {R : β → W → Prop} {p : Prog Op Ans α}
  {w w' : W} {n : ℕ}

/-! ### Programs that end -/

lemma Total.stable (h : D.Total t Q p w) (hframe : D.frame t w w') : D.Total t Q p w' := by
  cases h with
  | ret h => exact .ret fun v hv hf => h v hv (D.frame_trans hframe hf)
  | perform ha hn =>
    exact .perform (fun v hv hf => ha v hv (D.frame_trans hframe hf))
      fun v choice ans v' hv hf => hn v choice ans v' hv (D.frame_trans hframe hf)
  | loop h => exact .loop fun v hv hf => h v hv (D.frame_trans hframe hf)

lemma Total.of_forall (h : ∀ w', D.Inv w' → D.frame t w w' → D.Total t Q p w') :
    D.Total t Q p w := by
  cases p with
  | ret value =>
    refine .ret fun w' hw' hf => ?_
    cases h w' hw' hf with
    | ret hret => exact hret w' hw' (D.frame_refl t w')
  | perform op next =>
    refine .perform (fun w' hw' hf => ?_) fun w' choice ans w'' hw' hf hexec => ?_
    · cases h w' hw' hf with
      | perform ha _ => exact ha w' hw' (D.frame_refl t w')
    · cases h w' hw' hf with
      | perform _ hn => exact hn w' choice ans w'' hw' (D.frame_refl t w') hexec
  | loop body state next =>
    refine .loop fun w' hw' hf => ?_
    cases h w' hw' hf with
    | loop hloop => exact hloop w' hw' (D.frame_refl t w')

lemma Total.mono (hQ : ∀ a w, D.Inv w → Q a w → Q' a w) (h : D.Total t Q p w) :
    D.Total t Q' p w := by
  induction h with
  | ret h => exact .ret fun w' hw' hf => hQ _ w' hw' (h w' hw' hf)
  | perform ha _ ih => exact .perform ha ih
  | loop _ ih => exact .loop ih

lemma Total.andThen {f : α → Prog Op Ans β} (h : D.Total t Q p w)
    (hf : ∀ a w, D.Inv w → Q a w → D.Total t R (f a) w) : D.Total t R (p.andThen f) w := by
  induction h with
  | ret h => exact .of_forall fun w' hw' hframe => hf _ w' hw' (h w' hw' hframe)
  | perform ha _ ih => exact .perform ha ih
  | loop _ ih =>
    refine .loop fun w' hw' hframe => ?_
    rw [← Prog.andThen_unfold]
    exact ih w' hw' hframe

/-- A program that ends in a closing world ends in a closing world. -/
lemma Total.closing (h : D.Total t Q p w) (hw : D.closing w) :
    D.Total t (fun a w => Q a w ∧ D.closing w) p w := by
  induction h with
  | ret h => exact .ret fun w' hw' hf => ⟨h w' hw' hf, D.closing_frame hf hw⟩
  | perform ha hn ih =>
    refine .perform ha fun w' choice ans w'' hw' hf hexec => ih w' choice ans w'' hw' hf hexec ?_
    exact (D.keeps hw' (ha w' hw' hf) hexec).2.2 (D.closing_frame hf hw)
  | loop _ ih => exact .loop fun w' hw' hf => ih w' hw' hf (D.closing_frame hf hw)

/-! ### Safe programs -/

lemma SafeFor.stable (h : D.SafeFor t Q n p w) (hframe : D.frame t w w') :
    D.SafeFor t Q n p w' := by
  cases n with
  | zero => trivial
  | succ n => exact fun v hv hf => h v hv (D.frame_trans hframe hf)

lemma SafeFor.of_forall (h : ∀ w', D.Inv w' → D.frame t w w' → D.SafeFor t Q n p w') :
    D.SafeFor t Q n p w := by
  cases n with
  | zero => trivial
  | succ n => exact fun w' hw' hf => h w' hw' hf w' hw' (D.frame_refl t w')

lemma SafeFor.mono (hQ : ∀ a w, D.Inv w → Q a w → Q' a w) (h : D.SafeFor t Q n p w) :
    D.SafeFor t Q' n p w := by
  induction n generalizing p w with
  | zero => trivial
  | succ n ih =>
    intro w' hw' hf
    obtain ⟨htotal, hsafe⟩ := h w' hw' hf
    refine ⟨fun hclosing => (htotal hclosing).mono hQ, ?_⟩
    cases p with
    | ret value => exact hQ value w' hw' hsafe
    | perform op next => exact ⟨hsafe.1, fun choice ans w'' he => ih (hsafe.2 choice ans w'' he)⟩
    | loop body state next => exact ih hsafe

lemma SafeFor.pred (h : D.SafeFor t Q (n + 1) p w) : D.SafeFor t Q n p w := by
  induction n generalizing p w with
  | zero => trivial
  | succ n ih =>
    intro w' hw' hf
    obtain ⟨htotal, hsafe⟩ := h w' hw' hf
    refine ⟨htotal, ?_⟩
    cases p with
    | ret value => exact hsafe
    | perform op next => exact ⟨hsafe.1, fun choice ans w'' he => ih (hsafe.2 choice ans w'' he)⟩
    | loop body state next => exact ih hsafe

/-- In a closing world a safe program ends. -/
lemma SafeFor.total (h : D.SafeFor t Q (n + 1) p w) (hw : D.Inv w) (hclosing : D.closing w) :
    D.Total t Q p w :=
  (h w hw (D.frame_refl t w)).1 hclosing

lemma SafeFor.andThen {f : α → Prog Op Ans β} (h : D.SafeFor t Q n p w)
    (hsafe : ∀ a w, D.Inv w → Q a w → D.SafeFor t R n (f a) w)
    (hends : ∀ a w, D.Inv w → Q a w → D.closing w → D.Total t R (f a) w) :
    D.SafeFor t R n (p.andThen f) w := by
  have hall : ∀ {w'}, D.closing w' → D.Total t Q p w' → D.Total t R (p.andThen f) w' :=
    fun hclosing htotal =>
      (htotal.closing hclosing).andThen fun a w hw hQ => hends a w hw hQ.1 hQ.2
  induction n generalizing p w with
  | zero => trivial
  | succ n ih =>
    cases p with
    | ret value =>
      exact .of_forall fun w' hw' hframe =>
        hsafe value w' hw' (h w' hw' hframe).2
    | perform op next =>
      intro w' hw' hframe
      obtain ⟨htotal, hallowed, hnext⟩ := h w' hw' hframe
      refine ⟨fun hclosing => hall hclosing (htotal hclosing), hallowed,
        fun choice ans w'' hexec => ih (hnext choice ans w'' hexec)
          (fun a w hw hQ => (hsafe a w hw hQ).pred) fun hclosing htotal => ?_⟩
      exact (htotal.closing hclosing).andThen fun a w hw hQ => hends a w hw hQ.1 hQ.2
    | loop body state next =>
      intro w' hw' hframe
      obtain ⟨htotal, hnext⟩ := h w' hw' hframe
      refine ⟨fun hclosing => hall hclosing (htotal hclosing), ?_⟩
      have hturn := ih hnext (fun a w hw hQ => (hsafe a w hw hQ).pred) fun hclosing htotal =>
        (htotal.closing hclosing).andThen fun a w hw hQ => hends a w hw hQ.1 hQ.2
      rwa [Prog.andThen_unfold] at hturn

/-! ### The rules -/

lemma Stable.and {P P' : W → Prop} (h : D.Stable t P) (h' : D.Stable t P') :
    D.Stable t fun w => P w ∧ P' w :=
  fun w w' hw' hf hw => ⟨h w w' hw' hf hw.1, h' w w' hw' hf hw.2⟩

lemma Stable.exists {ι : Sort*} {P : ι → W → Prop} (h : ∀ i, D.Stable t (P i)) :
    D.Stable t fun w => ∃ i, P i w :=
  fun w w' hw' hf hw => hw.imp fun i hi => h i w w' hw' hf hi

lemma Stable.pure (q : Prop) : D.Stable t fun _ => q := fun _ _ _ _ hq => hq

lemma Triple.exists {ι : Sort*} {P : ι → W → Prop} (h : ∀ i, D.Triple t (P i) p Q) :
    D.Triple t (fun w => ∃ i, P i w) p Q :=
  fun w hw ⟨i, hi⟩ => h i w hw hi

lemma Triple.pre (h : D.Triple t P p Q) (hP : ∀ w, D.Inv w → P' w → P w) : D.Triple t P' p Q :=
  fun w hw hpre => h w hw (hP w hw hpre)

lemma Triple.post (h : D.Triple t P p Q) (hQ : ∀ a w, D.Inv w → Q a w → Q' a w) :
    D.Triple t P p Q' :=
  fun w hw hpre n => (h w hw hpre n).mono hQ

lemma Triple.ret {value : α} (hP : D.Stable t P) (h : ∀ w, D.Inv w → P w → Q value w) :
    D.Triple t P (.ret value) Q := by
  intro w _ hpre n
  cases n with
  | zero => trivial
  | succ n =>
    intro w' hw' hf
    have hpost : ∀ v, D.Inv v → D.frame t w v → Q value v :=
      fun v hv hframe => h v hv (hP w v hv hframe hpre)
    exact ⟨fun _ => .ret fun v hv hframe => hpost v hv (D.frame_trans hf hframe), hpost w' hw' hf⟩

/-- An operation that is allowed, and what is known of its answer and the world it leads to. -/
lemma Triple.perform {op : Op} {next : Ans op → Prog Op Ans α} {R : Ans op → W → Prop}
    (hP : D.Stable t P) (hallowed : ∀ w, D.Inv w → P w → D.allowed t op w)
    (hexec : ∀ w choice ans w', D.Inv w → P w → D.Inv w' →
      S.exec t op choice w = some (ans, w') → R ans w')
    (hnext : ∀ ans, D.Triple t (R ans) (next ans) Q) : D.Triple t P (.perform op next) Q := by
  intro w _ hpre n
  cases n with
  | zero => trivial
  | succ n =>
    -- what the operation does, from any world the others can bring about
    have hstep : ∀ v choice ans w'', D.Inv v → D.frame t w v →
        S.exec t op choice v = some (ans, w'') → D.Inv w'' ∧ R ans w'' := by
      intro v choice ans w'' hv hframe he
      have hv' := hP w v hv hframe hpre
      have hinv := (D.keeps hv (hallowed v hv hv') he).1
      exact ⟨hinv, hexec v choice ans w'' hv hv' hinv he⟩
    intro w' hw' hf
    refine ⟨fun hclosing => ?_, hallowed w' hw' (hP w w' hw' hf hpre),
      fun choice ans w'' he => ?_⟩
    · refine .perform (fun v hv hframe => ?_) fun v choice ans w'' hv hframe he => ?_
      · exact hallowed v hv (hP w v hv (D.frame_trans hf hframe) hpre)
      · have hboth := D.frame_trans hf hframe
        obtain ⟨hinv, hR⟩ := hstep v choice ans w'' hv hboth he
        have hclosed := (D.keeps hv (hallowed v hv (hP w v hv hboth hpre)) he).2.2
          (D.closing_frame hframe hclosing)
        exact (hnext ans w'' hinv hR 1).total hinv hclosed
    · obtain ⟨hinv, hR⟩ := hstep w' choice ans w'' hw' hf he
      exact hnext ans w'' hinv hR n

lemma Triple.call {op : Op} {R : Ans op → W → Prop} (hP : D.Stable t P)
    (hallowed : ∀ w, D.Inv w → P w → D.allowed t op w)
    (hexec : ∀ w choice ans w', D.Inv w → P w → D.Inv w' →
      S.exec t op choice w = some (ans, w') → R ans w')
    (hR : ∀ ans, D.Stable t (R ans)) : D.Triple t P (Prog.call op) R :=
  .perform hP hallowed hexec fun ans => .ret (hR ans) fun _ _ h => h

lemma Triple.andThen {f : α → Prog Op Ans β} (h : D.Triple t P p Q)
    (hf : ∀ a, D.Triple t (Q a) (f a) R) : D.Triple t P (p.andThen f) R :=
  fun w hw hpre n => (h w hw hpre n).andThen (fun a w hw hQ => hf a w hw hQ n)
    fun a w hw hQ hclosing => (hf a w hw hQ 1).total hw hclosing

lemma Triple.bind {f : α → Prog Op Ans β} (h : D.Triple t P p Q)
    (hf : ∀ a, D.Triple t (Q a) (f a) R) : D.Triple t P (p >>= f) R :=
  h.andThen hf

lemma Triple.ite {c : Prop} [Decidable c] {q : Prog Op Ans α} (hp : c → D.Triple t P p Q)
    (hq : ¬c → D.Triple t P q Q) : D.Triple t P (if c then p else q) Q := by
  split
  · exact hp ‹_›
  · exact hq ‹_›

/-- What a turn of a loop leads to. -/
def turned (I : σ → W → Prop) (R : β → W → Prop) : σ ⊕ β → W → Prop
  | .inl state, w => I state w
  | .inr value, w => R value w

/-- A loop keeps its invariant, whose index gets smaller with every turn in a closing world. -/
lemma Triple.loop {body : σ → Prog Op Ans (σ ⊕ β)} {next : β → Prog Op Ans α}
    {I : ℕ → σ → W → Prop} {R : β → W → Prop} (hI : ∀ m s, D.Stable t (I m s))
    (hbody : ∀ m s, D.Triple t (I m s) (body s) (turned (fun s' w => ∃ m', I m' s' w) R))
    (hclosing : ∀ m s, D.Triple t (fun w => I m s w ∧ D.closing w) (body s)
      (turned (fun s' w => ∃ m' < m, I m' s' w) R))
    (hnext : ∀ b, D.Triple t (R b) (next b) Q) (m : ℕ) (s : σ) :
    D.Triple t (I m s) (.loop body s next) Q := by
  have hends : ∀ m s w, D.Inv w → I m s w → D.closing w → D.Total t Q (.loop body s next) w := by
    intro m
    induction m using Nat.strongRecOn with
    | _ m ih =>
      intro s w _ hs hclosed
      refine .loop fun w' hw' hf => ?_
      have hs' := hI m s w w' hw' hf hs
      have hclosed' := D.closing_frame hf hclosed
      have hturn := (hclosing m s w' hw' ⟨hs', hclosed'⟩ 1).total hw' hclosed'
      refine (hturn.closing hclosed').andThen fun r v hv hr => ?_
      cases r with
      | inl s' =>
        obtain ⟨⟨m', hlt, hm'⟩, hv'⟩ := hr
        exact ih m' hlt s' v hv hm' hv'
      | inr b => exact (hnext b v hv hr.1 1).total hv hr.2
  intro w _ hs n
  induction n generalizing m s w with
  | zero => trivial
  | succ n ih =>
    intro w' hw' hf
    have hs' := hI m s w w' hw' hf hs
    refine ⟨fun hclosed => hends m s w' hw' hs' hclosed, ?_⟩
    refine (hbody m s w' hw' hs' n).andThen (fun r v hv hr => ?_) fun r v hv hr hclosed => ?_
    · cases r with
      | inl s' =>
        obtain ⟨m', hm'⟩ := hr
        exact ih m' s' v hv hm'
      | inr b => exact hnext b v hv hr n
    · cases r with
      | inl s' =>
        obtain ⟨m', hm'⟩ := hr
        exact hends m' s' v hv hm' hclosed
      | inr b => exact (hnext b v hv hr 1).total hv hclosed

/-- The same for a loop that nothing follows. -/
lemma Triple.iterate {body : σ → Prog Op Ans (σ ⊕ β)} {I : ℕ → σ → W → Prop}
    (hI : ∀ m s, D.Stable t (I m s)) (hR : ∀ b, D.Stable t (R b))
    (hbody : ∀ m s, D.Triple t (I m s) (body s) (turned (fun s' w => ∃ m', I m' s' w) R))
    (hclosing : ∀ m s, D.Triple t (fun w => I m s w ∧ D.closing w) (body s)
      (turned (fun s' w => ∃ m' < m, I m' s' w) R)) (m : ℕ) (s : σ) :
    D.Triple t (I m s) (Prog.iterate body s) R :=
  .loop hI hbody hclosing (fun b => .ret (hR b) fun _ _ h => h) m s

/-- A loop whose every turn makes the index smaller. -/
lemma Triple.iterate_of_lt {body : σ → Prog Op Ans (σ ⊕ β)} {I : ℕ → σ → W → Prop}
    (hI : ∀ m s, D.Stable t (I m s)) (hR : ∀ b, D.Stable t (R b))
    (hbody : ∀ m s, D.Triple t (I m s) (body s) (turned (fun s' w => ∃ m' < m, I m' s' w) R))
    (m : ℕ) (s : σ) : D.Triple t (I m s) (Prog.iterate body s) R := by
  refine .iterate hI hR (fun m s => (hbody m s).post fun r w _ hr => ?_)
    (fun m s => (hbody m s).pre fun w _ h => h.1) m s
  cases r with
  | inl s' => exact hr.imp fun _ h => h.2
  | inr b => exact hr

/-- A loop that takes no further turn in a closing world. -/
lemma Triple.iterate_of_last {body : σ → Prog Op Ans (σ ⊕ β)} {I : σ → W → Prop}
    (hI : ∀ s, D.Stable t (I s)) (hR : ∀ b, D.Stable t (R b))
    (hbody : ∀ s, D.Triple t (I s) (body s) (turned I R))
    (hlast : ∀ s, D.Triple t (fun w => I s w ∧ D.closing w) (body s) (turned (fun _ _ => False) R))
    (s : σ) : D.Triple t (I s) (Prog.iterate body s) R := by
  refine Triple.iterate (I := fun _ => I) (fun _ => hI) hR
    (fun _ s => (hbody s).post fun r w _ hr => ?_)
    (fun _ s => (hlast s).post fun r w _ hr => ?_) 0 s
  · cases r with
    | inl s' => exact ⟨0, hr⟩
    | inr b => exact hr
  · cases r with
    | inl s' => exact hr.elim
    | inr b => exact hr

/-! ## Every interleaving -/

variable [DecidableEq T]

/-- What is known of a configuration a run reaches. -/
structure Holds (D : Discipline S) (Q : T → W → Prop) (c : Config T Op Ans W) : Prop where
  inv : D.Inv c.world
  safe : ∀ t n, D.SafeFor t (fun _ => Q t) n (c.threads t) c.world

variable {Q : T → W → Prop} {c c' : Config T Op Ans W} {action : T × Choice}

omit [DecidableEq T] in
/-- The next operation of every thread is allowed, and goes on safely. -/
lemma Holds.perform (h : D.Holds Q c) {t : T} {op : Op} {next : Ans op → Prog Op Ans Unit}
    (hprog : c.threads t = .perform op next) (n : ℕ) :
    D.allowed t op c.world ∧ ∀ choice ans w, S.exec t op choice c.world = some (ans, w) →
      D.SafeFor t (fun _ => Q t) n (next ans) w := by
  have hsafe := h.safe t (n + 1) c.world h.inv (D.frame_refl t c.world)
  rw [hprog] at hsafe
  exact hsafe.2

omit [DecidableEq T] in
/-- A thread that has ended meets its last assertion. -/
lemma Holds.ended (h : D.Holds Q c) {t : T} (hprog : c.threads t = .ret ()) : Q t c.world := by
  have hsafe := h.safe t 1 c.world h.inv (D.frame_refl t c.world)
  rw [hprog] at hsafe
  exact hsafe.2

lemma Holds.step (h : D.Holds Q c) (hstep : S.step c action = some c') : D.Holds Q c' := by
  cases stepped hstep with
  | @performed t op next choice ans w hprog hexec =>
    obtain ⟨hinv, hframes, -⟩ := D.keeps h.inv (h.perform hprog 0).1 hexec
    refine ⟨hinv, fun u n => ?_⟩
    rcases eq_or_ne u t with rfl | hu
    · simpa using (h.perform hprog n).2 choice ans w hexec
    · simpa [hu] using (h.safe u n).stable (hframes u hu)
  | @turned t σ β body state next choice hprog =>
    refine ⟨h.inv, fun u n => ?_⟩
    rcases eq_or_ne u t with rfl | hu
    · have hsafe := h.safe u (n + 1) c.world h.inv (D.frame_refl u c.world)
      rw [hprog] at hsafe
      simpa using hsafe.2
    · simpa [hu] using h.safe u n

/-- **Soundness.**  Triples for the threads' programs say what holds in every run. -/
theorem sound {start : Config T Op Ans W} {P : T → W → Prop}
    (hthreads : ∀ t, D.Triple t (P t) (start.threads t) fun _ => Q t) (hinv : D.Inv start.world)
    (hP : ∀ t, P t start.world) {actions : List (T × Choice)}
    (hrun : Machine.run S.step start actions = some c) : D.Holds Q c :=
  Machine.run_kept hrun ⟨hinv, fun t n => hthreads t start.world hinv (hP t) n⟩
    fun _ _ _ h hstep => h.step hstep

/-! ## Termination -/

/-- One step of a thread's program, after the others have done what its frame allows. -/
inductive Child (D : Discipline S) (t : T) :
    Prog Op Ans Unit × W → Prog Op Ans Unit × W → Prop
  | perform {op : Op} {next : Ans op → Prog Op Ans Unit} {choice : Choice} {ans : Ans op}
      {w w' w'' : W} (hinv : D.Inv w') (hframe : D.frame t w w')
      (hexec : S.exec t op choice w' = some (ans, w'')) :
      Child D t (next ans, w'') (.perform op next, w)
  | loop {σ β : Type} {body : σ → Prog Op Ans (σ ⊕ β)} {state : σ} {next : β → Prog Op Ans Unit}
      {w w' : W} (hinv : D.Inv w') (hframe : D.frame t w w') :
      Child D t (Prog.unfold body state next, w') (.loop body state next, w)

omit [DecidableEq T] in
lemma Total.acc {Q : Unit → W → Prop} {p : Prog Op Ans Unit} {w : W} (h : D.Total t Q p w) :
    Acc (D.Child t) (p, w) := by
  induction h with
  | ret h => exact ⟨_, fun y hy => by cases hy⟩
  | perform ha _ ih =>
    refine ⟨_, fun y hy => ?_⟩
    cases hy with
    | perform hinv hframe hexec => exact ih _ _ _ _ hinv hframe hexec
  | loop _ ih =>
    refine ⟨_, fun y hy => ?_⟩
    cases hy with
    | loop hinv hframe => exact ih _ hinv hframe

/-- What one step does to the thread that takes it, which has last seen `w`, and to the others. -/
lemma Holds.child (h : D.Holds Q c) (hclosing : D.closing c.world)
    (hstep : S.step c action = some c') {w : W} (hframe : D.frame action.1 w c.world) :
    D.closing c'.world ∧ D.Child action.1 (c'.threads action.1, c'.world) (c.threads action.1, w) ∧
      ∀ u, u ≠ action.1 → c'.threads u = c.threads u ∧ D.frame u c.world c'.world := by
  cases stepped hstep with
  | performed hprog hexec =>
    obtain ⟨-, hframes, hclosed⟩ := D.keeps h.inv (h.perform hprog 0).1 hexec
    refine ⟨hclosed hclosing, ?_, fun u hu => ⟨Function.update_of_ne hu _ _, hframes u hu⟩⟩
    simpa [hprog] using Child.perform h.inv hframe hexec
  | turned hprog =>
    refine ⟨hclosing, ?_, fun u hu => ⟨Function.update_of_ne hu _ _, D.frame_refl u c.world⟩⟩
    simpa [hprog] using Child.loop h.inv hframe

/-- What is left of the threads' programs, each with the world its thread has last seen. -/
abbrev Remaining (D : Discipline S) : Type 1 :=
  ∀ t, { state : Prog Op Ans Unit × W // Acc (D.Child t) state }

/-- **No run is infinite** once the world is closing. -/
theorem finite [Finite T] (h : D.Holds Q c) (hclosing : D.closing c.world) :
    Acc (fun after before => ∃ action, S.step before action = some after) c := by
  have hwf : WellFounded (Pi.Lex WellOrderingRel
      fun {t} (a b : { state : Prog Op Ans Unit × W // Acc (D.Child t) state }) =>
        D.Child t a.1 b.1) :=
    Pi.Lex.wellFounded _ fun t => ⟨fun a => InvImage.accessible Subtype.val a.2⟩
  -- a thread's own step takes it to a child, and the others keep what is left of them
  have hends : ∀ (rest : D.Remaining) (c : Config T Op Ans W), D.Holds Q c → D.closing c.world →
      (∀ t, (rest t).1.1 = c.threads t ∧ D.frame t (rest t).1.2 c.world) →
      Acc (fun after before => ∃ action, S.step before action = some after) c := by
    intro rest
    induction rest using hwf.induction with
    | _ rest ih =>
      intro c h hclosing hrest
      refine ⟨_, fun c' ⟨action, hstep⟩ => ?_⟩
      obtain ⟨hclosed, hchild, hothers⟩ := h.child hclosing hstep (hrest action.1).2
      rw [← (hrest action.1).1] at hchild
      have hacc := (rest action.1).2.inv hchild
      refine ih (Function.update rest action.1 ⟨_, hacc⟩) ⟨action.1, fun u hu => ?_, ?_⟩ c'
        (h.step hstep) hclosed fun u => ?_
      · exact Function.update_of_ne (ne_of_irrefl hu) _ _
      · rw [Function.update_self]
        exact hchild
      · rcases eq_or_ne u action.1 with rfl | hu
        · rw [Function.update_self]
          exact ⟨rfl, D.frame_refl _ _⟩
        · obtain ⟨hsame, hkept⟩ := hothers u hu
          rw [Function.update_of_ne hu, hsame]
          exact ⟨(hrest u).1, D.frame_trans (hrest u).2 hkept⟩
  exact hends (fun t => ⟨(c.threads t, c.world), ((h.safe t 1).total h.inv hclosing).acc⟩) c h
    hclosing fun t => ⟨rfl, D.frame_refl t c.world⟩

/-- What comes about in every run that goes on: as long as `P` does not hold, one of the steps the
surroundings offer is possible, and every step leads to where `P` is inevitable. -/
inductive Inevitable {σ A : Type*} (step : σ → A → Option σ) (offered : A → Prop) (P : σ → Prop) :
    σ → Prop
  | reached {s : σ} (h : P s) : Inevitable step offered P s
  | later {s : σ} (h : ∃ a s', offered a ∧ step s a = some s')
      (hall : ∀ a s', step s a = some s' → Inevitable step offered P s') :
      Inevitable step offered P s

/-- Once the world is closing, what is reached wherever no offered step is possible is
inevitable. -/
theorem inevitable [Finite T] {offered : T × Choice → Prop} {P : Config T Op Ans W → Prop}
    (hprogress : ∀ c, D.Holds Q c → D.closing c.world →
      P c ∨ ∃ action c', offered action ∧ S.step c action = some c')
    (h : D.Holds Q c) (hclosing : D.closing c.world) : Inevitable S.step offered P c := by
  have hacc := finite h hclosing
  induction hacc with
  | intro c _ ih =>
    rcases hprogress c h hclosing with hP | hstep
    · exact .reached hP
    · exact .later hstep fun action c' hstep => ih c' ⟨action, hstep⟩ (h.step hstep)
        (h.child hclosing hstep (D.frame_refl _ _)).1

end Discipline

end Threads
