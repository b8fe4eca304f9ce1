import TraceGlass.Lib.Threads

/-!
# One thread of a system on its own

The history of a run is what the threads have performed, each operation with its answer, and a
thread's own part of it is all the thread goes by.  `Solo` looks at one thread alone: its world is
its own past, an answer is `possible` after a past, and an operation `fits` one.  Its triples are
those of `Discipline`, and `Solo.holds_step` carries them to the thread's part of a run, where
whoever runs the system shows that every answer the thread gets is possible.
-/

namespace Threads

variable {T Op Choice W : Type} {Ans : Op → Type}

/-- An operation with its answer. -/
abbrev Deed (Op : Type) (Ans : Op → Type) : Type := Σ op, Ans op

/-! ## Histories -/

section History

variable [DecidableEq T] {S : System T Op Ans Choice W} {start c : Config T Op Ans W}
  {actions : List (T × Choice)}

/-- What a step performs; the start of a turn of a loop performs nothing. -/
def System.performed (S : System T Op Ans Choice W) (c : Config T Op Ans W) (action : T × Choice) :
    Option (T × Deed Op Ans) :=
  match c.threads action.1 with
  | .perform op _ =>
      (S.exec action.1 op action.2 c.world).map fun answer => (action.1, ⟨op, answer.1⟩)
  | _ => none

/-- What the threads perform in a run, in order. -/
def System.history (S : System T Op Ans Choice W) (c : Config T Op Ans W) :
    List (T × Choice) → List (T × Deed Op Ans)
  | [] => []
  | action :: actions =>
      (S.performed c action).toList ++
        match S.step c action with
        | none => []
        | some c => S.history c actions

lemma history_snoc (hrun : Machine.run S.step start actions = some c) (action : T × Choice) :
    S.history start (actions ++ [action]) =
      S.history start actions ++ (S.performed c action).toList := by
  induction actions generalizing start with
  | nil =>
    obtain rfl := Option.some.inj hrun
    simp only [List.nil_append, System.history]
    split <;> simp
  | cons first actions ih =>
    obtain ⟨next, hstep, hrun⟩ := Option.bind_eq_some_iff.mp hrun
    simp only [List.cons_append, System.history, hstep, ih hrun, List.append_assoc]

omit [DecidableEq T] in
lemma performed_eq {t : T} {op : Op} {next : Ans op → Prog Op Ans Unit} {choice : Choice}
    {ans : Ans op} {w : W} (hprog : c.threads t = .perform op next)
    (hexec : S.exec t op choice c.world = some (ans, w)) :
    S.performed c (t, choice) = some (t, ⟨op, ans⟩) := by
  simp only [System.performed, hprog, hexec, Option.map_some]

omit [DecidableEq T] in
lemma performed_loop {t : T} {σ β : Type} {body : σ → Prog Op Ans (σ ⊕ β)} {state : σ}
    {next : β → Prog Op Ans Unit} (hprog : c.threads t = .loop body state next) (choice : Choice) :
    S.performed c (t, choice) = none := by
  simp only [System.performed, hprog]

/-- What one thread has performed. -/
def own (t : T) (history : List (T × Deed Op Ans)) : List (Deed Op Ans) :=
  history.filterMap fun entry => if entry.1 = t then some entry.2 else none

@[simp] lemma own_nil (t : T) : own t ([] : List (T × Deed Op Ans)) = [] := rfl

@[simp] lemma own_append (t : T) (history more : List (T × Deed Op Ans)) :
    own t (history ++ more) = own t history ++ own t more :=
  List.filterMap_append

@[simp] lemma own_self (t : T) (deed : Deed Op Ans) : own t [(t, deed)] = [deed] := by
  simp [own]

lemma own_of_ne {t u : T} (h : u ≠ t) (deed : Deed Op Ans) : own t [(u, deed)] = [] := by
  simp [own, h]

end History

/-! ## A thread alone -/

/-- What a thread can be answered after its past, which operations fit it, and what they keep. -/
structure Solo (Op : Type) (Ans : Op → Type) where
  possible : List (Deed Op Ans) → Deed Op Ans → Prop
  fits : Op → List (Deed Op Ans) → Prop
  Inv : List (Deed Op Ans) → Prop
  keeps : ∀ {past : List (Deed Op Ans)} {deed : Deed Op Ans}, Inv past → fits deed.1 past →
    possible past deed → Inv (past ++ [deed])

namespace Solo

variable (A : Solo Op Ans) {α : Type} {P : List (Deed Op Ans) → Prop}

open Classical in
/-- The thread as a system of its own, whose surroundings choose among the possible answers. -/
noncomputable def system :
    System Unit Op Ans ((op : Op) → Option (Ans op)) (List (Deed Op Ans)) where
  exec _ op choice past :=
    (choice op).bind fun ans =>
      if A.possible past ⟨op, ans⟩ then some (ans, past ++ [⟨op, ans⟩]) else none

variable {A}

lemma system_exec {op : Op} {choice : (op : Op) → Option (Ans op)} {ans : Ans op}
    {past past' : List (Deed Op Ans)} (h : A.system.exec () op choice past = some (ans, past')) :
    A.possible past ⟨op, ans⟩ ∧ past' = past ++ [⟨op, ans⟩] := by
  obtain ⟨ans', -, h⟩ := Option.bind_eq_some_iff.mp h
  split at h
  · next hpossible =>
    obtain ⟨rfl, rfl⟩ := Prod.mk.inj (Option.some.inj h)
    exact ⟨hpossible, rfl⟩
  · cases h

variable (A) in
/-- Its operations have to fit; nothing else changes its past. -/
noncomputable def discipline : Discipline A.system where
  allowed _ op past := A.fits op past
  Inv := A.Inv
  frame _ past past' := past' = past
  closing _ := False
  frame_refl _ _ := rfl
  frame_trans h h' := h'.trans h
  closing_frame _ h := h
  keeps hinv hfits he := by
    obtain ⟨hpossible, rfl⟩ := system_exec he
    exact ⟨A.keeps hinv hfits hpossible, fun _ hu => absurd rfl hu, id⟩

lemma stable : A.discipline.Stable () P := fun _ _ _ hframe h => hframe ▸ h

lemma triple_call {op : Op} {R : Ans op → List (Deed Op Ans) → Prop}
    (hfits : ∀ past, P past → A.fits op past)
    (h : ∀ past ans, P past → A.possible past ⟨op, ans⟩ → R ans (past ++ [⟨op, ans⟩])) :
    A.discipline.Triple () P (Prog.call op) R := by
  refine Discipline.Triple.call stable (fun past _ hP => hfits past hP)
    (fun past choice ans past' _ hP _ he => ?_) fun _ => stable
  obtain ⟨hpossible, rfl⟩ := system_exec he
  exact h past ans hP hpossible

lemma triple_ret {Q : α → List (Deed Op Ans) → Prop} {value : α}
    (h : ∀ past, P past → Q value past) :
    A.discipline.Triple () P (.ret value : Prog Op Ans α) Q :=
  Discipline.Triple.ret stable fun past _ => h past

/-- A loop keeps its invariant. -/
lemma triple_iterate {σ β : Type} {body : σ → Prog Op Ans (σ ⊕ β)}
    {I : σ → List (Deed Op Ans) → Prop} {R : β → List (Deed Op Ans) → Prop}
    (hbody : ∀ s, A.discipline.Triple () (I s) (body s) (Discipline.turned I R)) (s : σ) :
    A.discipline.Triple () (I s) (Prog.iterate body s) R :=
  Discipline.Triple.iterate_of_last (fun _ => stable) (fun _ => stable) hbody
    (fun _ _ _ h => h.2.elim) s

variable [DecidableEq T] {S : System T Op Ans Choice W} {c c' : Config T Op Ans W} {t : T}
  {action : T × Choice} {history : List (T × Deed Op Ans)} {Q : List (Deed Op Ans) → Prop}

/-- What is known of a thread after a history. -/
abbrev Holds (A : Solo Op Ans) (Q : List (Deed Op Ans) → Prop) (t : T)
    (history : List (T × Deed Op Ans)) (c : Config T Op Ans W) : Prop :=
  A.discipline.Holds (fun _ => Q) ⟨own t history, fun _ => c.threads t⟩

omit [DecidableEq T] in
/-- The surroundings can give any answer. -/
lemma exists_choice {op : Op} (ans : Ans op) :
    ∃ choice : (op : Op) → Option (Ans op), choice op = some ans := by
  classical
  exact ⟨fun op' => if h : op = op' then some (h ▸ ans) else none, by simp⟩

/-- **One step of the system** goes on with what is known of the thread, if the thread is the one
that takes it and gets a possible answer, or another one takes it. -/
lemma holds_step (h : A.Holds Q t history c) (hstep : S.step c action = some c')
    (hpossible : ∀ deed, S.performed c action = some (t, deed) → A.possible (own t history) deed) :
    A.Holds Q t (history ++ (S.performed c action).toList) c' := by
  cases stepped hstep with
  | @performed u op next choice ans w hprog hexec =>
    have hperformed := performed_eq hprog hexec
    rw [hperformed, Option.toList_some, Holds, own_append]
    rcases eq_or_ne u t with rfl | hu
    · obtain ⟨choice, hchoice⟩ := exists_choice ans
      have halone : A.system.step ⟨own u history, fun _ => c.threads u⟩ ((), choice) =
          some ⟨own u history ++ [⟨op, ans⟩], fun _ => next ans⟩ := by
        simp only [System.step, hprog, system, hchoice, Option.bind_some,
          if_pos (hpossible _ hperformed), Option.map_some]
        rfl
      simpa using Discipline.Holds.step h halone
    · rw [own_of_ne hu, List.append_nil]
      simpa [Function.update_of_ne hu.symm] using h
  | @turned u σ β body state next choice hprog =>
    rw [performed_loop hprog, Option.toList_none, List.append_nil]
    rcases eq_or_ne u t with rfl | hu
    · have halone : A.system.step ⟨own u history, fun _ => c.threads u⟩ ((), fun _ => none) =
          some ⟨own u history, fun _ => Prog.unfold body state next⟩ := by
        simp only [System.step, hprog]
        rfl
      simpa [Holds] using Discipline.Holds.step h halone
    · simpa [Holds, Function.update_of_ne hu.symm] using h

lemma holds_start (hthread : A.discipline.Triple () P (c.threads t) fun _ => Q) (hinv : A.Inv [])
    (hP : P []) : A.Holds Q t [] c :=
  ⟨hinv, fun _ n => hthread [] hinv hP n⟩

/-- What fits the past of the thread's next operation. -/
lemma fits_of_holds (h : A.Holds Q t history c) {op : Op} {next : Ans op → Prog Op Ans Unit}
    (hnext : c.threads t = .perform op next) : A.fits op (own t history) :=
  (Discipline.Holds.perform h (t := ()) hnext 0).1

/-- What is known of a thread that has ended. -/
lemma ended_of_holds (h : A.Holds Q t history c) (hend : c.threads t = .ret ()) :
    Q (own t history) :=
  Discipline.Holds.ended h (t := ()) hend

end Solo

end Threads
