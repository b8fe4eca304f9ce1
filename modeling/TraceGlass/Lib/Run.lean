import Mathlib.Data.List.Induction
import Mathlib.Data.Nat.Notation
import Mathlib.Tactic.TypeStar

/-!
# Runs of a machine

A machine is either a total step function `σ → α → σ`, whose run on a list of inputs is
`List.foldl`, or a partial one `σ → α → Option σ`, whose disabled inputs answer `none`.

`Along` is a condition met by every step of a total run, and `Along.invariant` is the induction
rule it is for.  `run` is the run of a partial machine; `run_invariant` carries a property of the
state, and `run_trace_invariant` a property of the state together with the inputs taken so far.
-/

namespace Machine

variable {σ α : Type*}

/-! ## Total machines -/

/-- Every step of the run of `step` from `s` on the inputs meets `P`, which sees the state the
input arrives in. -/
def Along (step : σ → α → σ) (P : σ → α → Prop) : σ → List α → Prop
  | _, [] => True
  | s, a :: as => P s a ∧ Along step P (step s a) as

instance Along.decidable (step : σ → α → σ) (P : σ → α → Prop) [∀ s a, Decidable (P s a)] :
    ∀ (as : List α) (s : σ), Decidable (Along step P s as)
  | [], _ => inferInstanceAs (Decidable True)
  | a :: as, s =>
      have := Along.decidable step P as (step s a)
      inferInstanceAs (Decidable (P s a ∧ Along step P (step s a) as))

variable {step : σ → α → σ} {P : σ → α → Prop}

lemma along_append (s : σ) (as bs : List α) :
    Along step P s (as ++ bs) ↔ Along step P s as ∧ Along step P (as.foldl step s) bs := by
  induction as generalizing s with
  | nil => simp [Along]
  | cons a as ih => simp [Along, ih, and_assoc]

lemma along_snoc (s : σ) (as : List α) (a : α) :
    Along step P s (as ++ [a]) ↔ Along step P s as ∧ P (as.foldl step s) a := by
  simp [along_append, Along]

/-- A property kept by every step that meets `P` holds at the end of a run all of whose steps
meet `P`. -/
lemma Along.invariant {I : σ → Prop} (hstep : ∀ s a, I s → P s a → I (step s a))
    {s : σ} {as : List α} (h : Along step P s as) (hs : I s) : I (as.foldl step s) := by
  induction as generalizing s with
  | nil => exact hs
  | cons a as ih => exact ih h.2 (hstep s a hs h.1)

/-- The condition of a machine seen through a map that carries the steps of another one to its own.
-/
lemma along_comap {τ : Type*} {step' : τ → α → τ} (f : τ → σ)
    (hf : ∀ t a, f (step' t a) = step (f t) a) {t : τ} {as : List α} :
    Along step' (fun t => P (f t)) t as ↔ Along step P (f t) as := by
  induction as generalizing t with
  | nil => rfl
  | cons a as ih => rw [Along, Along, ih, hf]

/-- A property `I` that a step keeps exactly if it meets `P`, and a property `J` that the others
lead to and no step leaves: the run has kept `I` if all its steps met `P`, and is in `J` otherwise.
-/
lemma along_or_left {I J : σ → Prop} (hkeep : ∀ s a, I s → P s a → I (step s a))
    (hleave : ∀ s a, I s → ¬P s a → J (step s a)) (hstay : ∀ s a, J s → J (step s a)) {s : σ}
    (hs : I s) (as : List α) :
    (Along step P s as ∧ I (as.foldl step s)) ∨ (¬Along step P s as ∧ J (as.foldl step s)) := by
  induction as generalizing s with
  | nil => exact Or.inl ⟨trivial, hs⟩
  | cons a as ih =>
    by_cases ha : P s a
    · rcases ih (hkeep s a hs ha) with ⟨hrest, hI⟩ | ⟨hrest, hJ⟩
      · exact Or.inl ⟨⟨ha, hrest⟩, hI⟩
      · exact Or.inr ⟨fun h => hrest h.2, hJ⟩
    · exact Or.inr ⟨fun h => ha h.1,
        List.foldlRecOn as step (hleave s a hs ha) fun t ht b _ => hstay t b ht⟩

/-! ## Partial machines -/

/-- The run of a partial machine; `none` when one of the inputs is disabled where it arrives. -/
def run (step : σ → α → Option σ) : σ → List α → Option σ
  | s, [] => some s
  | s, a :: as => (step s a).bind fun t => run step t as

variable {pstep : σ → α → Option σ}

lemma run_append (s : σ) (as bs : List α) :
    run pstep s (as ++ bs) = (run pstep s as).bind fun t => run pstep t bs := by
  induction as generalizing s with
  | nil => rfl
  | cons a as ih =>
    simp only [List.cons_append, run]
    cases pstep s a with
    | none => rfl
    | some t => exact ih t

lemma run_snoc_eq_some {s u : σ} {as : List α} {a : α} :
    run pstep s (as ++ [a]) = some u ↔ ∃ t, run pstep s as = some t ∧ pstep t a = some u := by
  rw [run_append, Option.bind_eq_some_iff]
  simp [run]

/-- A property of the inputs taken so far and the state, kept by every enabled step. -/
lemma run_trace_invariant {I : List α → σ → Prop} {s t : σ} {as : List α}
    (hrun : run pstep s as = some t) (hs : I [] s)
    (hstep : ∀ pre u a v, I pre u → a ∈ as → pstep u a = some v → I (pre ++ [a]) v) :
    I as t := by
  induction as using List.reverseRecOn generalizing t with
  | nil => rw [← Option.some.inj hrun]; exact hs
  | append_singleton as a ih =>
    obtain ⟨u, hu, ha⟩ := run_snoc_eq_some.mp hrun
    refine hstep as u a t (ih hu ?_) (by simp) ha
    intro pre u a v hI hmem hv
    exact hstep pre u a v hI (List.mem_append_left _ hmem) hv

/-- A property of the state kept by every enabled step whose input meets `ok`. -/
lemma run_invariant {I : σ → Prop} {ok : α → Prop} {s t : σ} {as : List α}
    (hrun : run pstep s as = some t) (hok : ∀ a ∈ as, ok a) (hs : I s)
    (hstep : ∀ u a v, I u → ok a → pstep u a = some v → I v) : I t :=
  run_trace_invariant (I := fun _ => I) hrun hs
    fun _ u a v hu hmem hv => hstep u a v hu (hok a hmem) hv

/-- A property of the state kept by every enabled step. -/
lemma run_kept {I : σ → Prop} {s t : σ} {as : List α} (hrun : run pstep s as = some t) (hs : I s)
    (hstep : ∀ u a v, I u → pstep u a = some v → I v) : I t :=
  run_trace_invariant (I := fun _ => I) hrun hs fun _ u a v hu _ hv => hstep u a v hu hv

/-- The machine with the inputs that do not meet `P` where they arrive disabled as well. -/
def restrict (P : σ → α → Prop) [∀ s a, Decidable (P s a)] (pstep : σ → α → Option σ) (s : σ)
    (a : α) : Option σ :=
  if P s a then pstep s a else none

lemma restrict_eq_some [∀ s a, Decidable (P s a)] {s t : σ} {a : α} :
    restrict P pstep s a = some t ↔ P s a ∧ pstep s a = some t := by
  unfold restrict
  split <;> simp_all

end Machine
