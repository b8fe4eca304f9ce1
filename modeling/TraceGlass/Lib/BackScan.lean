import Mathlib.Data.List.Induction
import Mathlib.Data.Nat.Notation
import Mathlib.Tactic.TypeStar

/-!
# Scanning an array from its end, with a preferred and a fallback match

The loop walks the indices `n - 1, …, 0`.  It returns at the first element that is a `hit`, and
otherwise answers the first element it met that was worth keeping.  So a hit anywhere in the array
wins over every kept element, and among equals the last one wins.

`Outcome` says what the loop can answer, as a split of the list around the element found;
`outcome_backScan` and `Outcome.eq_backScan` say that the loop answers exactly that, and
`backScan_map` moves a scan along a map.
-/

namespace BackScan

variable {α β : Type*}

/-- The loop at index `n`, with the element kept so far. -/
def scan (hit keep : α → Bool) (xs : List α) : ℕ → Option ℕ → Option ℕ
  | 0, kept => kept
  | n + 1, kept =>
      match xs[n]? with
      | none => scan hit keep xs n kept
      | some x =>
          if hit x then some n
          else if keep x && kept.isNone then scan hit keep xs n (some n)
          else scan hit keep xs n kept

/-- The whole loop: start past the last element with nothing kept. -/
def backScan (hit keep : α → Bool) (xs : List α) : Option ℕ :=
  scan hit keep xs xs.length none

/-- What a scan may answer, split around the element it stands on. -/
inductive Outcome (hit keep : α → Bool) : List α → Option ℕ → Prop
  /-- The last hit of the list. -/
  | hit {l r : List α} {x : α} (hx : hit x = true) (hlast : ∀ y ∈ r, hit y = false) :
      Outcome hit keep (l ++ x :: r) (some l.length)
  /-- No hit at all, and the last element worth keeping. -/
  | kept {l r : List α} {x : α} (hnone : ∀ y ∈ l ++ x :: r, hit y = false)
      (hx : keep x = true) (hlast : ∀ y ∈ r, keep y = false) :
      Outcome hit keep (l ++ x :: r) (some l.length)
  /-- Neither. -/
  | missing {xs : List α} (hnone : ∀ y ∈ xs, hit y = false) (hkeep : ∀ y ∈ xs, keep y = false) :
      Outcome hit keep xs none

variable {hit keep : α → Bool}

/-! ## The loop answers the outcome -/

/-- What the kept index says about the elements `r` already walked over: nothing in `r` was worth
keeping, or the index points at the last element of `r` that was. -/
def KeptIn (keep : α → Bool) (l r : List α) : Option ℕ → Prop
  | none => ∀ y ∈ r, keep y = false
  | some k => ∃ m x r', r = m ++ x :: r' ∧ k = l.length + m.length ∧ keep x = true ∧
      ∀ y ∈ r', keep y = false

/-- The loop invariant: `r` is walked over without a hit and `kept` describes it. -/
lemma outcome_scan (l r : List α) (kept : Option ℕ) (hr : ∀ y ∈ r, hit y = false)
    (hkept : KeptIn keep l r kept) :
    Outcome hit keep (l ++ r) (scan hit keep (l ++ r) l.length kept) := by
  induction l using List.reverseRecOn generalizing r kept with
  | nil =>
    rw [List.length_nil, scan]
    cases kept with
    | none => exact .missing hr hkept
    | some k =>
      obtain ⟨m, x, r', rfl, rfl, hx, hlast⟩ := hkept
      simpa using Outcome.kept (l := m) hr hx hlast
  | append_singleton l x ih =>
    have hget : (l ++ [x] ++ r)[l.length]? = some x := by simp
    rw [List.length_append, List.length_singleton, scan, hget]
    simp only [List.append_assoc, List.singleton_append]
    by_cases hx : hit x = true
    · rw [if_pos hx]
      exact .hit hx hr
    · rw [if_neg hx]
      have hr' : ∀ y ∈ x :: r, hit y = false := by
        intro y hy
        rcases List.mem_cons.mp hy with rfl | hy
        · simpa using hx
        · exact hr y hy
      by_cases hk : (keep x && kept.isNone) = true
      · rw [if_pos hk]
        obtain ⟨hkx, hnone⟩ := Bool.and_eq_true_iff.mp hk
        rw [Option.isNone_iff_eq_none] at hnone
        subst hnone
        exact ih (x :: r) _ hr' ⟨[], x, r, rfl, by simp, hkx, hkept⟩
      · rw [if_neg hk]
        refine ih (x :: r) _ hr' ?_
        cases kept with
        | none =>
          intro y hy
          rcases List.mem_cons.mp hy with rfl | hy
          · simpa using hk
          · exact hkept y hy
        | some k =>
          obtain ⟨m, z, r', rfl, rfl, hz, hlast⟩ := hkept
          exact ⟨x :: m, z, r', rfl, by simp; omega, hz, hlast⟩

/-- **The scan answers its outcome.** -/
theorem outcome_backScan (hit keep : α → Bool) (xs : List α) :
    Outcome hit keep xs (backScan hit keep xs) := by
  have h := @outcome_scan _ hit keep xs [] none (by simp) (by simp [KeptIn])
  simpa [backScan] using h

/-! ## The outcome is unique -/

/-- Two splits of one list around an element that satisfies `p`, with nothing after it that does,
are the same split. -/
lemma split_last_unique {p : α → Bool} {l l' r r' : List α} {x x' : α}
    (h : l ++ x :: r = l' ++ x' :: r') (hx : p x = true) (hx' : p x' = true)
    (hr : ∀ y ∈ r, p y = false) (hr' : ∀ y ∈ r', p y = false) : l = l' ∧ x = x' ∧ r = r' := by
  rcases List.append_eq_append_iff.mp h with ⟨m, rfl, hm⟩ | ⟨m, rfl, hm⟩
  · cases m with
    | nil => simpa using hm
    | cons y m =>
      obtain ⟨rfl, rfl⟩ := List.cons.inj hm
      exact absurd hx' (by simp [hr x' (by simp)])
  · cases m with
    | nil => simpa using hm.symm
    | cons y m =>
      obtain ⟨rfl, rfl⟩ := List.cons.inj hm
      exact absurd hx (by simp [hr' x (by simp)])

private lemma not_split_of_none {p : α → Bool} {xs l r : List α} {x : α}
    (hnone : ∀ y ∈ xs, p y = false) (hx : p x = true) : xs ≠ l ++ x :: r := by
  rintro rfl
  have := hnone x (by simp)
  simp [hx] at this

theorem Outcome.unique {xs : List α} {o o' : Option ℕ} (h : Outcome hit keep xs o)
    (h' : Outcome hit keep xs o') : o = o' := by
  generalize hys : xs = ys at h'
  cases h with
  | hit hx hlast =>
    cases h' with
    | hit hx' hlast' => rw [(split_last_unique hys hx hx' hlast hlast').1]
    | kept hnone => exact absurd hys.symm (not_split_of_none hnone hx)
    | missing hnone => exact absurd hys.symm (not_split_of_none hnone hx)
  | kept hnone hx hlast =>
    cases h' with
    | hit hx' => exact absurd hys (not_split_of_none hnone hx')
    | kept _ hx' hlast' => rw [(split_last_unique hys hx hx' hlast hlast').1]
    | missing _ hkeep => exact absurd hys.symm (not_split_of_none hkeep hx)
  | missing hnone hkeep =>
    cases h' with
    | hit hx' => exact absurd hys (not_split_of_none hnone hx')
    | kept _ hx' => exact absurd hys (not_split_of_none hkeep hx')
    | missing => rfl

theorem Outcome.eq_backScan {xs : List α} {o : Option ℕ} (h : Outcome hit keep xs o) :
    backScan hit keep xs = o :=
  (outcome_backScan hit keep xs).unique h

/-! ## Scanning an image -/

/-- Scanning the image of a list is scanning the list with the tests pulled back. -/
theorem backScan_map {hit keep : β → Bool} (f : α → β) (xs : List α) :
    backScan hit keep (xs.map f) = backScan (hit ∘ f) (keep ∘ f) xs := by
  have hscan : ∀ n kept, scan hit keep (xs.map f) n kept = scan (hit ∘ f) (keep ∘ f) xs n kept := by
    intro n
    induction n with
    | zero => exact fun _ => rfl
    | succ n ih =>
      intro kept
      simp only [scan, List.getElem?_map, ih]
      cases xs[n]? <;> rfl
  rw [backScan, backScan, List.length_map, hscan]

end BackScan
