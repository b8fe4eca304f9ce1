import Mathlib.Data.List.Sort
import Mathlib.Data.List.TakeWhile
import Mathlib.Data.Nat.Notation
import Mathlib.Tactic.Cases

/-!
# Sorted arrays

`QSort` is a sorting routine the way the C library promises it: some permutation of its input in
which no element precedes a smaller one, with no word on elements that compare equal.

`lowerBound` is the halving loop that looks for the first element not below a target, and `scanRun`
the loop that walks the run of equal elements from there.  On an array sorted by a key the two
together find what a linear search for the key finds (`scanRun_lowerBound`).

`CompareSearch` is a search routine the way the C library promises it: on an array that the key
splits into a part below, a part equal and a part above, it finds an equal element if there is one.
-/

namespace SortedArray

variable {α : Type*}

/-! ## Sorting -/

/-- A routine that sorts by the order `le`. -/
structure QSort (le : α → α → Bool) where
  sort : List α → List α
  perm : ∀ xs, (sort xs).Perm xs
  sorted : ∀ xs, (sort xs).Pairwise fun a b => le a b = true

/-- Insertion sort is such a routine for any total order. -/
def QSort.insertion (le : α → α → Bool) (htotal : ∀ a b, le a b = true ∨ le b a = true)
    (htrans : ∀ a b c, le a b = true → le b c = true → le a c = true) : QSort le where
  sort := List.insertionSort fun a b => le a b = true
  perm xs := List.perm_insertionSort _ xs
  sorted xs :=
    have : Std.Total fun a b => le a b = true := ⟨htotal⟩
    have : IsTrans α fun a b => le a b = true := ⟨htrans⟩
    List.pairwise_insertionSort _ xs

/-- On the elements of `xs` the comparator orders any two, and its order is transitive. -/
structure ConsistentOn (compare : α → α → ℤ) (xs : List α) : Prop where
  total : ∀ a ∈ xs, ∀ b ∈ xs, compare a b ≤ 0 ∨ compare b a ≤ 0
  trans : ∀ a ∈ xs, ∀ b ∈ xs, ∀ c ∈ xs, compare a b ≤ 0 → compare b c ≤ 0 → compare a c ≤ 0

/-- A routine that takes the comparator as an argument: it permutes the array, and sorts it where
the comparator is consistent. -/
structure CompareSort (α : Type*) where
  sort : (α → α → ℤ) → List α → List α
  perm : ∀ compare xs, (sort compare xs).Perm xs
  sorted : ∀ compare xs, ConsistentOn compare xs →
    (sort compare xs).Pairwise fun a b => compare a b ≤ 0

lemma pairwise_orderedInsert {compare : α → α → ℤ} {a : α} {xs : List α}
    (hconsistent : ConsistentOn compare (a :: xs)) (h : xs.Pairwise fun b c => compare b c ≤ 0) :
    (xs.orderedInsert (fun b c => compare b c ≤ 0) a).Pairwise fun b c => compare b c ≤ 0 := by
  induction xs with
  | nil => simp
  | cons b xs ih =>
    obtain ⟨hb, hxs⟩ := List.pairwise_cons.mp h
    rw [List.orderedInsert_cons]
    split
    · next hab =>
      refine List.pairwise_cons.mpr ⟨?_, h⟩
      intro c hc
      rcases List.mem_cons.mp hc with rfl | hc
      · exact hab
      · exact hconsistent.trans a (by simp) b (by simp) c (by simp [hc]) hab (hb c hc)
    · next hab =>
      have hba : compare b a ≤ 0 :=
        (hconsistent.total a (by simp) b (by simp)).resolve_left hab
      have hsub : a :: xs ⊆ a :: b :: xs := by
        intro c hc
        rcases List.mem_cons.mp hc with rfl | hc <;> simp_all
      have hrest : ConsistentOn compare (a :: xs) :=
        ⟨fun c hc d hd => hconsistent.total c (hsub hc) d (hsub hd),
          fun c hc d hd e he => hconsistent.trans c (hsub hc) d (hsub hd) e (hsub he)⟩
      refine List.pairwise_cons.mpr ⟨?_, ih hrest hxs⟩
      intro c hc
      rcases (List.mem_orderedInsert _).mp hc with rfl | hc
      · exact hba
      · exact hb c hc

/-- Insertion sort is such a routine. -/
def CompareSort.insertion (α : Type*) : CompareSort α where
  sort compare := List.insertionSort fun a b => compare a b ≤ 0
  perm compare := List.perm_insertionSort _
  sorted compare xs hconsistent := by
    induction xs with
    | nil => simp
    | cons a xs ih =>
      have hrest : ConsistentOn compare xs :=
        ⟨fun b hb c hc => hconsistent.total b (by simp [hb]) c (by simp [hc]),
          fun b hb c hc d hd =>
            hconsistent.trans b (by simp [hb]) c (by simp [hc]) d (by simp [hd])⟩
      have hmem : ∀ b ∈ a :: List.insertionSort (fun b c => compare b c ≤ 0) xs, b ∈ a :: xs := by
        simp [List.mem_insertionSort]
      rw [List.insertionSort_cons]
      exact pairwise_orderedInsert
        ⟨fun b hb c hc => hconsistent.total b (hmem b hb) c (hmem c hc),
          fun b hb c hc d hd =>
            hconsistent.trans b (hmem b hb) c (hmem c hc) d (hmem d hd)⟩ (ih hrest)

/-! ## Searching -/

/-- The halving loop over `[low, high)`. -/
def lowerBoundLoop (below : α → Bool) (xs : List α) : ℕ → ℕ → ℕ → ℕ
  | 0, low, _ => low
  | fuel + 1, low, high =>
      if low < high then
        let middle := low + (high - low) / 2
        if xs[middle]?.any below then lowerBoundLoop below xs fuel (middle + 1) high
        else lowerBoundLoop below xs fuel low middle
      else low

/-- The index the halving loop ends on, started on the whole array.  Every round shortens the
interval, so its length is fuel enough. -/
def lowerBound (below : α → Bool) (xs : List α) : ℕ :=
  lowerBoundLoop below xs xs.length 0 xs.length

/-- Walk the elements `same` holds of and stop at the first hit. -/
def scanRun (same hit : α → Bool) : List α → Option α
  | [] => none
  | x :: xs => if same x then (if hit x then some x else scanRun same hit xs) else none

/-- The elements below the target come first. -/
def Partitioned (below : α → Bool) (xs : List α) : Prop :=
  xs.Pairwise fun a b => below b = true → below a = true

/-- Everything left of `low` is below the target and nothing from `high` on is. -/
structure Between (below : α → Bool) (xs : List α) (low high : ℕ) : Prop where
  le : low ≤ high
  le_length : high ≤ xs.length
  left : ∀ (i : ℕ) (h : i < xs.length), i < low → below xs[i] = true
  right : ∀ (i : ℕ) (h : i < xs.length), high ≤ i → below xs[i] = false

/-- The loop narrows the interval to a point. -/
lemma between_lowerBoundLoop {below : α → Bool} {xs : List α} (hpart : Partitioned below xs)
    {fuel low high : ℕ} (hfuel : high - low ≤ fuel) (h : Between below xs low high) :
    Between below xs (lowerBoundLoop below xs fuel low high)
      (lowerBoundLoop below xs fuel low high) := by
  induction fuel generalizing low high with
  | zero =>
    obtain rfl : low = high := by
      have := h.le
      omega
    exact h
  | succ fuel ih =>
    unfold lowerBoundLoop
    have hlength := h.le_length
    rw [Partitioned, List.pairwise_iff_getElem] at hpart
    by_cases hlt : low < high
    · rw [if_pos hlt]
      have hmid : low + (high - low) / 2 < xs.length := by omega
      simp only [List.getElem?_eq_getElem hmid, Option.any_some]
      split
      · next hbelow =>
        refine ih (by omega) ⟨by omega, hlength, ?_, h.right⟩
        intro i hi hle
        rcases Nat.lt_or_ge i (low + (high - low) / 2) with hlt | hge
        · exact hpart i _ hi hmid hlt hbelow
        · obtain rfl : i = low + (high - low) / 2 := by omega
          exact hbelow
      · next habove =>
        refine ih (by omega) ⟨by omega, by omega, h.left, ?_⟩
        intro i hi hle
        rcases Nat.lt_or_ge (low + (high - low) / 2) i with hlt | hge
        · by_contra hbelow
          exact habove (hpart _ i hmid hi hlt (by simpa using hbelow))
        · obtain rfl : i = low + (high - low) / 2 := by omega
          simpa using habove
    · rw [if_neg hlt]
      obtain rfl : low = high := by
        have := h.le
        omega
      exact h

lemma between_lowerBound {below : α → Bool} {xs : List α} (hpart : Partitioned below xs) :
    Between below xs (lowerBound below xs) (lowerBound below xs) := by
  refine between_lowerBoundLoop hpart (Nat.sub_le _ _) ⟨Nat.zero_le _, Nat.le_refl _, ?_, ?_⟩
  · intro i _ hi
    exact absurd hi (Nat.not_lt_zero i)
  · intro i hi hle
    omega

/-- What is left of the array from the bound on starts after the elements below the target. -/
theorem drop_lowerBound {below : α → Bool} {xs : List α} (hpart : Partitioned below xs) :
    xs.drop (lowerBound below xs) = xs.dropWhile below := by
  have hbound := between_lowerBound hpart
  generalize lowerBound below xs = bound at hbound
  obtain ⟨-, hle, hleft, hright⟩ := hbound
  have hprefix : ∀ x ∈ xs.take bound, below x = true := by
    intro x hx
    obtain ⟨i, hi, rfl⟩ := List.mem_iff_getElem.mp hx
    rw [List.getElem_take]
    rw [List.length_take] at hi
    exact hleft i (by omega) (by omega)
  have hsuffix : ∀ x ∈ xs.drop bound, below x = false := by
    intro x hx
    obtain ⟨i, hi, rfl⟩ := List.mem_iff_getElem.mp hx
    rw [List.getElem_drop]
    rw [List.length_drop] at hi
    exact hright _ (by omega) (Nat.le_add_right _ _)
  conv_rhs => rw [← List.take_append_drop bound xs]
  rw [List.dropWhile_append_of_pos hprefix]
  cases hdrop : xs.drop bound with
  | nil => rfl
  | cons y ys =>
    rw [List.dropWhile_cons_of_neg]
    simp [hsuffix y (by simp [hdrop])]

/-! ## Looking a key up -/

section Lookup

variable {κ : Type*} {lt : κ → κ → Prop} {key : α → κ} {target : κ} {xs : List α}

/-- An array sorted by a key is partitioned by every target. -/
lemma partitioned_of_sorted [DecidableRel lt]
    (hsorted : xs.Pairwise fun a b => ¬ lt (key b) (key a))
    (hlt : ∀ a b c : κ, ¬ lt b a → lt b c → lt a c) (target : κ) :
    Partitioned (fun x => decide (lt (key x) target)) xs := by
  refine hsorted.imp fun {a b} hab hb => ?_
  simp only [decide_eq_true_eq] at hb ⊢
  exact hlt _ _ _ hab hb

/-- Where no key is below the target, the run of the target is a prefix, and walking it is a
linear search. -/
lemma scanRun_eq_find? [DecidableEq κ] (hit : α → Bool)
    (hsorted : xs.Pairwise fun a b => ¬ lt (key b) (key a))
    (htri : ∀ a b : κ, ¬ lt a b → ¬ lt b a → a = b) (hfrom : ∀ x ∈ xs, ¬ lt (key x) target) :
    scanRun (fun x => decide (key x = target)) hit xs =
      xs.find? fun x => decide (key x = target) && hit x := by
  induction xs with
  | nil => rfl
  | cons x xs ih =>
    obtain ⟨hx, hxs⟩ := List.pairwise_cons.mp hsorted
    rw [scanRun]
    by_cases hsame : key x = target
    · rw [if_pos (by simpa using hsame)]
      by_cases hhit : hit x = true
      · rw [if_pos hhit, List.find?_cons_of_pos (by simp [hsame, hhit])]
      · rw [if_neg hhit, List.find?_cons_of_neg (by simp [hhit])]
        exact ih hxs fun y hy => hfrom y (List.mem_cons_of_mem _ hy)
    · -- the walk stops, and no later key is the target's
      rw [if_neg (by simpa using hsame)]
      have habove : lt target (key x) := by
        by_contra hnot
        exact hsame (htri _ _ (hfrom x (by simp)) hnot)
      refine (List.find?_eq_none.mpr ?_).symm
      intro y hy
      have hne : key y ≠ target := by
        rcases List.mem_cons.mp hy with rfl | hy
        · exact hsame
        · intro heq
          exact hx y hy (heq ▸ habove)
      simp [hne]

/-- **The halving loop and the walk find what a linear search finds**: the first element with the
target key that is a hit. -/
theorem scanRun_lowerBound (lt : κ → κ → Prop) [DecidableRel lt] [DecidableEq κ] (key : α → κ)
    (target : κ) (hit : α → Bool)
    (hsorted : xs.Pairwise fun a b => ¬ lt (key b) (key a))
    (hlt : ∀ a b c : κ, ¬ lt b a → lt b c → lt a c) (hirrefl : ∀ a : κ, ¬ lt a a)
    (htri : ∀ a b : κ, ¬ lt a b → ¬ lt b a → a = b) :
    scanRun (fun x => decide (key x = target)) hit
        (xs.drop (lowerBound (fun x => decide (lt (key x) target)) xs)) =
      xs.find? fun x => decide (key x = target) && hit x := by
  rw [drop_lowerBound (partitioned_of_sorted hsorted hlt target)]
  induction xs with
  | nil => rfl
  | cons x xs ih =>
    obtain ⟨hx, hxs⟩ := List.pairwise_cons.mp hsorted
    by_cases hbelow : lt (key x) target
    · -- still below the target: skipped by both
      have hne : key x ≠ target := fun heq => hirrefl target (heq ▸ hbelow)
      rw [List.dropWhile_cons_of_pos (by simpa using hbelow), ih hxs, List.find?_cons_of_neg]
      simp [hne]
    · rw [List.dropWhile_cons_of_neg (by simpa using hbelow)]
      refine scanRun_eq_find? hit hsorted htri fun y hy hylt => ?_
      rcases List.mem_cons.mp hy with rfl | hy
      · exact hbelow hylt
      · exact hbelow (hlt _ _ _ (hx y hy) hylt)

end Lookup

/-! ## Searching with a comparator -/

/-- Seen from the key, the elements below it come first, then those equal to it, then those above.
-/
def Separated (compare : α → α → ℤ) (key : α) (xs : List α) : Prop :=
  xs.Pairwise fun a b =>
    (0 ≤ compare key b → 0 ≤ compare key a) ∧ (0 < compare key b → 0 < compare key a)

/-- A routine that takes the key and the comparator as arguments, and answers the index of an
element that compares equal to the key, or none where no element does. -/
structure CompareSearch (α : Type*) where
  search : (α → α → ℤ) → α → List α → Option ℕ
  sound : ∀ compare key xs i, Separated compare key xs → search compare key xs = some i →
    ∃ x, xs[i]? = some x ∧ compare key x = 0
  complete : ∀ compare key xs, Separated compare key xs → search compare key xs = none →
    ∀ x ∈ xs, compare key x ≠ 0

/-- Halve to the first element not below the key, and look at it. -/
def halvingSearch (compare : α → α → ℤ) (key : α) (xs : List α) : Option ℕ :=
  let low := lowerBound (fun x => decide (0 < compare key x)) xs
  match xs[low]? with
  | some x => if compare key x = 0 then some low else none
  | none => none

/-- That is such a routine. -/
def CompareSearch.halving (α : Type*) : CompareSearch α where
  search := halvingSearch
  sound compare key xs i _ h := by
    unfold halvingSearch at h
    simp only at h
    split at h
    · next x hx =>
      split at h
      · next hzero => exact ⟨x, Option.some.inj h ▸ hx, hzero⟩
      · cases h
    · cases h
  complete compare key xs hsep h x hx hzero := by
    have hpart : Partitioned (fun x => decide (0 < compare key x)) xs :=
      hsep.imp fun {a b} hab hb => by
        simp only [decide_eq_true_eq] at hb ⊢
        exact hab.2 hb
    have hbound := between_lowerBound hpart
    unfold halvingSearch at h
    simp only at h
    generalize lowerBound (fun x => decide (0 < compare key x)) xs = low at h hbound
    obtain ⟨j, hj, rfl⟩ := List.mem_iff_getElem.mp hx
    -- what equals the key is not below it, so the bound is at that element or before it
    have hle : low ≤ j := by
      by_contra hlt
      have hbelow := hbound.left j hj (by omega)
      simp [hzero] at hbelow
    have hlow : low < xs.length := by omega
    rw [List.getElem?_eq_getElem hlow] at h
    have hnotBelow := hbound.right low hlow le_rfl
    have hnotAbove : 0 ≤ compare key xs[low] := by
      rcases Nat.lt_or_eq_of_le hle with hlt | rfl
      · exact ((List.pairwise_iff_getElem.mp hsep) low j hlow hj hlt).1 hzero.ge
      · exact hzero.ge
    simp only [decide_eq_false_iff_not] at hnotBelow
    simp only [ite_eq_right_iff, reduceCtorEq, imp_false] at h
    omega

end SortedArray
