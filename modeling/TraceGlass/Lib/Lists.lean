import Mathlib.Data.List.Induction
import Mathlib.Data.List.Nodup
import Mathlib.Data.List.Sublists
import Mathlib.Data.Nat.Notation
import Mathlib.Tactic.TypeStar

/-!
# Lists as arrays with identity

Facts about a list in which one element is replaced, about symmetric relations between its
elements, about elements turned over one by one, about interleavings of two lists, and about the
elements that come and go along a sequence of lists without repetition.
-/

namespace ListLib

variable {α β : Type*}

/-! ## Replacing one element -/

/-- An element is the one between `l` and `r`, or one of the others. -/
lemma mem_middle {l r : List α} {s x : α} : x ∈ l ++ s :: r ↔ x = s ∨ x ∈ l ++ r :=
  List.perm_middle.mem_iff.trans List.mem_cons

/-- After the replacement it is the new one, or was there before. -/
lemma mem_replace {l r : List α} {s x : α} (s' : α) (h : x ∈ l ++ s' :: r) :
    x = s' ∨ x ∈ l ++ s :: r :=
  (mem_middle.mp h).imp_right fun h => mem_middle.mpr (Or.inr h)

/-- Replacing the element between `l` and `r` changes what is read at its own index only. -/
lemma getElem?_replace {l r : List α} {s : α} (s' : α) {i : ℕ} {x : α}
    (h : (l ++ s :: r)[i]? = some x) :
    (x = s ∧ (l ++ s' :: r)[i]? = some s') ∨ (l ++ s' :: r)[i]? = some x := by
  rcases Nat.lt_trichotomy i l.length with hi | rfl | hi
  · right
    rw [List.getElem?_append_left hi] at h ⊢
    exact h
  · left
    simpa [eq_comm] using h
  · right
    obtain ⟨k, rfl⟩ := Nat.exists_eq_add_of_lt hi
    simp only [Nat.add_assoc, List.getElem?_append_right (Nat.le_add_right _ _),
      Nat.add_sub_cancel_left, List.getElem?_cons_succ] at h ⊢
    exact h

/-- A symmetric relation between all elements survives the replacement of one of them. -/
lemma pairwise_replace {R : α → α → Prop} (hsymm : ∀ {a b}, R a b → R b a) {l r : List α}
    {s s' : α} (h : (l ++ s :: r).Pairwise R)
    (hs : ∀ y ∈ l ++ r, R s y → R s' y) : (l ++ s' :: r).Pairwise R := by
  rw [List.pairwise_middle hsymm, List.pairwise_cons] at h ⊢
  exact ⟨fun y hy => hs y hy (h.1 y hy), h.2⟩

/-- A symmetric relation between all elements survives the arrival of one more. -/
lemma pairwise_snoc {R : α → α → Prop} (hsymm : ∀ {a b}, R a b → R b a) {l : List α} {s : α}
    (h : l.Pairwise R) (hs : ∀ y ∈ l, R s y) : (l ++ [s]).Pairwise R := by
  rw [List.pairwise_append]
  refine ⟨h, List.pairwise_singleton R s, ?_⟩
  intro y hy z hz
  rw [List.mem_singleton] at hz
  subst hz
  exact hsymm (hs y hy)

/-- Two indices whose elements are not related are the same index. -/
lemma index_eq_of_not_rel {R : α → α → Prop} (hsymm : ∀ {a b}, R a b → R b a) {l : List α}
    (h : l.Pairwise R) {i j : ℕ} {a b : α} (ha : l[i]? = some a) (hb : l[j]? = some b)
    (hab : ¬ R a b) : i = j := by
  obtain ⟨hi, rfl⟩ := List.getElem?_eq_some_iff.mp ha
  obtain ⟨hj, rfl⟩ := List.getElem?_eq_some_iff.mp hb
  rw [List.pairwise_iff_getElem] at h
  rcases Nat.lt_trichotomy i j with hij | hij | hij
  · exact absurd (h i j hi hj hij) hab
  · exact hij
  · exact absurd (hsymm (h j i hj hi hij)) hab

/-- Replacing one element moves a count by the difference between the two elements. -/
lemma countP_set_add {p : α → Bool} {xs : List α} {i : ℕ} {a : α} (b : α)
    (h : xs[i]? = some a) :
    (xs.set i b).countP p + (p a).toNat = xs.countP p + (p b).toNat := by
  obtain ⟨hi, rfl⟩ := List.getElem?_eq_some_iff.mp h
  have hle : (if p xs[i] then 1 else 0) ≤ xs.countP p := List.boole_getElem_le_countP hi
  rw [List.countP_set hi]
  cases hold : p xs[i] <;> cases p b <;> simp_all

/-! ## Turning elements over one by one -/

/-- Each element is related to what it is turned into at its position. -/
lemma forall₂_mapIdx {R : α → β → Prop} {f : ℕ → α → β} (h : ∀ i a, R a (f i a))
    (as : List α) : List.Forall₂ R as (as.mapIdx f) := by
  induction as generalizing f with
  | nil => exact .nil
  | cons a as ih =>
    rw [List.mapIdx_cons]
    exact .cons (h 0 a) (ih fun i b => h (i + 1) b)

/-! ## Interleavings -/

/-- `zs` takes the elements of `xs` and of `ys`, each list in its own order. -/
inductive Interleaves : List α → List α → List α → Prop
  | nil : Interleaves [] [] []
  | left {x : α} {xs ys zs : List α} (h : Interleaves xs ys zs) :
      Interleaves (x :: xs) ys (x :: zs)
  | right {y : α} {xs ys zs : List α} (h : Interleaves xs ys zs) :
      Interleaves xs (y :: ys) (y :: zs)

lemma Interleaves.mem_iff {xs ys zs : List α} (h : Interleaves xs ys zs) {z : α} :
    z ∈ zs ↔ z ∈ xs ∨ z ∈ ys := by
  induction h with
  | nil => simp
  | left _ ih => rw [List.mem_cons, ih, List.mem_cons, or_assoc]
  | right _ ih => rw [List.mem_cons, ih, List.mem_cons, or_left_comm]

lemma Interleaves.filter {xs ys zs : List α} (h : Interleaves xs ys zs) (p : α → Bool) :
    Interleaves (xs.filter p) (ys.filter p) (zs.filter p) := by
  induction h with
  | nil => exact .nil
  | @left x xs ys zs _ ih =>
    simp only [List.filter_cons]
    split
    · exact .left ih
    · exact ih
  | @right y xs ys zs _ ih =>
    simp only [List.filter_cons]
    split
    · exact .right ih
    · exact ih

lemma Interleaves.eq_of_nil {xs zs : List α} (h : Interleaves xs [] zs) : zs = xs := by
  generalize hys : ([] : List α) = ys at h
  induction h with
  | nil => rfl
  | left _ ih => rw [ih hys]
  | right => cases hys

/-! ## Lists without repetition -/

/-- In a list without repetition an element is picked out once or not at all. -/
lemma filter_beq_of_nodup [DecidableEq α] {xs : List α} (h : xs.Nodup) (a : α) :
    xs.filter (· == a) = if a ∈ xs then [a] else [] := by
  rw [List.filter_beq, h.count]
  split <;> rfl

/-! ## Sequences of sets -/

/-- Nothing that is in two of the lists is missing from one between them. -/
def Contiguous (xss : List (List α)) : Prop :=
  ∀ first second third, [first, second, third].Sublist xss →
    ∀ x, x ∈ first → x ∈ third → x ∈ second

lemma contiguous_iff {xss : List (List α)} :
    Contiguous xss ↔ ∀ t ∈ xss.sublistsLen 3,
      ∀ x ∈ t.getD 0 [], x ∈ t.getD 2 [] → x ∈ t.getD 1 [] := by
  constructor
  · intro h t ht
    obtain ⟨hsub, hlength⟩ := List.mem_sublistsLen.mp ht
    obtain ⟨first, second, third, rfl⟩ := List.length_eq_three.mp hlength
    exact h first second third hsub
  · intro h first second third hsub
    exact h _ (List.mem_sublistsLen.mpr ⟨hsub, rfl⟩)

instance [DecidableEq α] (xss : List (List α)) : Decidable (Contiguous xss) :=
  decidable_of_iff _ contiguous_iff.symm

lemma Contiguous.left {xss yss : List (List α)} (h : Contiguous (xss ++ yss)) : Contiguous xss :=
  fun first second third hsub =>
    h first second third (hsub.trans (List.sublist_append_left xss yss))

/-- What is in the next list and was in any before is in the last one. -/
lemma Contiguous.mem_last {xss : List (List α)} {ys : List α} (h : Contiguous (xss ++ [ys]))
    {x : α} (hx : x ∈ ys) {xs : List α} (hxs : xs ∈ xss) (hmem : x ∈ xs) :
    x ∈ xss.getLast?.getD [] := by
  rcases List.eq_nil_or_concat xss with rfl | ⟨init, last, rfl⟩
  · simp at hxs
  · simp only [List.concat_eq_append, List.getLast?_append, List.getLast?_singleton,
      Option.some_or, Option.getD_some] at h hxs ⊢
    rcases List.mem_append.mp hxs with hinit | hlast
    · refine h xs last ys ?_ x hmem hx
      have hsub : [xs].Sublist init := List.singleton_sublist.mpr hinit
      simpa using hsub.append (List.Sublist.refl [last, ys])
    · rw [List.mem_singleton] at hlast
      exact hlast ▸ hmem

end ListLib
