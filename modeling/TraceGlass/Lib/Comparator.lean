import TraceGlass.Lib.SortedArray
import Mathlib.Data.List.Perm.Basic

/-!
# Comparators

A comparator answers a negative number, zero or a positive one, and a sorting routine relies on its
answers fitting together.  `Lawful` says that they do on the elements that meet a condition; it is
closed under comparing an image, under turning the order around and under falling back to a second
comparator where the first one answers zero, which is how such functions are put together.

Where in addition only equal elements compare equal, an array has one sorted order
(`eq_of_perm_of_sorted`).
-/

namespace Comparator

variable {α β : Type*} {p : α → Prop} {compare second : α → α → ℤ}

/-- On the elements that meet `p`, swapping the arguments turns the sign around, and the order is
transitive. -/
structure Lawful (p : α → Prop) (compare : α → α → ℤ) : Prop where
  swap : ∀ a b, p a → p b → compare b a = -compare a b
  trans : ∀ a b c, p a → p b → p c → compare a b ≤ 0 → compare b c ≤ 0 → compare a c ≤ 0

/-- The second comparator decides where the first one does not. -/
def lexicographic (compare second : α → α → ℤ) (a b : α) : ℤ :=
  if compare a b = 0 then second a b else compare a b

namespace Lawful

variable {a b c : α}

lemma lt_of_lt_of_le (h : Lawful p compare) (ha : p a) (hb : p b) (hc : p c)
    (hab : compare a b < 0) (hbc : compare b c ≤ 0) : compare a c < 0 := by
  by_contra hac
  have hca : compare c a ≤ 0 := by
    rw [h.swap a c ha hc]
    omega
  have hba := h.trans b c a hb hc ha hbc hca
  rw [h.swap a b ha hb] at hba
  omega

lemma lt_of_le_of_lt (h : Lawful p compare) (ha : p a) (hb : p b) (hc : p c)
    (hab : compare a b ≤ 0) (hbc : compare b c < 0) : compare a c < 0 := by
  by_contra hac
  have hca : compare c a ≤ 0 := by
    rw [h.swap a c ha hc]
    omega
  have hcb := h.trans c a b hc ha hb hca hab
  rw [h.swap b c hb hc] at hcb
  omega

/-- Falling back to a second comparator. -/
lemma lexicographic (h : Lawful p compare) (h' : Lawful p second) :
    Lawful p (lexicographic compare second) where
  swap a b ha hb := by
    have hswap := h.swap a b ha hb
    simp only [Comparator.lexicographic]
    split <;> split
    · exact h'.swap a b ha hb
    · omega
    · omega
    · exact hswap
  trans a b c ha hb hc hab hbc := by
    simp only [Comparator.lexicographic] at hab hbc ⊢
    split at hab
    · next habz =>
      split at hbc
      · next hbcz =>
        -- both tie, so the ends do, and the second comparator decides throughout
        have hac : compare a c = 0 := by
          have hle := h.trans a b c ha hb hc habz.le hbcz.le
          have hba := h.swap a b ha hb
          have hcb := h.swap b c hb hc
          have hge := h.trans c b a hc hb ha (by omega) (by omega)
          rw [h.swap a c ha hc] at hge
          omega
        rw [if_pos hac]
        exact h'.trans a b c ha hb hc hab hbc
      · have hac := h.lt_of_le_of_lt ha hb hc habz.le (by omega)
        rw [if_neg (by omega)]
        exact hac.le
    · have hbcle : compare b c ≤ 0 := by
        split at hbc <;> omega
      have hac := h.lt_of_lt_of_le ha hb hc (by omega) hbcle
      rw [if_neg (by omega)]
      exact hac.le

/-- The order turned around. -/
lemma neg (h : Lawful p compare) : Lawful p fun a b => -compare a b where
  swap a b ha hb := by rw [h.swap a b ha hb]
  trans a b c ha hb hc hab hbc := by
    have hba := h.swap a b ha hb
    have hcb := h.swap b c hb hc
    have hca := h.trans c b a hc hb ha (by omega) (by omega)
    rw [h.swap a c ha hc] at hca
    omega

/-- Comparing images. -/
lemma comap (h : Lawful p compare) (f : β → α) :
    Lawful (fun b => p (f b)) fun a b => compare (f a) (f b) where
  swap a b ha hb := h.swap (f a) (f b) ha hb
  trans a b c ha hb hc := h.trans (f a) (f b) (f c) ha hb hc

/-- A comparator that agrees on fewer elements. -/
lemma congr {q : α → Prop} (h : Lawful p compare) (hq : ∀ a, q a → p a)
    (hsame : ∀ a b, q a → q b → second a b = compare a b) : Lawful q second where
  swap a b ha hb := by
    rw [hsame a b ha hb, hsame b a hb ha]
    exact h.swap a b (hq a ha) (hq b hb)
  trans a b c ha hb hc := by
    rw [hsame a b ha hb, hsame b c hb hc, hsame a c ha hc]
    exact h.trans a b c (hq a ha) (hq b hb) (hq c hc)

/-- A sorting routine can rely on it. -/
lemma consistentOn (h : Lawful p compare) {xs : List α} (hxs : ∀ x ∈ xs, p x) :
    SortedArray.ConsistentOn compare xs where
  total a ha b hb := by
    have hswap := h.swap a b (hxs a ha) (hxs b hb)
    omega
  trans a ha b hb c hc := h.trans a b c (hxs a ha) (hxs b hb) (hxs c hc)

/-- Every key splits a sorted array into what is below it, equal to it and above it. -/
lemma separated (h : Lawful p compare) {xs : List α} (hxs : ∀ x ∈ xs, p x) {key : α} (hkey : p key)
    (hsorted : xs.Pairwise fun a b => compare a b ≤ 0) :
    SortedArray.Separated compare key xs := by
  refine hsorted.imp_of_mem fun {a b} ha hb hab => ⟨fun hge => ?_, fun hgt => ?_⟩
  · have hbk := h.swap key b hkey (hxs b hb)
    have hak := h.trans a b key (hxs a ha) (hxs b hb) hkey hab (by omega)
    rw [h.swap key a hkey (hxs a ha)] at hak
    omega
  · have hbk := h.swap key b hkey (hxs b hb)
    have hak := h.lt_of_le_of_lt (hxs a ha) (hxs b hb) hkey hab (by omega)
    rw [h.swap key a hkey (hxs a ha)] at hak
    omega

end Lawful

/-- Searching a sorted array finds exactly its elements, where only equal elements compare equal. -/
theorem isSome_search_iff (h : Lawful p compare) (searcher : SortedArray.CompareSearch α)
    {xs : List α} (hxs : ∀ x ∈ xs, p x) {key : α} (hkey : p key)
    (hequal : ∀ x ∈ xs, compare key x = 0 ↔ key = x)
    (hsorted : xs.Pairwise fun a b => compare a b ≤ 0) :
    (searcher.search compare key xs).isSome = true ↔ key ∈ xs := by
  have hsep := h.separated hxs hkey hsorted
  constructor
  · intro hsome
    obtain ⟨i, hi⟩ := Option.isSome_iff_exists.mp hsome
    obtain ⟨x, hx, hzero⟩ := searcher.sound compare key xs i hsep hi
    have hmem := List.mem_of_getElem? hx
    rwa [(hequal x hmem).mp hzero]
  · intro hmem
    rw [Option.isSome_iff_ne_none]
    intro hnone
    exact searcher.complete compare key xs hsep hnone key hmem ((hequal key hmem).mpr rfl)

/-- Answering by an ordered key. -/
lemma lawful_of_key {κ : Type*} [LinearOrder κ] (key : α → κ)
    (hle : ∀ a b, compare a b ≤ 0 ↔ key a ≤ key b) (hge : ∀ a b, compare b a = -compare a b) :
    Lawful (fun _ => True) compare where
  swap a b _ _ := hge a b
  trans a b c _ _ _ hab hbc := (hle a c).mpr (((hle a b).mp hab).trans ((hle b c).mp hbc))

/-- An array has one sorted order, where only equal elements compare equal. -/
lemma eq_of_perm_of_sorted (hswap : Lawful p compare) {xs ys : List α} (hperm : xs.Perm ys)
    (hp : ∀ x ∈ xs, p x) (hinjective : ∀ a b, p a → p b → compare a b = 0 → a = b)
    (hxs : xs.Pairwise fun a b => compare a b ≤ 0)
    (hys : ys.Pairwise fun a b => compare a b ≤ 0) : xs = ys := by
  refine List.Perm.eq_of_pairwise ?_ hxs hys hperm
  intro a b ha hb hab hba
  have hpb := hp b (hperm.mem_iff.mpr hb)
  rw [hswap.swap a b (hp a ha) hpb] at hba
  exact hinjective a b (hp a ha) hpb (by omega)

end Comparator
