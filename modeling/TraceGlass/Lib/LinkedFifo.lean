import Mathlib.Data.List.Nodup
import Mathlib.Data.Nat.Notation
import Mathlib.Logic.Function.Basic
import Mathlib.Tactic.TypeStar

/-!
# Queues of linked blocks

A heap gives the block at each allocated address; a block holds a value and a pointer to the next
one, `none` for `NULL`.  `Linked heap head tail xs` says that the blocks from `head` on hold `xs`,
each at an address of its own, and that `tail` is the last of them.

`Linked.push_nil`, `Linked.push_cons`, `Linked.pop` and `Linked.eq_nil` are the four things a queue
with a head and a tail pointer does to its blocks, read as operations on the list.
-/

namespace LinkedFifo

variable {α : Type*}

/-- An allocated block. -/
structure Node (α : Type*) where
  value : α
  next : Option ℕ

/-- The allocated blocks, by address. -/
abbrev Heap (α : Type*) := ℕ → Option (Node α)

/-- Write a block's next pointer. -/
def setNext (heap : Heap α) (address : ℕ) (next : Option ℕ) : Heap α :=
  Function.update heap address ((heap address).map fun node => { node with next := next })

/-- From `start` the blocks at `as` follow each other and hold `xs`; the last one points to
`NULL`. -/
inductive Chain (heap : Heap α) : Option ℕ → List ℕ → List α → Prop
  | nil : Chain heap none [] []
  | cons {a : ℕ} {next : Option ℕ} {as : List ℕ} {x : α} {xs : List α}
      (hnode : heap a = some ⟨x, next⟩) (hrest : Chain heap next as xs) :
      Chain heap (some a) (a :: as) (x :: xs)

namespace Chain

variable {heap heap' : Heap α} {start : Option ℕ} {as : List ℕ} {xs : List α}

/-- A chain only depends on its own blocks. -/
lemma congr (h : Chain heap start as xs) (hsame : ∀ a ∈ as, heap' a = heap a) :
    Chain heap' start as xs := by
  induction h with
  | nil => exact .nil
  | @cons a next as x xs hnode _ ih =>
    refine .cons ?_ (ih fun b hb => hsame b (List.mem_cons_of_mem _ hb))
    rw [hsame a (by simp), hnode]

/-- A free address is not on a chain. -/
lemma ne_of_free (h : Chain heap start as xs) {a b : ℕ} (hb : heap b = none) (ha : a ∈ as) :
    a ≠ b := by
  induction h with
  | nil => simp at ha
  | cons hnode _ ih =>
    rcases List.mem_cons.mp ha with rfl | ha
    · rintro rfl
      simp [hb] at hnode
    · exact ih ha

/-- Link a new block behind the last one. -/
lemma snoc {t a : ℕ} (x : α) (h : Chain heap start as xs) (hnodup : as.Nodup)
    (hlast : as.getLast? = some t) (hfree : heap a = none) :
    Chain (setNext (Function.update heap a (some ⟨x, none⟩)) t (some a)) start (as ++ [a])
      (xs ++ [x]) := by
  induction h with
  | nil => simp at hlast
  | @cons b next as y xs hnode hrest ih =>
    have hba : b ≠ a := (Chain.cons hnode hrest).ne_of_free hfree (by simp)
    cases hrest with
    | nil =>
      -- the last block itself: its pointer is the one that is written
      obtain rfl : b = t := by simpa using hlast
      refine .cons ?_ (.cons ?_ .nil)
      · simp [setNext, Function.update_of_ne hba, hnode]
      · simp [setNext, Function.update_of_ne hba.symm]
    | @cons c next as z xs hnode' hrest' =>
      have hlast' : (c :: as).getLast? = some t := by
        simpa [List.getLast?_cons_cons] using hlast
      have hbt : b ≠ t := by
        rintro rfl
        exact (List.nodup_cons.mp hnodup).1 (List.mem_of_getLast? hlast')
      refine .cons ?_ (ih (List.nodup_cons.mp hnodup).2 hlast')
      simpa [setNext, Function.update_of_ne hbt, Function.update_of_ne hba] using hnode

end Chain

/-- The queue between `head` and `tail` holds `xs`. -/
def Linked (heap : Heap α) (head tail : Option ℕ) (xs : List α) : Prop :=
  ∃ as, Chain heap head as xs ∧ as.Nodup ∧ as.getLast? = tail

namespace Linked

variable {heap : Heap α} {head tail : Option ℕ} {xs : List α}

lemma empty (heap : Heap α) : Linked heap none none [] := ⟨[], .nil, List.nodup_nil, rfl⟩

/-- No head, no elements. -/
lemma eq_nil (h : Linked heap none tail xs) : xs = [] := by
  obtain ⟨as, hchain, -, -⟩ := h
  cases hchain
  rfl

/-- Without a tail the queue is empty, and the new block becomes both its ends. -/
lemma push_nil {a : ℕ} (x : α) (h : Linked heap head none xs) :
    xs = [] ∧ Linked (Function.update heap a (some ⟨x, none⟩)) (some a) (some a) [x] := by
  obtain ⟨as, hchain, -, hlast⟩ := h
  obtain rfl := List.getLast?_eq_none_iff.mp hlast
  cases hchain
  exact ⟨rfl, [a], .cons (by simp) .nil, List.nodup_singleton a, rfl⟩

/-- Otherwise the new block goes behind the tail. -/
lemma push_cons {t a : ℕ} (x : α) (h : Linked heap head (some t) xs) (hfree : heap a = none) :
    Linked (setNext (Function.update heap a (some ⟨x, none⟩)) t (some a)) head (some a)
      (xs ++ [x]) := by
  obtain ⟨as, hchain, hnodup, hlast⟩ := h
  refine ⟨as ++ [a], hchain.snoc x hnodup hlast hfree, ?_, by simp⟩
  refine List.nodup_append.mpr ⟨hnodup, List.nodup_singleton a, ?_⟩
  intro b hb c hc
  rw [List.mem_singleton.mp hc]
  exact hchain.ne_of_free hfree hb

/-- The block at the head holds the first element; without it the queue holds the rest, and the
tail stays unless nothing is left. -/
lemma pop {a : ℕ} (h : Linked heap (some a) tail xs) :
    ∃ x next rest, heap a = some ⟨x, next⟩ ∧ xs = x :: rest ∧
      Linked (Function.update heap a none) next (if next = none then none else tail) rest := by
  obtain ⟨as, hchain, hnodup, hlast⟩ := h
  cases hchain with
  | @cons _ next as x rest hnode hrest =>
    refine ⟨x, next, rest, hnode, rfl, as, ?_, (List.nodup_cons.mp hnodup).2, ?_⟩
    · refine hrest.congr fun b hb => Function.update_of_ne ?_ _ _
      rintro rfl
      exact (List.nodup_cons.mp hnodup).1 hb
    · cases hrest with
      | nil => rfl
      | cons => simpa [List.getLast?_cons_cons] using hlast

end Linked

end LinkedFifo
