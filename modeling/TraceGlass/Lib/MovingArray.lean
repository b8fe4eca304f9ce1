import Mathlib.Data.List.Basic
import Mathlib.Data.Nat.Notation
import Mathlib.Logic.Function.Basic
import Mathlib.Order.Nat

/-!
# An array that moves when it grows

The elements lie in one of the numbered buffers of a heap.  `push` writes behind the last element,
in place; `grow` copies the elements to the buffer with the next number and frees the one they were
in.  A `Ref` names a buffer and an index, and is not told when the array moves.

`Denotes` is the reference that still leads to its element, and `Dangles` the one whose buffer is
freed.  The first holds until the array grows, and the second from then on, since a number is never
used again.
-/

/-- The live buffers of the heap by their numbers, and the array in one of them. -/
structure MovingArray (α : Type*) where
  heap : ℕ → Option (List α)
  current : ℕ
  elements : List α
  live : heap current = some elements
  unused : ∀ buffer, current < buffer → heap buffer = none

namespace MovingArray

variable {α : Type*}

/-- A pointer into an array: the buffer it was taken in and the index. -/
structure Ref where
  buffer : ℕ
  index : ℕ
  deriving DecidableEq

/-- The array in the first buffer. -/
def ofList (elements : List α) : MovingArray α where
  heap := Function.update (fun _ => none) 0 (some elements)
  current := 0
  elements := elements
  live := Function.update_self _ _ _
  unused _ hbuffer := Function.update_of_ne hbuffer.ne' _ _

/-- The reference to the element at `index`. -/
def ref (array : MovingArray α) (index : ℕ) : Ref := ⟨array.current, index⟩

/-- What is read through a reference; nothing can be read from a buffer that is not live. -/
def lookup (array : MovingArray α) (r : Ref) : Option α :=
  (array.heap r.buffer).bind fun elements => elements[r.index]?

/-- Write behind the last element. -/
def push (array : MovingArray α) (x : α) : MovingArray α where
  heap := Function.update array.heap array.current (some (array.elements ++ [x]))
  current := array.current
  elements := array.elements ++ [x]
  live := Function.update_self _ _ _
  unused _ hbuffer := by rw [Function.update_of_ne hbuffer.ne', array.unused _ hbuffer]

/-- Move to the next buffer and free the one the elements were in. -/
def grow (array : MovingArray α) : MovingArray α where
  heap := Function.update (Function.update array.heap (array.current + 1) (some array.elements))
    array.current none
  current := array.current + 1
  elements := array.elements
  live := by
    rw [Function.update_of_ne (Nat.succ_ne_self _), Function.update_self]
  unused buffer hbuffer := by
    have hcurrent : array.current < buffer := Nat.lt_of_succ_lt hbuffer
    rw [Function.update_of_ne hcurrent.ne', Function.update_of_ne hbuffer.ne',
      array.unused _ hcurrent]

variable {array : MovingArray α} {r : Ref} {x : α}

@[simp] lemma elements_push (y : α) : (array.push y).elements = array.elements ++ [y] := rfl

@[simp] lemma elements_grow : array.grow.elements = array.elements := rfl

/-! ## References -/

/-- The reference leads to this element of the array. -/
structure Denotes (array : MovingArray α) (r : Ref) (x : α) : Prop where
  buffer : r.buffer = array.current
  index : array.elements[r.index]? = some x

/-- The reference leads to a buffer that was freed. -/
structure Dangles (array : MovingArray α) (r : Ref) : Prop where
  past : r.buffer < array.current
  freed : array.heap r.buffer = none

lemma denotes_ref {index : ℕ} (h : array.elements[index]? = some x) :
    Denotes array (array.ref index) x :=
  ⟨rfl, h⟩

lemma Denotes.lookup (h : Denotes array r x) : array.lookup r = some x := by
  rw [MovingArray.lookup, h.buffer, array.live]
  exact h.index

lemma Dangles.lookup (h : Dangles array r) : array.lookup r = none := by
  rw [MovingArray.lookup, h.freed]
  rfl

/-- Elements pushed later lie behind the one denoted. -/
lemma Denotes.push (h : Denotes array r x) (y : α) : Denotes (array.push y) r x where
  buffer := h.buffer
  index := by
    rw [elements_push, List.getElem?_append_left (List.getElem?_eq_some_iff.mp h.index).1, h.index]

/-- Growing leaves the reference behind. -/
lemma Denotes.grow (h : Denotes array r x) : Dangles array.grow r where
  past := by
    rw [h.buffer]
    exact Nat.lt_succ_self _
  freed := by
    rw [h.buffer]
    exact Function.update_self _ _ _

lemma Dangles.push (h : Dangles array r) (y : α) : Dangles (array.push y) r where
  past := h.past
  freed := by
    show Function.update array.heap array.current _ r.buffer = none
    rw [Function.update_of_ne h.past.ne, h.freed]

lemma Dangles.grow (h : Dangles array r) : Dangles array.grow r where
  past := Nat.lt_succ_of_lt h.past
  freed := by
    have hnext : r.buffer < array.current + 1 := Nat.lt_succ_of_lt h.past
    show Function.update (Function.update array.heap (array.current + 1) _) array.current none
      r.buffer = none
    rw [Function.update_of_ne h.past.ne, Function.update_of_ne hnext.ne, h.freed]

end MovingArray
