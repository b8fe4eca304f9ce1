import Mathlib.Data.List.Basic
import Mathlib.Data.List.Infix
import Mathlib.Data.Nat.Notation

/-!
# Blocks of memory

A block is the list of its cells; its length never changes.  A store outside the block has no
result, so that a program whose run has one stores inside its blocks only.

`writeAll_starts` is the rule for text that is written from the front: the block starts with what
was written so far.  `resize` is what a reallocation leaves: the old cells as far as they fit, and
behind them cells with any contents.
-/

namespace Block

variable {α : Type*}

/-! ## Stores -/

/-- Store one element. -/
def write (cells : List α) (index : ℕ) (x : α) : Option (List α) :=
  if index < cells.length then some (cells.set index x) else none

/-- Store the elements one behind the other, the first at `index`. -/
def writeAll (cells : List α) (index : ℕ) : List α → Option (List α)
  | [] => some cells
  | x :: xs => (write cells index x).bind fun cells => writeAll cells (index + 1) xs

variable {cells text : List α} {index : ℕ} {x : α}

@[simp] lemma write_of_lt (h : index < cells.length) :
    write cells index x = some (cells.set index x) := if_pos h

/-- A store behind what the block starts with. -/
lemma starts_set (h : text <+: cells) (hroom : text.length < cells.length) :
    text ++ [x] <+: cells.set text.length x := by
  obtain ⟨rest, rfl⟩ := h
  cases rest with
  | nil => simp at hroom
  | cons y rest => exact ⟨rest, by simp⟩

/-- What the block starts with can be taken further. -/
lemma starts_append_take (h : text <+: cells) (n : ℕ) :
    text ++ (cells.drop text.length).take n <+: cells := by
  obtain ⟨rest, rfl⟩ := h
  rw [List.drop_left]
  exact (List.prefix_append_right_inj text).mpr (List.take_prefix n rest)

/-- **Stores behind what the block starts with**, when there is room for them. -/
theorem writeAll_starts (h : text <+: cells) (xs : List α)
    (hroom : text.length + xs.length ≤ cells.length) :
    ∃ cells', writeAll cells text.length xs = some cells' ∧ cells'.length = cells.length ∧
      text ++ xs <+: cells' := by
  induction xs generalizing cells text with
  | nil => exact ⟨cells, rfl, rfl, by simpa using h⟩
  | cons x xs ih =>
    rw [List.length_cons] at hroom
    have hlt : text.length < cells.length := by omega
    obtain ⟨cells', hwrite, hlength, hstarts⟩ := ih (starts_set (x := x) h hlt)
      (by simp only [List.length_append, List.length_set, List.length_singleton]; omega)
    refine ⟨cells', ?_, by rw [hlength, List.length_set], by simpa using hstarts⟩
    rw [writeAll, write_of_lt hlt]
    simpa using hwrite

/-! ## Reading a text -/

section

variable [DecidableEq α]

/-- What is read of a text that ends before the first `terminator`. -/
def textBefore (terminator : α) (cells : List α) : List α := cells.takeWhile (· ≠ terminator)

variable {terminator : α}

/-- A text without a terminator in it, stored with one behind it, is what is read back. -/
lemma textBefore_of_starts (hnone : terminator ∉ text) (h : text ++ [terminator] <+: cells) :
    textBefore terminator cells = text := by
  obtain ⟨rest, rfl⟩ := h
  have hall : ∀ y ∈ text, decide (y ≠ terminator) = true := by
    intro y hy
    exact decide_eq_true (ne_of_mem_of_not_mem hy hnone)
  rw [textBefore, List.append_assoc, List.takeWhile_append_of_pos hall]
  simp

end

/-! ## Reallocation -/

/-- The block with room for `capacity` elements. -/
def resize (cells : List α) (capacity : ℕ) (fill : ℕ → α) : List α :=
  cells.take capacity ++ (List.range' cells.length (capacity - cells.length)).map fill

lemma length_resize (cells : List α) (capacity : ℕ) (fill : ℕ → α) :
    (resize cells capacity fill).length = capacity := by
  simp only [resize, List.length_append, List.length_take, List.length_map, List.length_range']
  omega

/-- A block that grows keeps its cells. -/
lemma starts_resize {capacity : ℕ} (h : cells.length ≤ capacity) (fill : ℕ → α) :
    cells <+: resize cells capacity fill := by
  rw [resize, List.take_of_length_le h]
  exact List.prefix_append _ _

end Block
