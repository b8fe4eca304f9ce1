import Mathlib.Data.Finmap
import Mathlib.Algebra.Group.Defs
import TraceGlass.Lib.Block

/-!
# Programs over a heap

A program asks an allocator for blocks, which may refuse, reads and writes blocks through their
addresses, and frees them; an access to a block that is not allocated has no result.  Assertions
speak of a part of the heap, `P * Q` of two parts that have nothing in common.

`Triple` is total: from a heap with a part the precondition holds of, the program has a result,
leaves the rest of the heap alone, and the postcondition holds of what its part has become.  So a
program that has a triple from the empty part to the empty part accesses no block outside its own,
frees none twice and leaves none behind.
-/

namespace HeapLogic

/-- The allocated blocks by their addresses. -/
abbrev Heap (β : Type) := Finmap fun _ : ℕ => β

/-- What an allocator answers, knowing how often it has been asked, the heap, and how many bytes are
asked for. -/
structure Allocator (β : Type) where
  /-- No block is larger. -/
  limit : ℕ
  answer : ℕ → Heap β → ℕ → Option ℕ
  fresh : ∀ {calls : ℕ} {heap : Heap β} {bytes address : ℕ},
    answer calls heap bytes = some address → address ∉ heap
  bounded : ∀ {calls : ℕ} {heap : Heap β} {bytes address : ℕ},
    answer calls heap bytes = some address → bytes ≤ limit

structure State (β : Type) where
  heap : Heap β
  calls : ℕ

/-- A program; no result is an access that goes wrong. -/
abbrev HeapProgram (β : Type) := ReaderT (Allocator β) (StateT (State β) Option)

section Operations

variable {β α : Type}

/-- `malloc` of a block with these contents. -/
def alloc (bytes : ℕ) (block : β) : HeapProgram β (Option ℕ) := fun mem s =>
  match mem.answer s.calls s.heap bytes with
  | none => some (none, ⟨s.heap, s.calls + 1⟩)
  | some address => some (some address, ⟨s.heap.insert address block, s.calls + 1⟩)

/-- `free`, which takes `NULL` as well. -/
def free : Option ℕ → HeapProgram β Unit
  | none => pure ()
  | some address => fun _ s =>
      if address ∈ s.heap then some ((), { s with heap := s.heap.erase address }) else none

/-- `realloc` of an allocated block: it may move, and where it is refused the old block stays. -/
def realloc (address bytes : ℕ) (resize : β → β) : HeapProgram β (Option ℕ) := fun mem s =>
  (s.heap.lookup address).bind fun block =>
    match mem.answer s.calls (s.heap.erase address) bytes with
    | none => some (none, ⟨s.heap, s.calls + 1⟩)
    | some address' =>
        some (some address', ⟨(s.heap.erase address).insert address' (resize block), s.calls + 1⟩)

/-- Read or write through a pointer. -/
def access (pointer : Option ℕ) (f : β → Option (α × β)) : HeapProgram β α := fun _ s =>
  pointer.bind fun address => (s.heap.lookup address).bind fun block =>
    (f block).map fun result => (result.1, { s with heap := s.heap.insert address result.2 })

end Operations

/-! ## Assertions -/

/-- What is said of a part of the heap. -/
def Assertion (β : Type) := Heap β → Prop

namespace Assertion

variable {β : Type}

/-- The part holds one block. -/
def block (address : ℕ) (b : β) : Assertion β := fun h => h = Finmap.singleton address b

/-- A fact that is not about the heap. -/
def given (φ : Prop) (P : Assertion β) : Assertion β := fun h => φ ∧ P h

/-- One of these holds. -/
def any {ι : Type} (P : ι → Assertion β) : Assertion β := fun h => ∃ i, P i h

instance : Mul (Assertion β) :=
  ⟨fun P Q h => ∃ h₁ h₂ : Heap β, h₁.Disjoint h₂ ∧ h = h₁ ∪ h₂ ∧ P h₁ ∧ Q h₂⟩

instance : One (Assertion β) := ⟨fun h => h = ∅⟩

variable {P Q R : Assertion β} {φ : Prop}

lemma mul_mono {P' Q' : Assertion β} {h : Heap β} (hP : ∀ s, P s → P' s) (hQ : ∀ s, Q s → Q' s)
    (hPQ : (P * Q) h) : (P' * Q') h := by
  obtain ⟨h₁, h₂, hdisjoint, heq, h₁P, h₂Q⟩ := hPQ
  exact ⟨h₁, h₂, hdisjoint, heq, hP h₁ h₁P, hQ h₂ h₂Q⟩

private lemma comm_le {h : Heap β} : (P * Q) h → (Q * P) h := by
  rintro ⟨h₁, h₂, hdisjoint, rfl, hP, hQ⟩
  exact ⟨h₂, h₁, hdisjoint.symm, Finmap.union_comm_of_disjoint hdisjoint, hQ, hP⟩

private lemma assoc_le {h : Heap β} : (P * Q * R) h → (P * (Q * R)) h := by
  rintro ⟨_, h₃, hdisjoint, rfl, ⟨h₁, h₂, hdisjoint', rfl, hP, hQ⟩, hR⟩
  obtain ⟨h₁₃, h₂₃⟩ := (Finmap.disjoint_union_left _ _ _).mp hdisjoint
  exact ⟨h₁, h₂ ∪ h₃, (Finmap.disjoint_union_right _ _ _).mpr ⟨hdisjoint', h₁₃⟩,
    Finmap.union_assoc, hP, h₂, h₃, h₂₃, rfl, hQ, hR⟩

private lemma mul_comm' : P * Q = Q * P := funext fun _ => propext ⟨comm_le, comm_le⟩

private lemma mul_assoc' : P * Q * R = P * (Q * R) := by
  refine funext fun h => propext ⟨assoc_le, fun hPQR => ?_⟩
  rw [mul_comm', mul_comm' (P := Q)] at hPQR
  have := assoc_le hPQR
  rwa [mul_comm', mul_comm' (P := Q)] at this

private lemma one_mul' : 1 * P = P := by
  refine funext fun h => propext ⟨?_, fun hP => ?_⟩
  · rintro ⟨_, h₂, -, rfl, rfl, hP⟩
    rwa [Finmap.empty_union]
  · exact ⟨∅, h, Finmap.disjoint_empty h, Finmap.empty_union.symm, rfl, hP⟩

instance : CommMonoid (Assertion β) where
  mul_assoc _ _ _ := mul_assoc'
  one_mul _ := one_mul'
  mul_one _ := mul_comm'.trans one_mul'
  mul_comm _ _ := mul_comm'

lemma any_intro {ι : Type} {P : ι → Assertion β} {h : Heap β} (i : ι) (hP : P i h) : any P h :=
  ⟨i, hP⟩

lemma given_mul : given φ P * Q = given φ (P * Q) := by
  refine funext fun h => propext ⟨?_, ?_⟩
  · rintro ⟨h₁, h₂, hdisjoint, rfl, ⟨hφ, hP⟩, hQ⟩
    exact ⟨hφ, h₁, h₂, hdisjoint, rfl, hP, hQ⟩
  · rintro ⟨hφ, h₁, h₂, hdisjoint, rfl, hP, hQ⟩
    exact ⟨h₁, h₂, hdisjoint, rfl, ⟨hφ, hP⟩, hQ⟩

lemma mul_given : P * given φ Q = given φ (P * Q) := by
  rw [mul_comm, given_mul, mul_comm]

lemma any_mul {ι : Type} {P : ι → Assertion β} : any P * Q = any fun i => P i * Q := by
  refine funext fun h => propext ⟨?_, ?_⟩
  · rintro ⟨h₁, h₂, hdisjoint, rfl, ⟨i, hP⟩, hQ⟩
    exact ⟨i, h₁, h₂, hdisjoint, rfl, hP, hQ⟩
  · rintro ⟨i, h₁, h₂, hdisjoint, rfl, hP, hQ⟩
    exact ⟨h₁, h₂, hdisjoint, rfl, ⟨i, hP⟩, hQ⟩

end Assertion

/-! ## Triples -/

open Assertion

/-- **What is shown of a program.** -/
def Triple {β α : Type} (mem : Allocator β) (P : Assertion β) (p : HeapProgram β α)
    (Q : α → Assertion β) : Prop :=
  ∀ (h rest : Heap β) (calls : ℕ), P h → h.Disjoint rest → ∃ (a : α) (h' : Heap β) (calls' : ℕ),
    p mem ⟨h ∪ rest, calls⟩ = some (a, ⟨h' ∪ rest, calls'⟩) ∧ h'.Disjoint rest ∧ Q a h'

namespace Triple

variable {β α γ : Type} {mem : Allocator β} {P P' R : Assertion β} {p : HeapProgram β α}
  {Q Q' : α → Assertion β} {φ : Prop}

lemma ret {a : α} (h : ∀ s, P s → Q a s) : Triple mem P (pure a) Q :=
  fun s _ calls hP hdisjoint => ⟨a, s, calls, rfl, hdisjoint, h s hP⟩

lemma bind {f : α → HeapProgram β γ} {S : γ → Assertion β} (hp : Triple mem P p Q)
    (hf : ∀ a, Triple mem (Q a) (f a) S) : Triple mem P (p >>= f) S := by
  intro h rest calls hP hdisjoint
  obtain ⟨a, h', calls', hrun, hdisjoint', hQ⟩ := hp h rest calls hP hdisjoint
  obtain ⟨c, h'', calls'', hrun', hdisjoint'', hS⟩ := hf a h' rest calls' hQ hdisjoint'
  refine ⟨c, h'', calls'', ?_, hdisjoint'', hS⟩
  have hbind : (p >>= f) mem ⟨h ∪ rest, calls⟩ =
      (p mem ⟨h ∪ rest, calls⟩).bind fun result => f result.1 mem result.2 := rfl
  rw [hbind, hrun]
  exact hrun'

lemma pre (hp : Triple mem P p Q) (h : ∀ s, P' s → P s) : Triple mem P' p Q :=
  fun s rest calls hP' => hp s rest calls (h s hP')

lemma post (hp : Triple mem P p Q) (h : ∀ a s, Q a s → Q' a s) : Triple mem P p Q' := by
  intro s rest calls hP hdisjoint
  obtain ⟨a, s', calls', hrun, hdisjoint', hQ⟩ := hp s rest calls hP hdisjoint
  exact ⟨a, s', calls', hrun, hdisjoint', h a s' hQ⟩

/-- **The frame rule.** -/
lemma frame (hp : Triple mem P p Q) (R : Assertion β) :
    Triple mem (P * R) p fun a => Q a * R := by
  rintro _ rest calls ⟨h₁, h₂, hdisjoint, rfl, hP, hR⟩ hrest
  obtain ⟨h₁rest, h₂rest⟩ := (Finmap.disjoint_union_left _ _ _).mp hrest
  obtain ⟨a, h', calls', hrun, hdisjoint', hQ⟩ := hp h₁ (h₂ ∪ rest) calls hP
    ((Finmap.disjoint_union_right _ _ _).mpr ⟨hdisjoint, h₁rest⟩)
  obtain ⟨h'₂, h'rest⟩ := (Finmap.disjoint_union_right _ _ _).mp hdisjoint'
  rw [← Finmap.union_assoc, ← Finmap.union_assoc] at hrun
  exact ⟨a, h' ∪ h₂, calls', hrun, (Finmap.disjoint_union_left _ _ _).mpr ⟨h'rest, h₂rest⟩, h', h₂,
    h'₂, rfl, hQ, hR⟩

lemma frame_left (hp : Triple mem P p Q) (R : Assertion β) :
    Triple mem (R * P) p fun a => R * Q a := by
  simpa only [mul_comm R] using hp.frame R

lemma frame_given {ψ : α → Prop} (hp : Triple mem P p fun a => given (ψ a) (Q a))
    (R : Assertion β) : Triple mem (P * R) p fun a => given (ψ a) (Q a * R) :=
  (hp.frame R).post fun _ _ h => given_mul ▸ h

lemma frame_given_left {ψ : α → Prop} (hp : Triple mem P p fun a => given (ψ a) (Q a))
    (R : Assertion β) : Triple mem (R * P) p fun a => given (ψ a) (R * Q a) := by
  simpa only [mul_comm R] using hp.frame_given R

lemma of_given (h : φ → Triple mem P p Q) : Triple mem (given φ P) p Q :=
  fun s rest calls hP => h hP.1 s rest calls hP.2

lemma of_any {ι : Type} {P : ι → Assertion β} (h : ∀ i, Triple mem (P i) p Q) :
    Triple mem (any P) p Q :=
  fun s rest calls ⟨i, hP⟩ => h i s rest calls hP

/-! ### The operations -/

section Operations

variable {address : ℕ} {b : β}

private lemma insert_eq (b : β) (rest : Heap β) :
    rest.insert address b = Finmap.singleton address b ∪ rest := by
  have hsingle : (∅ : Heap β).insert address b = Finmap.singleton address b := rfl
  rw [← hsingle, ← Finmap.insert_union, Finmap.empty_union]

private lemma disjoint_singleton {rest : Heap β} (b : β) (h : address ∉ rest) :
    (Finmap.singleton address b : Heap β).Disjoint rest := by
  intro x hx
  rwa [(Finmap.mem_singleton _ _ _).mp hx]

private lemma notMem_of_disjoint {rest : Heap β}
    (h : (Finmap.singleton address b : Heap β).Disjoint rest) : address ∉ rest :=
  h address ((Finmap.mem_singleton _ _ _).mpr rfl)

private lemma lookup_own {rest : Heap β} :
    (Finmap.singleton address b ∪ rest : Heap β).lookup address = some b := by
  rw [Finmap.lookup_union_left ((Finmap.mem_singleton _ _ _).mpr rfl), Finmap.lookup_singleton_eq]

private lemma erase_own {rest : Heap β} (h : address ∉ rest) :
    (Finmap.singleton address b ∪ rest : Heap β).erase address = rest := by
  refine Finmap.ext_lookup fun x => ?_
  rcases eq_or_ne x address with rfl | hne
  · rw [Finmap.lookup_erase, Finmap.lookup_eq_none.mpr h]
  · rw [Finmap.lookup_erase_ne hne, Finmap.lookup_union_right]
    rwa [Finmap.mem_singleton]

lemma alloc (bytes : ℕ) (b : β) : Triple mem 1 (alloc bytes b) fun answer =>
    answer.elim 1 fun address => given (bytes ≤ mem.limit) (block address b) := by
  rintro _ rest calls rfl -
  rw [Finmap.empty_union]
  cases hanswer : mem.answer calls rest bytes with
  | none =>
    refine ⟨none, ∅, calls + 1, ?_, Finmap.disjoint_empty rest, rfl⟩
    simp [HeapLogic.alloc, hanswer, Finmap.empty_union]
  | some address =>
    refine ⟨some address, Finmap.singleton address b, calls + 1, ?_,
      disjoint_singleton b (mem.fresh hanswer), mem.bounded hanswer, rfl⟩
    simp only [HeapLogic.alloc, hanswer, insert_eq]

lemma free (address : ℕ) (b : β) :
    Triple mem (block address b) (free (some address)) fun _ => 1 := by
  rintro _ rest calls rfl hdisjoint
  refine ⟨(), ∅, calls, ?_, Finmap.disjoint_empty rest, rfl⟩
  have hmem : address ∈ (Finmap.singleton address b ∪ rest : Heap β) :=
    Finmap.mem_union.mpr (.inl ((Finmap.mem_singleton _ _ _).mpr rfl))
  simp only [HeapLogic.free, if_pos hmem, erase_own (notMem_of_disjoint hdisjoint),
    Finmap.empty_union]

lemma realloc (address bytes : ℕ) (b : β) (resize : β → β) :
    Triple mem (block address b) (realloc address bytes resize) fun answer =>
      answer.elim (block address b) fun address' =>
        given (bytes ≤ mem.limit) (block address' (resize b)) := by
  rintro _ rest calls rfl hdisjoint
  have herase := erase_own (b := b) (notMem_of_disjoint hdisjoint)
  simp only [HeapLogic.realloc, lookup_own, Option.bind_some, herase]
  cases hanswer : mem.answer calls rest bytes with
  | none => exact ⟨none, _, calls + 1, rfl, hdisjoint, rfl⟩
  | some address' =>
    refine ⟨some address', Finmap.singleton address' (resize b), calls + 1, ?_,
      disjoint_singleton _ (mem.fresh hanswer), mem.bounded hanswer, rfl⟩
    simp only [insert_eq]

lemma access {x : α} {c : β} {f : β → Option (α × β)} (h : f b = some (x, c)) :
    Triple mem (block address b) (access (some address) f) fun result =>
      given (result = x) (block address c) := by
  rintro _ rest calls rfl hdisjoint
  refine ⟨x, Finmap.singleton address c, calls, ?_,
    disjoint_singleton c (notMem_of_disjoint hdisjoint), rfl, rfl⟩
  simp only [HeapLogic.access, Option.bind_some, lookup_own, h, Option.map_some,
    Finmap.insert_union, Finmap.insert_singleton_eq]

end Operations

end Triple

/-! ## Arrays -/

/-- How elements lie in the cells of a block. -/
structure Layout (γ α : Type) where
  put : α → γ
  get : γ → Option α
  get_put : ∀ a, get (put a) = some a

/-- The cells of a block; a cell nothing has been written to holds nothing. -/
abbrev Cells (γ : Type) := List (Option γ)

section Arrays

variable {γ α : Type} (L : Layout γ α)

/-- The cells that hold these elements. -/
def Layout.cells (xs : List α) : Cells γ := xs.map fun x => some (L.put x)

/-- The elements in the first cells. -/
def Layout.elements : ℕ → Cells γ → Option (List α)
  | 0, _ => some []
  | count + 1, some cell :: cells =>
      (L.get cell).bind fun x => (Layout.elements count cells).map fun xs => x :: xs
  | _ + 1, _ => none

/-- Read an element. -/
def load (pointer : Option ℕ) (index : ℕ) : HeapProgram (Cells γ) α :=
  access pointer fun cells => (cells[index]?.join.bind L.get).map fun x => (x, cells)

/-- Write an element. -/
def store (pointer : Option ℕ) (index : ℕ) (x : α) : HeapProgram (Cells γ) Unit :=
  access pointer fun cells =>
    (Block.write cells index (some (L.put x))).map fun cells => ((), cells)

/-- Read the first elements. -/
def loadAll (pointer : Option ℕ) (count : ℕ) : HeapProgram (Cells γ) (List α) :=
  access pointer fun cells => (L.elements count cells).map fun xs => (xs, cells)

/-- Rearrange the first elements. -/
def rearrange (f : List α → List α) (pointer : Option ℕ) (count : ℕ) : HeapProgram (Cells γ) Unit :=
  access pointer fun cells =>
    (L.elements count cells).map fun xs => ((), L.cells (f xs) ++ cells.drop count)

/-- `realloc` of an array, which has room for `room` elements then. -/
def grow (pointer : Option ℕ) (bytes room : ℕ) : HeapProgram (Cells γ) (Option ℕ) :=
  pointer.elim (alloc bytes (List.replicate room none)) fun address =>
    realloc address bytes fun cells => Block.resize cells room fun _ => none

/-- The array is in a block with this much room; a null pointer is an array without room. -/
def array (pointer : Option ℕ) (room : ℕ) (xs : List α) : Assertion (Cells γ) :=
  pointer.elim (given (xs = [] ∧ room = 0) 1) fun address =>
    any fun cells => given (L.cells xs <+: cells ∧ cells.length = room) (block address cells)

/-- The array, with any room. -/
def owned (pointer : Option ℕ) (xs : List α) : Assertion (Cells γ) :=
  any fun room => array L pointer room xs

variable {L} {mem : Allocator (Cells γ)} {pointer : Option ℕ} {room : ℕ} {xs : List α}

lemma Layout.elements_of_starts {cells : Cells γ} (h : L.cells xs <+: cells) :
    L.elements xs.length cells = some xs := by
  induction xs generalizing cells with
  | nil => rfl
  | cons x xs ih =>
    obtain ⟨rest, rfl⟩ := h
    have htail : L.elements xs.length (L.cells xs ++ rest) = some xs := ih (List.prefix_append _ _)
    simp only [Layout.cells, List.map_cons, List.cons_append, List.length_cons, Layout.elements,
      L.get_put, Option.bind_some] at htail ⊢
    rw [htail]
    rfl

lemma Layout.length_cells (xs : List α) : (L.cells xs).length = xs.length := List.length_map _

/-- In a block, an array that is not empty is reached through its address. -/
private lemma triple_some {β : Type} {p : HeapProgram (Cells γ) β} {Q : β → Assertion (Cells γ)}
    (hne : xs ≠ [] ∨ room ≠ 0) (h : ∀ address cells, pointer = some address →
      L.cells xs <+: cells → cells.length = room → Triple mem (block address cells) p Q) :
    Triple mem (array L pointer room xs) p Q := by
  cases pointer with
  | none => exact Triple.of_given fun hempty => by simp [hempty] at hne
  | some address =>
    exact Triple.of_any fun cells => Triple.of_given fun hcells =>
      h address cells rfl hcells.1 hcells.2

/-- An element can be read through any layout that reads its cell. -/
lemma triple_loadAs {δ : Type} {L' : Layout γ δ} {x : δ} {index : ℕ} (hindex : index < xs.length)
    (hget : L'.get (L.put xs[index]) = some x) :
    Triple mem (array L pointer room xs) (load L' pointer index) fun y =>
      given (y = x) (array L pointer room xs) := by
  have hne : xs ≠ [] := List.ne_nil_of_length_pos (by omega)
  refine triple_some (.inl hne) fun address cells hp hstarts hroom => ?_
  subst hp
  have hcell : cells[index]?.join.bind L'.get = some x := by
    obtain ⟨rest, rfl⟩ := hstarts
    have hlt : index < (L.cells xs).length := by rwa [L.length_cells]
    rw [List.getElem?_append_left hlt]
    simp [Layout.cells, hindex, hget]
  refine (Triple.access (x := x) (c := cells) (by rw [hcell, Option.map_some])).post ?_
  rintro y s ⟨rfl, hs⟩
  exact ⟨rfl, cells, ⟨hstarts, hroom⟩, hs⟩

lemma triple_load {index : ℕ} (hindex : index < xs.length) :
    Triple mem (array L pointer room xs) (load L pointer index) fun x =>
      given (x = xs[index]) (array L pointer room xs) :=
  triple_loadAs hindex (L.get_put _)

/-- Writing behind the last element. -/
lemma triple_store (x : α) (hroom : xs.length < room) :
    Triple mem (array L pointer room xs) (store L pointer xs.length x) fun _ =>
      array L pointer room (xs ++ [x]) := by
  refine triple_some (.inr (by omega)) fun address cells hp hstarts hlength => ?_
  subst hp
  have hwrite : Block.write cells xs.length (some (L.put x)) =
      some (cells.set xs.length (some (L.put x))) := Block.write_of_lt (by omega)
  refine (Triple.access (x := ()) (by rw [hwrite, Option.map_some])).post ?_
  rintro _ s ⟨-, hs⟩
  refine ⟨_, ⟨?_, by rw [List.length_set, hlength]⟩, hs⟩
  have hset := Block.starts_set (x := some (L.put x)) hstarts (by rw [L.length_cells]; omega)
  rw [L.length_cells] at hset
  simpa [Layout.cells] using hset

lemma triple_loadAll (hne : xs ≠ []) :
    Triple mem (array L pointer room xs) (loadAll L pointer xs.length) fun ys =>
      given (ys = xs) (array L pointer room xs) := by
  refine triple_some (.inl hne) fun address cells hp hstarts hlength => ?_
  subst hp
  refine (Triple.access (x := xs) (c := cells)
    (by rw [Layout.elements_of_starts hstarts, Option.map_some])).post ?_
  rintro ys s ⟨rfl, hs⟩
  exact ⟨rfl, cells, ⟨hstarts, hlength⟩, hs⟩

lemma triple_rearrange {f : List α → List α} (hne : xs ≠ []) (hf : (f xs).length = xs.length) :
    Triple mem (array L pointer room xs) (rearrange L f pointer xs.length) fun _ =>
      array L pointer room (f xs) := by
  refine triple_some (.inl hne) fun address cells hp hstarts hlength => ?_
  subst hp
  refine (Triple.access (x := ())
    (by rw [Layout.elements_of_starts hstarts, Option.map_some])).post ?_
  rintro _ s ⟨-, hs⟩
  refine ⟨_, ⟨List.prefix_append _ _, ?_⟩, hs⟩
  have hle := hstarts.length_le
  rw [L.length_cells] at hle
  rw [List.length_append, L.length_cells, hf, List.length_drop]
  omega

lemma owned_of_array {s : Heap (Cells γ)} (h : array L pointer room xs s) : owned L pointer xs s :=
  ⟨room, h⟩

lemma triple_free : Triple mem (array L pointer room xs) (free pointer) fun _ => 1 := by
  cases pointer with
  | none => exact Triple.ret fun s h => h.2
  | some address =>
    exact Triple.of_any fun cells => Triple.of_given fun _ => Triple.free address cells

lemma triple_freeOwned : Triple mem (owned L pointer xs) (free pointer) fun _ => 1 :=
  Triple.of_any fun _ => triple_free

lemma triple_grow {bytes room' : ℕ} (hroom : room ≤ room') :
    Triple mem (array L pointer room xs) (grow pointer bytes room') fun answer =>
      answer.elim (array L pointer room xs) fun address =>
        given (bytes ≤ mem.limit) (array L (some address) room' xs) := by
  cases pointer with
  | none =>
    refine Triple.of_given fun hempty => ?_
    refine (Triple.alloc bytes _).post fun answer s h => ?_
    cases answer with
    | none => exact ⟨hempty, h⟩
    | some address =>
      refine ⟨h.1, _, ⟨?_, List.length_replicate⟩, h.2⟩
      rw [hempty.1]
      exact List.nil_prefix
  | some address =>
    refine Triple.of_any fun cells => Triple.of_given fun hcells => ?_
    refine (Triple.realloc address bytes cells _).post fun answer s h => ?_
    cases answer with
    | none => exact ⟨cells, hcells, h⟩
    | some address' =>
      refine ⟨h.1, _, ⟨?_, Block.length_resize _ _ _⟩, h.2⟩
      exact hcells.1.trans (Block.starts_resize (by omega) _)

/-- What only reads an array needs to know nothing of its room. -/
lemma Triple.reads {β : Type} {p : HeapProgram (Cells γ) β} {φ : β → Prop}
    (h : ∀ room, Triple mem (array L pointer room xs) p fun r =>
      given (φ r) (array L pointer room xs)) :
    Triple mem (owned L pointer xs) p fun r => given (φ r) (owned L pointer xs) :=
  Triple.of_any fun room => (h room).post fun _ _ hr => ⟨hr.1, room, hr.2⟩

end Arrays

end HeapLogic
