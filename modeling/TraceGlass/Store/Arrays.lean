import TraceGlass.Lib.Block
import TraceGlass.Store.Counts

/-!
# Growing an array in its block

`reserve_events` and `reserve_processes` down to the block that `realloc` answers.  A `GrowingArray`
is the block with the count and the capacity the code keeps beside it.  The result of a function is
an `Option`, and `none` is a fault: a `size_t` product that wraps, a loop that goes on, a store
outside the block.

`Reservation` lists what a reservation can do.  `GrowingArray.reserve_spec` is that it does one of
these, whatever capacity the array has and whatever is required, and that the capacity afterwards is
the one `reserve` computes in wrapping arithmetic.
-/

namespace TraceGlass

/-- `events` with `event_count` and `event_capacity`, or `processes` with its two. -/
structure GrowingArray (α : Type) where
  block : List α
  count : ℕ
  capacity : ℕ

namespace GrowingArray

variable {α : Type}

/-- The zeroed array. -/
def empty : GrowingArray α := ⟨[], 0, 0⟩

/-- The elements in use. -/
def used (array : GrowingArray α) : List α := array.block.take array.count

/-! ## One reservation -/

/-- `while (capacity < required)`.  The outer `none` is a fault, the inner one the `FALSE` return.
-/
def growChecked (required : ℕ) : ℕ → ℕ → Option (Option ℕ)
  | 0, _ => none
  | fuel + 1, capacity =>
      if capacity < required then
        if capacity > sizeMax / 2 then some none
        else (checkedMul capacity 2).bind (growChecked required fuel)
      else some (some capacity)

/-- The common body of `reserve_events` and `reserve_processes`.  `realloc` answers no block, or one
whose cells behind the old ones hold anything. -/
def reserve (itemSize initial : ℕ) (realloc : Option (ℕ → α)) (array : GrowingArray α)
    (required : ℕ) : Option (Bool × GrowingArray α) :=
  if required ≤ array.capacity then some (true, array)
  else if array.capacity ≠ 0 ∧ array.capacity > sizeMax / 2 then some (false, array)
  else
    (if array.capacity = 0 then some initial else checkedMul array.capacity 2).bind fun doubled =>
      (growChecked required 65 doubled).bind fun
        | none => some (false, array)
        | some capacity =>
            if capacity > sizeMax / itemSize then some (false, array)
            else
              (checkedMul capacity itemSize).bind fun size =>
                match realloc with
                | none => some (false, array)
                | some fill =>
                    let block := Block.resize array.block (size / itemSize) fill
                    some (true, { array with block, capacity })

/-- What a reservation can do: find room, grow the array, or refuse.  It refuses only if there is no
block to be had, or none of twice the size could exist. -/
inductive Reservation (itemSize : ℕ) (realloc : Option (ℕ → α)) (array : GrowingArray α)
    (required : ℕ) : Bool × GrowingArray α → Prop
  | room (hrequired : required ≤ array.capacity) :
      Reservation itemSize realloc array required (true, array)
  | grown {block : List α} {capacity : ℕ} (hrequired : required ≤ capacity)
      (hsize : capacity * itemSize ≤ sizeMax) (hblock : block.length = capacity)
      (hkept : array.block <+: block) :
      Reservation itemSize realloc array required (true, { array with block, capacity })
  | refused (hwhy : realloc = none ∨ sizeMax / itemSize < 2 * required) :
      Reservation itemSize realloc array required (false, array)

/-- The doubling loop, beside the one in wrapping arithmetic.  The induction is on the fuel, and
what carries it is that the fuel left still takes the capacity past `SIZE_MAX / 2`. -/
lemma growChecked_spec (required : ℕ) {fuel capacity : ℕ} (hpos : 0 < capacity)
    (hfuel : sizeMax / 2 < capacity * 2 ^ fuel) :
    (growChecked required (fuel + 1) capacity = some none ∧
        growLoop required (fuel + 1) capacity = .overflow ∧ sizeMax / 2 < required) ∨
      ∃ grown, growChecked required (fuel + 1) capacity = some (some grown) ∧
        growLoop required (fuel + 1) capacity = .reached grown ∧ required ≤ grown ∧
        (grown = capacity ∨ grown < 2 * required) := by
  induction fuel generalizing capacity with
  | zero =>
    rw [growChecked, growLoop]
    by_cases hdone : capacity < required
    · have hover : capacity > sizeMax / 2 := by simpa using hfuel
      rw [if_pos hdone, if_pos hdone, if_pos hover, if_pos hover]
      exact Or.inl ⟨rfl, rfl, by omega⟩
    · rw [if_neg hdone, if_neg hdone]
      exact Or.inr ⟨capacity, rfl, rfl, Nat.not_lt.mp hdone, Or.inl rfl⟩
  | succ fuel ih =>
    rw [growChecked, growLoop]
    by_cases hdone : capacity < required
    · rw [if_pos hdone, if_pos hdone]
      by_cases hover : capacity > sizeMax / 2
      · rw [if_pos hover, if_pos hover]
        exact Or.inl ⟨rfl, rfl, by omega⟩
      · have hdouble : capacity * 2 ≤ sizeMax := by omega
        have hwrap : capacity * 2 % (sizeMax + 1) = capacity * 2 := Nat.mod_eq_of_lt (by omega)
        have hfuel' : sizeMax / 2 < capacity * 2 * 2 ^ fuel := by
          rwa [Nat.mul_assoc, ← Nat.pow_succ']
        rw [if_neg hover, if_neg hover, hwrap, checkedMul_of_le hdouble, Option.bind_some]
        rcases ih (by omega) hfuel' with hno | ⟨grown, hchecked, hloop, hreq, hbound⟩
        · exact Or.inl hno
        · refine Or.inr ⟨grown, hchecked, hloop, hreq, Or.inr ?_⟩
          rcases hbound with rfl | hbound
          · omega
          · exact hbound
    · rw [if_neg hdone, if_neg hdone]
      exact Or.inr ⟨capacity, rfl, rfl, Nat.not_lt.mp hdone, Or.inl rfl⟩

/-- **One reservation.**  It comes to an end without a wrap and does what `Reservation` says, in
step with the reservation that knows the capacity only. -/
theorem reserve_spec {itemSize initial : ℕ} {array : GrowingArray α} (hitem : 0 < itemSize)
    (hinitial : 0 < initial) (hfirst : initial ≤ sizeMax / itemSize)
    (hlength : array.block.length = array.capacity) (realloc : Option (ℕ → α)) (required : ℕ) :
    ∃ ok array', array.reserve itemSize initial realloc required = some (ok, array') ∧
      Reservation itemSize realloc array required (ok, array') ∧
      TraceGlass.reserve itemSize initial realloc.isSome array.capacity required =
        if ok then some array'.capacity else none := by
  have hdiv : sizeMax / itemSize ≤ sizeMax := Nat.div_le_self _ _
  unfold reserve TraceGlass.reserve
  by_cases hroom : required ≤ array.capacity
  · exact ⟨true, array, by rw [if_pos hroom], .room hroom, by rw [if_pos hroom, if_pos rfl]⟩
  rw [if_neg hroom, if_neg hroom]
  by_cases hhalf : array.capacity ≠ 0 ∧ array.capacity > sizeMax / 2
  · have hwhy : sizeMax / itemSize < 2 * required := by omega
    exact ⟨false, array, by rw [if_pos hhalf], .refused (Or.inr hwhy), by rw [if_pos hhalf]; rfl⟩
  rw [if_neg hhalf, if_neg hhalf]
  obtain ⟨doubled, hdoubled, hwrapped, hpos, hsmall⟩ : ∃ doubled,
      (if array.capacity = 0 then some initial else checkedMul array.capacity 2) = some doubled ∧
        (if array.capacity = 0 then initial else array.capacity * 2 % (sizeMax + 1)) = doubled ∧
        0 < doubled ∧ (doubled ≤ sizeMax / itemSize ∨ doubled < 2 * required) := by
    by_cases hzero : array.capacity = 0
    · exact ⟨initial, if_pos hzero, if_pos hzero, hinitial, Or.inl hfirst⟩
    · have hdouble : array.capacity * 2 ≤ sizeMax := by omega
      refine ⟨array.capacity * 2, ?_, ?_, by omega, Or.inr (by omega)⟩
      · rw [if_neg hzero, checkedMul_of_le hdouble]
      · rw [if_neg hzero, Nat.mod_eq_of_lt (by omega)]
  have hfuel : sizeMax / 2 < doubled * 2 ^ 64 := by
    simp only [sizeMax] at *
    omega
  simp only [hdoubled, hwrapped, Option.bind_some]
  rcases growChecked_spec required hpos hfuel with
    ⟨hchecked, hloop, hover⟩ | ⟨grown, hchecked, hloop, hreq, hbound⟩
  · have hwhy : sizeMax / itemSize < 2 * required := by omega
    simp only [hchecked, hloop, Option.bind_some]
    exact ⟨false, array, rfl, .refused (Or.inr hwhy), rfl⟩
  simp only [hchecked, hloop, Option.bind_some]
  by_cases hlarge : grown > sizeMax / itemSize
  · have hwhy : sizeMax / itemSize < 2 * required := by
      rcases hbound with rfl | hbound <;> omega
    simp only [if_pos hlarge]
    exact ⟨false, array, rfl, .refused (Or.inr hwhy), rfl⟩
  have hsize : grown * itemSize ≤ sizeMax :=
    (Nat.le_div_iff_mul_le hitem).mp (Nat.not_lt.mp hlarge)
  simp only [if_neg hlarge, checkedMul_of_le hsize, Option.bind_some,
    Nat.mul_div_cancel _ hitem]
  cases realloc with
  | none => exact ⟨false, array, rfl, .refused (Or.inl rfl), rfl⟩
  | some fill =>
    have hgrows : array.block.length ≤ grown := by omega
    exact ⟨true, _, rfl, .grown hreq hsize (Block.length_resize _ _ _)
      (Block.starts_resize hgrows fill), rfl⟩

/-! ## The elements -/

/-- `array[index]`, read. -/
def read (array : GrowingArray α) (index : ℕ) : Option α := array.block[index]?

/-- `array[index] = x`. -/
def assign (array : GrowingArray α) (index : ℕ) (x : α) : Option (GrowingArray α) :=
  (Block.write array.block index x).map fun block => { array with block }

/-- `array[count++] = x`. -/
def push (array : GrowingArray α) (x : α) : Option (GrowingArray α) :=
  (Block.write array.block array.count x).bind fun block =>
    (checkedAdd array.count 1).map fun count => { array with block, count }

lemma read_eq_used {array : GrowingArray α} {index : ℕ} (hlt : index < array.count) :
    array.read index = array.used[index]? := by
  rw [read, used, List.getElem?_take_of_lt hlt]

/-- The array keeps to its block, and the size of the block has not wrapped. -/
structure Fits (itemSize : ℕ) (array : GrowingArray α) : Prop where
  count_le : array.count ≤ array.capacity
  length_block : array.block.length = array.capacity
  byteSize_le : array.capacity * itemSize ≤ sizeMax

lemma fits_empty (itemSize : ℕ) : Fits itemSize (empty : GrowingArray α) :=
  ⟨Nat.le_refl _, rfl, by simp [empty]⟩

namespace Fits

variable {itemSize : ℕ} {array : GrowingArray α}

lemma length_used (h : Fits itemSize array) : array.used.length = array.count := by
  rw [used, List.length_take, h.length_block, Nat.min_eq_left h.count_le]

/-- An element of more than one byte leaves room above every count. -/
lemma checkedAdd_count (h : Fits itemSize array) (hitem : 2 ≤ itemSize) :
    checkedAdd array.count 1 = some (array.count + 1) := by
  have hcount := h.count_le
  have hdouble : array.capacity * 2 ≤ sizeMax :=
    (Nat.mul_le_mul_left _ hitem).trans h.byteSize_le
  apply checkedAdd_of_le
  simp only [sizeMax] at *
  omega

lemma assign (h : Fits itemSize array) {index : ℕ} (hlt : index < array.count) (x : α) :
    ∃ array', array.assign index x = some array' ∧ Fits itemSize array' ∧
      array'.used = array.used.set index x ∧ array'.capacity = array.capacity := by
  have hblock : index < array.block.length := by
    rw [h.length_block]
    exact hlt.trans_le h.count_le
  refine ⟨{ array with block := array.block.set index x }, ?_, ?_, ?_, rfl⟩
  · rw [GrowingArray.assign, Block.write_of_lt hblock, Option.map_some]
  · exact ⟨h.count_le, by rw [List.length_set, h.length_block], h.byteSize_le⟩
  · exact List.take_set

lemma push (h : Fits itemSize array) (hitem : 2 ≤ itemSize) (hroom : array.count < array.capacity)
    (x : α) :
    ∃ array', array.push x = some array' ∧ Fits itemSize array' ∧
      array'.used = array.used ++ [x] ∧ array'.capacity = array.capacity := by
  have hblock : array.count < array.block.length := by rwa [h.length_block]
  refine ⟨{ array with block := array.block.set array.count x, count := array.count + 1 }, ?_, ?_,
    ?_, rfl⟩
  · rw [GrowingArray.push, Block.write_of_lt hblock, Option.bind_some, h.checkedAdd_count hitem,
      Option.map_some]
  · exact ⟨hroom, by rw [List.length_set, h.length_block], h.byteSize_le⟩
  · simp only [used]
    rw [List.take_succ_eq_append_getElem (by rwa [List.length_set]), List.take_set,
      List.set_eq_of_length_le (by rw [List.length_take]; exact Nat.min_le_left _ _),
      List.getElem_set_self]

/-- A reservation keeps the elements, and leaves room if it does not refuse. -/
lemma reserved (h : Fits itemSize array) {realloc : Option (ℕ → α)} {required : ℕ} {ok : Bool}
    {array' : GrowingArray α}
    (hreserved : Reservation itemSize realloc array required (ok, array')) :
    Fits itemSize array' ∧ array'.used = array.used ∧ array'.count = array.count ∧
      (ok = true → required ≤ array'.capacity) := by
  cases hreserved with
  | room hrequired => exact ⟨h, rfl, rfl, fun _ => hrequired⟩
  | @grown block capacity hrequired hsize hblock hkept =>
    have hle : array.capacity ≤ capacity := by
      rw [← h.length_block, ← hblock]
      exact hkept.length_le
    refine ⟨⟨h.count_le.trans hle, hblock, hsize⟩, ?_, rfl, fun _ => hrequired⟩
    obtain ⟨rest, rfl⟩ := hkept
    exact List.take_append_of_le_length (by rw [h.length_block]; exact h.count_le)
  | refused => exact ⟨h, rfl, rfl, fun hok => absurd hok (by simp)⟩

/-- The reservation for one element more, beside the one that knows the capacity only. -/
lemma reserve_next (h : Fits itemSize array) (initial : ℕ) (hitem : 2 ≤ itemSize)
    (hinitial : 0 < initial) (hfirst : initial ≤ sizeMax / itemSize) (realloc : Option (ℕ → α)) :
    (array.reserve itemSize initial realloc (array.count + 1) = some (false, array) ∧
        TraceGlass.reserve itemSize initial realloc.isSome array.capacity (array.count + 1) =
          none) ∨
      ∃ array', array.reserve itemSize initial realloc (array.count + 1) = some (true, array') ∧
        TraceGlass.reserve itemSize initial realloc.isSome array.capacity (array.count + 1) =
          some array'.capacity ∧
        Fits itemSize array' ∧ array'.used = array.used ∧ array'.count = array.count ∧
        array'.count < array'.capacity := by
  have hpos : 0 < itemSize := Nat.lt_of_lt_of_le Nat.two_pos hitem
  obtain ⟨ok, array', hreserve, hreserved, hcapacity⟩ :=
    reserve_spec hpos hinitial hfirst h.length_block realloc (array.count + 1)
  obtain ⟨hfits, hused, hcount, hroom⟩ := h.reserved hreserved
  cases ok with
  | false =>
    cases hreserved
    exact Or.inl ⟨hreserve, hcapacity⟩
  | true => exact Or.inr ⟨array', hreserve, hcapacity, hfits, hused, hcount, hcount ▸ hroom rfl⟩

end Fits

/-- The array keeps to its block, `count + 1` does not wrap, and whatever is required, a reservation
comes to an end without a fault and does what `Reservation` says. -/
structure GrowsSafely (itemSize initial : ℕ) (array : GrowingArray α) : Prop where
  count_le : array.count ≤ array.capacity
  length_block : array.block.length = array.capacity
  byteSize_le : array.capacity * itemSize ≤ sizeMax
  checkedAdd_count : checkedAdd array.count 1 = some (array.count + 1)
  reserve : ∀ realloc required, ∃ ok array',
    array.reserve itemSize initial realloc required = some (ok, array') ∧
      Reservation itemSize realloc array required (ok, array')

lemma Fits.growsSafely {itemSize initial : ℕ} {array : GrowingArray α} (h : Fits itemSize array)
    (hitem : 2 ≤ itemSize) (hinitial : 0 < initial) (hfirst : initial ≤ sizeMax / itemSize) :
    GrowsSafely itemSize initial array where
  count_le := h.count_le
  length_block := h.length_block
  byteSize_le := h.byteSize_le
  checkedAdd_count := h.checkedAdd_count hitem
  reserve realloc required := by
    have hpos : 0 < itemSize := Nat.lt_of_lt_of_le Nat.two_pos hitem
    obtain ⟨ok, array', hreserve, hreserved, -⟩ :=
      reserve_spec hpos hinitial hfirst h.length_block realloc required
    exact ⟨ok, array', hreserve, hreserved⟩

end GrowingArray

end TraceGlass
