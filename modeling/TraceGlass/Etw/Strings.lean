import TraceGlass.Etw.Model
import Mathlib.Data.List.TakeWhile

/-!
# Strings from the event only

`read_event_string` copies a property to the front of a buffer on the stack, puts a terminator at
the buffer's end and reads up to the first NUL.  A payload without a terminator that leaves room in
the buffer is followed by what the stack held before.  `readEventString_chars` says what is read,
and `readEventString_fromPayload_iff` when it is the payload's own text on every stack.
-/

namespace TraceGlass

/-! ## The text of a buffer -/

/-- The text of some units: what stands before the first NUL. -/
def untilNul (units : List WCHAR) : List WCHAR := units.takeWhile fun u => decide (u ≠ 0)

lemma copyWstringLoop_eq (room : ℕ) (source : List WCHAR) :
    copyWstringLoop room source = (untilNul source).take room := by
  induction room generalizing source with
  | zero => rfl
  | succ room ih =>
    cases source with
    | nil => rfl
    | cons c source =>
      rw [copyWstringLoop, untilNul, List.takeWhile_cons]
      by_cases hc : c = 0
      · simp [hc]
      · simp only [hc, if_false, ne_eq, not_false_eq_true, decide_true, if_true, ih,
          List.take_succ_cons, untilNul]

/-- A NUL among the first units ends the text there. -/
lemma untilNul_append_of_mem {units : List WCHAR} (h : 0 ∈ units) (units' : List WCHAR) :
    untilNul (units ++ units') = untilNul units := by
  rw [untilNul, List.takeWhile_append, if_neg]
  · rfl
  · intro hlength
    have hall := List.takeWhile_eq_self_iff.mp
      ((List.takeWhile_prefix _).eq_of_length hlength) 0 h
    exact absurd hall (by decide)

/-- Without one the text goes on. -/
lemma untilNul_append_of_noNul {units : List WCHAR} (h : 0 ∉ units) (units' : List WCHAR) :
    untilNul (units ++ units') = units ++ untilNul units' :=
  List.takeWhile_append_of_pos fun _ hu => decide_eq_true fun hzero => h (hzero ▸ hu)

lemma untilNul_of_noNul {units : List WCHAR} (h : 0 ∉ units) : untilNul units = units :=
  List.takeWhile_eq_self_iff.mpr fun _ hu => decide_eq_true fun hzero => h (hzero ▸ hu)

lemma length_untilNul_lt {units : List WCHAR} (h : 0 ∈ units) :
    (untilNul units).length < units.length := by
  refine Nat.lt_of_le_of_ne (List.takeWhile_prefix _).length_le fun hlength => ?_
  have hall := List.takeWhile_eq_self_iff.mp ((List.takeWhile_prefix _).eq_of_length hlength) 0 h
  exact absurd hall (by decide)

/-! ## Units of bytes -/

lemma length_wcharsOf (bytes : List BYTE) : (wcharsOf bytes).length = bytes.length / 2 := by
  fun_induction wcharsOf bytes with
  | case1 low high bytes ih =>
    simp only [List.length_cons, ih]
    omega
  | case2 bytes hshort =>
    match bytes with
    | [] => rfl
    | [_] => simp
    | low :: high :: rest => exact absurd rfl (hshort low high rest)

lemma wcharsOf_take (bytes : List BYTE) (count : ℕ) :
    wcharsOf (bytes.take (2 * count)) = (wcharsOf bytes).take count := by
  induction count generalizing bytes with
  | zero => rfl
  | succ count ih =>
    match bytes with
    | [] => simp [wcharsOf]
    | [_] => simp [wcharsOf, Nat.mul_succ]
    | low :: high :: rest =>
      simp only [Nat.mul_succ, List.take_succ_cons, wcharsOf, ih]

/-- The last byte of an odd number of bytes is the first half of a unit. -/
lemma wcharsOf_append (bytes bytes' : List BYTE) :
    wcharsOf (bytes ++ bytes') =
      wcharsOf bytes ++ wcharsOf (bytes.drop (2 * (bytes.length / 2)) ++ bytes') := by
  fun_induction wcharsOf bytes with
  | case1 low high bytes ih =>
    have hhalf : 2 * ((low :: high :: bytes).length / 2) = 2 * (bytes.length / 2) + 2 := by
      simp only [List.length_cons]
      omega
    rw [hhalf, List.cons_append, List.cons_append, wcharsOf, ih, List.cons_append]
    rfl
  | case2 bytes hshort =>
    match bytes with
    | [] => rfl
    | [_] => simp
    | low :: high :: rest => exact absurd rfl (hshort low high rest)

/-! ## What is read -/

/-- The terminator at the end of the buffer cuts its text after 1023 units. -/
lemma untilNul_terminated {buffer : List BYTE} (hlength : buffer.length = 2048) :
    untilNul (wcharsOf ((buffer.set 2046 0).set 2047 0)) =
      (untilNul (wcharsOf buffer)).take 1023 := by
  have hset : (buffer.set 2046 0).set 2047 0 = buffer.take (2 * 1023) ++ [0, 0] := by
    apply List.ext_getElem
    · simp [hlength]
    · intro i hi hi'
      rw [List.length_set, List.length_set] at hi
      rcases Nat.lt_or_ge i 2046 with hlow | hhigh
      · rw [List.getElem_set_ne (by omega), List.getElem_set_ne (by omega),
          List.getElem_append_left (by simp [hlength]; omega), List.getElem_take]
      · obtain rfl | rfl : i = 2046 ∨ i = 2047 := by omega
        · simp [hlength]
        · simp [hlength]
  have hodd : (buffer.take (2 * 1023)).drop (2 * ((buffer.take (2 * 1023)).length / 2)) = [] := by
    apply List.drop_eq_nil_of_le
    simp [hlength]
  have hnul : ∀ units : List WCHAR, untilNul (units ++ [0]) = untilNul units := by
    intro units
    by_cases h : 0 ∈ units
    · exact untilNul_append_of_mem h _
    · rw [untilNul_append_of_noNul h, untilNul_of_noNul h]
      exact List.append_nil _
  rw [hset, wcharsOf_append, hodd, wcharsOf_take]
  refine (hnul _).trans ?_
  rw [untilNul, untilNul, List.take_takeWhile]

/-- The payload's text: its characters up to the first NUL or its end, as many as there is room
for. -/
def payloadText (payload : List BYTE) (destinationCount : ℕ) : List WCHAR :=
  if payload.length > 2048 then []
  else (untilNul (wcharsOf payload)).take (destinationCount - 1)

/-- The units that follow the payload's own in the buffer: the last byte of an odd number goes with
the first byte from the stack. -/
def unitsBehind (payload stack : List BYTE) : List WCHAR :=
  wcharsOf (payload.drop (2 * (payload.length / 2)) ++ stack.drop payload.length)

section
variable {record : EventRecord} {propertyName : List WCHAR} {payload stack : List BYTE}
  {destinationCount : ℕ} [NeZero destinationCount]

/-- **What `read_event_string` reads** of a payload that fits in the buffer: 1023 units at most,
those of the payload first. -/
lemma readEventString_chars (hpayload : record.property propertyName = some payload)
    (hshort : 2 ≤ payload.length) (hfits : payload.length ≤ 2048) (hstack : stack.length = 2048) :
    (readEventString record stack propertyName destinationCount).chars =
      (untilNul (wcharsOf payload ++ unitsBehind payload stack)).take
        (min (destinationCount - 1) 1023) := by
  have hread : readEventProperty record propertyName 2048 = some payload := by
    simp only [readEventProperty, hpayload]
    rw [if_neg (by omega)]
  simp only [readEventString, hread]
  rw [if_pos hshort]
  have hchars : ∀ source, (copyWstring destinationCount source).chars =
      (untilNul source).take (destinationCount - 1) := copyWstringLoop_eq _
  have hlength : (payload ++ stack.drop payload.length).length = 2048 := by
    rw [List.length_append, List.length_drop, hstack]
    omega
  rw [hchars, untilNul_terminated hlength, List.take_take, wcharsOf_append]
  rfl

lemma readEventString_of_short (hpayload : record.property propertyName = some payload)
    (hshort : payload.length < 2 ∨ 2048 < payload.length) :
    (readEventString record stack propertyName destinationCount).chars = [] := by
  unfold readEventString readEventProperty
  rw [hpayload]
  dsimp only
  by_cases hrefused : payload.length = 0 ∨ payload.length > 2048
  · rw [if_pos hrefused]
    rfl
  · rw [if_neg hrefused]
    dsimp only
    rw [if_neg (by omega)]
    rfl

end

/-! ## When it is the payload's text -/

/-- The string that is read does not depend on the stack, and is the payload's text. -/
def FromPayload (record : EventRecord) (propertyName : List WCHAR) (payload : List BYTE)
    (destinationCount : ℕ) [NeZero destinationCount] : Prop :=
  (∀ stack stack' : List BYTE, stack.length = 2048 → stack'.length = 2048 →
    readEventString record stack propertyName destinationCount =
      readEventString record stack' propertyName destinationCount) ∧
  ∀ stack : List BYTE, stack.length = 2048 →
    (readEventString record stack propertyName destinationCount).chars =
      payloadText payload destinationCount

/-- The terminator is in the payload or in its place, or the destination is full before. -/
def Terminated (payload : List BYTE) (destinationCount : ℕ) : Prop :=
  payload.length < 2 ∨ 2048 < payload.length ∨ 0 ∈ wcharsOf payload ∨
    destinationCount - 1 ≤ min (payload.length / 2) 1023 ∨
    payload.length = 2046 ∨ payload.length = 2047

section
variable {record : EventRecord} {propertyName : List WCHAR} {payload stack : List BYTE}
  {destinationCount : ℕ} [NeZero destinationCount]

lemma readEventString_of_terminated (hpayload : record.property propertyName = some payload)
    (h : Terminated payload destinationCount) (hstack : stack.length = 2048) :
    (readEventString record stack propertyName destinationCount).chars =
      payloadText payload destinationCount := by
  have hunits := length_wcharsOf payload
  rcases Nat.lt_or_ge payload.length 2 with hshort | hshort
  · have hnone : wcharsOf payload = [] := List.eq_nil_of_length_eq_zero (by omega)
    rw [readEventString_of_short hpayload (.inl hshort), payloadText, hnone]
    split
    · rfl
    · exact List.take_nil.symm
  rcases Nat.lt_or_ge 2048 payload.length with hlarge | hfits
  · rw [readEventString_of_short hpayload (.inr hlarge), payloadText, if_pos hlarge]
  rw [readEventString_chars hpayload hshort hfits hstack, payloadText,
    if_neg (Nat.not_lt.mpr hfits)]
  by_cases hnul : 0 ∈ wcharsOf payload
  · have hlength := length_untilNul_lt hnul
    rw [untilNul_append_of_mem hnul, List.take_eq_take_iff]
    omega
  · have hroom : destinationCount - 1 ≤ min (payload.length / 2) 1023 ∨ payload.length = 2046 ∨
        payload.length = 2047 := by
      rcases h with hshort' | hlarge | hnul' | hroom
      · omega
      · omega
      · exact absurd hnul' hnul
      · exact hroom
    rw [untilNul_append_of_noNul hnul, untilNul_of_noNul hnul,
      List.take_append_of_le_length (by omega), List.take_eq_take_iff]
    omega

/-- On a stack full of letters some of them follow the payload. -/
lemma untilNul_unitsBehind_ne_nil (hroom : payload.length ≤ 2045) :
    untilNul (unitsBehind payload (List.replicate 2048 0x41)) ≠ [] := by
  have hletters : ∃ rest, (List.replicate 2048 (0x41 : BYTE)).drop payload.length =
      0x41 :: 0x41 :: rest := by
    obtain ⟨count, hcount⟩ : ∃ count, 2048 - payload.length = count + 2 :=
      ⟨2046 - payload.length, by omega⟩
    exact ⟨List.replicate count 0x41, by rw [List.drop_replicate, hcount]; rfl⟩
  obtain ⟨rest, hrest⟩ := hletters
  have hfirst : ∃ (low : BYTE) (units : List WCHAR),
      unitsBehind payload (List.replicate 2048 0x41) =
        UInt16.ofNat (low.toNat + 256 * (0x41 : BYTE).toNat) :: units := by
    have hodd : (payload.drop (2 * (payload.length / 2))).length ≤ 1 := by
      rw [List.length_drop]
      omega
    rw [unitsBehind, hrest]
    match hlast : payload.drop (2 * (payload.length / 2)) with
    | [] => exact ⟨0x41, _, rfl⟩
    | [low] => exact ⟨low, _, rfl⟩
    | _ :: _ :: _ =>
      rw [hlast] at hodd
      simp at hodd
  obtain ⟨low, units, hunits⟩ := hfirst
  have hne : UInt16.ofNat (low.toNat + 256 * (0x41 : BYTE).toNat) ≠ 0 := by
    intro hzero
    have hnat := congrArg UInt16.toNat hzero
    have hlow := low.toNat_lt
    rw [UInt16.toNat_ofNat_of_lt' (by simp only [UInt16.size, UInt8.reduceToNat]; omega)] at hnat
    simp only [UInt8.reduceToNat, UInt16.toNat_zero] at hnat
    omega
  rw [hunits, untilNul, List.takeWhile_cons, if_pos (by rw [decide_eq_true_eq]; exact hne)]
  exact List.cons_ne_nil _ _

lemma terminated_of_readEventString (hpayload : record.property propertyName = some payload)
    (h : (readEventString record (List.replicate 2048 0x41) propertyName destinationCount).chars =
      payloadText payload destinationCount) : Terminated payload destinationCount := by
  by_contra hnot
  simp only [Terminated, not_or, Nat.not_lt, Nat.not_le] at hnot
  obtain ⟨hshort, hfits, hnul, hroom, hend, hend'⟩ := hnot
  have hunits := length_wcharsOf payload
  rw [readEventString_chars hpayload hshort hfits List.length_replicate, payloadText,
    if_neg (Nat.not_lt.mpr hfits), untilNul_append_of_noNul hnul, untilNul_of_noNul hnul] at h
  have hlength := congrArg List.length h
  rw [List.length_take, List.length_take, List.length_append] at hlength
  rcases Nat.lt_or_ge payload.length 2046 with hlow | hhigh
  · have hpos := List.length_pos_iff.mpr
      (untilNul_unitsBehind_ne_nil (Nat.le_of_lt_succ hlow))
    omega
  · omega

end

/-- **When an ETW string comes only from the event.**  The payload's text is read on every stack
exactly if the payload is shorter than a character or larger than the buffer, if it has a NUL
character, if it fills the destination, or if it ends where the code puts the terminator. -/
theorem readEventString_fromPayload_iff (record : EventRecord) (propertyName : List WCHAR)
    (payload : List BYTE) (hpayload : record.property propertyName = some payload)
    (destinationCount : ℕ) [NeZero destinationCount] :
    FromPayload record propertyName payload destinationCount ↔
      Terminated payload destinationCount := by
  constructor
  · rintro ⟨-, htext⟩
    exact terminated_of_readEventString hpayload (htext _ List.length_replicate)
  · intro hterminated
    have htext := fun (stack : List BYTE) (hstack : stack.length = 2048) =>
      readEventString_of_terminated hpayload hterminated hstack
    exact ⟨fun stack stack' hstack hstack' =>
      WString.ext ((htext stack hstack).trans (htext stack' hstack').symm), htext⟩

/-- A record the image name of which is these bytes. -/
def imageNamed (payload : List BYTE) : EventRecord where
  providerId := kernelProcessProvider
  id := processStartEventId
  processId := 8
  timeStamp := 0
  property := fun name => if name = wide "ImageName" then some payload else none

/-- The name `a` with its terminator is read as `a`. -/
theorem readEventString_fromPayload_iff_terminated :
    FromPayload (imageNamed [97, 0, 0, 0]) (wide "ImageName") [97, 0, 0, 0] maxPath :=
  (readEventString_fromPayload_iff (imageNamed [97, 0, 0, 0]) (wide "ImageName") [97, 0, 0, 0] rfl
    maxPath).mpr (.inr (.inr (.inl (by decide))))

/-- The name `a` without one goes on with what the stack holds. -/
theorem readEventString_leaks :
    ¬ FromPayload (imageNamed [97, 0]) (wide "ImageName") [97, 0] maxPath := by
  rintro ⟨-, htext⟩
  have hterminated : Terminated [97, 0] maxPath :=
    terminated_of_readEventString rfl (htext _ List.length_replicate)
  rcases hterminated with hshort | hlarge | hnul | hroom | hend | hend
  · exact absurd hshort (by decide)
  · exact absurd hlarge (by decide)
  · exact absurd hnul (by decide)
  · exact absurd hroom (by decide)
  · exact absurd hend (by decide)
  · exact absurd hend (by decide)

end TraceGlass
