import TraceGlass.Export.Buffers

/-!
# Escape buffers suffice

The length checks of `write_json_string` and `write_csv_field` leave out exactly the strings for
which the size of the buffer would wrap (`passesJson_iff`, `passesCsv_iff`), and no store leaves the
buffer (`StaysInside`).  In `write_csv_field` the text read back is then all that was written
(`Suffices`).  In `write_json_string` it is under `EscapesFit`, and under no other condition:
`buffersSuffice_iff`.  It holds for every string of fewer than 357,913,941 units, and there
`writeJsonString` is what the function does (`writeJsonStringInto_eq`).
-/

namespace TraceGlass

open EscapeBuffer

variable {value cells : List WCHAR}

/-! ## The sizes -/

/-- `length > ((SIZE_MAX / sizeof(WCHAR)) - 3) / 6` is false. -/
def PassesJson (value : List WCHAR) : Prop := value.length ≤ (sizeMax / 2 - 3) / 6

/-- `length > ((SIZE_MAX / sizeof(WCHAR)) - 3) / 2` is false. -/
def PassesCsv (value : List WCHAR) : Prop := value.length ≤ (sizeMax / 2 - 3) / 2

/-- The check leaves out the lengths for which the byte size is no `size_t`, and no others. -/
lemma passesJson_iff : PassesJson value ↔ (6 * value.length + 3) * 2 ≤ sizeMax := by
  simp only [PassesJson, sizeMax]
  omega

lemma passesCsv_iff : PassesCsv value ↔ (2 * value.length + 3) * 2 ≤ sizeMax := by
  simp only [PassesCsv, sizeMax]
  omega

lemma jsonCapacity_eq (h : PassesJson value) : jsonCapacity value = 6 * value.length + 3 := by
  have hsize := passesJson_iff.mp h
  rw [jsonCapacity, sizeMul_eq (by omega), sizeAdd_eq (by omega), Nat.mul_comm]

lemma csvCapacity_eq (h : PassesCsv value) : csvCapacity value = 2 * value.length + 3 := by
  have hsize := passesCsv_iff.mp h
  rw [csvCapacity, sizeMul_eq (by omega), sizeAdd_eq (by omega), Nat.mul_comm]

/-! ## The whole fill -/

/-- What a loop that writes these units leads to: they are in the buffer between the quotes, with
the terminator behind. -/
lemma fill_spec (step : EscapeBuffer → WCHAR → Option EscapeBuffer)
    (P : List WCHAR → Bool → Prop) {room : ℕ} (hroom : room + 3 ≤ cells.length)
    (hsize : cells.length ≤ sizeMax)
    (hloop : ∀ buffer : EscapeBuffer, buffer.cells.length = cells.length →
      buffer.targetIndex = 1 → buffer.formatted = true →
      ∃ buffer' units, Machine.run step buffer value = some buffer' ∧
        Continues buffer units buffer' ∧ units.length ≤ room ∧ P units buffer'.formatted) :
    ∃ buffer units, fill step cells value = some buffer ∧
      buffer.targetIndex = units.length + 2 ∧ 0x22 :: units ++ [0x22] ++ [0] <+: buffer.cells ∧
      P units buffer.formatted := by
  obtain ⟨buffer₁, hopen, h₁, hformatted₁⟩ :=
    put_spec ⟨cells, 0, true⟩ (by dsimp only; omega) hsize 0x22
  obtain ⟨buffer₂, units, hrun, h₂, hunits, hP⟩ :=
    hloop buffer₁ h₁.length_cells h₁.targetIndex hformatted₁
  have hindex₂ := h₂.targetIndex
  rw [h₁.targetIndex, List.length_singleton] at hindex₂
  have hlength₂ := h₂.length_cells.trans h₁.length_cells
  simp only [] at hindex₂ hlength₂
  obtain ⟨buffer₃, hclose, hindex₃, hformatted₃, hstarts⟩ :=
    close_spec buffer₂ (by omega) (by omega)
  have hwritten : buffer₂.written = 0x22 :: units := by
    rw [h₂.written, h₁.written]
    rfl
  refine ⟨buffer₃, units, ?_, by omega, hwritten ▸ hstarts, hformatted₃ ▸ hP⟩
  rw [fill, hopen, Option.bind_some, hrun, Option.bind_some, hclose]

/-- The condition on the string.  Wherever a control has to be formatted, no more of the
`6 * length + 3` units is left than `StringCchPrintfW` takes. -/
def EscapesFit (value : List WCHAR) : Prop :=
  ∀ before character after, value = before ++ character :: after → NeedsFormat character →
    6 * value.length + 2 - escapedLength before ≤ strsafeMaxCch

lemma escapesFit_iff : EscapesFit value ↔ FormatsFit (6 * value.length + 3) 1 value := by
  have hroom : ∀ before, 6 * value.length + 3 - (1 + escapedLength before) =
      6 * value.length + 2 - escapedLength before := fun before => by omega
  simp only [EscapesFit, FormatsFit, hroom]

/-- Strings of fewer than 357,913,941 units fit. -/
lemma escapesFit_of_length_lt (h : value.length < 357913941) : EscapesFit value := by
  intro before character after _ _
  simp only [strsafeMaxCch]
  omega

/-- **`write_json_string` on its block.** -/
theorem escapeJsonInto_spec (terminates : Bool) (hpass : PassesJson value)
    (hcells : cells.length = 6 * value.length + 3) :
    ∃ buffer units, escapeJsonInto terminates value cells = some buffer ∧
      buffer.targetIndex = units.length + 2 ∧ 0x22 :: units ++ [0x22] ++ [0] <+: buffer.cells ∧
      units.length = escapedLength value ∧
      ((EscapesFit value ∧ units = value.flatMap (escapeJsonUnit 7) ∧ buffer.formatted = true) ∨
        (¬ EscapesFit value ∧ buffer.formatted = false)) := by
  have hsize := passesJson_iff.mp hpass
  have hcapacity := jsonCapacity_eq hpass
  have hle := escapedLength_le value
  have hroom : 6 * value.length + 3 ≤ cells.length := by omega
  refine fill_spec (EscapeBuffer.putJson terminates (jsonCapacity value))
    (fun units formatted => units.length = escapedLength value ∧
      ((EscapesFit value ∧ units = value.flatMap (escapeJsonUnit 7) ∧ formatted = true) ∨
        (¬ EscapesFit value ∧ formatted = false))) hroom (by omega) ?_
  intro buffer hlength hindex hformatted
  have hbuffer : buffer.cells.length = jsonCapacity value := by omega
  obtain ⟨buffer', units, hrun, h, hunits, hcases⟩ :=
    run_putJson_spec terminates hbuffer (by omega) value (by omega)
  rw [hcapacity, hindex, ← escapesFit_iff, hformatted] at hcases
  exact ⟨buffer', units, hrun, h, by omega, hunits, hcases⟩

/-- **`write_csv_field` on its block.** -/
theorem escapeCsvInto_spec (hpass : PassesCsv value)
    (hcells : cells.length = 2 * value.length + 3) :
    ∃ buffer, escapeCsvInto value cells = some buffer ∧
      buffer.targetIndex = (escapeCsv value).length ∧ escapeCsv value ++ [0] <+: buffer.cells ∧
      buffer.formatted = true := by
  have hsize := passesCsv_iff.mp hpass
  have hescaped : escapeCsv value = 0x22 ::
      (value.flatMap fun unit => if unit = 0x22 then [0x22, unit] else [unit]) ++ [0x22] := by
    rw [escapeCsv, escapeCsvLoop_eq]
    rfl
  have hle := length_escapeCsv_le value
  have hlength : (escapeCsv value).length =
      (value.flatMap fun unit => if unit = 0x22 then [0x22, unit] else [unit]).length + 2 := by
    rw [hescaped, List.length_append, List.length_cons]
    rfl
  have hroom : 2 * value.length + 3 ≤ cells.length := by omega
  obtain ⟨buffer, units, hinto, hindex, hstarts, rfl, hformatted⟩ := fill_spec
    EscapeBuffer.putCsv (fun units formatted => units =
      (value.flatMap fun unit => if unit = 0x22 then [0x22, unit] else [unit]) ∧
        formatted = true) hroom (by omega) (by
    intro buffer hlength' hindex hformatted
    have hbuffer : buffer.cells.length ≤ sizeMax := by omega
    obtain ⟨buffer', hrun, h, hkept⟩ := run_putCsv_spec hbuffer value (by omega)
    exact ⟨buffer', _, hrun, h, by omega, rfl, hkept.trans hformatted⟩)
  exact ⟨buffer, hinto, hindex.trans hlength.symm, hescaped ▸ hstarts, hformatted⟩

/-! ## What is asked of the buffers -/

/-- The sizes are the intended ones, and no store leaves a block of that size. -/
structure StaysInside (capacity intended : ℕ) (into : List WCHAR → Option EscapeBuffer) : Prop where
  capacity_eq : capacity = intended
  byteSize_eq : sizeMul capacity 2 = intended * 2
  stores : ∀ cells, cells.length = sizeMul capacity 2 / 2 → (into cells).isSome = true

/-- Besides, every `\u` escape is formatted, and the text handed to `write_utf8`, which ends before
the first NUL, has `target_index` units. -/
structure Suffices (capacity intended : ℕ) (into : List WCHAR → Option EscapeBuffer) : Prop
    extends StaysInside capacity intended into where
  formatted : ∀ cells buffer, cells.length = sizeMul capacity 2 / 2 → into cells = some buffer →
    buffer.formatted = true
  length_text : ∀ cells buffer, cells.length = sizeMul capacity 2 / 2 → into cells = some buffer →
    buffer.text.length = buffer.targetIndex

/-- Each of the two buffers suffices for this string, if the string passes its check. -/
def BuffersSuffice (terminates : Bool) (value : List WCHAR) : Prop :=
  (PassesJson value → Suffices (jsonCapacity value) (6 * value.length + 3)
      (escapeJsonInto terminates value)) ∧
    (PassesCsv value → Suffices (csvCapacity value) (2 * value.length + 3) (escapeCsvInto value))

lemma json_byteSize_eq (hpass : PassesJson value) :
    sizeMul (jsonCapacity value) 2 = (6 * value.length + 3) * 2 := by
  rw [jsonCapacity_eq hpass, sizeMul_eq (passesJson_iff.mp hpass)]

lemma csv_byteSize_eq (hpass : PassesCsv value) :
    sizeMul (csvCapacity value) 2 = (2 * value.length + 3) * 2 := by
  rw [csvCapacity_eq hpass, sizeMul_eq (passesCsv_iff.mp hpass)]

lemma json_staysInside (terminates : Bool) (hpass : PassesJson value) :
    StaysInside (jsonCapacity value) (6 * value.length + 3) (escapeJsonInto terminates value) where
  capacity_eq := jsonCapacity_eq hpass
  byteSize_eq := json_byteSize_eq hpass
  stores cells hcells := by
    rw [json_byteSize_eq hpass, Nat.mul_div_cancel _ Nat.two_pos] at hcells
    obtain ⟨buffer, -, hinto, -⟩ := escapeJsonInto_spec terminates hpass hcells
    rw [hinto]
    rfl

/-- The text between the quotes is read back if it is free of NUL. -/
lemma text_of_starts {buffer : EscapeBuffer} {units : List WCHAR} (hnul : NoNul units)
    (hstarts : 0x22 :: units ++ [0x22] ++ [0] <+: buffer.cells) :
    buffer.text = 0x22 :: units ++ [0x22] := by
  refine Block.textBefore_of_starts (fun hmem => ?_) hstarts
  rcases List.mem_append.mp hmem with hmem | hmem
  · rcases List.mem_cons.mp hmem with hzero | hmem
    · simp at hzero
    · exact hnul 0 hmem rfl
  · simp at hmem

/-- What `write_json_string` hands to `write_utf8` under the condition. -/
lemma text_escapeJsonInto {terminates : Bool} (hnul : NoNul value) (hpass : PassesJson value)
    (hfits : EscapesFit value) (hcells : cells.length = 6 * value.length + 3)
    {buffer : EscapeBuffer} (hinto : escapeJsonInto terminates value cells = some buffer) :
    buffer.formatted = true ∧ buffer.text = escapeJson (6 * value.length + 3) value ∧
      buffer.text.length = buffer.targetIndex := by
  obtain ⟨buffer', units, hinto', hindex, hstarts, -, hcases⟩ :=
    escapeJsonInto_spec terminates hpass hcells
  obtain rfl := Option.some.inj (hinto'.symm.trans hinto)
  obtain ⟨-, rfl, hformatted⟩ | ⟨hnot, -⟩ := hcases
  · have hunits : NoNul (value.flatMap (escapeJsonUnit 7)) := by
      intro c hc
      obtain ⟨character, hmem, hc⟩ := List.mem_flatMap.mp hc
      exact noNul_escapeJsonUnit (hnul character hmem) c hc
    have htext := text_of_starts hunits hstarts
    refine ⟨hformatted, ?_, ?_⟩
    · rw [htext, escapeJson, escapeJsonLoop_eq _ _ (by rw [List.length_singleton]; omega)]
      rfl
    · rw [htext, hindex, List.length_append, List.length_cons]
      rfl
  · exact absurd hfits hnot

lemma text_escapeCsvInto (hnul : NoNul value) (hpass : PassesCsv value)
    (hcells : cells.length = 2 * value.length + 3) {buffer : EscapeBuffer}
    (hinto : escapeCsvInto value cells = some buffer) :
    buffer.formatted = true ∧ buffer.text = escapeCsv value ∧
      buffer.text.length = buffer.targetIndex := by
  obtain ⟨buffer', hinto', hindex, hstarts, hformatted⟩ := escapeCsvInto_spec hpass hcells
  obtain rfl := Option.some.inj (hinto'.symm.trans hinto)
  have hescaped : 0 ∉ escapeCsv value := by
    rw [escapeCsv, escapeCsvLoop_eq]
    simp only [List.mem_append, List.mem_singleton, List.mem_flatMap, not_or, not_exists, not_and]
    refine ⟨⟨by decide, fun unit hunit hmem => ?_⟩, by decide⟩
    split at hmem
    · next hquote =>
      subst hquote
      revert hmem
      decide
    · exact hnul unit hunit (List.mem_singleton.mp hmem).symm
  have htext : buffer'.text = escapeCsv value := Block.textBefore_of_starts hescaped hstarts
  exact ⟨hformatted, htext, by rw [htext, hindex]⟩

/-- **`write_json_string`.**  Its buffer suffices for the strings that meet the condition and for no
others. -/
theorem json_suffices_iff (terminates : Bool) (hnul : NoNul value) (hpass : PassesJson value) :
    Suffices (jsonCapacity value) (6 * value.length + 3) (escapeJsonInto terminates value) ↔
      EscapesFit value := by
  have hsize : sizeMul (jsonCapacity value) 2 / 2 = 6 * value.length + 3 := by
    rw [json_byteSize_eq hpass, Nat.mul_div_cancel _ Nat.two_pos]
  constructor
  · intro h
    by_contra hnot
    have hcells : (List.replicate (6 * value.length + 3) (0 : WCHAR)).length =
        6 * value.length + 3 := List.length_replicate
    obtain ⟨buffer, units, hinto, -, -, -, ⟨hfits, -⟩ | ⟨-, hformatted⟩⟩ :=
      escapeJsonInto_spec terminates hpass hcells
    · exact hnot hfits
    · have htrue := h.formatted _ buffer (hcells.trans hsize.symm) hinto
      rw [hformatted] at htrue
      cases htrue
  · intro hfits
    refine ⟨json_staysInside terminates hpass, ?_, ?_⟩ <;> intro cells buffer hcells hinto
    · exact (text_escapeJsonInto hnul hpass hfits (hcells.trans hsize) hinto).1
    · exact (text_escapeJsonInto hnul hpass hfits (hcells.trans hsize) hinto).2.2

/-- **`write_csv_field`.** -/
theorem csv_suffices (hnul : NoNul value) (hpass : PassesCsv value) :
    Suffices (csvCapacity value) (2 * value.length + 3) (escapeCsvInto value) := by
  have hsize : sizeMul (csvCapacity value) 2 / 2 = 2 * value.length + 3 := by
    rw [csv_byteSize_eq hpass, Nat.mul_div_cancel _ Nat.two_pos]
  refine ⟨⟨csvCapacity_eq hpass, csv_byteSize_eq hpass, ?_⟩, ?_, ?_⟩
  · intro cells hcells
    obtain ⟨buffer, hinto, -⟩ := escapeCsvInto_spec hpass (hcells.trans hsize)
    rw [hinto]
    rfl
  · intro cells buffer hcells hinto
    exact (text_escapeCsvInto hnul hpass (hcells.trans hsize) hinto).1
  · intro cells buffer hcells hinto
    exact (text_escapeCsvInto hnul hpass (hcells.trans hsize) hinto).2.2

/-! ## Strings that do not fit -/

/-- The loop on such a string.  The first control that has to be formatted leaves a terminator
behind what stands for the units before it. -/
lemma run_putJson_cut {buffer : EscapeBuffer} {capacity : ℕ} {before after : List WCHAR}
    {character : WCHAR} (hcapacity : buffer.cells.length = capacity) (hsize : capacity ≤ sizeMax)
    (hroom : buffer.targetIndex + 6 * (before.length + (after.length + 1)) + 2 ≤ capacity)
    (hplain : ∀ c ∈ before, ¬ NeedsFormat c) (hneeds : NeedsFormat character)
    (hmax : strsafeMaxCch < capacity - (buffer.targetIndex + escapedLength before)) :
    ∃ buffer' units,
      Machine.run (EscapeBuffer.putJson true capacity) buffer (before ++ character :: after) =
        some buffer' ∧
      Continues buffer units buffer' ∧
      units.length = escapedLength (before ++ character :: after) ∧
      before.flatMap (escapeJsonUnit 7) ++ [0] <+: units := by
  have hbefore := escapedLength_le before
  have hwidth := escapedWidth_le character
  obtain ⟨buffer₁, units₁, hrun₁, h₁, hunits₁, hcases⟩ :=
    run_putJson_spec true hcapacity hsize before (by omega)
  have hindex₁ := h₁.targetIndex
  have hlength₁ := h₁.length_cells
  have hfits : FormatsFit capacity buffer.targetIndex before := by
    rintro _ c _ rfl hc
    exact absurd hc (hplain c (by simp))
  obtain ⟨-, rfl, -⟩ | ⟨hnot, -⟩ := hcases
  swap
  · exact absurd hfits hnot
  obtain ⟨buffer₂, units₂, hstep, h₂, hunits₂, hcase⟩ :=
    putJson_spec true (hlength₁.trans hcapacity) hsize (by omega) character
  have hindex₂ := h₂.targetIndex
  have hlength₂ := h₂.length_cells
  have hhead : units₂.head? = some 0 := by
    rcases hcase with ⟨hsmall, -, -⟩ | ⟨-, hhead, -⟩
    · have hle := hsmall hneeds
      omega
    · exact hhead rfl
  obtain ⟨buffer₃, units₃, hrun₃, h₃, hunits₃, -⟩ :=
    run_putJson_spec true (hlength₂.trans (hlength₁.trans hcapacity)) hsize after (by omega)
  refine ⟨buffer₃, _, ?_, h₁.trans (h₂.trans h₃), ?_, ?_⟩
  · rw [Machine.run_append, hrun₁, Option.bind_some, Machine.run, hstep, Option.bind_some, hrun₃]
  · rw [List.length_append, List.length_append, hunits₁, hunits₂, hunits₃, escapedLength_append,
      escapedLength_cons]
  · obtain ⟨rest, rfl⟩ := List.head?_eq_some_iff.mp hhead
    exact (List.prefix_append_right_inj _).mpr ⟨rest ++ units₃, rfl⟩

/-- **What is exported of a string that does not fit.**  Where `StringCchPrintfW` terminates a
destination it does not take, the text ends before the first control that has to be formatted, the
closing quote included, whatever `target_index` is. -/
theorem escapeJsonInto_cut {before after : List WCHAR} {character : WCHAR}
    (hvalue : value = before ++ character :: after) (hnul : NoNul before)
    (hplain : ∀ c ∈ before, ¬ NeedsFormat c) (hneeds : NeedsFormat character)
    (hmax : strsafeMaxCch < 6 * value.length + 2 - escapedLength before)
    (hpass : PassesJson value) (hcells : cells.length = 6 * value.length + 3) :
    ∃ buffer, escapeJsonInto true value cells = some buffer ∧
      buffer.text = 0x22 :: before.flatMap (escapeJsonUnit 7) ∧
      buffer.targetIndex = escapedLength value + 2 := by
  have hsize := passesJson_iff.mp hpass
  have hcapacity := jsonCapacity_eq hpass
  have hlength : value.length = before.length + (after.length + 1) := by
    rw [hvalue, List.length_append, List.length_cons]
  have hroom : 6 * value.length + 3 ≤ cells.length := by omega
  obtain ⟨buffer, units, hinto, hindex, hstarts, hunits, hcut⟩ := fill_spec
    (EscapeBuffer.putJson true (jsonCapacity value))
    (fun units _ => units.length = escapedLength value ∧
      before.flatMap (escapeJsonUnit 7) ++ [0] <+: units) hroom (by omega) (by
    intro buffer hcells' hindex _
    have hbuffer : buffer.cells.length = jsonCapacity value := by omega
    have hloop : buffer.targetIndex + 6 * (before.length + (after.length + 1)) + 2 ≤
        jsonCapacity value := by omega
    obtain ⟨buffer', units, hrun, h, hunits, hcut⟩ :=
      run_putJson_cut hbuffer (by omega) hloop hplain hneeds (by omega)
    rw [← hvalue] at hrun hunits
    exact ⟨buffer', units, hrun, h, hunits ▸ escapedLength_le value, hunits, hcut⟩)
  refine ⟨buffer, hinto, ?_, by omega⟩
  have hnone : 0 ∉ 0x22 :: before.flatMap (escapeJsonUnit 7) := by
    intro hmem
    rcases List.mem_cons.mp hmem with hzero | hmem
    · simp at hzero
    · obtain ⟨c, hc, hmem⟩ := List.mem_flatMap.mp hmem
      exact noNul_escapeJsonUnit (hnul c hc) 0 hmem rfl
  refine Block.textBefore_of_starts hnone (List.IsPrefix.trans ?_ hstarts)
  obtain ⟨rest, rfl⟩ := hcut
  exact ⟨rest ++ [0x22] ++ [0], by simp⟩

/-- A control in front of 357,913,940 letters. -/
def longValue : List WCHAR := 0x01 :: List.replicate 357913940 0x61

lemma length_longValue : longValue.length = 357913941 := by
  rw [longValue, List.length_cons, List.length_replicate]

lemma noNul_longValue : NoNul longValue := by
  intro c hc
  rcases List.mem_cons.mp hc with rfl | hc
  · decide
  · rw [List.eq_of_mem_replicate hc]
    decide

lemma passesJson_longValue : PassesJson longValue := by
  rw [PassesJson, length_longValue]
  decide

lemma needsFormat_one : NeedsFormat 0x01 := by decide

/-- The whole buffer but one unit is more than `StringCchPrintfW` takes. -/
lemma not_escapesFit_longValue : ¬ EscapesFit longValue := by
  intro h
  have hfits := h [] 0x01 _ rfl needsFormat_one
  rw [length_longValue] at hfits
  exact absurd hfits (by decide)

lemma escapedLength_longValue : escapedLength longValue = 357913946 := by
  have hone : escapedWidth 0x01 = 6 := by decide
  have hletter : escapedWidth 0x61 = 1 := by decide
  rw [longValue, escapedLength_cons, escapedLength_replicate, hone, hletter]

/-- The control before the letters: it is not formatted, and where a terminator takes its place,
the opening quote is all that is exported, although `target_index` counts the letters. -/
theorem longValue_not_buffersSuffice :
    NoNul longValue ∧ PassesJson longValue ∧ ¬ BuffersSuffice false longValue ∧
      ¬ BuffersSuffice true longValue ∧
      ∀ cells, cells.length = sizeMul (jsonCapacity longValue) 2 / 2 →
        ∃ buffer, escapeJsonInto true longValue cells = some buffer ∧ buffer.text = [0x22] ∧
          buffer.targetIndex = 357913948 := by
  have hnot : ∀ terminates, ¬ BuffersSuffice terminates longValue := fun terminates h =>
    not_escapesFit_longValue
      ((json_suffices_iff terminates noNul_longValue passesJson_longValue).mp
        (h.1 passesJson_longValue))
  refine ⟨noNul_longValue, passesJson_longValue, hnot false, hnot true, fun cells hcells => ?_⟩
  rw [json_byteSize_eq passesJson_longValue, Nat.mul_div_cancel _ Nat.two_pos] at hcells
  have hmax : strsafeMaxCch < 6 * longValue.length + 2 - escapedLength [] := by
    rw [length_longValue]
    decide
  obtain ⟨buffer, hinto, htext, hindex⟩ := escapeJsonInto_cut
    (rfl : longValue = [] ++ 0x01 :: List.replicate 357913940 0x61) (by simp [NoNul]) (by simp)
    needsFormat_one hmax passesJson_longValue hcells
  exact ⟨buffer, hinto, htext, by rw [hindex, escapedLength_longValue]⟩

/-- **Both buffers suffice exactly for the strings that meet the condition.**  The sizes and the
stores are right for every string that passes its check, and `write_csv_field` asks for nothing
more. -/
theorem buffersSuffice_iff (terminates : Bool) (hnul : NoNul value) :
    (BuffersSuffice terminates value ↔ (PassesJson value → EscapesFit value)) ∧
      (PassesJson value → StaysInside (jsonCapacity value) (6 * value.length + 3)
        (escapeJsonInto terminates value)) ∧
      (PassesCsv value → Suffices (csvCapacity value) (2 * value.length + 3)
        (escapeCsvInto value)) := by
  refine ⟨⟨fun h hpass => ?_, fun h => ⟨fun hpass => ?_, csv_suffices hnul⟩⟩,
    json_staysInside terminates, csv_suffices hnul⟩
  · exact (json_suffices_iff terminates hnul hpass).mp (h.1 hpass)
  · exact (json_suffices_iff terminates hnul hpass).mpr (h hpass)

/-- At a string with a quote and a control. -/
theorem buffersSuffice_short : BuffersSuffice true [0x22, 0x1f, 0x61] :=
  (buffersSuffice_iff true (by decide)).1.mpr fun _ => escapesFit_of_length_lt (by decide)

/-! ## In step with the exporters -/

/-- `write_json_string` with the block that `malloc` answers, whose contents are anything. -/
def writeJsonStringInto (env : ExportEnv) (terminates : Bool) (contents : ℕ → WCHAR)
    (value : List WCHAR) (file : ExportFile) : Option (Bool × ExportFile) :=
  if value.length > (sizeMax / 2 - 3) / 6 then some (false, file)
  else
    let byteSize := sizeMul (jsonCapacity value) 2
    if !env.malloc file.calls byteSize then some (false, file.tick)
    else
      (escapeJsonInto terminates value (Block.resize [] (byteSize / 2) contents)).map fun buffer =>
        writeUtf8 env buffer.text file.tick

/-- `write_csv_field` with the block that `malloc` answers. -/
def writeCsvFieldInto (env : ExportEnv) (contents : ℕ → WCHAR) (value : List WCHAR)
    (file : ExportFile) : Option (Bool × ExportFile) :=
  if value.length > (sizeMax / 2 - 3) / 2 then some (false, file)
  else
    let byteSize := sizeMul (csvCapacity value) 2
    if !env.malloc file.calls byteSize then some (false, file.tick)
    else
      (escapeCsvInto value (Block.resize [] (byteSize / 2) contents)).map fun buffer =>
        writeUtf8 env buffer.text file.tick

variable (env : ExportEnv) (contents : ℕ → WCHAR) (file : ExportFile)

/-- **Under the condition `writeJsonString` is what the function does.** -/
theorem writeJsonStringInto_eq (terminates : Bool) (hnul : NoNul value) (hfits : EscapesFit value) :
    writeJsonStringInto env terminates contents value file =
      some (writeJsonString env value file) := by
  unfold writeJsonStringInto writeJsonString
  by_cases hcheck : value.length > (sizeMax / 2 - 3) / 6
  · rw [if_pos hcheck, if_pos hcheck]
  · have hpass : PassesJson value := Nat.not_lt.mp hcheck
    have hcapacity := jsonCapacity_eq hpass
    rw [if_neg hcheck, if_neg hcheck, ← jsonCapacity]
    dsimp only
    split
    · rfl
    · rw [json_byteSize_eq hpass, Nat.mul_div_cancel _ Nat.two_pos, hcapacity]
      have hcells := Block.length_resize [] (6 * value.length + 3) contents
      obtain ⟨buffer, -, hinto, -⟩ := escapeJsonInto_spec terminates hpass hcells
      obtain ⟨-, htext, -⟩ := text_escapeJsonInto hnul hpass hfits hcells hinto
      rw [hinto, Option.map_some, htext]

/-- **`writeCsvField` is what the function does, for every string.** -/
theorem writeCsvFieldInto_eq (hnul : NoNul value) :
    writeCsvFieldInto env contents value file = some (writeCsvField env value file) := by
  unfold writeCsvFieldInto writeCsvField
  by_cases hcheck : value.length > (sizeMax / 2 - 3) / 2
  · rw [if_pos hcheck, if_pos hcheck]
  · have hpass : PassesCsv value := Nat.not_lt.mp hcheck
    rw [if_neg hcheck, if_neg hcheck, ← csvCapacity]
    dsimp only
    split
    · rfl
    · rw [csv_byteSize_eq hpass, Nat.mul_div_cancel _ Nat.two_pos]
      have hcells := Block.length_resize [] (2 * value.length + 3) contents
      obtain ⟨buffer, hinto, -⟩ := escapeCsvInto_spec hpass hcells
      obtain ⟨-, htext, -⟩ := text_escapeCsvInto hnul hpass hcells hinto
      rw [hinto, Option.map_some, htext]

end TraceGlass
