import TraceGlass.Lib.Block
import TraceGlass.Export.Csv

/-!
# The buffers of `write_json_string` and `write_csv_field`

Both functions escape a string of any length into a block they have asked for, and write out the
text they find in it.  An `EscapeBuffer` is the block with `target_index`; a store outside the block
has no result.

`StringCchPrintfW` takes no destination of more than `STRSAFE_MAX_CCH` units.  `write_json_string`
tells it all that is left of the buffer, and does not look at what it returns.  So one unit of the
value has two outcomes (`putJson_spec`), and the loop writes what it is meant to write if and only
if `FormatsFit` (`run_putJson_spec`).
-/

namespace TraceGlass

/-! ## `StringCchPrintfW` -/

/-- `STRSAFE_MAX_CCH`. -/
def strsafeMaxCch : ℕ := 2147483647

/-- What `StringCchPrintfW` returns. -/
inductive StrsafeResult
  | ok
  | invalidParameter
  | insufficientBuffer
  deriving DecidableEq

/-- `StringCchPrintfW` to the cells from `index` on, told that there are `cchDest` of them, given
the expanded text.  Whether it puts a terminator in a destination of invalid size is left open by
its documentation: `terminates`. -/
def stringCchPrintfAt (terminates : Bool) (cells : List WCHAR) (index cchDest : ℕ)
    (text : List WCHAR) : Option (StrsafeResult × List WCHAR) :=
  if cchDest = 0 then some (.invalidParameter, cells)
  else if cchDest > strsafeMaxCch then
    if terminates then (Block.write cells index 0).map fun cells => (.invalidParameter, cells)
    else some (.invalidParameter, cells)
  else if text.length < cchDest then
    (Block.writeAll cells index (text ++ [0])).map fun cells => (.ok, cells)
  else
    (Block.writeAll cells index (text.take (cchDest - 1) ++ [0])).map fun cells =>
      (.insufficientBuffer, cells)

/-- A text that fits is written, with a terminator, unless the size told is too large.  What lies
before the destination is left alone in any case. -/
lemma stringCchPrintfAt_spec (terminates : Bool) {cells text : List WCHAR} {index cchDest : ℕ}
    (hroom : index + cchDest ≤ cells.length) (hfits : text.length < cchDest) :
    ∃ result cells', stringCchPrintfAt terminates cells index cchDest text = some (result, cells') ∧
      cells'.length = cells.length ∧
      ((cchDest ≤ strsafeMaxCch ∧ result = .ok ∧ cells.take index ++ text <+: cells') ∨
        (strsafeMaxCch < cchDest ∧ result = .invalidParameter ∧ cells.take index <+: cells' ∧
          (terminates = true → cells'[index]? = some 0))) := by
  have hlength : (cells.take index).length = index := by
    rw [List.length_take]
    omega
  have hlt : index < cells.length := by omega
  unfold stringCchPrintfAt
  rw [if_neg (by omega)]
  by_cases hmax : cchDest > strsafeMaxCch
  · rw [if_pos hmax]
    cases terminates with
    | true =>
      refine ⟨.invalidParameter, cells.set index 0, ?_, List.length_set,
        Or.inr ⟨hmax, rfl, ?_, fun _ => List.getElem?_set_self hlt⟩⟩
      · rw [if_pos rfl, Block.write_of_lt hlt, Option.map_some]
      · have hstarts := Block.starts_set (x := 0) (List.take_prefix index cells) (by omega)
        rw [hlength] at hstarts
        exact (List.prefix_append _ _).trans hstarts
    | false =>
      exact ⟨.invalidParameter, cells, rfl, rfl,
        Or.inr ⟨hmax, rfl, List.take_prefix _ _, by simp⟩⟩
  · obtain ⟨cells', hwrite, hsame, hstarts⟩ :=
      Block.writeAll_starts (List.take_prefix index cells) (text ++ [0]) (by
        rw [hlength, List.length_append, List.length_singleton]
        omega)
    rw [hlength] at hwrite
    refine ⟨.ok, cells', ?_, hsame, Or.inl ⟨Nat.not_lt.mp hmax, rfl, ?_⟩⟩
    · rw [if_neg hmax, if_pos hfits, hwrite, Option.map_some]
    · rw [← List.append_assoc] at hstarts
      exact (List.prefix_append _ _).trans hstarts

/-! ## The buffer -/

/-- `escaped` with `target_index`, and whether every `StringCchPrintfW` so far has succeeded, which
the source does not keep. -/
structure EscapeBuffer where
  cells : List WCHAR
  targetIndex : ℕ
  formatted : Bool

namespace EscapeBuffer

/-- `escaped[target_index++] = unit`. -/
def put (buffer : EscapeBuffer) (unit : WCHAR) : Option EscapeBuffer :=
  (Block.write buffer.cells buffer.targetIndex unit).map fun cells =>
    { buffer with cells, targetIndex := sizeAdd buffer.targetIndex 1 }

/-- The second unit of an escape that has two, by the cases of the switch. -/
def shortEscape (character : WCHAR) : Option WCHAR :=
  if character = 0x22 then some 0x22
  else if character = 0x5c then some 0x5c
  else if character = 0x08 then some 0x62
  else if character = 0x0c then some 0x66
  else if character = 0x0a then some 0x6e
  else if character = 0x0d then some 0x72
  else if character = 0x09 then some 0x74
  else none

/-- The switch of `write_json_string`, on a buffer of `capacity` units. -/
def putJson (terminates : Bool) (capacity : ℕ) (buffer : EscapeBuffer) (character : WCHAR) :
    Option EscapeBuffer :=
  match shortEscape character with
  | some unit => (buffer.put 0x5c).bind fun buffer => buffer.put unit
  | none =>
      if character < 0x20 then
        (stringCchPrintfAt terminates buffer.cells buffer.targetIndex
          (sizeSub capacity buffer.targetIndex)
          (wide "\\u" ++ formatHexPadded 4 character.toNat)).map fun (result, cells) =>
            { cells
              targetIndex := sizeAdd buffer.targetIndex 6
              formatted := buffer.formatted && result = .ok }
      else buffer.put character

/-- The body of the loop of `write_csv_field`. -/
def putCsv (buffer : EscapeBuffer) (character : WCHAR) : Option EscapeBuffer :=
  if character = 0x22 then (buffer.put 0x22).bind fun buffer => buffer.put character
  else buffer.put character

/-- What follows the loop in both functions: the closing quote, and the terminator. -/
def close (buffer : EscapeBuffer) : Option EscapeBuffer :=
  (buffer.put 0x22).bind fun buffer =>
    (Block.write buffer.cells buffer.targetIndex 0).map fun cells => { buffer with cells }

/-- The block filled from the front: the opening quote, the loop over the value and the end. -/
def fill (step : EscapeBuffer → WCHAR → Option EscapeBuffer) (cells value : List WCHAR) :
    Option EscapeBuffer :=
  (put ⟨cells, 0, true⟩ 0x22).bind fun buffer => (Machine.run step buffer value).bind close

/-- The text `write_utf8` finds. -/
def text (buffer : EscapeBuffer) : List WCHAR := Block.textBefore 0 buffer.cells

end EscapeBuffer

/-- `length * 6 + 3` of `write_json_string`. -/
def jsonCapacity (value : List WCHAR) : ℕ := sizeAdd (sizeMul value.length 6) 3

/-- `length * 2 + 3` of `write_csv_field`. -/
def csvCapacity (value : List WCHAR) : ℕ := sizeAdd (sizeMul value.length 2) 3

/-- `write_json_string` up to the call of `write_utf8`, on the block it was given. -/
def escapeJsonInto (terminates : Bool) (value cells : List WCHAR) : Option EscapeBuffer :=
  EscapeBuffer.fill (EscapeBuffer.putJson terminates (jsonCapacity value)) cells value

/-- `write_csv_field` up to the call of `write_utf8`, on the block it was given. -/
def escapeCsvInto (value cells : List WCHAR) : Option EscapeBuffer :=
  EscapeBuffer.fill EscapeBuffer.putCsv cells value

/-! ## What is written -/

namespace EscapeBuffer

variable {buffer buffer' buffer'' : EscapeBuffer} {units units' : List WCHAR} {capacity : ℕ}

/-- What lies before the next index. -/
def written (buffer : EscapeBuffer) : List WCHAR := buffer.cells.take buffer.targetIndex

/-- The second buffer is the first with these units written behind the others. -/
structure Continues (buffer : EscapeBuffer) (units : List WCHAR) (buffer' : EscapeBuffer) :
    Prop where
  length_cells : buffer'.cells.length = buffer.cells.length
  targetIndex : buffer'.targetIndex = buffer.targetIndex + units.length
  written : buffer'.written = buffer.written ++ units

lemma Continues.refl (buffer : EscapeBuffer) : Continues buffer [] buffer :=
  ⟨rfl, rfl, (List.append_nil _).symm⟩

lemma Continues.trans (h : Continues buffer units buffer')
    (h' : Continues buffer' units' buffer'') : Continues buffer (units ++ units') buffer'' where
  length_cells := h'.length_cells.trans h.length_cells
  targetIndex := by rw [h'.targetIndex, h.targetIndex, List.length_append, Nat.add_assoc]
  written := by rw [h'.written, h.written, List.append_assoc]

lemma length_written (h : buffer.targetIndex ≤ buffer.cells.length) :
    buffer.written.length = buffer.targetIndex := by
  rw [written, List.length_take, Nat.min_eq_left h]

/-- The block need only start with the units. -/
lemma continues_of_starts {cells : List WCHAR} {index : ℕ} (formatted : Bool)
    (hindex : buffer.targetIndex ≤ buffer.cells.length)
    (hnext : index = buffer.targetIndex + units.length)
    (hlength : cells.length = buffer.cells.length) (hstarts : buffer.written ++ units <+: cells) :
    Continues buffer units ⟨cells, index, formatted⟩ := by
  subst hnext
  refine ⟨hlength, rfl, ?_⟩
  obtain ⟨rest, rfl⟩ := hstarts
  exact List.take_left' (by rw [List.length_append, length_written hindex])

/-- One unit. -/
lemma put_spec (buffer : EscapeBuffer) (hroom : buffer.targetIndex < buffer.cells.length)
    (hsize : buffer.cells.length ≤ sizeMax) (unit : WCHAR) :
    ∃ buffer', buffer.put unit = some buffer' ∧ Continues buffer [unit] buffer' ∧
      buffer'.formatted = buffer.formatted := by
  have hwritten := length_written hroom.le
  have hstarts := Block.starts_set (x := unit) (List.take_prefix buffer.targetIndex buffer.cells)
    (by rwa [← written, hwritten])
  rw [← written, hwritten] at hstarts
  refine ⟨⟨buffer.cells.set buffer.targetIndex unit, buffer.targetIndex + 1, buffer.formatted⟩, ?_,
    continues_of_starts _ hroom.le rfl List.length_set hstarts, rfl⟩
  rw [put, Block.write_of_lt hroom, Option.map_some, sizeAdd_eq (by omega)]

/-- Two units. -/
lemma put_put_spec (buffer : EscapeBuffer) (hroom : buffer.targetIndex + 2 ≤ buffer.cells.length)
    (hsize : buffer.cells.length ≤ sizeMax) (unit unit' : WCHAR) :
    ∃ buffer', ((buffer.put unit).bind fun buffer => buffer.put unit') = some buffer' ∧
      Continues buffer [unit, unit'] buffer' ∧ buffer'.formatted = buffer.formatted := by
  obtain ⟨buffer₁, hput₁, h₁, hformatted₁⟩ := put_spec buffer (by omega) hsize unit
  have hlength := h₁.length_cells
  have hindex := h₁.targetIndex
  rw [List.length_singleton] at hindex
  obtain ⟨buffer₂, hput₂, h₂, hformatted₂⟩ :=
    put_spec buffer₁ (by omega) (by omega) unit'
  exact ⟨buffer₂, by rw [hput₁, Option.bind_some, hput₂], h₁.trans h₂,
    hformatted₂.trans hformatted₁⟩

/-! ## One unit of the value -/

/-- The switch has no short escape for the unit, and the unit may not stand for itself. -/
def NeedsFormat (character : WCHAR) : Prop := shortEscape character = none ∧ character < 0x20

instance (character : WCHAR) : Decidable (NeedsFormat character) :=
  inferInstanceAs (Decidable (_ ∧ _))

/-- How many units stand for one of the value's. -/
def escapedWidth (character : WCHAR) : ℕ :=
  if (shortEscape character).isSome then 2 else if character < 0x20 then 6 else 1

/-- The switch by its three kinds of cases. -/
lemma escapeJsonUnit_eq_match (character : WCHAR) :
    escapeJsonUnit 7 character =
      match shortEscape character with
      | some unit => [0x5c, unit]
      | none =>
          if character < 0x20 then wide "\\u" ++ formatHexPadded 4 character.toNat
          else [character] := by
  unfold escapeJsonUnit shortEscape
  by_cases hcontrol : character < 0x20
  · obtain ⟨hnul, hlength⟩ := hexEscape_spec hcontrol
    rw [copyWstringLoop_eq_self hnul (by omega), if_pos hcontrol]
    split_ifs <;> rfl
  · rw [if_neg hcontrol, if_neg hcontrol]
    split_ifs <;> rfl

lemma escapedWidth_le (character : WCHAR) : escapedWidth character ≤ 6 := by
  unfold escapedWidth
  repeat' split
  all_goals omega

lemma length_escapeJsonUnit (character : WCHAR) :
    (escapeJsonUnit 7 character).length = escapedWidth character := by
  rw [escapeJsonUnit_eq_match, escapedWidth]
  cases shortEscape character with
  | some unit => rfl
  | none =>
    by_cases hcontrol : character < 0x20
    · rw [if_pos hcontrol, if_neg (by simp), if_pos hcontrol]
      exact (hexEscape_spec hcontrol).2
    · rw [if_neg hcontrol, if_neg (by simp), if_neg hcontrol]
      rfl

/-- What stands for a unit other than NUL is free of it. -/
lemma noNul_escapeJsonUnit {character : WCHAR} (hnul : character ≠ 0) :
    NoNul (escapeJsonUnit 7 character) := by
  rw [escapeJsonUnit_eq_match]
  cases hshort : shortEscape character with
  | some unit =>
    have hunit : unit ≠ 0 := by
      unfold shortEscape at hshort
      split_ifs at hshort <;> obtain rfl := Option.some.inj hshort <;> decide
    intro c hc
    rcases List.mem_pair.mp hc with rfl | rfl
    · decide
    · exact hunit
  | none =>
    by_cases hcontrol : character < 0x20
    · simpa only [if_pos hcontrol] using (hexEscape_spec hcontrol).1
    · simpa only [if_neg hcontrol, NoNul, List.forall_mem_singleton] using hnul

/-- The case of the switch that formats.  The escape is written, or its six cells are skipped. -/
lemma putFormat_spec (terminates : Bool) (hcapacity : buffer.cells.length = capacity)
    (hsize : capacity ≤ sizeMax) (hroom : buffer.targetIndex + 8 ≤ capacity) {character : WCHAR}
    (hneeds : NeedsFormat character) :
    ∃ buffer' units, buffer.putJson terminates capacity character = some buffer' ∧
      Continues buffer units buffer' ∧ units.length = 6 ∧
      ((capacity - buffer.targetIndex ≤ strsafeMaxCch ∧
          units = wide "\\u" ++ formatHexPadded 4 character.toNat ∧
          buffer'.formatted = buffer.formatted) ∨
        (strsafeMaxCch < capacity - buffer.targetIndex ∧
          (terminates = true → units.head? = some 0) ∧ buffer'.formatted = false)) := by
  have hlength := (hexEscape_spec hneeds.2).2
  have hwritten : buffer.written.length = buffer.targetIndex := length_written (by omega)
  have hleft : buffer.targetIndex + (capacity - buffer.targetIndex) ≤ buffer.cells.length := by
    omega
  have hfits : (wide "\\u" ++ formatHexPadded 4 character.toNat).length <
      capacity - buffer.targetIndex := by omega
  obtain ⟨result, cells', hprintf, hsame, hresult⟩ :=
    stringCchPrintfAt_spec terminates hleft hfits
  unfold putJson
  simp only [hneeds.1]
  rw [if_pos hneeds.2, sizeSub_eq (by omega) hsize, hprintf, sizeAdd_eq (by omega),
    Option.map_some]
  rcases hresult with ⟨hmax, rfl, hstarts⟩ | ⟨hmax, rfl, hstarts, hnul⟩
  · exact ⟨_, _, rfl, continues_of_starts _ (by omega) (by rw [hlength]) hsame hstarts, hlength,
      Or.inl ⟨hmax, rfl, by simp⟩⟩
  · -- the cells the escape was for, as they are now
    let skipped := (cells'.drop buffer.targetIndex).take 6
    have hskipped : skipped.length = 6 := by
      simp only [skipped, List.length_take, List.length_drop]
      omega
    have hwhole : buffer.written ++ skipped <+: cells' := by
      have htaken := Block.starts_append_take hstarts 6
      rwa [← written, hwritten] at htaken
    refine ⟨_, skipped, rfl, continues_of_starts _ (by omega) (by rw [hskipped]) hsame hwhole,
      hskipped, Or.inr ⟨hmax, ?_, by simp⟩⟩
    intro hterminates
    rw [List.head?_take, if_neg (by decide), List.head?_drop]
    exact hnul hterminates

/-- **One unit of the value.**  Its escape is written, unless it has to be formatted and more of the
buffer is left than `StringCchPrintfW` takes.  Then the cells the escape was for are skipped. -/
lemma putJson_spec (terminates : Bool) (hcapacity : buffer.cells.length = capacity)
    (hsize : capacity ≤ sizeMax) (hroom : buffer.targetIndex + 8 ≤ capacity) (character : WCHAR) :
    ∃ buffer' units, buffer.putJson terminates capacity character = some buffer' ∧
      Continues buffer units buffer' ∧ units.length = escapedWidth character ∧
      (((NeedsFormat character → capacity - buffer.targetIndex ≤ strsafeMaxCch) ∧
          units = escapeJsonUnit 7 character ∧ buffer'.formatted = buffer.formatted) ∨
        ((NeedsFormat character ∧ strsafeMaxCch < capacity - buffer.targetIndex) ∧
          (terminates = true → units.head? = some 0) ∧ buffer'.formatted = false)) := by
  rw [← length_escapeJsonUnit, escapeJsonUnit_eq_match]
  by_cases hneeds : NeedsFormat character
  · obtain ⟨buffer', units, hput, h, hunits, hcases⟩ :=
      putFormat_spec terminates hcapacity hsize hroom hneeds
    simp only [hneeds.1, if_pos hneeds.2, (hexEscape_spec hneeds.2).2]
    refine ⟨buffer', units, hput, h, hunits, ?_⟩
    rcases hcases with ⟨hmax, hescape, hformatted⟩ | ⟨hmax, hnul, hformatted⟩
    · exact Or.inl ⟨fun _ => hmax, hescape, hformatted⟩
    · exact Or.inr ⟨⟨hneeds, hmax⟩, hnul, hformatted⟩
  · unfold putJson
    cases hshort : shortEscape character with
    | some unit =>
      obtain ⟨buffer', hput, h, hformatted⟩ :=
        put_put_spec buffer (by omega) (by omega) 0x5c unit
      exact ⟨buffer', _, hput, h, rfl, Or.inl ⟨fun hformat => absurd hformat hneeds, rfl,
        hformatted⟩⟩
    | none =>
      have hplain : ¬ character < 0x20 := fun hcontrol => hneeds ⟨hshort, hcontrol⟩
      obtain ⟨buffer', hput, h, hformatted⟩ :=
        put_spec buffer (by omega) (by omega) character
      simp only [if_neg hplain]
      exact ⟨buffer', _, hput, h, rfl, Or.inl ⟨fun hformat => absurd hformat hneeds, rfl,
        hformatted⟩⟩

/-- One unit of a field. -/
lemma putCsv_spec (buffer : EscapeBuffer) (hroom : buffer.targetIndex + 2 ≤ buffer.cells.length)
    (hsize : buffer.cells.length ≤ sizeMax) (character : WCHAR) :
    ∃ buffer', buffer.putCsv character = some buffer' ∧
      Continues buffer (if character = 0x22 then [0x22, character] else [character]) buffer' ∧
      buffer'.formatted = buffer.formatted := by
  unfold putCsv
  split
  · exact put_put_spec buffer hroom hsize 0x22 character
  · exact put_spec buffer (by omega) hsize character

/-! ## The loops -/

/-- How many units stand for these. -/
def escapedLength (source : List WCHAR) : ℕ := (source.map escapedWidth).sum

lemma escapedLength_cons (character : WCHAR) (source : List WCHAR) :
    escapedLength (character :: source) = escapedWidth character + escapedLength source := rfl

lemma escapedLength_append (source source' : List WCHAR) :
    escapedLength (source ++ source') = escapedLength source + escapedLength source' := by
  rw [escapedLength, List.map_append, List.sum_append, escapedLength, escapedLength]

lemma escapedLength_replicate (n : ℕ) (character : WCHAR) :
    escapedLength (List.replicate n character) = n * escapedWidth character := by
  rw [escapedLength, List.map_replicate, List.sum_replicate_nat]

lemma length_flatMap_escapeJsonUnit (source : List WCHAR) :
    (source.flatMap (escapeJsonUnit 7)).length = escapedLength source := by
  rw [List.length_flatMap, escapedLength]
  exact congrArg List.sum (List.map_congr_left fun character _ => length_escapeJsonUnit character)

lemma escapedLength_le (source : List WCHAR) : escapedLength source ≤ 6 * source.length := by
  rw [← length_flatMap_escapeJsonUnit]
  exact length_flatMap_escapeJsonUnit_le source

/-- Wherever an escape has to be formatted, no more of the buffer is left than `StringCchPrintfW`
takes. -/
def FormatsFit (capacity index : ℕ) (source : List WCHAR) : Prop :=
  ∀ before character after, source = before ++ character :: after → NeedsFormat character →
    capacity - (index + escapedLength before) ≤ strsafeMaxCch

lemma formatsFit_nil (capacity index : ℕ) : FormatsFit capacity index [] := by
  intro before character after hsplit
  simp at hsplit

lemma formatsFit_cons {index : ℕ} {character : WCHAR} {source : List WCHAR} :
    FormatsFit capacity index (character :: source) ↔
      (NeedsFormat character → capacity - index ≤ strsafeMaxCch) ∧
        FormatsFit capacity (index + escapedWidth character) source := by
  constructor
  · intro h
    refine ⟨fun hneeds => by simpa [escapedLength] using h [] character source rfl hneeds, ?_⟩
    rintro before unit after rfl hneeds
    have hfits := h (character :: before) unit after rfl hneeds
    rwa [escapedLength_cons, ← Nat.add_assoc] at hfits
  · rintro ⟨hhead, htail⟩ before unit after hsplit hneeds
    cases before with
    | nil =>
      obtain ⟨rfl, rfl⟩ := List.cons_eq_cons.mp hsplit
      simpa [escapedLength] using hhead hneeds
    | cons first before =>
      obtain ⟨rfl, rfl⟩ := List.cons_eq_cons.mp hsplit
      rw [escapedLength_cons, ← Nat.add_assoc]
      exact htail before unit after rfl hneeds

/-- **The loop of `write_json_string`.**  Six units for each of the value's that is left, and two
for the end, are room enough. -/
lemma run_putJson_spec (terminates : Bool) (hcapacity : buffer.cells.length = capacity)
    (hsize : capacity ≤ sizeMax) (source : List WCHAR)
    (hroom : buffer.targetIndex + 6 * source.length + 2 ≤ capacity) :
    ∃ buffer' units, Machine.run (putJson terminates capacity) buffer source = some buffer' ∧
      Continues buffer units buffer' ∧ units.length = escapedLength source ∧
      ((FormatsFit capacity buffer.targetIndex source ∧ units = source.flatMap (escapeJsonUnit 7) ∧
          buffer'.formatted = buffer.formatted) ∨
        (¬ FormatsFit capacity buffer.targetIndex source ∧ buffer'.formatted = false)) := by
  induction source generalizing buffer with
  | nil =>
    exact ⟨buffer, [], rfl, .refl buffer, rfl, Or.inl ⟨formatsFit_nil _ _, rfl, rfl⟩⟩
  | cons character source ih =>
    rw [List.length_cons] at hroom
    obtain ⟨buffer₁, units₁, hstep, h₁, hwidth, hcase⟩ :=
      putJson_spec terminates hcapacity hsize (by omega) character
    have hle := escapedWidth_le character
    have hindex := h₁.targetIndex
    rw [hwidth] at hindex
    obtain ⟨buffer₂, units₂, hrun, h₂, hlength, hcases⟩ :=
      ih (h₁.length_cells.trans hcapacity) (by omega)
    refine ⟨buffer₂, units₁ ++ units₂, ?_, h₁.trans h₂, ?_, ?_⟩
    · rw [Machine.run, hstep, Option.bind_some, hrun]
    · rw [List.length_append, hwidth, hlength, escapedLength_cons]
    · rw [formatsFit_cons, ← hindex]
      rcases hcase with ⟨hfits, rfl, hformatted₁⟩ | ⟨⟨hneeds, hmax⟩, -, hformatted₁⟩
      · rcases hcases with ⟨hrest, rfl, hformatted₂⟩ | ⟨hrest, hformatted₂⟩
        · exact Or.inl ⟨⟨hfits, hrest⟩, rfl, hformatted₂.trans hformatted₁⟩
        · exact Or.inr ⟨fun h => hrest h.2, hformatted₂⟩
      · refine Or.inr ⟨fun h => absurd (h.1 hneeds) (Nat.not_le.mpr hmax), ?_⟩
        rcases hcases with ⟨-, -, hformatted₂⟩ | ⟨-, hformatted₂⟩
        · exact hformatted₂.trans hformatted₁
        · exact hformatted₂

/-- **The loop of `write_csv_field`.** -/
lemma run_putCsv_spec (hsize : buffer.cells.length ≤ sizeMax) (source : List WCHAR)
    (hroom : buffer.targetIndex + 2 * source.length ≤ buffer.cells.length) :
    ∃ buffer', Machine.run putCsv buffer source = some buffer' ∧
      Continues buffer
        (source.flatMap fun unit => if unit = 0x22 then [0x22, unit] else [unit]) buffer' ∧
      buffer'.formatted = buffer.formatted := by
  induction source generalizing buffer with
  | nil => exact ⟨buffer, rfl, .refl buffer, rfl⟩
  | cons character source ih =>
    rw [List.length_cons] at hroom
    obtain ⟨buffer₁, hstep, h₁, hformatted₁⟩ :=
      putCsv_spec buffer (by omega) hsize character
    have hindex := h₁.targetIndex
    have hle : (if character = 0x22 then [0x22, character] else [character]).length ≤ 2 := by
      split <;> simp
    have hlength := h₁.length_cells
    have hsize₁ : buffer₁.cells.length ≤ sizeMax := by omega
    obtain ⟨buffer₂, hrun, h₂, hformatted₂⟩ := ih hsize₁ (by omega)
    refine ⟨buffer₂, ?_, h₁.trans h₂, hformatted₂.trans hformatted₁⟩
    rw [Machine.run, hstep, Option.bind_some, hrun]

/-- The end: the closing quote, and the terminator behind it. -/
lemma close_spec (buffer : EscapeBuffer) (hroom : buffer.targetIndex + 2 ≤ buffer.cells.length)
    (hsize : buffer.cells.length ≤ sizeMax) :
    ∃ buffer', buffer.close = some buffer' ∧ buffer'.targetIndex = buffer.targetIndex + 1 ∧
      buffer'.formatted = buffer.formatted ∧
      buffer.written ++ [0x22] ++ [0] <+: buffer'.cells := by
  obtain ⟨buffer₁, hput, h, hformatted⟩ := put_spec buffer (by omega) hsize 0x22
  have hindex := h.targetIndex
  rw [List.length_singleton] at hindex
  have hlength := h.length_cells
  have hlt : buffer₁.targetIndex < buffer₁.cells.length := by omega
  refine ⟨{ buffer₁ with cells := buffer₁.cells.set buffer₁.targetIndex 0 }, ?_, hindex,
    hformatted, ?_⟩
  · rw [close, hput, Option.bind_some, Block.write_of_lt hlt, Option.map_some]
  · have hwritten := length_written hlt.le
    have hstarts := Block.starts_set (x := 0)
      (List.take_prefix buffer₁.targetIndex buffer₁.cells) (by rwa [← written, hwritten])
    rwa [← written, hwritten, h.written] at hstarts

end EscapeBuffer

end TraceGlass
