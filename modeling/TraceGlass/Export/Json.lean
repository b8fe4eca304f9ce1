import TraceGlass.Export.Writers
import TraceGlass.Lib.Json

/-!
# The JSON export round trip (`write_json_export`)

What the serializer prints is a JSON text, and what that text stands for is the list of the exported
events.  The argument goes from the inside out.  `prints_writeJsonString` is the string: the switch
of `write_json_string` writes for each character what the grammar allows to stand for it.
`PrintsMembers` is the rest of an object and `PrintsElements` the rest of the array; both are built
from the back, one writer of the source at a time, so the commas fall where the source puts them.
-/

namespace TraceGlass

open Unicode

variable {env : ExportEnv}

/-! ## Strings -/

/-- The characters that stand for one in a JSON string. -/
def escapeChar (c : Char) : List Char :=
  if c = '"' then ['\\', '"']
  else if c = '\\' then ['\\', '\\']
  else if c.toNat = 0x08 then ['\\', 'b']
  else if c.toNat = 0x0c then ['\\', 'f']
  else if c.toNat = 0x0a then ['\\', 'n']
  else if c.toNat = 0x0d then ['\\', 'r']
  else if c.toNat = 0x09 then ['\\', 't']
  else if c.toNat < 0x20 then
    ['\\', 'u', '0', '0', Nat.digitChar (c.toNat / 16), Nat.digitChar (c.toNat % 16)]
  else [c]

/-- A property of the characters below U+0020 is checked on each. -/
lemma forall_control {p : Char → Prop} (h : ∀ n < 0x20, p (Char.ofNat n)) {c : Char}
    (hc : c.toNat < 0x20) : p c := by
  have := h c.toNat hc
  rwa [Char.ofNat_toNat] at this

lemma escapeChar_of_unescaped {c : Char} (h : Json.isUnescaped c = true) : escapeChar c = [c] := by
  simp only [Json.isUnescaped, Bool.and_eq_true, bne_iff_ne, ge_iff_le, decide_eq_true_eq] at h
  obtain ⟨⟨hcontrol, hquote⟩, hbackslash⟩ := h
  unfold escapeChar
  rw [if_neg hquote, if_neg hbackslash, if_neg (by omega), if_neg (by omega), if_neg (by omega),
    if_neg (by omega), if_neg (by omega), if_neg (by omega)]

/-- The characters the switch has a case for. -/
lemma special_of_not_unescaped {c : Char} (h : Json.isUnescaped c = false) :
    c = '"' ∨ c = '\\' ∨ c.toNat < 0x20 := by
  by_contra hnone
  simp only [not_or, Nat.not_lt] at hnone
  simp [Json.isUnescaped, hnone.1, hnone.2.1, hnone.2.2] at h

/-- What is written for a character is a `char` of the grammar. -/
lemma charsText_escapeChar (c : Char) {text : List Char} {units : List UInt16}
    (h : Json.CharsText text units) :
    Json.CharsText (escapeChar c ++ text) (encodeUtf16Char c ++ units) := by
  cases hc : Json.isUnescaped c with
  | true =>
    rw [escapeChar_of_unescaped hc]
    exact .unescaped hc h
  | false =>
    rcases special_of_not_unescaped hc with rfl | rfl | hcontrol
    · exact .escaped rfl h
    · exact .escaped rfl h
    · suffices hform : (∃ e unit, Json.escapedUnit e = some unit ∧ escapeChar c = ['\\', e] ∧
          encodeUtf16Char c = [unit]) ∨
          ∃ d e unit, Json.hexUnit '0' '0' d e = some unit ∧
            escapeChar c = ['\\', 'u', '0', '0', d, e] ∧ encodeUtf16Char c = [unit] by
        obtain ⟨e, unit, hunit, hescape, hencode⟩ | ⟨d, e, unit, hunit, hescape, hencode⟩ := hform
        · rw [hescape, hencode]
          exact .escaped hunit h
        · rw [hescape, hencode]
          exact .hex hunit h
      have hunit : encodeUtf16Char c = [.ofNat c.toNat] := encodeUtf16Char_of_lt (by omega)
      rw [hunit]
      -- the five short forms, and the remaining controls as `\u00XX`
      by_cases hshort : c.toNat ∈ [0x08, 0x0c, 0x0a, 0x0d, 0x09]
      · left
        refine ⟨(escapeChar c).getD 1 '"', .ofNat c.toNat, ?_, ?_, rfl⟩
        · exact forall_control (p := fun c => c.toNat ∈ [0x08, 0x0c, 0x0a, 0x0d, 0x09] →
            Json.escapedUnit ((escapeChar c).getD 1 '"') = some (.ofNat c.toNat)) (by decide)
            hcontrol hshort
        · exact forall_control (p := fun c => c.toNat ∈ [0x08, 0x0c, 0x0a, 0x0d, 0x09] →
            escapeChar c = ['\\', (escapeChar c).getD 1 '"']) (by decide) hcontrol hshort
      · right
        refine ⟨Nat.digitChar (c.toNat / 16), Nat.digitChar (c.toNat % 16), .ofNat c.toNat, ?_, ?_,
          rfl⟩
        · exact forall_control (p := fun c => Json.hexUnit '0' '0' (Nat.digitChar (c.toNat / 16))
            (Nat.digitChar (c.toNat % 16)) = some (.ofNat c.toNat)) (by decide) hcontrol
        · exact forall_control (p := fun c => c.toNat ∉ [0x08, 0x0c, 0x0a, 0x0d, 0x09] →
            escapeChar c = ['\\', 'u', '0', '0', Nat.digitChar (c.toNat / 16),
              Nat.digitChar (c.toNat % 16)]) (by decide) hcontrol hshort

lemma charsText_escape (text : List Char) :
    Json.CharsText (text.flatMap escapeChar) (encodeUtf16 text) := by
  induction text with
  | nil => exact .nil
  | cons c text ih => exact charsText_escapeChar c ih

/-- The `\u` form of a control: six units, none of them NUL. -/
lemma hexEscape_spec {character : WCHAR} (hcontrol : character < 0x20) :
    NoNul (wide "\\u" ++ formatHexPadded 4 character.toNat) ∧
      (wide "\\u" ++ formatHexPadded 4 character.toNat).length = 6 := by
  have hall : ∀ n < 0x20, NoNul (wide "\\u" ++ formatHexPadded 4 n) ∧
      (wide "\\u" ++ formatHexPadded 4 n).length = 6 := by decide
  exact hall character.toNat (UInt16.lt_iff_toNat_lt.mp hcontrol)

/-- With room for the longest form the switch does not depend on the room. -/
lemma escapeJsonUnit_eq {room : ℕ} (hroom : 7 ≤ room) (character : WCHAR) :
    escapeJsonUnit room character = escapeJsonUnit 7 character := by
  unfold escapeJsonUnit
  by_cases hcontrol : character < 0x20
  · obtain ⟨hnul, hlength⟩ := hexEscape_spec hcontrol
    rw [copyWstringLoop_eq_self hnul (by omega), copyWstringLoop_eq_self hnul (by omega)]
  · simp only [if_neg hcontrol]

lemma escapeJsonUnit_of_ge {character : WCHAR} (hcontrol : 0x20 ≤ character)
    (hquote : character ≠ 0x22) (hbackslash : character ≠ 0x5c) :
    escapeJsonUnit 7 character = [character] := by
  have hne : ∀ u : WCHAR, u < 0x20 → character ≠ u := by
    rintro u hu rfl
    exact absurd hcontrol (UInt16.not_le.mpr hu)
  unfold escapeJsonUnit
  rw [if_neg hquote, if_neg hbackslash, if_neg (hne _ (by decide)), if_neg (hne _ (by decide)),
    if_neg (hne _ (by decide)), if_neg (hne _ (by decide)), if_neg (hne _ (by decide)),
    if_neg (UInt16.not_lt.mpr hcontrol)]

lemma length_escapeJsonUnit_le (character : WCHAR) : (escapeJsonUnit 7 character).length ≤ 6 := by
  unfold escapeJsonUnit
  repeat' split
  all_goals first | exact length_copyWstringLoop_le _ _ | simp

/-- The switch, on the units of a character, writes the units of what stands for it. -/
lemma flatMap_escapeJsonUnit (c : Char) :
    (encodeUtf16Char c).flatMap (escapeJsonUnit 7) = encodeUtf16 (escapeChar c) := by
  cases hc : Json.isUnescaped c with
  | true =>
    rw [escapeChar_of_unescaped hc]
    simp only [Json.isUnescaped, Bool.and_eq_true, bne_iff_ne, ge_iff_le, decide_eq_true_eq] at hc
    obtain ⟨⟨hcontrol, hquote⟩, hbackslash⟩ := hc
    have hself : ∀ unit ∈ encodeUtf16Char c, escapeJsonUnit 7 unit = [unit] := by
      intro unit hunit
      by_cases hplane : c.toNat < 0x10000
      · rw [encodeUtf16Char_of_lt hplane, List.mem_singleton] at hunit
        have htoNat : unit.toNat = c.toNat := by
          rw [hunit, UInt16.toNat_ofNat_of_lt' hplane]
        have hne : ∀ d : Char, d.toNat < 0x10000 → c ≠ d → unit ≠ .ofNat d.toNat := by
          intro d hd hcd hunitd
          apply hcd
          rw [hunitd, UInt16.toNat_ofNat_of_lt' hd] at htoNat
          exact (Char.toNat_inj.mp htoNat).symm
        refine escapeJsonUnit_of_ge (UInt16.le_iff_toNat_le.mpr (by rw [htoNat]; exact hcontrol))
          (hne '"' (by decide) hquote) (hne '\\' (by decide) hbackslash)
      · have hsurrogate := le_of_mem_encodeUtf16Char (Nat.not_lt.mp hplane) hunit
        have hne : ∀ u : WCHAR, u < 0xD800 → unit ≠ u := by
          rintro u hu rfl
          exact absurd hsurrogate (UInt16.not_le.mpr hu)
        exact escapeJsonUnit_of_ge (UInt16.le_trans (by decide) hsurrogate) (hne _ (by decide))
          (hne _ (by decide))
    rw [encodeUtf16_cons, encodeUtf16_nil, List.append_nil]
    conv_rhs => rw [← List.flatMap_singleton' (encodeUtf16Char c)]
    exact List.flatMap_congr hself
  | false =>
    rcases special_of_not_unescaped hc with rfl | rfl | hcontrol
    · rfl
    · rfl
    · exact forall_control (p := fun c => (encodeUtf16Char c).flatMap (escapeJsonUnit 7) =
        encodeUtf16 (escapeChar c)) (by decide) hcontrol

/-- The loop of `write_json_string`.  Six units were set aside for each of the value's, so what is
left of the value always finds room. -/
lemma escapeJsonLoop_eq {capacity : ℕ} (source escaped : List WCHAR)
    (hroom : escaped.length + 6 * source.length + 2 ≤ capacity) :
    escapeJsonLoop capacity source escaped = escaped ++ source.flatMap (escapeJsonUnit 7) := by
  induction source generalizing escaped with
  | nil => simp [escapeJsonLoop]
  | cons character source ih =>
    rw [List.length_cons] at hroom
    have hlength := length_escapeJsonUnit_le character
    have hunit : escapeJsonUnit (capacity - escaped.length) character =
        escapeJsonUnit 7 character := escapeJsonUnit_eq (by omega) _
    rw [escapeJsonLoop, hunit, ih _ (by rw [List.length_append]; omega), List.flatMap_cons,
      List.append_assoc]

lemma length_flatMap_escapeJsonUnit_le (source : List WCHAR) :
    (source.flatMap (escapeJsonUnit 7)).length ≤ 6 * source.length := by
  induction source with
  | nil => simp
  | cons character source ih =>
    have hlength := length_escapeJsonUnit_le character
    rw [List.flatMap_cons, List.length_append, List.length_cons]
    omega

/-- **`write_json_string` prints a JSON string that stands for the value.** -/
lemma prints_writeJsonString (hutf8 : env.StandardUtf8) {value : List WCHAR}
    (hvalue : Exportable value) :
    ∃ text, Json.ValueText text (.string value) ∧ Prints env (writeJsonString env value) text := by
  obtain ⟨⟨chars, rfl⟩, hlength⟩ := hvalue
  refine ⟨'"' :: chars.flatMap escapeChar ++ ['"'], .string (charsText_escape chars), ?_⟩
  have hunits : (encodeUtf16 chars).flatMap (escapeJsonUnit 7) =
      encodeUtf16 (chars.flatMap escapeChar) := by
    induction chars with
    | nil => rfl
    | cons c chars ih =>
      rw [encodeUtf16_cons, List.length_append] at hlength
      rw [encodeUtf16_cons, List.flatMap_append, flatMap_escapeJsonUnit, ih (by omega),
        List.flatMap_cons, encodeUtf16_append]
  have hescaped : ∀ capacity, capacity = 6 * (encodeUtf16 chars).length + 3 →
      escapeJson capacity (encodeUtf16 chars) =
        encodeUtf16 ('"' :: chars.flatMap escapeChar ++ ['"']) := by
    rintro capacity rfl
    rw [escapeJson, escapeJsonLoop_eq _ _ (by simp only [List.length_singleton]; omega), hunits,
      encodeUtf16_append]
    rfl
  have hle := length_flatMap_escapeJsonUnit_le (encodeUtf16 chars)
  have hbound : (encodeUtf16 ('"' :: chars.flatMap escapeChar ++ ['"'])).length ≤ intMax := by
    have hquotes : encodeUtf16 ('"' :: chars.flatMap escapeChar ++ ['"']) =
        0x22 :: encodeUtf16 (chars.flatMap escapeChar) ++ [0x22] := encodeUtf16_append _ _
    rw [hquotes, ← hunits]
    simp only [List.length_append, List.length_cons, List.length_nil, intMax, detailLength] at *
    omega
  have hprints := prints_writeUtf8 hutf8 hbound
  have hcheck : ¬ (encodeUtf16 chars).length > (sizeMax / 2 - 3) / 6 := by
    simp only [sizeMax, detailLength] at *
    omega
  have hcapacity : sizeAdd (sizeMul (encodeUtf16 chars).length 6) 3 =
      6 * (encodeUtf16 chars).length + 3 := by
    simp only [sizeAdd, sizeMul, sizeMax, detailLength] at *
    omega
  constructor
  · intro file htrue
    simp only [writeJsonString, if_neg hcheck, hcapacity, hescaped _ rfl] at htrue ⊢
    split at htrue
    · simp at htrue
    · next hmalloc =>
      rw [if_neg hmalloc]
      exact hprints.contents file.tick htrue
  · intro hsucceeds file
    simp only [writeJsonString, if_neg hcheck, hcapacity, hescaped _ rfl, hsucceeds.malloc,
      Bool.not_true, Bool.false_eq_true, if_false]
    exact hprints.returns hsucceeds file.tick

/-! ## Numbers -/

/-- No leading zero is printed. -/
lemma digits_head {value : ℕ} (h : (digits value).head? = some '0') :
    (digits value).length = 1 := by
  suffices hpos : ∀ value, 0 < value → (digits value).head? ≠ some '0' by
    rcases Nat.eq_zero_or_pos value with rfl | hvalue
    · rfl
    · exact absurd h (hpos value hvalue)
  intro value
  induction value using Nat.strong_induction_on with
  | _ value ih =>
    intro hvalue
    by_cases hsmall : value < 10
    · rw [digits, Nat.toDigits_of_lt_base hsmall]
      have hdigit : ∀ n < 10, 0 < n → [Nat.digitChar n].head? ≠ some '0' := by decide
      exact hdigit value hsmall hvalue
    · have hprefix := ih (value / 10) (by omega) (by omega)
      rw [digits, Nat.toDigits_of_base_le (by decide) (Nat.not_lt.mp hsmall)]
      obtain ⟨c, rest, hcons⟩ := List.exists_cons_of_ne_nil
        (Nat.toDigits_ne_nil (b := 10) (n := value / 10))
      rw [digits, hcons] at hprefix
      rw [hcons]
      exact hprefix

/-- The printed number is a JSON number that denotes it. -/
lemma valueText_digits (value : ℕ) : Json.ValueText (digits value) (.number value) := by
  have hdigits : ∀ c ∈ digits value, Json.isDigit c = true := by
    intro c hc
    obtain ⟨hge, hle⟩ := bounds_of_mem_digits hc
    simp [Json.isDigit, hge, hle]
  have hparts : (⟨false, digits value, none, none⟩ : Json.NumberParts).WellFormed :=
    ⟨⟨Nat.toDigits_ne_nil, hdigits, digits_head⟩, by simp, by simp⟩
  have htext := Json.ValueText.number hparts
  have hvalue : (⟨false, digits value, none, none⟩ : Json.NumberParts).value = value := by
    simp [Json.NumberParts.value, Json.NumberParts.fraction, Json.NumberParts.exponent,
      Json.digitsValue, digits]
  rw [hvalue] at htext
  simpa [Json.NumberParts.text, Json.NumberParts.fracText, Json.NumberParts.expText] using htext

/-! ## Objects -/

/-- What stands under a name, as a JSON value. -/
def Attribute.jsonValue : Attribute → Json.Value
  | .text units => .string units
  | .number value => .number value.toNat

/-- The member for an attribute. -/
def jsonMember (a : String × Attribute) : List WCHAR × Json.Value := (wide a.1, a.2.jsonValue)

/-- An event as a JSON value. -/
def jsonObject (event : TraceGlassEvent) : Json.Value := .object ((attributes event).map jsonMember)

/-- A name that stands for itself in a JSON string. -/
def PlainName (name : String) : Prop :=
  ∀ c ∈ name.toList, Json.isUnescaped c = true ∧ c.toNat < 0x80

instance (name : String) : Decidable (PlainName name) :=
  List.decidableBAll _ _

lemma PlainName.charsText {name : String} (h : PlainName name) :
    Json.CharsText name.toList (wide name) := by
  rw [wide_eq_encodeUtf16 fun c hc => Nat.lt_trans (h c hc).2 (by decide)]
  suffices htext : ∀ text : List Char, (∀ c ∈ text, Json.isUnescaped c = true) →
      Json.CharsText text (encodeUtf16 text) from
    htext _ fun c hc => (h c hc).1
  intro text
  induction text with
  | nil => exact fun _ => .nil
  | cons c text ih =>
    intro htext
    exact .unescaped (htext c (by simp)) (ih fun d hd => htext d (List.mem_cons_of_mem _ hd))

/-- The member as `write_json_export` lays it out, with what follows its value. -/
def memberOf (name : String) (valueText : List Char) (value : Json.Value) (after : List Char) :
    Json.Member where
  before := crlf ++ [' ', ' ', ' ', ' ']
  keyText := name.toList
  key := wide name
  after := []
  element := ⟨[' '], valueText, value, after⟩

lemma spaced_memberOf {name : String} (hname : PlainName name) (valueText : List Char)
    (value : Json.Value) {after : List Char} (hafter : Json.Spaces after) :
    (memberOf name valueText value after).Spaced where
  before := (by decide : Json.Spaces (crlf ++ [' ', ' ', ' ', ' ']))
  keyText := hname.charsText
  after := (by decide : Json.Spaces [])
  element := ⟨(by decide : Json.Spaces [' ']), hafter⟩

/-- The text behind the line break after an object's brace: the members, the closing brace, and what
follows it. -/
def MembersText (attributes : List (String × Attribute)) (close text : List Char) : Prop :=
  ∃ members : List Json.Member, members ≠ [] ∧ (∀ m ∈ members, m.Spaced) ∧
    (∀ m ∈ members, Json.ValueText m.element.text m.element.value) ∧
    members.map (fun m => (m.key, m.element.value)) = attributes.map jsonMember ∧
    crlf ++ text = [','].intercalate (members.map Json.Member.source) ++ '\x7d' :: close

/-- The line of a member, up to its value. -/
def memberLine (name : String) (valueText : List Char) : List Char :=
  [' ', ' ', ' ', ' ', '"'] ++ name.toList ++ ['"', ':', ' '] ++ valueText

lemma MembersText.last {name : String} {a : Attribute} {valueText close : List Char}
    (hname : PlainName name) (hvalue : Json.ValueText valueText a.jsonValue) :
    MembersText [(name, a)] close
      (memberLine name valueText ++ crlf ++ [' ', ' ', '\x7d'] ++ close) := by
  refine ⟨[memberOf name valueText a.jsonValue (crlf ++ [' ', ' '])], by simp, ?_, ?_, rfl, ?_⟩
  · simpa using spaced_memberOf hname valueText a.jsonValue (by decide)
  · simpa [memberOf] using hvalue
  · simp [Json.Member.source, Json.Element.source, memberOf, memberLine]

lemma MembersText.cons {name : String} {a : Attribute} {valueText close text : List Char}
    {attributes : List (String × Attribute)} (hname : PlainName name)
    (hvalue : Json.ValueText valueText a.jsonValue) (h : MembersText attributes close text) :
    MembersText ((name, a) :: attributes) close
      (memberLine name valueText ++ [','] ++ crlf ++ text) := by
  obtain ⟨members, hne, hspaced, hvalues, hmembers, htext⟩ := h
  refine ⟨memberOf name valueText a.jsonValue [] :: members, by simp, ?_, ?_, ?_, ?_⟩
  · rintro m (_ | ⟨_, hm⟩)
    · exact spaced_memberOf hname valueText a.jsonValue (by decide)
    · exact hspaced m hm
  · rintro m (_ | ⟨_, hm⟩)
    · exact hvalue
    · exact hvalues m hm
  · simpa [jsonMember] using ⟨⟨rfl, rfl⟩, hmembers⟩
  · obtain ⟨m, members, rfl⟩ := List.exists_cons_of_ne_nil hne
    rw [List.map_cons, List.map_cons, List.intercalate_cons_cons, ← List.map_cons,
      List.append_assoc _ _ ('\x7d' :: close), ← htext]
    simp [Json.Member.source, Json.Element.source, memberOf, memberLine]

/-- The writers print the rest of an object. -/
def PrintsMembers (env : ExportEnv) (writers : List Writer) (attributes : List (String × Attribute))
    (close : List Char) : Prop :=
  ∃ text, MembersText attributes close text ∧ Prints env (.sequence writers) text

/-- `write_json_field`, up to the value and with it. -/
lemma prints_writeJsonField (hutf8 : env.StandardUtf8) {name : String} (hname : PlainName name)
    (hlength : name.toList.length ≤ intMax) {value : List WCHAR} (hvalue : Exportable value)
    (trailingComma : Bool) :
    ∃ text, Json.ValueText text (.string value) ∧
      Prints env (writeJsonField env (wide name) value trailingComma)
        (memberLine name text ++ if trailingComma then ',' :: crlf else crlf) := by
  obtain ⟨text, htext, hprints⟩ := prints_writeJsonString hutf8 hvalue
  refine ⟨text, htext, ?_⟩
  have hend : Prints env (writeUtf8 env (if trailingComma then wide ",\r\n" else wide "\r\n"))
      (if trailingComma then ',' :: crlf else crlf) := by
    cases trailingComma
    · exact prints_literal hutf8 "\r\n" (by decide) (by decide)
    · exact prints_literal hutf8 ",\r\n" (by decide) (by decide)
  refine Prints.congr (Prints.cons (prints_literal hutf8 "    \"" (by decide) (by decide)) <|
    Prints.cons (prints_literal hutf8 name (fun c hc => Nat.lt_trans (hname c hc).2 (by decide))
      hlength) <|
    Prints.cons (prints_literal hutf8 "\": " (by decide) (by decide)) <|
    Prints.cons hprints <| Prints.cons hend Prints.nil) ?_
  simp [memberLine]

/-- A member whose value is a text. -/
lemma PrintsMembers.text (hutf8 : env.StandardUtf8) (name : String) (hname : PlainName name)
    (hlength : name.toList.length ≤ intMax) {value : List WCHAR} (hvalue : Exportable value)
    {writers : List Writer} {attributes : List (String × Attribute)} {close : List Char}
    (h : PrintsMembers env writers attributes close) :
    PrintsMembers env (writeJsonField env (wide name) value true :: writers)
      ((name, .text value) :: attributes) close := by
  obtain ⟨text, htext, hprints⟩ := h
  obtain ⟨valueText, hvalueText, hfield⟩ := prints_writeJsonField hutf8 hname hlength hvalue true
  refine ⟨_, .cons hname hvalueText htext, (Prints.cons hfield hprints).congr ?_⟩
  simp

/-- A member whose value is a number. -/
lemma PrintsMembers.number (hutf8 : env.StandardUtf8) (name prologue : String) (value : DWORD)
    (hname : PlainName name)
    (hprologue : prologue.toList = [' ', ' ', ' ', ' ', '"'] ++ name.toList ++ ['"', ':', ' '])
    (hlength : prologue.toList.length ≤ intMax) {printed : List WCHAR}
    (hprinted : printed = (formatNumber value.toNat).chars)
    {writers : List Writer} {attributes : List (String × Attribute)} {close : List Char}
    (h : PrintsMembers env writers attributes close) :
    PrintsMembers env
      (writeUtf8 env (wide prologue) :: writeUtf8 env printed :: writeUtf8 env (wide ",\r\n") ::
        writers)
      ((name, .number value) :: attributes) close := by
  obtain ⟨text, htext, hprints⟩ := h
  have hascii : CharsBelow 0x10000 prologue.toList := by
    rw [hprologue]
    intro c hc
    simp only [List.mem_append] at hc
    obtain (hc | hc) | hc := hc
    · exact (by decide : CharsBelow 0x10000 [' ', ' ', ' ', ' ', '"']) c hc
    · exact Nat.lt_trans (hname c hc).2 (by decide)
    · exact (by decide : CharsBelow 0x10000 ['"', ':', ' ']) c hc
  have hnumber : Prints env (writeUtf8 env printed) (digits value.toNat) := by
    have hchars := formatNumber_chars value.toNat_lt
    rw [hprinted, hchars]
    refine prints_writeUtf8 hutf8 ?_
    rw [← hchars]
    exact Nat.le_of_lt (Nat.lt_trans (formatNumber value.toNat).length_lt (by decide))
  refine ⟨_, .cons hname (valueText_digits value.toNat) htext,
    (Prints.cons (prints_literal hutf8 prologue hascii hlength) <| Prints.cons hnumber <|
      Prints.cons (prints_literal hutf8 ",\r\n" (by decide) (by decide)) hprints).congr ?_⟩
  rw [hprologue]
  simp [memberLine, crlf]

/-- The last member and the closing brace. -/
lemma PrintsMembers.last (hutf8 : env.StandardUtf8) (name : String) (hname : PlainName name)
    (hlength : name.toList.length ≤ intMax) {value : List WCHAR} (hvalue : Exportable value)
    {closing : List WCHAR} {close : List Char}
    (hclosing : Prints env (writeUtf8 env closing) ([' ', ' ', '\x7d'] ++ close)) :
    PrintsMembers env [writeJsonField env (wide name) value false, writeUtf8 env closing]
      [(name, .text value)] close := by
  obtain ⟨valueText, hvalueText, hfield⟩ := prints_writeJsonField hutf8 hname hlength hvalue false
  refine ⟨_, .last hname hvalueText,
    (Prints.cons hfield <| Prints.cons hclosing Prints.nil).congr ?_⟩
  simp

/-- **One turn of the loop prints an object that stands for the event.** -/
lemma prints_writeJsonEvent (hutf8 : env.StandardUtf8) {store : EventStore} {index : ℕ}
    (hevent : WellFormedText (store.events.getD index .zero)) :
    ∃ text, Json.ValueText text (jsonObject (store.events.getD index .zero)) ∧
      Prints env (writeJsonEvent env store index)
        ([' ', ' '] ++ text ++
          if sizeAdd index 1 < store.eventCount then ',' :: crlf else crlf) := by
  set event := store.events.getD index .zero with hdef
  set close : List Char := if sizeAdd index 1 < store.eventCount then ',' :: crlf else crlf
  have hclosing : Prints env
      (writeUtf8 env
        (if sizeAdd index 1 < store.eventCount then wide "  \x7d,\r\n" else wide "  \x7d\r\n"))
      ([' ', ' ', '\x7d'] ++ close) := by
    by_cases hlast : sizeAdd index 1 < store.eventCount
    · simp only [close, if_pos hlast]
      exact prints_literal hutf8 "  \x7d,\r\n" (by decide) (by decide)
    · simp only [close, if_neg hlast]
      exact prints_literal hutf8 "  \x7d\r\n" (by decide) (by decide)
  obtain ⟨text, ⟨members, hne, hspaced, hvalues, hmembers, htext⟩, hprints⟩ :=
    PrintsMembers.text hutf8 "timestamp" (by decide) (by decide)
      (exportable_formatTimestamp event.timestamp) <|
    PrintsMembers.text hutf8 "event_type" (by decide) (by decide)
      (exportable_eventExportName event.type) <|
    PrintsMembers.text hutf8 "process_name" (by decide) (by decide)
      (event.processName.exportable (by decide) hevent.processName) <|
    PrintsMembers.number hutf8 "pid" "    \"pid\": " event.process.pid (by decide) (by decide)
      (by decide) rfl <|
    PrintsMembers.number hutf8 "parent_pid" "    \"parent_pid\": " event.parent.pid (by decide)
      (by decide) (by decide) rfl <|
    PrintsMembers.text hutf8 "details" (by decide) (by decide)
      (event.details.exportable (by decide) hevent.details) <|
    PrintsMembers.text hutf8 "protocol" (by decide) (by decide)
      (event.protocol.exportable (by decide) hevent.protocol) <|
    PrintsMembers.text hutf8 "local_address" (by decide) (by decide)
      (event.localAddress.exportable (by decide) hevent.localAddress) <|
    PrintsMembers.number hutf8 "local_port" "    \"local_port\": " event.localPort.toUInt32
      (by decide) (by decide) (by decide) rfl <|
    PrintsMembers.text hutf8 "remote_address" (by decide) (by decide)
      (event.remoteAddress.exportable (by decide) hevent.remoteAddress) <|
    PrintsMembers.number hutf8 "remote_port" "    \"remote_port\": " event.remotePort.toUInt32
      (by decide) (by decide) (by decide) rfl <|
    PrintsMembers.text hutf8 "state" (by decide) (by decide)
      (event.networkState.exportable (by decide) hevent.networkState) <|
    PrintsMembers.text hutf8 "severity" (by decide) (by decide)
      (exportable_alertSeverityName event.severity) <|
    PrintsMembers.last hutf8 "rule" (by decide) (by decide)
      (event.ruleName.exportable (by decide) hevent.ruleName) hclosing
  refine ⟨'\x7b' :: [','].intercalate (members.map Json.Member.source) ++ ['\x7d'], ?_, ?_⟩
  · rw [jsonObject, attributes, ← hmembers]
    exact .object hne hspaced hvalues
  · have hopening := prints_literal hutf8 "  \x7b\r\n" (by decide) (by decide)
    refine (Prints.cons hopening hprints).congr ?_
    have hlit : "  \x7b\r\n".toList = [' ', ' ', '\x7b'] ++ crlf := by decide
    rw [hlit, List.append_assoc, htext]
    simp

/-! ## The array -/

/-- The element as `write_json_export` lays it out. -/
def elementOf (text : List Char) (value : Json.Value) (after : List Char) : Json.Element :=
  ⟨crlf ++ [' ', ' '], text, value, after⟩

/-- The text behind the line break after the opening bracket: objects that stand for these events,
the closing bracket, and the line break at the end of the file. -/
def ElementsText (events : List TraceGlassEvent) (text : List Char) : Prop :=
  ∃ elements : List Json.Element, elements ≠ [] ∧ (∀ e ∈ elements, e.Spaced) ∧
    (∀ e ∈ elements, Json.ValueText e.text e.value) ∧
    elements.map Json.Element.value = events.map jsonObject ∧
    crlf ++ text = [','].intercalate (elements.map Json.Element.source) ++ ']' :: crlf

lemma spaced_elementOf (text : List Char) (value : Json.Value) {after : List Char}
    (hafter : Json.Spaces after) : (elementOf text value after).Spaced :=
  ⟨(by decide : Json.Spaces (crlf ++ [' ', ' '])), hafter⟩

lemma ElementsText.last {event : TraceGlassEvent} {objectText : List Char}
    (hobject : Json.ValueText objectText (jsonObject event)) :
    ElementsText [event] ([' ', ' '] ++ objectText ++ crlf ++ ']' :: crlf) := by
  refine ⟨[elementOf objectText (jsonObject event) crlf], by simp, ?_, ?_, rfl, ?_⟩
  · simpa using spaced_elementOf objectText (jsonObject event) (by decide)
  · simpa [elementOf] using hobject
  · simp [Json.Element.source, elementOf]

lemma ElementsText.cons {event : TraceGlassEvent} {events : List TraceGlassEvent}
    {objectText text : List Char} (hobject : Json.ValueText objectText (jsonObject event))
    (h : ElementsText events text) :
    ElementsText (event :: events) ([' ', ' '] ++ objectText ++ ',' :: crlf ++ text) := by
  obtain ⟨elements, hne, hspaced, hvalues, helements, htext⟩ := h
  refine ⟨elementOf objectText (jsonObject event) [] :: elements, by simp, ?_, ?_, ?_, ?_⟩
  · rintro e (_ | ⟨_, he⟩)
    · exact spaced_elementOf objectText (jsonObject event) (by decide)
    · exact hspaced e he
  · rintro e (_ | ⟨_, he⟩)
    · exact hobject
    · exact hvalues e he
  · rw [List.map_cons, List.map_cons, helements]
    rfl
  · obtain ⟨e, elements, rfl⟩ := List.exists_cons_of_ne_nil hne
    rw [List.map_cons, List.map_cons, List.intercalate_cons_cons, ← List.map_cons,
      List.append_assoc _ _ (']' :: crlf), ← htext]
    simp [Json.Element.source, elementOf]

/-- The loop prints the events from `firstEvent` on, with a comma after each but the last. -/
lemma prints_elements (hutf8 : env.StandardUtf8) {store : EventStore}
    (hcount : store.eventCount ≤ sizeMax) (remaining firstEvent : ℕ)
    (hremaining : firstEvent + (remaining + 1) = store.eventCount)
    (htext : ∀ event ∈ store.events.drop firstEvent, WellFormedText event) :
    ∃ text, ElementsText (store.events.drop firstEvent) text ∧
      Prints env
        (.sequence ((List.range' firstEvent (remaining + 1)).map (writeJsonEvent env store) ++
          [writeUtf8 env (wide "]\r\n")])) text := by
  have hbracket : Prints env (writeUtf8 env (wide "]\r\n")) (']' :: crlf) :=
    prints_literal hutf8 "]\r\n" (by decide) (by decide)
  induction remaining generalizing firstEvent with
  | zero =>
    have hend : store.events.drop (firstEvent + 1) = [] := List.drop_eq_nil_of_le hremaining.ge
    rw [drop_events (by omega), hend] at htext ⊢
    obtain ⟨text, hobject, hprints⟩ :=
      prints_writeJsonEvent hutf8 (htext _ List.mem_cons_self)
    -- the last index: the sum wraps or reaches the count, and no comma is printed
    have hlast : ¬ sizeAdd firstEvent 1 < store.eventCount := by
      rw [sizeAdd_eq (by omega)]
      omega
    rw [if_neg hlast] at hprints
    refine ⟨_, .last hobject,
      (Prints.cons hprints <| Prints.cons hbracket Prints.nil).congr ?_⟩
    simp
  | succ remaining ih =>
    rw [drop_events (by omega)] at htext ⊢
    obtain ⟨text, hrest, hprintsRest⟩ := ih (firstEvent + 1) (by omega) fun event hevent =>
      htext event (List.mem_cons_of_mem _ hevent)
    obtain ⟨objectText, hobject, hprints⟩ :=
      prints_writeJsonEvent hutf8 (htext _ List.mem_cons_self)
    have hmore : sizeAdd firstEvent 1 < store.eventCount := by
      rw [sizeAdd_eq (by omega)]
      omega
    rw [if_pos hmore] at hprints
    rw [List.range'_succ, List.map_cons, List.cons_append]
    exact ⟨_, .cons hobject hrest, Prints.cons hprints hprintsRest⟩

/-- **What `write_json_export` prints is a JSON text for the exported events.** -/
theorem prints_writeJsonExport (hutf8 : env.StandardUtf8) {store : EventStore}
    (hcount : store.eventCount ≤ sizeMax) {firstEvent : ℕ} (hfirst : firstEvent ≤ store.eventCount)
    (htext : ∀ event ∈ store.events.drop firstEvent, WellFormedText event) :
    ∃ text, Prints env (writeJsonExport env store firstEvent) text ∧
      Json.parse text = some (.array ((store.events.drop firstEvent).map jsonObject)) := by
  have hopening : Prints env (writeUtf8 env (wide "[\r\n")) ('[' :: crlf) :=
    prints_literal hutf8 "[\r\n" (by decide) (by decide)
  unfold writeJsonExport
  cases hremaining : store.eventCount - firstEvent with
  | zero =>
    have hdrop : store.events.drop firstEvent = [] :=
      List.drop_eq_nil_of_le (Nat.sub_eq_zero_iff_le.mp hremaining)
    have hbracket := prints_literal hutf8 "]\r\n" (by decide) (by decide)
    refine ⟨_, Prints.cons hopening <| Prints.cons hbracket Prints.nil, ?_⟩
    have hspaces : Json.Spaces crlf := by decide
    rw [hdrop]
    exact (Json.ValueText.emptyArray hspaces).parse (by decide : Json.Spaces []) hspaces
  | succ remaining =>
    obtain ⟨text, ⟨elements, hne, hspaced, hvalues, helements, hsource⟩, hprints⟩ :=
      prints_elements hutf8 hcount remaining firstEvent (by omega) htext
    refine ⟨_, Prints.cons hopening hprints, ?_⟩
    have harray := (Json.ValueText.array hne hspaced hvalues).parse
      (by decide : Json.Spaces []) (by decide : Json.Spaces crlf)
    rw [← helements, ← harray, List.cons_append, hsource]
    simp

/-- **The JSON export round trip.**  The bytes of a finished export are the UTF-8 encoding of a JSON
text for the array of the exported events, in order; and the export does finish when no call fails.
-/
theorem writeJsonExport_roundTrip (hutf8 : env.StandardUtf8) (store : EventStore)
    (hcount : store.eventCount ≤ sizeMax) (firstEvent : ℕ) (hfirst : firstEvent ≤ store.eventCount)
    (htext : ∀ event ∈ store.events.drop firstEvent, WellFormedText event) (calls : ℕ) :
    ((writeJsonExport env store firstEvent ⟨[], calls⟩).1 = true →
      (decodeUtf8 (writeJsonExport env store firstEvent ⟨[], calls⟩).2.contents).bind Json.parse =
        some (.array ((store.events.drop firstEvent).map jsonObject))) ∧
    ((store.events.drop firstEvent).map jsonObject).length = store.eventCount - firstEvent ∧
    (env.Succeeds → (writeJsonExport env store firstEvent ⟨[], calls⟩).1 = true) := by
  obtain ⟨text, hprints, hparse⟩ := prints_writeJsonExport hutf8 hcount hfirst htext
  refine ⟨fun htrue => ?_, ?_, fun hsucceeds => hprints.returns hsucceeds _⟩
  · rw [hprints.contents _ htrue, List.nil_append, decodeUtf8_encodeUtf8, Option.bind_some, hparse]
  · rw [List.length_map, List.length_drop]
    rfl

theorem writeJsonExport_roundTrip_sample :
    (writeJsonExport .utf8 exportSample 0 ⟨[], 0⟩).1 = true ∧
      (decodeUtf8 (writeJsonExport .utf8 exportSample 0 ⟨[], 0⟩).2.contents).bind Json.parse =
        some (.array ((exportSample.events.drop 0).map jsonObject)) := by
  obtain ⟨hparses, _, hreturns⟩ := writeJsonExport_roundTrip ExportEnv.standardUtf8_utf8
    exportSample (by decide) 0 (by decide) wellFormedText_exportSample 0
  have htrue := hreturns ExportEnv.succeeds_utf8
  exact ⟨htrue, hparses htrue⟩

end TraceGlass
