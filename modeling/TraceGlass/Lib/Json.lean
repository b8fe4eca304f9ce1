import TraceGlass.Lib.Unicode
import Mathlib.Algebra.Field.Rat
import Mathlib.Data.List.DropRight
import Mathlib.Tactic.Cases

/-!
# JSON texts

The grammar of RFC 8259 and a reader for it.  `ValueText text v` says that the grammar derives
`text` as a `value` and that it stands for `v`; `parse` reads a whole JSON text.  A string stands
for its UTF-16 units, which is what a `\u` escape names, and a number for the rational it denotes.

`ValueText.parse` is the connection: what the grammar derives, the reader reads, with the value
the grammar gives it.  In particular a text has at most one value.
-/

namespace Json

open Unicode

/-- What a JSON text stands for. -/
inductive Value
  | null
  | bool (b : Bool)
  | number (value : ℚ)
  | string (units : List UInt16)
  | array (items : List Value)
  | object (members : List (List UInt16 × Value))

/-! ## White space -/

/-- The four characters of `ws`. -/
def isSpace (c : Char) : Bool := c == ' ' || c == '\t' || c == '\n' || c == '\r'

/-- `ws`. -/
def Spaces (text : List Char) : Prop := ∀ c ∈ text, isSpace c = true

instance (text : List Char) : Decidable (Spaces text) :=
  List.decidableBAll _ _

/-- Past the white space. -/
def skip (text : List Char) : List Char := text.dropWhile isSpace

/-! ## Strings -/

/-- The unit a two-character escape stands for. -/
def escapedUnit (c : Char) : Option UInt16 :=
  if c = '"' then some 0x22
  else if c = '\\' then some 0x5c
  else if c = '/' then some 0x2f
  else if c = 'b' then some 0x08
  else if c = 'f' then some 0x0c
  else if c = 'n' then some 0x0a
  else if c = 'r' then some 0x0d
  else if c = 't' then some 0x09
  else none

/-- `HEXDIG`, of either case. -/
def hexDigit (c : Char) : Option ℕ :=
  if '0' ≤ c ∧ c ≤ '9' then some (c.toNat - 48)
  else if 'a' ≤ c ∧ c ≤ 'f' then some (c.toNat - 87)
  else if 'A' ≤ c ∧ c ≤ 'F' then some (c.toNat - 55)
  else none

/-- The unit four hexadecimal digits name. -/
def hexUnit (a b c d : Char) : Option UInt16 :=
  match hexDigit a, hexDigit b, hexDigit c, hexDigit d with
  | some a, some b, some c, some d => some (.ofNat (((a * 16 + b) * 16 + c) * 16 + d))
  | _, _, _, _ => none

/-- `unescaped`: everything but the quotation mark, the backslash and the control characters. -/
def isUnescaped (c : Char) : Bool := c.toNat ≥ 0x20 && c != '"' && c != '\\'

/-- `*char`, with the units it stands for. -/
inductive CharsText : List Char → List UInt16 → Prop
  | nil : CharsText [] []
  | unescaped {c : Char} {text : List Char} {units : List UInt16} (hc : isUnescaped c = true)
      (h : CharsText text units) : CharsText (c :: text) (encodeUtf16Char c ++ units)
  | escaped {c : Char} {unit : UInt16} {text : List Char} {units : List UInt16}
      (hc : escapedUnit c = some unit) (h : CharsText text units) :
      CharsText ('\\' :: c :: text) (unit :: units)
  | hex {a b c d : Char} {unit : UInt16} {text : List Char} {units : List UInt16}
      (hunit : hexUnit a b c d = some unit) (h : CharsText text units) :
      CharsText ('\\' :: 'u' :: a :: b :: c :: d :: text) (unit :: units)

/-- Read the characters of a string and its closing quotation mark. -/
def readChars : List Char → Option (List UInt16 × List Char)
  | [] => none
  | '"' :: text => some ([], text)
  | '\\' :: 'u' :: a :: b :: c :: d :: text =>
      (hexUnit a b c d).bind fun unit =>
        (readChars text).map fun (units, rest) => (unit :: units, rest)
  | '\\' :: e :: text =>
      (escapedUnit e).bind fun unit =>
        (readChars text).map fun (units, rest) => (unit :: units, rest)
  | c :: text =>
      if isUnescaped c then
        (readChars text).map fun (units, rest) => (encodeUtf16Char c ++ units, rest)
      else none

/-- The reader takes the string up to its quotation mark. -/
lemma CharsText.readChars {text : List Char} {units : List UInt16} (h : CharsText text units)
    (rest : List Char) : readChars (text ++ '"' :: rest) = some (units, rest) := by
  induction h with
  | nil => rfl
  | @unescaped c text units hc _ ih =>
    have hc' := hc
    simp only [isUnescaped, Bool.and_eq_true, bne_iff_ne] at hc'
    rw [List.cons_append, Json.readChars, if_pos hc, ih, Option.map_some]
    · exact hc'.1.2
    · intro _ _ _ _ _ heq _
      exact hc'.2 heq
    · intro _ _ heq _
      exact hc'.2 heq
  | @escaped c unit text units hc _ ih =>
    have hu : c ≠ 'u' := by
      rintro rfl
      simp [escapedUnit] at hc
    rw [List.cons_append, List.cons_append, Json.readChars, hc, Option.bind_some, ih,
      Option.map_some]
    intro _ _ _ _ _ heq _
    exact hu heq
  | hex hunit _ ih =>
    simp only [List.cons_append]
    rw [Json.readChars, hunit, Option.bind_some, ih, Option.map_some]

/-! ## Numbers -/

/-- `DIGIT`. -/
def isDigit (c : Char) : Bool := '0' ≤ c && c ≤ '9'

/-- The number a row of digits denotes. -/
def digitsValue (digits : List Char) : ℕ := Nat.ofDigitChars 10 digits 0

/-- `int`: no zero in front of another digit. -/
def IsInt (digits : List Char) : Prop :=
  digits ≠ [] ∧ (∀ c ∈ digits, isDigit c = true) ∧ (digits.head? = some '0' → digits.length = 1)

/-- The parts of `number`. -/
structure NumberParts where
  minus : Bool
  int : List Char
  /-- The digits of `frac`. -/
  frac : Option (List Char)
  /-- The `e` of `exp`, its sign if it has one, and its digits. -/
  exp : Option (Char × Option Char × List Char)

namespace NumberParts

/-- A non-empty row of digits. -/
def IsDigits (digits : List Char) : Prop := digits ≠ [] ∧ ∀ c ∈ digits, isDigit c = true

/-- The parts are what the grammar lets them be. -/
structure WellFormed (parts : NumberParts) : Prop where
  int : IsInt parts.int
  frac : ∀ digits, parts.frac = some digits → IsDigits digits
  exp : ∀ e sign digits, parts.exp = some (e, sign, digits) →
    (e = 'e' ∨ e = 'E') ∧ (∀ s, sign = some s → s = '+' ∨ s = '-') ∧ IsDigits digits

/-- The text of the fraction. -/
def fracText (parts : NumberParts) : List Char :=
  match parts.frac with
  | none => []
  | some digits => '.' :: digits

/-- The text of the exponent. -/
def expText (parts : NumberParts) : List Char :=
  match parts.exp with
  | none => []
  | some (e, sign, digits) => e :: sign.toList ++ digits

/-- `number`. -/
def text (parts : NumberParts) : List Char :=
  (if parts.minus then ['-'] else []) ++ parts.int ++ parts.fracText ++ parts.expText

/-- The exponent of ten. -/
def exponent (parts : NumberParts) : ℤ :=
  match parts.exp with
  | none => 0
  | some (_, sign, digits) => if sign = some '-' then -digitsValue digits else digitsValue digits

/-- The fraction. -/
def fraction (parts : NumberParts) : ℚ :=
  match parts.frac with
  | none => 0
  | some digits => digitsValue digits / 10 ^ digits.length

/-- The number denoted. -/
def value (parts : NumberParts) : ℚ :=
  (if parts.minus then -1 else 1) * (digitsValue parts.int + parts.fraction) * 10 ^ parts.exponent

end NumberParts

/-- Split off the leading digits. -/
def spanDigits (text : List Char) : List Char × List Char :=
  (text.takeWhile isDigit, text.dropWhile isDigit)

/-- Read `frac`, if there is one. -/
def readFrac (text : List Char) : Option (Option (List Char) × List Char) :=
  match text with
  | '.' :: rest =>
      let (digits, rest) := spanDigits rest
      if digits = [] then none else some (some digits, rest)
  | _ => some (none, text)

/-- Read `exp`, if there is one. -/
def readExp (text : List Char) :
    Option (Option (Char × Option Char × List Char) × List Char) :=
  match text with
  | e :: rest =>
      if e = 'e' ∨ e = 'E' then
        let (sign, rest) : Option Char × List Char :=
          match rest with
          | s :: rest => if s = '+' ∨ s = '-' then (some s, rest) else (none, s :: rest)
          | [] => (none, [])
        let (digits, rest) := spanDigits rest
        if digits = [] then none else some (some (e, sign, digits), rest)
      else some (none, text)
  | [] => some (none, [])

/-- Read `number`. -/
def readNumber (text : List Char) : Option (ℚ × List Char) :=
  let (minus, text) : Bool × List Char :=
    match text with
    | '-' :: rest => (true, rest)
    | _ => (false, text)
  let (int, text) := spanDigits text
  if int = [] ∨ (int.head? = some '0' ∧ int.length ≠ 1) then none
  else
    (readFrac text).bind fun (frac, text) =>
      (readExp text).map fun (exp, rest) =>
        ((⟨minus, int, frac, exp⟩ : NumberParts).value, rest)

/-- No number goes on with this text. -/
def Stops (text : List Char) : Prop :=
  ∀ c ∈ text.head?, isDigit c = false ∧ c ≠ '.' ∧ c ≠ 'e' ∧ c ≠ 'E'

/-- No row of digits goes on with this text. -/
def NoDigit (text : List Char) : Prop := ∀ c ∈ text.head?, isDigit c = false

lemma spanDigits_append {digits rest : List Char} (h : ∀ c ∈ digits, isDigit c = true)
    (hrest : NoDigit rest) : spanDigits (digits ++ rest) = (digits, rest) := by
  have hnone : rest.takeWhile isDigit = [] ∧ rest.dropWhile isDigit = rest := by
    cases rest with
    | nil => exact ⟨rfl, rfl⟩
    | cons c rest => simp [hrest c (by simp)]
  rw [spanDigits, List.takeWhile_append_of_pos h, List.dropWhile_append_of_pos h, hnone.1, hnone.2,
    List.append_nil]

lemma readFrac_fracText {parts : NumberParts} (h : parts.WellFormed) {rest : List Char}
    (hrest : NoDigit rest) (hdot : rest.head? ≠ some '.') :
    readFrac (parts.fracText ++ rest) = some (parts.frac, rest) := by
  unfold NumberParts.fracText
  cases hfrac : parts.frac with
  | none =>
    unfold readFrac
    split
    · next heq => simp [List.nil_append] at heq; simp [heq] at hdot
    · rfl
  | some digits =>
    obtain ⟨hne, hdigits⟩ := h.frac digits hfrac
    simp only [List.cons_append, readFrac, spanDigits_append hdigits hrest]
    rw [if_neg hne]

lemma readExp_expText {parts : NumberParts} (h : parts.WellFormed) {rest : List Char}
    (hrest : Stops rest) : readExp (parts.expText ++ rest) = some (parts.exp, rest) := by
  have hdigit : NoDigit rest := fun c hc => (hrest c hc).1
  unfold NumberParts.expText
  cases hexp : parts.exp with
  | none =>
    cases rest with
    | nil => rfl
    | cons c rest =>
      obtain ⟨-, -, he, hE⟩ := hrest c (by simp)
      simp [readExp, he, hE]
  | some exp =>
    obtain ⟨e, sign, digits⟩ := exp
    obtain ⟨he, hsign, hne, hdigits⟩ := h.exp e sign digits hexp
    cases sign with
    | some s =>
      simp only [Option.toList_some, List.cons_append, List.nil_append, readExp, if_pos he,
        if_pos (hsign s rfl), spanDigits_append hdigits hdigit]
      rw [if_neg hne]
    | none =>
      obtain ⟨d, digits, rfl⟩ := List.exists_cons_of_ne_nil hne
      have hd : ¬ (d = '+' ∨ d = '-') := by
        have := hdigits d (by simp)
        rintro (rfl | rfl) <;> simp [isDigit] at this
      simp only [Option.toList_none, List.cons_append, List.nil_append, readExp, if_pos he,
        if_neg hd]
      rw [← List.cons_append, spanDigits_append hdigits hdigit]
      simp

/-- The reader takes the whole number. -/
lemma NumberParts.WellFormed.readNumber {parts : NumberParts} (h : parts.WellFormed)
    {rest : List Char} (hrest : Stops rest) :
    readNumber (parts.text ++ rest) = some (parts.value, rest) := by
  obtain ⟨hne, hdigits, hzero⟩ := h.int
  have hexp : NoDigit (parts.expText ++ rest) ∧ (parts.expText ++ rest).head? ≠ some '.' := by
    unfold NumberParts.expText
    cases hexp : parts.exp with
    | none =>
      refine ⟨fun c hc => (hrest c hc).1, fun hdot => ?_⟩
      exact (hrest '.' (by simpa using hdot)).2.1 rfl
    | some exp =>
      obtain ⟨e, sign, digits⟩ := exp
      obtain ⟨rfl | rfl, -⟩ := h.exp e sign digits hexp <;> simp [NoDigit, isDigit]
  have hfrac : NoDigit (parts.fracText ++ (parts.expText ++ rest)) := by
    unfold NumberParts.fracText
    cases parts.frac with
    | none => exact hexp.1
    | some digits => simp [NoDigit, isDigit]
  have hminus : ∀ tail, (match (if parts.minus then ['-'] else []) ++ (parts.int ++ tail) with
      | '-' :: rest => (true, rest)
      | _ => (false, (if parts.minus then ['-'] else []) ++ (parts.int ++ tail))) =
        (parts.minus, parts.int ++ tail) := by
    intro tail
    cases parts.minus with
    | true => rfl
    | false =>
      obtain ⟨d, int, hint⟩ := List.exists_cons_of_ne_nil hne
      have hd : d ≠ '-' := by
        have := hdigits d (by simp [hint])
        rintro rfl
        simp [isDigit] at this
      rw [hint]
      simp only [Bool.false_eq_true, if_false, List.nil_append, List.cons_append]
      split
      · next heq => exact absurd (List.cons.inj heq).1 hd
      · rfl
  have hint : ¬ (parts.int = [] ∨ (parts.int.head? = some '0' ∧ parts.int.length ≠ 1)) := by
    rintro (hnil | ⟨hhead, hlength⟩)
    · exact hne hnil
    · exact hlength (hzero hhead)
  simp only [NumberParts.text, List.append_assoc, Json.readNumber]
  rw [hminus]
  simp only [spanDigits_append hdigits hfrac, if_neg hint, readFrac_fracText h hexp.1 hexp.2,
    Option.bind_some, readExp_expText h hrest, Option.map_some]

/-! ## Values -/

/-- An element of an array, with the white space around it. -/
structure Element where
  before : List Char
  text : List Char
  value : Value
  after : List Char

namespace Element

/-- The text of the element. -/
def source (e : Element) : List Char := e.before ++ e.text ++ e.after

/-- What is around the element is white space. -/
structure Spaced (e : Element) : Prop where
  before : Spaces e.before
  after : Spaces e.after

end Element

/-- A member of an object: its key, and its value with the white space around. -/
structure Member where
  before : List Char
  keyText : List Char
  key : List UInt16
  after : List Char
  element : Element

namespace Member

/-- The text of the member. -/
def source (m : Member) : List Char :=
  m.before ++ '"' :: m.keyText ++ '"' :: m.after ++ ':' :: m.element.source

/-- The key is a string, and what is around is white space. -/
structure Spaced (m : Member) : Prop where
  before : Spaces m.before
  keyText : CharsText m.keyText m.key
  after : Spaces m.after
  element : m.element.Spaced

end Member

/-- `value`: the grammar derives the text, and it stands for the value. -/
inductive ValueText : List Char → Value → Prop
  | null : ValueText ['n', 'u', 'l', 'l'] .null
  | literalTrue : ValueText ['t', 'r', 'u', 'e'] (.bool true)
  | literalFalse : ValueText ['f', 'a', 'l', 's', 'e'] (.bool false)
  | number {parts : NumberParts} (h : parts.WellFormed) : ValueText parts.text (.number parts.value)
  | string {text : List Char} {units : List UInt16} (h : CharsText text units) :
      ValueText ('"' :: text ++ ['"']) (.string units)
  | emptyArray {space : List Char} (hspace : Spaces space) :
      ValueText ('[' :: space ++ [']']) (.array [])
  | array {items : List Element} (hne : items ≠ []) (hspaced : ∀ e ∈ items, e.Spaced)
      (h : ∀ e ∈ items, ValueText e.text e.value) :
      ValueText ('[' :: [','].intercalate (items.map Element.source) ++ [']'])
        (.array (items.map Element.value))
  | emptyObject {space : List Char} (hspace : Spaces space) :
      ValueText ('\x7b' :: space ++ ['\x7d']) (.object [])
  | object {members : List Member} (hne : members ≠ []) (hspaced : ∀ m ∈ members, m.Spaced)
      (h : ∀ m ∈ members, ValueText m.element.text m.element.value) :
      ValueText ('\x7b' :: [','].intercalate (members.map Member.source) ++ ['\x7d'])
        (.object (members.map fun m => (m.key, m.element.value)))

mutual

/-- Read a value. -/
def readValue : ℕ → List Char → Option (Value × List Char)
  | 0, _ => none
  | fuel + 1, text =>
      match text with
      | 'n' :: 'u' :: 'l' :: 'l' :: rest => some (.null, rest)
      | 't' :: 'r' :: 'u' :: 'e' :: rest => some (.bool true, rest)
      | 'f' :: 'a' :: 'l' :: 's' :: 'e' :: rest => some (.bool false, rest)
      | '"' :: rest => (readChars rest).map fun (units, rest) => (.string units, rest)
      | '[' :: rest =>
          match skip rest with
          | ']' :: rest => some (.array [], rest)
          | rest => (readElements fuel rest).map fun (items, rest) => (.array items, rest)
      | '\x7b' :: rest =>
          match skip rest with
          | '\x7d' :: rest => some (.object [], rest)
          | rest => (readMembers fuel rest).map fun (members, rest) => (.object members, rest)
      | text => (readNumber text).map fun (value, rest) => (.number value, rest)

/-- Read the elements of an array and its closing bracket. -/
def readElements : ℕ → List Char → Option (List Value × List Char)
  | 0, _ => none
  | fuel + 1, text =>
      (readValue fuel (skip text)).bind fun (value, rest) =>
        match skip rest with
        | ']' :: rest => some ([value], rest)
        | ',' :: rest =>
            (readElements fuel rest).map fun (values, rest) => (value :: values, rest)
        | _ => none

/-- Read the members of an object and its closing brace. -/
def readMembers : ℕ → List Char → Option (List (List UInt16 × Value) × List Char)
  | 0, _ => none
  | fuel + 1, text =>
      match skip text with
      | '"' :: rest =>
          (readChars rest).bind fun (key, rest) =>
            match skip rest with
            | ':' :: rest =>
                (readValue fuel (skip rest)).bind fun (value, rest) =>
                  match skip rest with
                  | '\x7d' :: rest => some ([(key, value)], rest)
                  | ',' :: rest =>
                      (readMembers fuel rest).map fun (members, rest) =>
                        ((key, value) :: members, rest)
                  | _ => none
            | _ => none
      | _ => none

end

/-- `JSON-text`. -/
def parse (text : List Char) : Option Value :=
  (readValue (text.length + 1) (skip text)).bind fun (value, rest) =>
    if skip rest = [] then some value else none

/-! ## What the grammar derives is read -/

lemma skip_append {space : List Char} (h : Spaces space) (text : List Char) :
    skip (space ++ text) = skip text :=
  List.dropWhile_append_of_pos h

lemma skip_cons {c : Char} (h : isSpace c = false) (text : List Char) :
    skip (c :: text) = c :: text := by
  simp [skip, h]

lemma stops_append {space : List Char} (h : Spaces space) {c : Char}
    (hc : c = ',' ∨ c = ']' ∨ c = '\x7d') (text : List Char) : Stops (space ++ c :: text) := by
  intro d hd
  cases space with
  | nil =>
    obtain rfl : c = d := by simpa using hd
    rcases hc with rfl | rfl | rfl <;> decide
  | cons s space =>
    obtain rfl : s = d := by simpa using hd
    have hs := h s (by simp)
    simp only [isSpace, Bool.or_eq_true, beq_iff_eq] at hs
    rcases hs with ((rfl | rfl) | rfl) | rfl <;> decide

/-- A number starts with a minus sign or a digit. -/
lemma NumberParts.WellFormed.text_eq_cons {parts : NumberParts} (h : parts.WellFormed) :
    ∃ c text, parts.text = c :: text ∧ (c = '-' ∨ isDigit c = true) := by
  obtain ⟨hne, hdigits, -⟩ := h.int
  obtain ⟨d, int, hint⟩ := List.exists_cons_of_ne_nil hne
  unfold NumberParts.text
  cases parts.minus with
  | true => exact ⟨'-', _, rfl, .inl rfl⟩
  | false => exact ⟨d, _, by rw [hint]; rfl, .inr (hdigits d (by simp [hint]))⟩

/-- A value starts with neither white space nor a closing bracket. -/
lemma ValueText.text_eq_cons {text : List Char} {v : Value} (h : ValueText text v) :
    ∃ c tail, text = c :: tail ∧ isSpace c = false ∧ c ≠ ']' := by
  cases h with
  | number h =>
    obtain ⟨c, tail, htext, hc⟩ := h.text_eq_cons
    refine ⟨c, tail, htext, ?_, ?_⟩
    · by_contra hspace
      simp only [isSpace, Bool.not_eq_false, Bool.or_eq_true, beq_iff_eq] at hspace
      rcases hspace with ((rfl | rfl) | rfl) | rfl <;> simp [isDigit] at hc
    · rintro rfl
      simp [isDigit] at hc
  | null | literalTrue | literalFalse | string | emptyArray | array | emptyObject | object =>
    exact ⟨_, _, rfl, by decide, by decide⟩

/-- Text that starts like a number is read as one. -/
lemma readValue_of_number {fuel : ℕ} {c : Char} {text : List Char}
    (hc : c = '-' ∨ isDigit c = true) :
    readValue (fuel + 1) (c :: text) =
      (readNumber (c :: text)).map fun (value, rest) => (.number value, rest) := by
  rw [readValue] <;> rintro _ heq <;> obtain ⟨rfl, -⟩ := List.cons.inj heq <;>
    simp [isDigit] at hc

/-- What it means that a value is read wherever its text stands. -/
def Reads (text : List Char) (v : Value) : Prop :=
  ∀ (fuel : ℕ) (rest : List Char), text.length ≤ fuel → Stops rest →
    readValue fuel (text ++ rest) = some (v, rest)

lemma skip_skip (text : List Char) : skip (skip text) = skip text :=
  List.dropWhile_idempotent _ _

lemma readElements_skip (fuel : ℕ) (text : List Char) :
    readElements fuel (skip text) = readElements fuel text := by
  cases fuel with
  | zero => rfl
  | succ fuel => rw [readElements, skip_skip, readElements]

lemma readMembers_skip (fuel : ℕ) (text : List Char) :
    readMembers fuel (skip text) = readMembers fuel text := by
  cases fuel with
  | zero => rfl
  | succ fuel => rw [readMembers, skip_skip, readMembers]

lemma intercalate_cons (sep text : List Char) (texts : List (List Char)) :
    ∃ more, sep.intercalate (text :: texts) = text ++ more := by
  cases texts with
  | nil => exact ⟨[], by rw [List.intercalate_singleton, List.append_nil]⟩
  | cons next texts => exact ⟨_, by rw [List.intercalate_cons_cons, List.append_assoc]⟩

/-- Whatever follows an element, its value is read first. -/
lemma Element.Spaced.readValue_eq_some {e : Element} (hspaced : e.Spaced)
    (hvalue : ValueText e.text e.value) (hreads : Reads e.text e.value) {fuel : ℕ}
    (hfuel : e.source.length ≤ fuel) {d : Char} (hd : d = ',' ∨ d = ']' ∨ d = '\x7d')
    (more : List Char) :
    readValue fuel (skip (e.source ++ d :: more)) = some (e.value, e.after ++ d :: more) := by
  obtain ⟨c, tail, htext, hspace, -⟩ := hvalue.text_eq_cons
  have hskip : skip (e.source ++ d :: more) = e.text ++ (e.after ++ d :: more) := by
    rw [Element.source, List.append_assoc, List.append_assoc, skip_append hspaced.before, htext,
      List.cons_append, skip_cons hspace]
  rw [hskip]
  refine hreads fuel _ ?_ (stops_append hspaced.after hd _)
  simp only [Element.source, List.length_append] at hfuel
  omega

/-- The elements of an array are read, one after the other. -/
lemma readElements_eq_some {items : List Element} (hne : items ≠ [])
    (hspaced : ∀ e ∈ items, e.Spaced) (hvalue : ∀ e ∈ items, ValueText e.text e.value)
    (hreads : ∀ e ∈ items, Reads e.text e.value) {fuel : ℕ} (rest : List Char)
    (hfuel : ([','].intercalate (items.map Element.source)).length < fuel) :
    readElements fuel ([','].intercalate (items.map Element.source) ++ ']' :: rest) =
      some (items.map Element.value, rest) := by
  induction items generalizing fuel with
  | nil => exact absurd rfl hne
  | cons e items ih =>
    obtain ⟨fuel, rfl⟩ := Nat.exists_eq_succ_of_ne_zero (Nat.ne_of_gt (Nat.zero_lt_of_lt hfuel))
    have hsp := hspaced e (by simp)
    have hread : ∀ (d : Char) (more : List Char), (d = ',' ∨ d = ']' ∨ d = '\x7d') →
        e.source.length ≤ fuel →
        readValue fuel (skip (e.source ++ d :: more)) = some (e.value, e.after ++ d :: more) :=
      fun d more hd hle =>
        hsp.readValue_eq_some (hvalue e (by simp)) (hreads e (by simp)) hle hd more
    cases items with
    | nil =>
      simp only [List.map_cons, List.map_nil, List.intercalate_singleton] at hfuel ⊢
      rw [readElements, hread ']' rest (by simp) (by omega), Option.bind_some]
      simp only [skip_append hsp.after, skip_cons (c := ']') (by decide)]
    | cons next items =>
      simp only [List.map_cons, List.intercalate_cons_cons, List.length_append,
        List.length_singleton] at hfuel ⊢
      have hrest := ih (by simp) (fun x hx => hspaced x (List.mem_cons_of_mem _ hx))
        (fun x hx => hvalue x (List.mem_cons_of_mem _ hx))
        (fun x hx => hreads x (List.mem_cons_of_mem _ hx))
        (show _ < fuel by rw [List.map_cons]; omega)
      rw [List.append_assoc, List.append_assoc, List.singleton_append, readElements,
        hread ',' _ (by simp) (by omega), Option.bind_some]
      simp only [skip_append hsp.after, skip_cons (c := ',') (by decide)]
      rw [List.map_cons] at hrest
      rw [hrest, Option.map_some, List.map_cons]

/-- The members of an object are read, one after the other. -/
lemma readMembers_eq_some {members : List Member} (hne : members ≠ [])
    (hspaced : ∀ m ∈ members, m.Spaced)
    (hvalue : ∀ m ∈ members, ValueText m.element.text m.element.value)
    (hreads : ∀ m ∈ members, Reads m.element.text m.element.value) {fuel : ℕ} (rest : List Char)
    (hfuel : ([','].intercalate (members.map Member.source)).length < fuel) :
    readMembers fuel ([','].intercalate (members.map Member.source) ++ '\x7d' :: rest) =
      some (members.map fun m => (m.key, m.element.value), rest) := by
  induction members generalizing fuel with
  | nil => exact absurd rfl hne
  | cons m members ih =>
    obtain ⟨fuel, rfl⟩ := Nat.exists_eq_succ_of_ne_zero (Nat.ne_of_gt (Nat.zero_lt_of_lt hfuel))
    have hsp := hspaced m (by simp)
    -- the key is read up to its quotation mark, and then the value
    have hkey : ∀ more, skip (m.source ++ more) =
        '"' :: (m.keyText ++ '"' :: (m.after ++ ':' :: (m.element.source ++ more))) := by
      intro more
      simp only [Member.source, List.append_assoc, List.cons_append]
      rw [skip_append hsp.before, skip_cons (by decide)]
    have hread : ∀ (d : Char) (more : List Char), (d = ',' ∨ d = ']' ∨ d = '\x7d') →
        m.source.length ≤ fuel →
        readValue fuel (skip (m.element.source ++ d :: more)) =
          some (m.element.value, m.element.after ++ d :: more) := by
      intro d more hd hle
      refine hsp.element.readValue_eq_some (hvalue m (by simp)) (hreads m (by simp)) ?_ hd more
      simp only [Member.source, List.length_append, List.length_cons] at hle
      omega
    have hcolon : ∀ more, skip (m.after ++ ':' :: more) = ':' :: more := fun more => by
      rw [skip_append hsp.after, skip_cons (by decide)]
    cases members with
    | nil =>
      simp only [List.map_cons, List.map_nil, List.intercalate_singleton] at hfuel ⊢
      rw [readMembers, hkey]
      simp only [hsp.keyText.readChars, Option.bind_some, hcolon]
      rw [hread '\x7d' rest (by simp) (by omega), Option.bind_some]
      simp only [skip_append hsp.element.after, skip_cons (c := '\x7d') (by decide)]
    | cons next members =>
      simp only [List.map_cons, List.intercalate_cons_cons, List.length_append,
        List.length_singleton] at hfuel ⊢
      have hrest := ih (by simp) (fun x hx => hspaced x (List.mem_cons_of_mem _ hx))
        (fun x hx => hvalue x (List.mem_cons_of_mem _ hx))
        (fun x hx => hreads x (List.mem_cons_of_mem _ hx))
        (show _ < fuel by rw [List.map_cons]; omega)
      rw [List.append_assoc, List.append_assoc, List.singleton_append, readMembers, hkey]
      simp only [hsp.keyText.readChars, Option.bind_some, hcolon]
      rw [hread ',' _ (by simp) (by omega), Option.bind_some]
      simp only [skip_append hsp.element.after, skip_cons (c := ',') (by decide)]
      rw [List.map_cons] at hrest
      rw [hrest, Option.map_some, List.map_cons]

/-- **What the grammar derives is read**, with the value the grammar gives it. -/
theorem ValueText.reads {text : List Char} {v : Value} (h : ValueText text v) : Reads text v := by
  induction h with
  | null | literalTrue | literalFalse =>
    rintro (_ | fuel) rest hfuel -
    · simp at hfuel
    · rfl
  | number h =>
    rintro (_ | fuel) rest hfuel hrest
    · obtain ⟨c, tail, htext, -⟩ := h.text_eq_cons
      simp [htext] at hfuel
    · obtain ⟨c, tail, htext, hc⟩ := h.text_eq_cons
      have hread := h.readNumber hrest
      rw [htext, List.cons_append] at hread ⊢
      rw [readValue_of_number hc, hread, Option.map_some]
  | string h =>
    rintro (_ | fuel) rest hfuel -
    · simp at hfuel
    · simp only [List.cons_append, List.append_assoc, List.nil_append, readValue]
      rw [h.readChars, Option.map_some]
  | emptyArray hspace =>
    rintro (_ | fuel) rest hfuel -
    · simp at hfuel
    · simp only [List.cons_append, List.append_assoc, List.nil_append, readValue,
        skip_append hspace, skip_cons (c := ']') (by decide)]
  | emptyObject hspace =>
    rintro (_ | fuel) rest hfuel -
    · simp at hfuel
    · simp only [List.cons_append, List.append_assoc, List.nil_append, readValue,
        skip_append hspace, skip_cons (c := '\x7d') (by decide)]
  | @array items hne hspaced hvalue ih =>
    rintro (_ | fuel) rest hfuel -
    · simp at hfuel
    · obtain ⟨e, items', rfl⟩ := List.exists_cons_of_ne_nil hne
      obtain ⟨c, tail, htext, hspace, hbracket⟩ := (hvalue e (by simp)).text_eq_cons
      obtain ⟨more, hmore⟩ := intercalate_cons [','] e.source (items'.map Element.source)
      have hskip : skip ([','].intercalate ((e :: items').map Element.source) ++ ']' :: rest) =
          c :: (tail ++ e.after ++ more ++ ']' :: rest) := by
        rw [List.map_cons, hmore, Element.source, htext]
        simp only [List.append_assoc]
        rw [skip_append (hspaced e (by simp)).before, List.cons_append, skip_cons hspace]
      have hread := readElements_eq_some hne hspaced hvalue ih rest (show _ < fuel by
        simp only [List.length_append, List.length_cons] at hfuel
        omega)
      rw [← readElements_skip, hskip] at hread
      simp only [List.cons_append, List.append_assoc, List.nil_append, readValue] at hskip hread ⊢
      rw [hskip]
      split
      · next heq => exact absurd (List.cons.inj heq).1 hbracket
      · rw [hread, Option.map_some]
  | @object members hne hspaced hvalue ih =>
    rintro (_ | fuel) rest hfuel -
    · simp at hfuel
    · obtain ⟨m, members', rfl⟩ := List.exists_cons_of_ne_nil hne
      obtain ⟨more, hmore⟩ := intercalate_cons [','] m.source (members'.map Member.source)
      have hskip : skip ([','].intercalate ((m :: members').map Member.source) ++ '\x7d' :: rest) =
          '"' :: (m.keyText ++ '"' :: m.after ++ ':' :: m.element.source ++ more ++
            '\x7d' :: rest) := by
        rw [List.map_cons, hmore, Member.source]
        simp only [List.append_assoc, List.cons_append]
        rw [skip_append (hspaced m (by simp)).before, skip_cons (by decide)]
      have hread := readMembers_eq_some hne hspaced hvalue ih rest (show _ < fuel by
        simp only [List.length_append, List.length_cons] at hfuel
        omega)
      rw [← readMembers_skip, hskip] at hread
      simp only [List.cons_append, List.append_assoc, List.nil_append, readValue] at hskip hread ⊢
      rw [hskip]
      split
      · next heq => exact absurd (List.cons.inj heq).1 (by decide)
      · rw [hread, Option.map_some]

/-- **A JSON text is parsed to the value the grammar gives it.** -/
theorem ValueText.parse {text : List Char} {v : Value} (h : ValueText text v)
    {before after : List Char} (hbefore : Spaces before) (hafter : Spaces after) :
    parse (before ++ text ++ after) = some v := by
  obtain ⟨c, tail, htext, hspace, -⟩ := h.text_eq_cons
  have hskip : skip (before ++ text ++ after) = text ++ after := by
    rw [List.append_assoc, skip_append hbefore, htext, List.cons_append, skip_cons hspace]
  have hstops : Stops after := by
    intro d hd
    have hmem := List.mem_of_mem_head? hd
    have hs := hafter d hmem
    simp only [isSpace, Bool.or_eq_true, beq_iff_eq] at hs
    rcases hs with ((rfl | rfl) | rfl) | rfl <;> decide
  have hend : skip after = [] := by
    have := skip_append hafter []
    rwa [List.append_nil] at this
  rw [Json.parse, hskip, h.reads _ _ (by simp only [List.length_append]; omega) hstops,
    Option.bind_some]
  exact if_pos hend

end Json
