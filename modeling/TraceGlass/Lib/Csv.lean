import Mathlib.Data.List.Basic
import Mathlib.Data.Nat.Notation
import Mathlib.Tactic.Cases

/-!
# CSV texts

The grammar of RFC 4180 and a reader for it.  `TEXTDATA` is every character but the quotation mark,
the comma, CR and LF, since the texts are not ASCII; a quoted field holds any character, with a
quotation mark written twice.

`FieldText text value` says that the grammar derives `text` as a field that holds `value`.
`parse_records` is the connection: records derived by the grammar and ended by CRLF are read back,
whatever separators and line breaks their quoted fields contain.
-/

namespace Csv

/-! ## Fields -/

/-- `TEXTDATA`. -/
def isTextData (c : Char) : Bool := c != '"' && c != ',' && c != '\r' && c != '\n'

/-- The inside of `escaped`, with the characters it stands for. -/
inductive QuotedText : List Char → List Char → Prop
  | nil : QuotedText [] []
  | char {c : Char} {text value : List Char} (hc : c ≠ '"') (h : QuotedText text value) :
      QuotedText (c :: text) (c :: value)
  | quote {text value : List Char} (h : QuotedText text value) :
      QuotedText ('"' :: '"' :: text) ('"' :: value)

/-- `field`. -/
inductive FieldText : List Char → List Char → Prop
  | escaped {text value : List Char} (h : QuotedText text value) :
      FieldText ('"' :: text ++ ['"']) value
  | nonEscaped {text : List Char} (h : ∀ c ∈ text, isTextData c = true) : FieldText text text

/-- Read the inside of a quoted field and its closing quotation mark. -/
def readQuoted : List Char → Option (List Char × List Char)
  | [] => none
  | '"' :: '"' :: text => (readQuoted text).map fun (value, rest) => ('"' :: value, rest)
  | '"' :: text => some ([], text)
  | c :: text => (readQuoted text).map fun (value, rest) => (c :: value, rest)

/-- Read a field. -/
def readField (text : List Char) : Option (List Char × List Char) :=
  match text with
  | '"' :: rest => readQuoted rest
  | _ => some (text.takeWhile isTextData, text.dropWhile isTextData)

/-- The text is at the end of a field. -/
def AtEnd (text : List Char) : Prop := ∀ c ∈ text.head?, c = ',' ∨ c = '\r' ∨ c = '\n'

lemma QuotedText.readQuoted {text value : List Char} (h : QuotedText text value) {rest : List Char}
    (hrest : rest.head? ≠ some '"') : readQuoted (text ++ '"' :: rest) = some (value, rest) := by
  induction h with
  | nil =>
    rw [List.nil_append, Csv.readQuoted]
    rintro text rfl
    exact hrest rfl
  | char hc _ ih =>
    rw [List.cons_append, Csv.readQuoted, ih, Option.map_some]
    · intro _ heq
      exact absurd heq hc
    · exact hc
  | quote _ ih => rw [List.cons_append, List.cons_append, Csv.readQuoted, ih, Option.map_some]

/-- The reader takes the field up to the separator. -/
lemma FieldText.readField {text value : List Char} (h : FieldText text value) {rest : List Char}
    (hrest : AtEnd rest) : readField (text ++ rest) = some (value, rest) := by
  cases h with
  | escaped h =>
    have hquote : rest.head? ≠ some '"' := by
      intro hhead
      rcases hrest '"' (by simp [hhead]) with heq | heq | heq <;> simp at heq
    rw [List.cons_append, List.cons_append, List.append_assoc, List.singleton_append,
      Csv.readField]
    exact h.readQuoted hquote
  | nonEscaped h =>
    have hstop : rest.takeWhile isTextData = [] ∧ rest.dropWhile isTextData = rest := by
      cases rest with
      | nil => exact ⟨rfl, rfl⟩
      | cons c rest => rcases hrest c (by simp) with rfl | rfl | rfl <;> exact ⟨rfl, rfl⟩
    unfold Csv.readField
    split
    · next tail heq =>
      -- a field that is not quoted does not start with a quotation mark
      cases text with
      | nil =>
        rw [List.nil_append] at heq
        rcases hrest '"' (by simp [heq]) with h' | h' | h' <;> simp at h'
      | cons c text =>
        have hc := h c (by simp)
        rw [(List.cons.inj heq).1] at hc
        simp [isTextData] at hc
    · rw [List.takeWhile_append_of_pos h, List.dropWhile_append_of_pos h, hstop.1, hstop.2,
        List.append_nil]

/-! ## Records -/

/-- Read the fields of a record. -/
def readRecord : ℕ → List Char → Option (List (List Char) × List Char)
  | 0, _ => none
  | fuel + 1, text =>
      (readField text).bind fun (value, rest) =>
        match rest with
        | ',' :: rest => (readRecord fuel rest).map fun (values, rest) => (value :: values, rest)
        | rest => some ([value], rest)

/-- Read the records of a file; a CRLF at the end starts no further record. -/
def readRecords : ℕ → List Char → Option (List (List (List Char)))
  | 0, _ => none
  | fuel + 1, text =>
      (readRecord fuel text).bind fun (record, rest) =>
        match rest with
        | [] => some [record]
        | ['\r', '\n'] => some [record]
        | '\r' :: '\n' :: rest => (readRecords fuel rest).map fun records => record :: records
        | _ => none

/-- `file`. -/
def parse (text : List Char) : Option (List (List (List Char))) :=
  readRecords (text.length + 2) text

/-- `record`: fields with commas between, and what they hold. -/
def RecordText (text : List Char) (values : List (List Char)) : Prop :=
  ∃ fields : List (List Char × List Char), fields ≠ [] ∧ (∀ f ∈ fields, FieldText f.1 f.2) ∧
    text = [','].intercalate (fields.map Prod.fst) ∧ values = fields.map Prod.snd

lemma RecordText.singleton {text value : List Char} (h : FieldText text value) :
    RecordText text [value] :=
  ⟨[(text, value)], by simp, by simpa using h, by simp, rfl⟩

/-- A further field in front. -/
lemma RecordText.cons {text value rest : List Char} {values : List (List Char)}
    (hfield : FieldText text value) (h : RecordText rest values) :
    RecordText (text ++ [','] ++ rest) (value :: values) := by
  obtain ⟨fields, hne, hfields, rfl, rfl⟩ := h
  refine ⟨(text, value) :: fields, by simp, ?_, ?_, rfl⟩
  · rintro f (_ | ⟨_, hf⟩)
    · exact hfield
    · exact hfields f hf
  · obtain ⟨f, fields, rfl⟩ := List.exists_cons_of_ne_nil hne
    simp [List.intercalate_cons_cons]

/-- The reader takes the record up to its CRLF. -/
lemma RecordText.readRecord {text : List Char} {values : List (List Char)}
    (h : RecordText text values) {fuel : ℕ} (hfuel : text.length < fuel) (rest : List Char) :
    readRecord fuel (text ++ '\r' :: rest) = some (values, '\r' :: rest) := by
  obtain ⟨fields, hne, hderives, rfl, rfl⟩ := h
  induction fields generalizing fuel with
  | nil => exact absurd rfl hne
  | cons f fields ih =>
    obtain ⟨fuel, rfl⟩ := Nat.exists_eq_succ_of_ne_zero (Nat.ne_of_gt (Nat.zero_lt_of_lt hfuel))
    have hread : ∀ rest, AtEnd rest → readField (f.1 ++ rest) = some (f.2, rest) :=
      fun _ hrest => (hderives f (by simp)).readField hrest
    cases fields with
    | nil =>
      simp only [List.map_cons, List.map_nil, List.intercalate_singleton]
      rw [Csv.readRecord, hread _ (by simp [AtEnd]), Option.bind_some]
      rfl
    | cons next fields =>
      simp only [List.map_cons, List.intercalate_cons_cons, List.length_append,
        List.length_singleton] at hfuel ⊢
      have hrest := ih (by simp) (fun x hx => hderives x (List.mem_cons_of_mem _ hx))
        (show _ < fuel by rw [List.map_cons]; omega)
      rw [List.append_assoc, List.append_assoc, List.singleton_append, Csv.readRecord,
        hread _ (by simp [AtEnd]), Option.bind_some]
      rw [List.map_cons] at hrest
      simp only [hrest, Option.map_some, List.map_cons]

/-! ## Files -/

/-- **Records that are each ended by CRLF are read back.** -/
theorem parse_records {records : List (List Char × List (List Char))} (hne : records ≠ [])
    (hderives : ∀ r ∈ records, RecordText r.1 r.2) :
    parse (records.flatMap fun r => r.1 ++ ['\r', '\n']) = some (records.map Prod.snd) := by
  suffices hread : ∀ fuel, (records.flatMap fun r => r.1 ++ ['\r', '\n']).length < fuel →
      readRecords fuel (records.flatMap fun r => r.1 ++ ['\r', '\n']) =
        some (records.map Prod.snd) by
    exact hread _ (by omega)
  induction records with
  | nil => exact absurd rfl hne
  | cons r records ih =>
    intro fuel hfuel
    obtain ⟨fuel, rfl⟩ := Nat.exists_eq_succ_of_ne_zero (Nat.ne_of_gt (Nat.zero_lt_of_lt hfuel))
    have hrecord := hderives r (by simp)
    simp only [List.flatMap_cons, List.append_assoc, List.cons_append, List.nil_append,
      List.length_append, List.length_cons] at hfuel ⊢
    rw [readRecords, hrecord.readRecord (by omega), Option.bind_some]
    cases records with
    | nil => rfl
    | cons next records =>
      have hrest := ih (by simp) (fun x hx => hderives x (List.mem_cons_of_mem _ hx)) fuel
        (by omega)
      -- there is a further record, so the file does not end here
      obtain ⟨c, more, hmore⟩ := List.exists_cons_of_ne_nil
        (l := (next :: records).flatMap fun r => r.1 ++ ['\r', '\n']) (by simp)
      rw [hmore] at hrest ⊢
      simp only [hrest, Option.map_some, List.map_cons]

end Csv
