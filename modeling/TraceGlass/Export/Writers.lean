import TraceGlass.Export.Model
import TraceGlass.Lib.Unicode

/-!
# What a serializer prints

The bytes of an export are a function of the store alone.  `Prints env writer text` says so of one
writer: it appends the UTF-8 encoding of `text` whenever it returns `TRUE`, and it does return
`TRUE` when no call fails.  `Prints.cons` composes the writers of a `sequence`.

`attributes` is what an export records of an event: the fourteen names of the two formats with what
stands under them.
-/

namespace TraceGlass

open Unicode

/-! ## The calls -/

namespace ExportEnv

/-- `WideCharToMultiByte(CP_UTF8)`, where it answers, gives the UTF-8 encoding of well-formed
UTF-16. -/
def StandardUtf8 (env : ExportEnv) : Prop :=
  ∀ call text bytes, env.wideCharToMultiByte call (encodeUtf16 text) = some bytes →
    bytes = encodeUtf8 text

/-- No call fails: well-formed UTF-16 is converted, memory is there, and every write of a non-empty
chunk writes something. -/
structure Succeeds (env : ExportEnv) : Prop where
  wideCharToMultiByte : ∀ call text, (env.wideCharToMultiByte call (encodeUtf16 text)).isSome = true
  malloc : ∀ call size, env.malloc call size = true
  writeFile : ∀ call chunk, 0 < chunk → ∃ written, env.writeFile call chunk = some written ∧
    written ≠ 0

/-- A system on which everything succeeds at once. -/
def utf8 : ExportEnv where
  wideCharToMultiByte := fun _ units => (decodeUtf16 units).map encodeUtf8
  malloc := fun _ _ => true
  writeFile := fun _ chunk => some (Fin.last chunk)

lemma standardUtf8_utf8 : utf8.StandardUtf8 := by
  intro _ text bytes h
  simpa [utf8, eq_comm] using h

lemma succeeds_utf8 : utf8.Succeeds where
  wideCharToMultiByte _ text := by simp [utf8]
  malloc _ _ := rfl
  writeFile _ chunk hchunk := ⟨Fin.last chunk, rfl, Fin.pos_iff_ne_zero.mp hchunk⟩

end ExportEnv

variable {env : ExportEnv}

/-! ## Writers -/

/-- The writer appends these bytes when it returns `TRUE`, which it does when no call fails. -/
structure Emits (env : ExportEnv) (writer : Writer) (bytes : List BYTE) : Prop where
  contents : ∀ file, (writer file).1 = true → (writer file).2.contents = file.contents ++ bytes
  returns : env.Succeeds → ∀ file, (writer file).1 = true

/-- The writer appends the UTF-8 encoding of this text. -/
abbrev Prints (env : ExportEnv) (writer : Writer) (text : List Char) : Prop :=
  Emits env writer (encodeUtf8 text)

lemma Emits.andThen {first second : Writer} {bytes bytes' : List BYTE} (h : Emits env first bytes)
    (h' : Emits env second bytes') : Emits env (first.andThen second) (bytes ++ bytes') where
  contents file htrue := by
    have hfirst := h.contents file
    unfold Writer.andThen at htrue ⊢
    cases hresult : first file with
    | mk ok file' =>
      cases ok with
      | false => simp [hresult] at htrue
      | true =>
        simp only [hresult] at hfirst htrue ⊢
        rw [h'.contents file' htrue, hfirst trivial, List.append_assoc]
  returns hsucceeds file := by
    have hfirst := h.returns hsucceeds file
    unfold Writer.andThen
    cases hresult : first file with
    | mk ok file' =>
      cases ok with
      | false => simp [hresult] at hfirst
      | true => exact h'.returns hsucceeds file'

lemma Emits.nil : Emits env (.sequence []) [] where
  contents _ _ := (List.append_nil _).symm
  returns _ _ := rfl

lemma Prints.nil : Prints env (.sequence []) [] := Emits.nil

/-- One writer of a sequence. -/
lemma Prints.cons {writer : Writer} {writers : List Writer} {text text' : List Char}
    (h : Prints env writer text) (h' : Prints env (.sequence writers) text') :
    Prints env (.sequence (writer :: writers)) (text ++ text') := by
  have hbytes := Emits.andThen h h'
  rwa [← encodeUtf8_append] at hbytes

lemma Prints.congr {writer : Writer} {text text' : List Char} (h : Prints env writer text)
    (htext : text = text') : Prints env writer text' := htext ▸ h

/-! ## `write_all` and `write_utf8` -/

/-- Each round of the loop appends what `WriteFile` took and goes on with the rest. -/
lemma emits_writeAllLoop {fuel : ℕ} {data : List BYTE} (hfuel : data.length ≤ fuel) :
    Emits env (writeAllLoop env fuel data) data := by
  induction fuel generalizing data with
  | zero =>
    obtain rfl : data = [] := List.eq_nil_of_length_eq_zero (Nat.le_zero.mp hfuel)
    exact ⟨fun _ _ => (List.append_nil _).symm, fun _ _ => rfl⟩
  | succ fuel ih =>
    cases data with
    | nil => exact ⟨fun _ _ => (List.append_nil _).symm, fun _ _ => rfl⟩
    | cons b data =>
      constructor
      · intro file htrue
        revert htrue
        simp only [writeAllLoop]
        cases env.writeFile file.calls
            (if (b :: data).length > maxDword then maxDword else (b :: data).length) with
        | none => exact fun htrue => absurd htrue (by simp)
        | some written =>
          intro htrue
          by_cases hzero : written = 0
          · simp [hzero] at htrue
          · have hpos : 0 < written.val := Fin.pos_iff_ne_zero.mpr hzero
            simp only [if_neg hzero] at htrue ⊢
            rw [(ih (by simp only [List.length_drop]; omega)).contents _ htrue]
            simp [List.take_append_drop]
      · intro hsucceeds file
        obtain ⟨written, hwrite, hzero⟩ := hsucceeds.writeFile file.calls
          (if (b :: data).length > maxDword then maxDword else (b :: data).length) (by
            split
            · decide
            · simp)
        have hpos : 0 < written.val := Fin.pos_iff_ne_zero.mpr hzero
        simp only [writeAllLoop, hwrite, if_neg hzero]
        exact (ih (by simp only [List.length_drop]; omega)).returns hsucceeds _

lemma emits_writeAll (data : List BYTE) : Emits env (writeAll env data) data :=
  emits_writeAllLoop (Nat.le_refl _)

lemma length_encodeUtf8_pos {text : List Char} (h : text ≠ []) : 0 < (encodeUtf8 text).length := by
  obtain ⟨c, text, rfl⟩ := List.exists_cons_of_ne_nil h
  have hc : 0 < (String.utf8EncodeChar c).length := by
    rw [String.length_utf8EncodeChar]
    exact c.utf8Size_pos
  simp only [encodeUtf8, List.flatMap_cons, List.length_append]
  omega

/-- `write_utf8` prints any well-formed text that is not too long for an `int`. -/
lemma prints_writeUtf8 (hutf8 : env.StandardUtf8) {text : List Char}
    (hlength : (encodeUtf16 text).length ≤ intMax) :
    Prints env (writeUtf8 env (encodeUtf16 text)) text := by
  by_cases hempty : (encodeUtf16 text).length = 0
  · have htext : text = [] := by
      cases text with
      | nil => rfl
      | cons c text =>
        rw [encodeUtf16_cons, List.length_append] at hempty
        unfold encodeUtf16Char at hempty
        split at hempty <;> simp at hempty
    subst htext
    exact ⟨fun _ _ => (List.append_nil _).symm, fun _ _ => rfl⟩
  · have hpos : 0 < (encodeUtf8 text).length :=
      length_encodeUtf8_pos (by rintro rfl; simp at hempty)
    constructor
    · intro file htrue
      unfold writeUtf8 at htrue ⊢
      rw [if_neg (Nat.not_lt.mpr hlength), if_neg hempty] at htrue ⊢
      cases hsized : env.wideCharToMultiByte file.calls (encodeUtf16 text) with
      | none => simp [hsized] at htrue
      | some sized =>
        obtain rfl := hutf8 _ _ _ hsized
        simp only [hsized, if_neg (Nat.ne_of_gt hpos)] at htrue ⊢
        by_cases hmalloc : env.malloc file.tick.calls (encodeUtf8 text).length = true
        · simp only [hmalloc, Bool.not_true, Bool.false_eq_true, if_false] at htrue ⊢
          cases hbytes : env.wideCharToMultiByte file.tick.tick.calls (encodeUtf16 text) with
          | none => simp [hbytes] at htrue
          | some bytes =>
            obtain rfl := hutf8 _ _ _ hbytes
            simp only [hbytes, ne_eq, not_true_eq_false, if_false] at htrue ⊢
            exact (emits_writeAll _).contents _ htrue
        · simp [hmalloc] at htrue
    · intro hsucceeds file
      have hconvert : ∀ call, env.wideCharToMultiByte call (encodeUtf16 text) =
          some (encodeUtf8 text) := by
        intro call
        obtain ⟨bytes, hbytes⟩ := Option.isSome_iff_exists.mp
          (hsucceeds.wideCharToMultiByte call text)
        rw [hbytes, hutf8 _ _ _ hbytes]
      unfold writeUtf8
      simp only [if_neg (Nat.not_lt.mpr hlength), if_neg hempty, hconvert, hsucceeds.malloc,
        if_neg (Nat.ne_of_gt hpos), Bool.not_true, Bool.false_eq_true, if_false, ne_eq,
        not_true_eq_false]
      exact (emits_writeAll _).returns hsucceeds _

/-! ## Literals and numbers -/

lemma wide_eq_encodeUtf16 {text : String} (h : ∀ c ∈ text.toList, c.toNat < 0x10000) :
    wide text = encodeUtf16 text.toList :=
  (encodeUtf16_eq_map h).symm

/-- Every character of the text is below the bound. -/
def CharsBelow (bound : ℕ) (text : List Char) : Prop := ∀ c ∈ text, c.toNat < bound

instance (bound : ℕ) (text : List Char) : Decidable (CharsBelow bound text) :=
  List.decidableBAll _ _

/-- `write_utf8` on a literal. -/
lemma prints_literal (hutf8 : env.StandardUtf8) (text : String)
    (hascii : CharsBelow 0x10000 text.toList) (hlength : text.toList.length ≤ intMax) :
    Prints env (writeUtf8 env (wide text)) text.toList := by
  rw [wide_eq_encodeUtf16 hascii]
  refine prints_writeUtf8 hutf8 ?_
  rw [← wide_eq_encodeUtf16 hascii, wide, List.length_map]
  exact hlength

/-- The digits of a number, as text. -/
def digits (value : ℕ) : List Char := Nat.toDigits 10 value

/-- Text of the ASCII range, which both encoding forms leave as it is. -/
def IsAscii (units : List WCHAR) : Prop :=
  ∃ text : List Char, (∀ c ∈ text, c.toNat < 0x80) ∧ units = text.map fun c => UInt16.ofNat c.toNat

lemma IsAscii.append {units units' : List WCHAR} (h : IsAscii units) (h' : IsAscii units') :
    IsAscii (units ++ units') := by
  obtain ⟨text, hascii, rfl⟩ := h
  obtain ⟨text', hascii', rfl⟩ := h'
  refine ⟨text ++ text', fun c hc => ?_, by rw [List.map_append]⟩
  rcases List.mem_append.mp hc with hc | hc
  · exact hascii c hc
  · exact hascii' c hc

lemma IsAscii.wellFormed {units : List WCHAR} (h : IsAscii units) : WellFormedUtf16 units := by
  obtain ⟨text, hascii, rfl⟩ := h
  exact ⟨text, (encodeUtf16_eq_map fun c hc => Nat.lt_trans (hascii c hc) (by decide)).symm⟩

lemma isAscii_wide {text : String} (h : CharsBelow 0x80 text.toList) : IsAscii (wide text) :=
  ⟨text.toList, h, rfl⟩

lemma bounds_of_mem_digits {value : ℕ} {c : Char} (hc : c ∈ digits value) :
    '0' ≤ c ∧ c ≤ '9' := by
  have hdigit : c.isDigit = true :=
    Nat.isDigit_of_mem_toDigits (b := 10) (n := value) (by decide) (by decide) hc
  simp only [Char.isDigit, Bool.and_eq_true, decide_eq_true_eq] at hdigit
  exact hdigit

lemma toNat_lt_of_mem_digits {value : ℕ} {c : Char} (hc : c ∈ digits value) : c.toNat < 0x80 :=
  Nat.lt_of_le_of_lt (UInt32.le_iff_toNat_le.mp (bounds_of_mem_digits hc).2) (by decide)

lemma isAscii_formatUnsigned (value : ℕ) : IsAscii (formatUnsigned value) :=
  ⟨digits value, fun _ => toNat_lt_of_mem_digits, rfl⟩

lemma formatUnsigned_eq_encodeUtf16 (value : ℕ) :
    formatUnsigned value = encodeUtf16 (digits value) :=
  (encodeUtf16_eq_map fun _ hc => Nat.lt_trans (toNat_lt_of_mem_digits hc) (by decide)).symm

lemma isAscii_formatPadded (width value : ℕ) : IsAscii (formatPadded width value) := by
  refine IsAscii.append ⟨List.replicate (width - (formatUnsigned value).length) '0', ?_, ?_⟩
    (isAscii_formatUnsigned value)
  · intro c hc
    rw [List.eq_of_mem_replicate hc]
    decide
  · rw [List.map_replicate]
    rfl

/-- A prefix of ASCII text is ASCII, so cutting at a capacity keeps it. -/
lemma IsAscii.stringCchPrintf {units : List WCHAR} (h : IsAscii units) (capacity : ℕ)
    [NeZero capacity] : IsAscii (stringCchPrintf capacity units).chars := by
  obtain ⟨text, hascii, rfl⟩ := h
  suffices hloop : ∀ room (text : List Char), (∀ c ∈ text, c.toNat < 0x80) →
      IsAscii (copyWstringLoop room (text.map fun c => UInt16.ofNat c.toNat)) from
    hloop _ text hascii
  intro room
  induction room with
  | zero => exact fun _ _ => ⟨[], by simp, rfl⟩
  | succ room ih =>
    intro text hascii
    cases text with
    | nil => exact ⟨[], by simp, rfl⟩
    | cons c text =>
      simp only [List.map_cons, copyWstringLoop]
      split
      · exact ⟨[], by simp, rfl⟩
      · exact IsAscii.append ⟨[c], by simpa using hascii c (by simp), rfl⟩
          (ih text fun d hd => hascii d (List.mem_cons_of_mem _ hd))

lemma isAscii_formatTimestamp (timestamp : SystemTime) :
    IsAscii (formatTimestamp timestamp).chars := by
  refine IsAscii.stringCchPrintf ?_ 64
  have hdash : IsAscii (wide "-") := isAscii_wide (by decide)
  have ht : IsAscii (wide "T") := isAscii_wide (by decide)
  have hcolon : IsAscii (wide ":") := isAscii_wide (by decide)
  have hdot : IsAscii (wide ".") := isAscii_wide (by decide)
  exact ((((((((((((isAscii_formatPadded 4 _).append hdash).append
    (isAscii_formatPadded 2 _)).append hdash).append (isAscii_formatPadded 2 _)).append
    ht).append (isAscii_formatPadded 2 _)).append hcolon).append
    (isAscii_formatPadded 2 _)).append hcolon).append
    (isAscii_formatPadded 2 _)).append hdot).append (isAscii_formatPadded 3 _)

/-- A 32-bit number takes ten digits at most, so `WCHAR[64]` holds it whole. -/
lemma formatNumber_eq {value : ℕ} (h : value < 2 ^ 32) :
    (formatNumber value).chars = formatUnsigned value :=
  copyWstring_of_length_lt (noNul_formatUnsigned value) <|
    Nat.lt_of_le_of_lt (length_formatUnsigned_le (by decide : 0 < 10)
      (Nat.lt_trans h (by decide))) (by decide)

lemma formatNumber_chars {value : ℕ} (h : value < 2 ^ 32) :
    (formatNumber value).chars = encodeUtf16 (digits value) := by
  rw [formatNumber_eq h, formatUnsigned_eq_encodeUtf16]

/-- The line break of both formats. -/
def crlf : List Char := ['\r', '\n']

/-! ## What an export records of an event -/

/-- What stands under a name of the format. -/
inductive Attribute
  | text (units : List WCHAR)
  | number (value : DWORD)

/-- An event as the two formats record it. -/
def attributes (event : TraceGlassEvent) : List (String × Attribute) :=
  [("timestamp", .text (formatTimestamp event.timestamp).chars),
    ("event_type", .text (eventExportName event.type)),
    ("process_name", .text event.processName.chars),
    ("pid", .number event.process.pid),
    ("parent_pid", .number event.parent.pid),
    ("details", .text event.details.chars),
    ("protocol", .text event.protocol.chars),
    ("local_address", .text event.localAddress.chars),
    ("local_port", .number event.localPort.toUInt32),
    ("remote_address", .text event.remoteAddress.chars),
    ("remote_port", .number event.remotePort.toUInt32),
    ("state", .text event.networkState.chars),
    ("severity", .text (alertSeverityName event.severity)),
    ("rule", .text event.ruleName.chars)]

/-- The names of the format. -/
def exportNames : List String :=
  ["timestamp", "event_type", "process_name", "pid", "parent_pid", "details", "protocol",
    "local_address", "local_port", "remote_address", "remote_port", "state", "severity", "rule"]

lemma attributes_names (event : TraceGlassEvent) : (attributes event).map Prod.fst = exportNames :=
  rfl

/-- What stands under a name, printed. -/
def Attribute.printed : Attribute → List WCHAR
  | .text units => units
  | .number value => formatUnsigned value.toNat

/-- The exported events, one index of the loop at a time. -/
lemma drop_events {store : EventStore} {index : ℕ} (h : index < store.eventCount) :
    store.events.drop index = store.events.getD index .zero :: store.events.drop (index + 1) := by
  rw [List.drop_eq_getElem_cons h, List.getD_eq_getElem?_getD, List.getElem?_eq_getElem h,
    Option.getD_some]

/-- The text fields an export writes are well-formed UTF-16. -/
structure WellFormedText (event : TraceGlassEvent) : Prop where
  processName : WellFormedUtf16 event.processName.chars
  details : WellFormedUtf16 event.details.chars
  protocol : WellFormedUtf16 event.protocol.chars
  localAddress : WellFormedUtf16 event.localAddress.chars
  remoteAddress : WellFormedUtf16 event.remoteAddress.chars
  networkState : WellFormedUtf16 event.networkState.chars
  ruleName : WellFormedUtf16 event.ruleName.chars

/-- A text an export can write: well formed, and no longer than the longest field. -/
def Exportable (units : List WCHAR) : Prop := WellFormedUtf16 units ∧ units.length < detailLength

/-- A store with one event, whose process name and details an export has to escape. -/
def exportSample : EventStore :=
  addEvent eventStoreInitialize
    { TraceGlassEvent.zero with
      process := ⟨8, 5⟩
      parent := ⟨4, 0⟩
      timestamp := ⟨2024, 5, 1, 6, 7, 8, 9, 10⟩
      processName := copyWstring maxPath
        (encodeUtf16 ['a', '"', 'b', ',', '\\', Char.ofNat 0x1f600])
      details := copyWstring detailLength
        (encodeUtf16 [Char.ofNat 13, Char.ofNat 10, Char.ofNat 1, Char.ofNat 0xe9]) }

lemma wellFormedText_exportSample : ∀ event ∈ exportSample.events.drop 0, WellFormedText event := by
  have hevents : exportSample.events.drop 0 = [exportSample.events.getD 0 .zero] := by decide
  rw [hevents]
  intro event hevent
  rw [List.mem_singleton] at hevent
  subst hevent
  exact {
    processName := ⟨['a', '"', 'b', ',', '\\', Char.ofNat 0x1f600], by decide⟩
    details := ⟨[Char.ofNat 13, Char.ofNat 10, Char.ofNat 1, Char.ofNat 0xe9], by decide⟩
    protocol := ⟨[], by decide⟩
    localAddress := ⟨[], by decide⟩
    remoteAddress := ⟨[], by decide⟩
    networkState := ⟨[], by decide⟩
    ruleName := ⟨[], by decide⟩ }

lemma WString.exportable {capacity : ℕ} (s : WString capacity) (hcapacity : capacity ≤ detailLength)
    (h : WellFormedUtf16 s.chars) : Exportable s.chars :=
  ⟨h, Nat.lt_of_lt_of_le s.length_lt hcapacity⟩

lemma exportable_formatTimestamp (timestamp : SystemTime) :
    Exportable (formatTimestamp timestamp).chars :=
  WString.exportable _ (by decide) (isAscii_formatTimestamp timestamp).wellFormed

lemma exportable_eventExportName (type : EventType) : Exportable (eventExportName type) := by
  cases type <;> exact ⟨(isAscii_wide (by decide)).wellFormed, by decide⟩

lemma exportable_alertSeverityName (severity : AlertSeverity) :
    Exportable (alertSeverityName severity) := by
  cases severity <;> exact ⟨(isAscii_wide (by decide)).wellFormed, by decide⟩

end TraceGlass
