import TraceGlass.Export.Json
import TraceGlass.Lib.Csv

/-!
# The CSV export round trip (`write_csv_export`)

Every field but those of the header is quoted, so the text of a field is `escaped` in the grammar,
whatever it contains.  `PrintsRecord` is the rest of a row, built from the back as `PrintsMembers`
is.

`csvTable` and `jsonTable` read the two formats into one table of names and printed values;
`writeCsvExport_roundTrip` says that the two exports of a store give the same table.
-/

namespace TraceGlass

open Unicode

variable {env : ExportEnv}

/-! ## Fields -/

/-- The characters that stand for one in a quoted field. -/
def quoteChar (c : Char) : List Char := if c = '"' then ['"', '"'] else [c]

lemma quotedText_quote (text : List Char) : Csv.QuotedText (text.flatMap quoteChar) text := by
  induction text with
  | nil => exact .nil
  | cons c text ih =>
    rw [List.flatMap_cons]
    by_cases hc : c = '"'
    · rw [quoteChar, if_pos hc, hc]
      exact .quote ih
    · rw [quoteChar, if_neg hc]
      exact .char hc ih

lemma escapeCsvLoop_eq (source escaped : List WCHAR) :
    escapeCsvLoop source escaped =
      escaped ++ source.flatMap fun unit => if unit = 0x22 then [0x22, unit] else [unit] := by
  induction source generalizing escaped with
  | nil => simp [escapeCsvLoop]
  | cons character source ih => rw [escapeCsvLoop, ih, List.flatMap_cons, List.append_assoc]

/-- The loop doubles the units that are quotation marks, which no surrogate is. -/
lemma flatMap_quoteUnit (c : Char) :
    ((encodeUtf16Char c).flatMap fun unit => if unit = 0x22 then [0x22, unit] else [unit]) =
      encodeUtf16 (quoteChar c) := by
  by_cases hc : c = '"'
  · subst hc
    rfl
  · have hself : ∀ unit ∈ encodeUtf16Char c,
        (if unit = 0x22 then [0x22, unit] else [unit]) = [unit] := by
      intro unit hunit
      refine if_neg ?_
      rintro rfl
      by_cases hplane : c.toNat < 0x10000
      · rw [encodeUtf16Char_of_lt hplane, List.mem_singleton] at hunit
        have htoNat := congrArg UInt16.toNat hunit
        rw [UInt16.toNat_ofNat_of_lt' hplane] at htoNat
        exact hc (Char.toNat_inj.mp htoNat.symm)
      · exact absurd (le_of_mem_encodeUtf16Char (Nat.not_lt.mp hplane) hunit) (by decide)
    rw [quoteChar, if_neg hc, encodeUtf16_cons, encodeUtf16_nil, List.append_nil]
    conv_rhs => rw [← List.flatMap_singleton' (encodeUtf16Char c)]
    exact List.flatMap_congr hself

lemma escapeCsv_eq (chars : List Char) :
    escapeCsv (encodeUtf16 chars) = encodeUtf16 ('"' :: chars.flatMap quoteChar ++ ['"']) := by
  have hunits : ((encodeUtf16 chars).flatMap fun unit =>
      if unit = 0x22 then [0x22, unit] else [unit]) = encodeUtf16 (chars.flatMap quoteChar) := by
    induction chars with
    | nil => rfl
    | cons c chars ih =>
      rw [encodeUtf16_cons, List.flatMap_append, flatMap_quoteUnit, ih, List.flatMap_cons,
        encodeUtf16_append]
  rw [escapeCsv, escapeCsvLoop_eq, hunits, encodeUtf16_append]
  rfl

lemma length_escapeCsv_le (value : List WCHAR) :
    (escapeCsv value).length ≤ 2 * value.length + 2 := by
  have hloop : (value.flatMap fun unit => if unit = 0x22 then [0x22, unit] else [unit]).length ≤
      2 * value.length := by
    induction value with
    | nil => simp
    | cons unit value ih =>
      rw [List.flatMap_cons, List.length_append, List.length_cons]
      split <;> simp only [List.length_cons, List.length_nil] <;> omega
  rw [escapeCsv, escapeCsvLoop_eq]
  simp only [List.length_append, List.length_singleton]
  omega

/-- **`write_csv_field` prints a quoted field that holds the value.** -/
lemma prints_writeCsvField (hutf8 : env.StandardUtf8) {value : List WCHAR}
    (hvalue : Exportable value) :
    ∃ text chars, Csv.FieldText text chars ∧ value = encodeUtf16 chars ∧
      Prints env (writeCsvField env value) text := by
  obtain ⟨⟨chars, rfl⟩, hlength⟩ := hvalue
  refine ⟨_, chars, .escaped (quotedText_quote chars), rfl, ?_⟩
  have hfits : (encodeUtf16 ('"' :: chars.flatMap quoteChar ++ ['"'])).length ≤ intMax := by
    have hle := length_escapeCsv_le (encodeUtf16 chars)
    rw [escapeCsv_eq] at hle
    simp only [intMax, detailLength] at *
    omega
  have hprints := prints_writeUtf8 hutf8 hfits
  have hcheck : ¬ (encodeUtf16 chars).length > (sizeMax / 2 - 3) / 2 := by
    simp only [sizeMax, detailLength] at *
    omega
  constructor
  · intro file htrue
    simp only [writeCsvField, if_neg hcheck, escapeCsv_eq] at htrue ⊢
    split at htrue
    · simp at htrue
    · next hmalloc =>
      rw [if_neg hmalloc]
      exact hprints.contents file.tick htrue
  · intro hsucceeds file
    simp only [writeCsvField, if_neg hcheck, escapeCsv_eq, hsucceeds.malloc, Bool.not_true,
      Bool.false_eq_true, if_false]
    exact hprints.returns hsucceeds file.tick

/-! ## Rows -/

/-- The writers print the rest of a row, whose fields hold these values, and its line break. -/
def PrintsRecord (env : ExportEnv) (writers : List Writer) (printed : List (List WCHAR)) : Prop :=
  ∃ text values, Csv.RecordText text values ∧ values.map encodeUtf16 = printed ∧
    Prints env (.sequence writers) (text ++ crlf)

lemma PrintsRecord.last (hutf8 : env.StandardUtf8) {value : List WCHAR}
    (hvalue : Exportable value) :
    PrintsRecord env [writeCsvField env value, writeUtf8 env (wide "\r\n")] [value] := by
  obtain ⟨text, chars, hfield, rfl, hprints⟩ := prints_writeCsvField hutf8 hvalue
  have hend := prints_literal hutf8 "\r\n" (by decide) (by decide)
  refine ⟨text, [chars], .singleton hfield, rfl,
    (Prints.cons hprints <| Prints.cons hend Prints.nil).congr ?_⟩
  rw [List.append_nil]
  rfl

/-- One `CSV_TEXT`. -/
lemma PrintsRecord.field (hutf8 : env.StandardUtf8) {value : List WCHAR} (hvalue : Exportable value)
    {writers : List Writer} {printed : List (List WCHAR)} (h : PrintsRecord env writers printed) :
    PrintsRecord env (csvText env value :: writers) (value :: printed) := by
  obtain ⟨rest, values, hrecord, rfl, hprintsRest⟩ := h
  obtain ⟨text, chars, hfield, rfl, hprints⟩ := prints_writeCsvField hutf8 hvalue
  have hcomma := prints_literal hutf8 "," (by decide) (by decide)
  have htext : Prints env (csvText env (encodeUtf16 chars)) (text ++ [',']) :=
    (Prints.cons hprints <| Prints.cons hcomma Prints.nil).congr (by rw [List.append_nil]; rfl)
  exact ⟨_, _, .cons hfield hrecord, rfl,
    (Prints.cons htext hprintsRest).congr (by simp [List.append_assoc])⟩

/-- A number is printed exactly. -/
lemma exportable_formatNumber (value : DWORD) :
    Exportable (formatNumber value.toNat).chars ∧
      (formatNumber value.toNat).chars = formatUnsigned value.toNat := by
  have hchars := formatNumber_chars value.toNat_lt
  exact ⟨(formatNumber value.toNat).exportable (by decide) ⟨_, hchars⟩,
    by rw [hchars, formatUnsigned_eq_encodeUtf16]⟩

/-- **One turn of the loop prints a row that holds the event.** -/
lemma prints_writeCsvEvent (hutf8 : env.StandardUtf8) {store : EventStore} {index : ℕ}
    (hevent : WellFormedText (store.events.getD index .zero)) :
    ∃ text values, Csv.RecordText text values ∧
      values.map encodeUtf16 =
        (attributes (store.events.getD index .zero)).map (fun a => a.2.printed) ∧
      Prints env (writeCsvEvent env store index) (text ++ crlf) := by
  set event := store.events.getD index .zero with hdef
  have hpid := exportable_formatNumber event.process.pid
  have hparent := exportable_formatNumber event.parent.pid
  have hlocal := exportable_formatNumber event.localPort.toUInt32
  have hremote := exportable_formatNumber event.remotePort.toUInt32
  obtain ⟨text, values, hrecord, hvalues, hprints⟩ :=
    PrintsRecord.field hutf8 (exportable_formatTimestamp event.timestamp) <|
    PrintsRecord.field hutf8 (exportable_eventExportName event.type) <|
    PrintsRecord.field hutf8 (event.processName.exportable (by decide) hevent.processName) <|
    PrintsRecord.field hutf8 hpid.1 <|
    PrintsRecord.field hutf8 hparent.1 <|
    PrintsRecord.field hutf8 (event.details.exportable (by decide) hevent.details) <|
    PrintsRecord.field hutf8 (event.protocol.exportable (by decide) hevent.protocol) <|
    PrintsRecord.field hutf8 (event.localAddress.exportable (by decide) hevent.localAddress) <|
    PrintsRecord.field hutf8 hlocal.1 <|
    PrintsRecord.field hutf8 (event.remoteAddress.exportable (by decide) hevent.remoteAddress) <|
    PrintsRecord.field hutf8 hremote.1 <|
    PrintsRecord.field hutf8 (event.networkState.exportable (by decide) hevent.networkState) <|
    PrintsRecord.field hutf8 (exportable_alertSeverityName event.severity) <|
    PrintsRecord.last hutf8 (event.ruleName.exportable (by decide) hevent.ruleName)
  refine ⟨text, values, hrecord, ?_, hprints⟩
  rw [hvalues, hpid.2, hparent.2, hlocal.2, hremote.2]
  rfl

/-! ## The file -/

/-- The header row. -/
def headerText : List Char := [','].intercalate (exportNames.map String.toList)

lemma recordText_header : Csv.RecordText headerText (exportNames.map String.toList) := by
  refine ⟨exportNames.map fun name => (name.toList, name.toList), by simp [exportNames], ?_, ?_, ?_⟩
  · intro field hfield
    obtain ⟨name, hname, rfl⟩ := List.mem_map.mp hfield
    have hnames : exportNames.all (fun name => name.toList.all Csv.isTextData) = true := by decide
    exact .nonEscaped (List.all_eq_true.mp (List.all_eq_true.mp hnames name hname))
  · rw [List.map_map]
    rfl
  · rw [List.map_map]
    rfl

set_option maxRecDepth 2000 in
lemma prints_csvHeader (hutf8 : env.StandardUtf8) :
    Prints env (writeUtf8 env csvHeader) (headerText ++ crlf) :=
  (prints_literal hutf8 _ (by decide) (by decide)).congr (by decide)

/-- The loop prints a row for each event from `firstEvent` on. -/
lemma prints_rows (hutf8 : env.StandardUtf8) {store : EventStore} (remaining firstEvent : ℕ)
    (hremaining : firstEvent + remaining = store.eventCount)
    (htext : ∀ event ∈ store.events.drop firstEvent, WellFormedText event) :
    ∃ records : List (List Char × List (List Char)),
      (∀ r ∈ records, Csv.RecordText r.1 r.2) ∧
      records.map (fun r => r.2.map encodeUtf16) = (store.events.drop firstEvent).map
        (fun event => (attributes event).map fun a => a.2.printed) ∧
      Prints env
        (.sequence ((List.range' firstEvent remaining).map (writeCsvEvent env store)))
        (records.flatMap fun r => r.1 ++ crlf) := by
  induction remaining generalizing firstEvent with
  | zero =>
    have hend : store.events.drop firstEvent = [] := List.drop_eq_nil_of_le hremaining.ge
    rw [hend]
    exact ⟨[], by simp, rfl, Prints.nil⟩
  | succ remaining ih =>
    rw [drop_events (by omega)] at htext ⊢
    obtain ⟨records, hrecords, hvalues, hprintsRest⟩ := ih (firstEvent + 1) (by omega)
      fun event hevent => htext event (List.mem_cons_of_mem _ hevent)
    obtain ⟨text, values, hrecord, hrow, hprints⟩ :=
      prints_writeCsvEvent hutf8 (htext _ List.mem_cons_self)
    refine ⟨(text, values) :: records, ?_, ?_, Prints.cons hprints hprintsRest⟩
    · rintro r (_ | ⟨_, hr⟩)
      · exact hrecord
      · exact hrecords r hr
    · rw [List.map_cons, List.map_cons, hrow, hvalues]

/-- **What `write_csv_export` prints, after the byte order mark, is a CSV text for the exported
events.** -/
theorem prints_writeCsvExport (hutf8 : env.StandardUtf8) {store : EventStore} {firstEvent : ℕ}
    (hfirst : firstEvent ≤ store.eventCount)
    (htext : ∀ event ∈ store.events.drop firstEvent, WellFormedText event) :
    ∃ text rows, Emits env (writeCsvExport env store firstEvent) (utf8Bom ++ encodeUtf8 text) ∧
      Csv.parse text = some (exportNames.map String.toList :: rows) ∧
      rows.map (fun row => row.map encodeUtf16) = (store.events.drop firstEvent).map
        (fun event => (attributes event).map fun a => a.2.printed) := by
  obtain ⟨records, hrecords, hvalues, hprints⟩ :=
    prints_rows hutf8 (store.eventCount - firstEvent) firstEvent (by omega) htext
  refine ⟨_, records.map Prod.snd,
    (emits_writeAll utf8Bom).andThen (Prints.cons (prints_csvHeader hutf8) hprints), ?_, ?_⟩
  · have hfile : ∀ r ∈ (headerText, exportNames.map String.toList) :: records,
        Csv.RecordText r.1 r.2 := by
      rintro r (_ | ⟨_, hr⟩)
      · exact recordText_header
      · exact hrecords r hr
    exact Csv.parse_records (List.cons_ne_nil _ _) hfile
  · rw [List.map_map]
    exact hvalues

/-! ## One table from both formats -/

/-- A row: the names of the format with the printed values under them. -/
abbrev TableRow := List (List WCHAR × List WCHAR)

/-- An event as a row of the table. -/
def tableRow (event : TraceGlassEvent) : TableRow :=
  (attributes event).map fun a => (wide a.1, a.2.printed)

/-- The table of a CSV file: the header names the fields of every row. -/
def csvTable : List (List (List Char)) → Option (List TableRow)
  | [] => none
  | header :: rows =>
      some (rows.map fun row => (header.map encodeUtf16).zip (row.map encodeUtf16))

/-- A JSON value, printed. -/
def jsonPrinted : Json.Value → Option (List WCHAR)
  | .string units => some units
  | .number value => some (formatUnsigned value.num.toNat)
  | _ => none

/-- A JSON object as a row of the table. -/
def jsonRow : Json.Value → Option TableRow
  | .object members => members.mapM fun m => (jsonPrinted m.2).map fun printed => (m.1, printed)
  | _ => none

/-- The table of a JSON array of objects. -/
def jsonTable : Json.Value → Option (List TableRow)
  | .array items => items.mapM jsonRow
  | _ => none

lemma mapM_map_eq_some {α β γ : Type} {f : α → β} {g : β → Option γ} {h : α → γ}
    (hstep : ∀ a, g (f a) = some (h a)) (l : List α) : (l.map f).mapM g = some (l.map h) := by
  induction l with
  | nil => rfl
  | cons a l ih => simp [List.mapM_cons, hstep, ih]

lemma jsonTable_events (events : List TraceGlassEvent) :
    jsonTable (.array (events.map jsonObject)) = some (events.map tableRow) := by
  refine mapM_map_eq_some (fun event => ?_) events
  refine mapM_map_eq_some (fun a => ?_) (attributes event)
  obtain ⟨name, _ | _⟩ := a <;> rfl

lemma csvTable_events {events : List TraceGlassEvent} {rows : List (List (List Char))}
    (hrows : rows.map (fun row => row.map encodeUtf16) =
      events.map fun event => (attributes event).map fun a => a.2.printed) :
    csvTable (exportNames.map String.toList :: rows) = some (events.map tableRow) := by
  have hnames : (exportNames.map String.toList).map encodeUtf16 = exportNames.map wide := by decide
  have hzip (event : TraceGlassEvent) :
      (exportNames.map wide).zip ((attributes event).map fun a => a.2.printed) =
        tableRow event := by
    rw [← attributes_names event, List.map_map, List.zip_map']
    rfl
  simp only [csvTable, hnames, Option.some.injEq]
  have hmap := congrArg (List.map fun row => (exportNames.map wide).zip row) hrows
  simpa only [List.map_map, Function.comp_def, hzip] using hmap

/-- **The CSV export round trip.**  After the byte order mark, the bytes of a finished export are
the UTF-8 encoding of a CSV text for the header and the exported events, in order; the table it
holds is the one the JSON export of the same store holds; and the export does finish when no call
fails. -/
theorem writeCsvExport_roundTrip (hutf8 : env.StandardUtf8) (store : EventStore)
    (hcount : store.eventCount ≤ sizeMax) (firstEvent : ℕ) (hfirst : firstEvent ≤ store.eventCount)
    (htext : ∀ event ∈ store.events.drop firstEvent, WellFormedText event) (calls : ℕ) :
    ((writeCsvExport env store firstEvent ⟨[], calls⟩).1 = true →
      ∃ bytes rows,
        (writeCsvExport env store firstEvent ⟨[], calls⟩).2.contents = utf8Bom ++ bytes ∧
        (decodeUtf8 bytes).bind Csv.parse = some (exportNames.map String.toList :: rows) ∧
        rows.length = store.eventCount - firstEvent ∧ (∀ row ∈ rows, row.length = 14) ∧
        rows.map (fun row => row.map encodeUtf16) = (store.events.drop firstEvent).map
          (fun event => (attributes event).map fun a => a.2.printed) ∧
        ∀ jsonCalls, (writeJsonExport env store firstEvent ⟨[], jsonCalls⟩).1 = true →
          ((decodeUtf8 (writeJsonExport env store firstEvent ⟨[], jsonCalls⟩).2.contents).bind
            Json.parse).bind jsonTable = ((decodeUtf8 bytes).bind Csv.parse).bind csvTable) ∧
    (env.Succeeds → (writeCsvExport env store firstEvent ⟨[], calls⟩).1 = true) := by
  obtain ⟨text, rows, hemits, hparse, hrows⟩ := prints_writeCsvExport hutf8 hfirst htext
  obtain ⟨json, hjson, hjsonParse⟩ := prints_writeJsonExport hutf8 hcount hfirst htext
  refine ⟨fun htrue => ⟨encodeUtf8 text, rows, ?_, ?_, ?_, ?_, hrows, ?_⟩,
    fun hsucceeds => hemits.returns hsucceeds _⟩
  · rw [hemits.contents _ htrue, List.nil_append]
  · rw [decodeUtf8_encodeUtf8, Option.bind_some, hparse]
  · have hlength := congrArg List.length hrows
    rw [List.length_map, List.length_map, List.length_drop] at hlength
    exact hlength
  · intro row hrow
    have hmem : row.map encodeUtf16 ∈ (store.events.drop firstEvent).map
        fun event => (attributes event).map fun a => a.2.printed := by
      rw [← hrows]
      exact List.mem_map_of_mem hrow
    obtain ⟨event, _, hevent⟩ := List.mem_map.mp hmem
    have hlength := congrArg List.length hevent
    rw [List.length_map, List.length_map] at hlength
    exact hlength.symm
  · intro jsonCalls hjsonTrue
    rw [hjson.contents _ hjsonTrue, List.nil_append, decodeUtf8_encodeUtf8, decodeUtf8_encodeUtf8,
      Option.bind_some, Option.bind_some, hjsonParse, hparse, Option.bind_some, Option.bind_some,
      jsonTable_events, csvTable_events hrows]

theorem writeCsvExport_roundTrip_sample :
    (writeCsvExport .utf8 exportSample 0 ⟨[], 0⟩).1 = true ∧
      ∃ bytes rows,
        (writeCsvExport .utf8 exportSample 0 ⟨[], 0⟩).2.contents = utf8Bom ++ bytes ∧
        (decodeUtf8 bytes).bind Csv.parse = some (exportNames.map String.toList :: rows) ∧
        rows.map (fun row => row.map encodeUtf16) = (exportSample.events.drop 0).map
          (fun event => (attributes event).map fun a => a.2.printed) := by
  obtain ⟨hparses, hreturns⟩ := writeCsvExport_roundTrip ExportEnv.standardUtf8_utf8 exportSample
    (by decide) 0 (by decide) wellFormedText_exportSample 0
  have htrue := hreturns ExportEnv.succeeds_utf8
  obtain ⟨bytes, rows, hcontents, hparse, _, _, hrows, _⟩ := hparses htrue
  exact ⟨htrue, bytes, rows, hcontents, hparse, hrows⟩

end TraceGlass
