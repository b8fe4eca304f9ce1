import TraceGlass.Export.File
import TraceGlass.Export.Pieces
import TraceGlass.Export.Csv

/-!
# A finished export is the whole export

`exportPieces` lists what the file of each format is made of, with every text and number in full.
The serializers deliver it, and `exportEventsToFile_whole` says the same of `export_events_to_file`,
where closing the file can fail as well.
-/

namespace TraceGlass

open Unicode

variable {env : ExportEnv}

/-! ## The three formats -/

/-- The timestamp of an event. -/
def timestampText (timestamp : SystemTime) : List WCHAR :=
  formatPadded 4 timestamp.wYear.toNat ++ wide "-" ++
    formatPadded 2 timestamp.wMonth.toNat ++ wide "-" ++
    formatPadded 2 timestamp.wDay.toNat ++ wide "T" ++
    formatPadded 2 timestamp.wHour.toNat ++ wide ":" ++
    formatPadded 2 timestamp.wMinute.toNat ++ wide ":" ++
    formatPadded 2 timestamp.wSecond.toNat ++ wide "." ++
    formatPadded 3 timestamp.wMilliseconds.toNat

/-- A value of the JSON format, between its quotation marks. -/
def jsonString (value : List WCHAR) : List WCHAR :=
  0x22 :: value.flatMap (escapeJsonUnit 7) ++ [0x22]

/-- A field of the JSON format. -/
def jsonFieldPieces (name value : List WCHAR) (trailingComma : Bool) : List Piece :=
  [.text (wide "    \""), .text name, .text (wide "\": "),
    .buffered (2 * (6 * value.length + 3)) (jsonString value),
    .text (if trailingComma then wide ",\r\n" else wide "\r\n")]

/-- The object of an event in the JSON format. -/
def jsonEventPieces (event : TraceGlassEvent) (last : Bool) : List Piece :=
  [[.text (wide "  \x7b\r\n")],
    jsonFieldPieces (wide "timestamp") (timestampText event.timestamp) true,
    jsonFieldPieces (wide "event_type") (eventExportName event.type) true,
    jsonFieldPieces (wide "process_name") event.processName.chars true,
    [.text (wide "    \"pid\": ")], [.text (formatUnsigned event.process.pid.toNat)],
    [.text (wide ",\r\n")],
    [.text (wide "    \"parent_pid\": ")], [.text (formatUnsigned event.parent.pid.toNat)],
    [.text (wide ",\r\n")],
    jsonFieldPieces (wide "details") event.details.chars true,
    jsonFieldPieces (wide "protocol") event.protocol.chars true,
    jsonFieldPieces (wide "local_address") event.localAddress.chars true,
    [.text (wide "    \"local_port\": ")], [.text (formatUnsigned event.localPort.toNat)],
    [.text (wide ",\r\n")],
    jsonFieldPieces (wide "remote_address") event.remoteAddress.chars true,
    [.text (wide "    \"remote_port\": ")], [.text (formatUnsigned event.remotePort.toNat)],
    [.text (wide ",\r\n")],
    jsonFieldPieces (wide "state") event.networkState.chars true,
    jsonFieldPieces (wide "severity") (alertSeverityName event.severity) true,
    jsonFieldPieces (wide "rule") event.ruleName.chars false,
    [.text (if last then wide "  \x7d\r\n" else wide "  \x7d,\r\n")]].flatten

/-- The objects of events, with what separates them. -/
def jsonObjectPieces : List TraceGlassEvent → List Piece
  | [] => []
  | event :: events => jsonEventPieces event events.isEmpty ++ jsonObjectPieces events

/-- A field of the CSV format. -/
def csvFieldPiece (value : List WCHAR) : Piece :=
  .buffered (2 * (2 * value.length + 3)) (escapeCsv value)

/-- A field of the CSV format that another one follows. -/
def csvTextPieces (value : List WCHAR) : List Piece := [csvFieldPiece value, .text (wide ",")]

/-- The row of an event in the CSV format. -/
def csvEventPieces (event : TraceGlassEvent) : List Piece :=
  [csvTextPieces (timestampText event.timestamp),
    csvTextPieces (eventExportName event.type),
    csvTextPieces event.processName.chars,
    csvTextPieces (formatUnsigned event.process.pid.toNat),
    csvTextPieces (formatUnsigned event.parent.pid.toNat),
    csvTextPieces event.details.chars,
    csvTextPieces event.protocol.chars,
    csvTextPieces event.localAddress.chars,
    csvTextPieces (formatUnsigned event.localPort.toNat),
    csvTextPieces event.remoteAddress.chars,
    csvTextPieces (formatUnsigned event.remotePort.toNat),
    csvTextPieces event.networkState.chars,
    csvTextPieces (alertSeverityName event.severity),
    [csvFieldPiece event.ruleName.chars], [.text (wide "\r\n")]].flatten

/-- The record of an event in the text format, on one line. -/
def textRecord (event : TraceGlassEvent) : List WCHAR :=
  timestampText event.timestamp ++ wide " | " ++ eventTypeName event.type ++
    wide " | " ++ event.processName.chars ++
    wide " | PID " ++ formatUnsigned event.process.pid.toNat ++
    wide " | Parent PID " ++ formatUnsigned event.parent.pid.toNat ++
    wide " | " ++ event.details.chars

/-- The line of an event in the text format. -/
def textEventPieces (event : TraceGlassEvent) : List Piece :=
  [.text (textRecord event ++ wide "\r\n")]

/-- The export of some events. -/
def exportPieces (events : List TraceGlassEvent) : ExportFormat → List Piece
  | .json => .text (wide "[\r\n") :: (jsonObjectPieces events ++ [.text (wide "]\r\n")])
  | .csv => .bytes utf8Bom :: .text csvHeader :: events.flatMap csvEventPieces
  | .text => .bytes utf8Bom :: events.flatMap textEventPieces

/-- The bytes of that export. -/
def encoding (events : List TraceGlassEvent) (format : ExportFormat) : List BYTE :=
  encodedPieces (exportPieces events format)

/-! ## Texts in full -/

lemma noNul_formatPadded (width value : ℕ) : NoNul (formatPadded width value) := by
  refine NoNul.append (fun c hc => ?_) (noNul_formatUnsigned value)
  rw [List.eq_of_mem_replicate hc]
  decide

lemma length_formatPadded_le {width value count : ℕ} (hcount : 0 < count) (hwidth : width ≤ count)
    (h : value < 10 ^ count) : (formatPadded width value).length ≤ count := by
  have hdigits := length_formatUnsigned_le hcount h
  rw [formatPadded, List.length_append, List.length_replicate]
  omega

lemma noNul_timestampText (timestamp : SystemTime) : NoNul (timestampText timestamp) := by
  have hdash : NoNul (wide "-") := by decide
  have ht : NoNul (wide "T") := by decide
  have hcolon : NoNul (wide ":") := by decide
  have hdot : NoNul (wide ".") := by decide
  simp only [timestampText, noNul_append, noNul_formatPadded, hdash, ht, hcolon, hdot, and_self]

/-- The longest timestamp has five digits in every place. -/
lemma length_timestampText_le (timestamp : SystemTime) : (timestampText timestamp).length ≤ 41 := by
  have hword : ∀ (width : ℕ) (value : WORD), width ≤ 5 →
      (formatPadded width value.toNat).length ≤ 5 := fun width value hwidth =>
    length_formatPadded_le (by decide) hwidth (Nat.lt_trans value.toNat_lt (by decide))
  have hone : ∀ text ∈ ["-", "T", ":", "."], (wide text).length = 1 := by decide
  have h1 := hword 4 timestamp.wYear (by decide)
  have h2 := hword 2 timestamp.wMonth (by decide)
  have h3 := hword 2 timestamp.wDay (by decide)
  have h4 := hword 2 timestamp.wHour (by decide)
  have h5 := hword 2 timestamp.wMinute (by decide)
  have h6 := hword 2 timestamp.wSecond (by decide)
  have h7 := hword 3 timestamp.wMilliseconds (by decide)
  simp only [timestampText, List.length_append, hone "-" (by decide), hone "T" (by decide),
    hone ":" (by decide), hone "." (by decide)]
  omega

/-- `WCHAR[64]` holds every timestamp. -/
lemma formatTimestamp_chars (timestamp : SystemTime) :
    (formatTimestamp timestamp).chars = timestampText timestamp :=
  copyWstring_of_length_lt (noNul_timestampText timestamp)
    (Nat.lt_of_le_of_lt (length_timestampText_le timestamp) (by decide))

lemma textLine_eq (event : TraceGlassEvent) : textLine event = textRecord event ++ wide "\r\n" := by
  rw [textLine, textRecord, formatTimestamp_chars]

lemma noNul_eventTypeName (type : EventType) : NoNul (eventTypeName type) := by
  cases type <;> decide

lemma length_eventTypeName_le (type : EventType) : (eventTypeName type).length ≤ 13 := by
  cases type <;> decide

lemma noNul_textRecord (event : TraceGlassEvent) : NoNul (textRecord event) := by
  have hbar : NoNul (wide " | ") := by decide
  have hpid : NoNul (wide " | PID ") := by decide
  have hparent : NoNul (wide " | Parent PID ") := by decide
  have hname : NoNul event.processName.chars := event.processName.noNul
  have hdetails : NoNul event.details.chars := event.details.noNul
  simp only [textRecord, noNul_append, noNul_timestampText, noNul_eventTypeName,
    noNul_formatUnsigned, hbar, hpid, hparent, hname, hdetails, and_self]

/-- The longest record leaves more than a hundred units of the line buffer free. -/
lemma length_textRecord_le (event : TraceGlassEvent) : (textRecord event).length ≤ 1386 := by
  have htimestamp := length_timestampText_le event.timestamp
  have htype := length_eventTypeName_le event.type
  have hname : event.processName.chars.length < 260 := event.processName.length_lt
  have hdetails : event.details.chars.length < 1024 := event.details.length_lt
  have hdigits : ∀ value : DWORD, (formatUnsigned value.toNat).length ≤ 10 := fun value =>
    length_formatUnsigned_le (by decide) (Nat.lt_trans value.toNat_lt (by decide))
  have hpid := hdigits event.process.pid
  have hparent := hdigits event.parent.pid
  have hbar : (wide " | ").length = 3 := by decide
  have hpidName : (wide " | PID ").length = 7 := by decide
  have hparentName : (wide " | Parent PID ").length = 14 := by decide
  simp only [textRecord, List.length_append, hbar, hpidName, hparentName]
  omega

/-- So `WCHAR[1536]` holds every line. -/
lemma textLine_fits (event : TraceGlassEvent) :
    (stringCchPrintf 1536 (textLine event)).chars = textRecord event ++ wide "\r\n" := by
  rw [textLine_eq]
  refine copyWstring_of_length_lt ((noNul_textRecord event).append (by decide)) ?_
  have hlength := length_textRecord_le event
  have hbreak : (wide "\r\n").length = 2 := by decide
  rw [List.length_append, hbreak]
  omega

/-! ## The serializers -/

/-- A text no longer than the longest field. -/
def Short (units : List WCHAR) : Prop := units.length < detailLength

instance (units : List WCHAR) : Decidable (Short units) := inferInstanceAs (Decidable (_ < _))

lemma WString.short {capacity : ℕ} (s : WString capacity) (hcapacity : capacity ≤ detailLength) :
    Short s.chars :=
  Nat.lt_of_lt_of_le s.length_lt hcapacity

lemma short_formatUnsigned (value : DWORD) : Short (formatUnsigned value.toNat) :=
  Nat.lt_of_le_of_lt (length_formatUnsigned_le (by decide : 0 < 10)
    (Nat.lt_trans value.toNat_lt (by decide))) (by decide)

lemma short_formatPort (value : USHORT) : Short (formatUnsigned value.toNat) :=
  Nat.lt_of_le_of_lt (length_formatUnsigned_le (by decide : 0 < 5)
    (Nat.lt_trans value.toNat_lt (by decide))) (by decide)

lemma short_timestampText (timestamp : SystemTime) : Short (timestampText timestamp) :=
  Nat.lt_of_le_of_lt (length_timestampText_le timestamp) (by decide)

lemma short_eventExportName (type : EventType) : Short (eventExportName type) := by
  cases type <;> decide

lemma short_alertSeverityName (severity : AlertSeverity) : Short (alertSeverityName severity) := by
  cases severity <;> decide

set_option maxRecDepth 2000 in
lemma short_csvHeader : Short csvHeader := by decide

section
variable (hutf8 : env.ReplacingUtf8)
include hutf8

lemma delivers_short {units : List WCHAR} (h : Short units) :
    Delivers env (writeUtf8 env units) [.text units] :=
  delivers_writeUtf8 hutf8 (h.le.trans (by decide))

/-- **`write_json_string`**: the buffer it asks for is never too large. -/
lemma delivers_writeJsonString {value : List WCHAR} (h : Short value) :
    Delivers env (writeJsonString env value)
      [.buffered (2 * (6 * value.length + 3)) (jsonString value)] := by
  have hbound : value.length < 1024 := h
  have hescaped : escapeJson (6 * value.length + 3) value = jsonString value := by
    rw [escapeJson, escapeJsonLoop_eq _ _ (by simp only [List.length_singleton]; omega)]
    rfl
  have hlength : (jsonString value).length ≤ intMax := by
    have hle := length_flatMap_escapeJsonUnit_le value
    simp only [jsonString, List.length_append, List.length_cons, List.length_nil, intMax]
    omega
  refine (delivers_writeUtf8 hutf8 hlength).buffered fun file => ?_
  have hcheck : ¬ value.length > (sizeMax / 2 - 3) / 6 := by
    simp only [sizeMax]
    omega
  have hcapacity : sizeAdd (sizeMul value.length 6) 3 = 6 * value.length + 3 := by
    simp only [sizeAdd, sizeMul, sizeMax]
    omega
  have hsize : sizeMul (6 * value.length + 3) 2 = 2 * (6 * value.length + 3) := by
    simp only [sizeMul, sizeMax]
    omega
  simp only [writeJsonString, if_neg hcheck, hcapacity, hsize, hescaped]

/-- **`write_csv_field`**, likewise. -/
lemma delivers_writeCsvField {value : List WCHAR} (h : Short value) :
    Delivers env (writeCsvField env value) [csvFieldPiece value] := by
  have hbound : value.length < 1024 := h
  have hlength : (escapeCsv value).length ≤ intMax := by
    have hle := length_escapeCsv_le value
    simp only [intMax]
    omega
  refine (delivers_writeUtf8 hutf8 hlength).buffered fun file => ?_
  have hcheck : ¬ value.length > (sizeMax / 2 - 3) / 2 := by
    simp only [sizeMax]
    omega
  have hcapacity : sizeAdd (sizeMul value.length 2) 3 = 2 * value.length + 3 := by
    simp only [sizeAdd, sizeMul, sizeMax]
    omega
  have hsize : sizeMul (2 * value.length + 3) 2 = 2 * (2 * value.length + 3) := by
    simp only [sizeMul, sizeMax]
    omega
  simp only [writeCsvField, if_neg hcheck, hcapacity, hsize]

lemma delivers_writeJsonField {name value : List WCHAR} (hname : Short name) (hvalue : Short value)
    (trailingComma : Bool) :
    Delivers env (writeJsonField env name value trailingComma)
      (jsonFieldPieces name value trailingComma) := by
  have hlast : Short (if trailingComma then wide ",\r\n" else wide "\r\n") := by
    cases trailingComma <;> decide
  exact .sequence <|
    .cons (delivers_short hutf8 (by decide)) <| .cons (delivers_short hutf8 hname) <|
    .cons (delivers_short hutf8 (by decide)) <| .cons (delivers_writeJsonString hutf8 hvalue) <|
    .cons (delivers_short hutf8 hlast) .nil

lemma delivers_csvText {value : List WCHAR} (h : Short value) :
    Delivers env (csvText env value) (csvTextPieces value) :=
  .sequence <|
    .cons (delivers_writeCsvField hutf8 h) <| .cons (delivers_short hutf8 (by decide)) .nil

/-- One turn of the loop of `write_json_export`: a comma follows the object unless it is the last.
-/
lemma delivers_writeJsonEvent {store : EventStore} (hcount : store.eventCount ≤ sizeMax) {index : ℕ}
    (hindex : index < store.eventCount) :
    Delivers env (writeJsonEvent env store index)
      (jsonEventPieces (store.events.getD index .zero)
        (store.events.drop (index + 1)).isEmpty) := by
  have hclose :
      (if sizeAdd index 1 < store.eventCount then wide "  \x7d,\r\n"
        else wide "  \x7d\r\n") =
      if (store.events.drop (index + 1)).isEmpty then wide "  \x7d\r\n"
        else wide "  \x7d,\r\n" := by
    rw [sizeAdd_eq (Nat.le_trans hindex hcount)]
    by_cases hmore : index + 1 < store.events.length
    · rw [EventStore.eventCount, if_pos hmore, if_neg]
      simpa [List.isEmpty_iff] using hmore
    · rw [EventStore.eventCount, if_neg hmore, if_pos]
      simpa [List.isEmpty_iff] using hmore
  have hlast : Short (if (store.events.drop (index + 1)).isEmpty then wide "  \x7d\r\n"
      else wide "  \x7d,\r\n") := by
    cases (store.events.drop (index + 1)).isEmpty <;> decide
  unfold writeJsonEvent
  dsimp only
  generalize store.events.getD index .zero = event
  rw [hclose, formatTimestamp_chars, formatNumber_eq event.process.pid.toNat_lt,
    formatNumber_eq event.parent.pid.toNat_lt,
    formatNumber_eq (Nat.lt_trans event.localPort.toNat_lt (by decide)),
    formatNumber_eq (Nat.lt_trans event.remotePort.toNat_lt (by decide))]
  have hliteral : ∀ text : String, Short (wide text) →
      Delivers env (writeUtf8 env (wide text)) [.text (wide text)] :=
    fun _ => delivers_short hutf8
  have hfield : ∀ (name : String) {value : List WCHAR} (comma : Bool), Short (wide name) →
      Short value → Delivers env (writeJsonField env (wide name) value comma)
        (jsonFieldPieces (wide name) value comma) :=
    fun _ _ comma hname hvalue => delivers_writeJsonField hutf8 hname hvalue comma
  exact .sequence <|
    .cons (hliteral _ (by decide)) <|
    .cons (hfield "timestamp" true (by decide) (short_timestampText _)) <|
    .cons (hfield "event_type" true (by decide) (short_eventExportName _)) <|
    .cons (hfield "process_name" true (by decide) (event.processName.short (by decide))) <|
    .cons (hliteral _ (by decide)) <| .cons (delivers_short hutf8 (short_formatUnsigned _)) <|
    .cons (hliteral _ (by decide)) <|
    .cons (hliteral _ (by decide)) <| .cons (delivers_short hutf8 (short_formatUnsigned _)) <|
    .cons (hliteral _ (by decide)) <|
    .cons (hfield "details" true (by decide) (event.details.short (by decide))) <|
    .cons (hfield "protocol" true (by decide) (event.protocol.short (by decide))) <|
    .cons (hfield "local_address" true (by decide) (event.localAddress.short (by decide))) <|
    .cons (hliteral _ (by decide)) <| .cons (delivers_short hutf8 (short_formatPort _)) <|
    .cons (hliteral _ (by decide)) <|
    .cons (hfield "remote_address" true (by decide) (event.remoteAddress.short (by decide))) <|
    .cons (hliteral _ (by decide)) <| .cons (delivers_short hutf8 (short_formatPort _)) <|
    .cons (hliteral _ (by decide)) <|
    .cons (hfield "state" true (by decide) (event.networkState.short (by decide))) <|
    .cons (hfield "severity" true (by decide) (short_alertSeverityName _)) <|
    .cons (hfield "rule" false (by decide) (event.ruleName.short (by decide))) <|
    .cons (delivers_short hutf8 hlast) .nil

/-- One turn of the loop of `write_csv_export`. -/
lemma delivers_writeCsvEvent (store : EventStore) (index : ℕ) :
    Delivers env (writeCsvEvent env store index)
      (csvEventPieces (store.events.getD index .zero)) := by
  unfold writeCsvEvent
  dsimp only
  generalize store.events.getD index .zero = event
  rw [formatTimestamp_chars, formatNumber_eq event.process.pid.toNat_lt,
    formatNumber_eq event.parent.pid.toNat_lt,
    formatNumber_eq (Nat.lt_trans event.localPort.toNat_lt (by decide)),
    formatNumber_eq (Nat.lt_trans event.remotePort.toNat_lt (by decide))]
  exact .sequence <|
    .cons (delivers_csvText hutf8 (short_timestampText _)) <|
    .cons (delivers_csvText hutf8 (short_eventExportName _)) <|
    .cons (delivers_csvText hutf8 (event.processName.short (by decide))) <|
    .cons (delivers_csvText hutf8 (short_formatUnsigned _)) <|
    .cons (delivers_csvText hutf8 (short_formatUnsigned _)) <|
    .cons (delivers_csvText hutf8 (event.details.short (by decide))) <|
    .cons (delivers_csvText hutf8 (event.protocol.short (by decide))) <|
    .cons (delivers_csvText hutf8 (event.localAddress.short (by decide))) <|
    .cons (delivers_csvText hutf8 (short_formatPort _)) <|
    .cons (delivers_csvText hutf8 (event.remoteAddress.short (by decide))) <|
    .cons (delivers_csvText hutf8 (short_formatPort _)) <|
    .cons (delivers_csvText hutf8 (event.networkState.short (by decide))) <|
    .cons (delivers_csvText hutf8 (short_alertSeverityName _)) <|
    .cons (delivers_writeCsvField hutf8 (event.ruleName.short (by decide))) <|
    .cons (delivers_short hutf8 (by decide)) .nil

/-- One turn of the loop of `write_text_export`. -/
lemma delivers_writeTextEvent (store : EventStore) (index : ℕ) :
    Delivers env (writeTextEvent env store index)
      (textEventPieces (store.events.getD index .zero)) := by
  simp only [writeTextEvent, textLine_fits]
  refine delivers_writeUtf8 hutf8 ?_
  have hlength := length_textRecord_le (store.events.getD index .zero)
  have hbreak : (wide "\r\n").length = 2 := by decide
  simp only [List.length_append, hbreak, intMax]
  omega

omit hutf8 in
/-- The loop of a serializer, over the events from an index on, and what it writes after the
loop. -/
lemma delivers_events {store : EventStore} {turn : ℕ → Writer} {writers : List Writer}
    {pieces : List TraceGlassEvent → List Piece} {last : List Piece}
    (hturn : ∀ index < store.eventCount, ∃ own, Delivers env (turn index) own ∧
      pieces (store.events.drop index) = own ++ pieces (store.events.drop (index + 1)))
    (hend : pieces [] = []) (hlast : Delivers env (.sequence writers) last) (remaining : ℕ)
    {firstEvent : ℕ} (hremaining : firstEvent + remaining = store.eventCount) :
    Delivers env (.sequence ((List.range' firstEvent remaining).map turn ++ writers))
      (pieces (store.events.drop firstEvent) ++ last) := by
  induction remaining generalizing firstEvent with
  | zero =>
    rw [List.drop_eq_nil_of_le (show store.events.length ≤ firstEvent from hremaining.ge), hend]
    exact hlast
  | succ remaining ih =>
    obtain ⟨own, hown, hpieces⟩ := hturn firstEvent (by omega)
    rw [hpieces, List.append_assoc, List.range'_succ]
    exact .cons hown (ih (by omega))

omit hutf8 in
/-- The same where the last event is like any other and nothing follows the loop. -/
lemma delivers_eachEvent {store : EventStore} {firstEvent : ℕ}
    (hfirst : firstEvent ≤ store.eventCount)
    {turn : ℕ → Writer} {pieces : TraceGlassEvent → List Piece}
    (hturn : ∀ index, Delivers env (turn index) (pieces (store.events.getD index .zero))) :
    Delivers env (.sequence ((List.range' firstEvent (store.eventCount - firstEvent)).map turn))
      ((store.events.drop firstEvent).flatMap pieces) := by
  have hloop : Delivers env _ ((store.events.drop firstEvent).flatMap pieces ++ []) :=
    delivers_events (fun index hindex =>
      ⟨_, hturn index, by rw [drop_events hindex, List.flatMap_cons]⟩) rfl .nil _
      (Nat.add_sub_cancel' hfirst)
  rwa [List.append_nil, List.append_nil] at hloop

lemma delivers_writeJsonExport {store : EventStore} (hcount : store.eventCount ≤ sizeMax)
    {firstEvent : ℕ} (hfirst : firstEvent ≤ store.eventCount) :
    Delivers env (writeJsonExport env store firstEvent)
      (exportPieces (store.events.drop firstEvent) .json) := by
  have hopening : Delivers env (writeUtf8 env (wide "[\r\n")) [.text (wide "[\r\n")] :=
    delivers_short hutf8 (by decide)
  have hclosing : Delivers env (.sequence [writeUtf8 env (wide "]\r\n")]) [.text (wide "]\r\n")] :=
    .cons (delivers_short hutf8 (by decide)) .nil
  have hloop : Delivers env _ (jsonObjectPieces (store.events.drop firstEvent) ++ _) :=
    delivers_events (fun index hindex =>
      ⟨_, delivers_writeJsonEvent hutf8 hcount hindex, by rw [drop_events hindex]; rfl⟩) rfl
      hclosing _ (Nat.add_sub_cancel' hfirst)
  exact .cons hopening hloop

lemma delivers_writeCsvExport {store : EventStore} {firstEvent : ℕ}
    (hfirst : firstEvent ≤ store.eventCount) :
    Delivers env (writeCsvExport env store firstEvent)
      (exportPieces (store.events.drop firstEvent) .csv) :=
  .cons (delivers_writeAll _) <| .cons (delivers_short hutf8 short_csvHeader) <|
    delivers_eachEvent hfirst (delivers_writeCsvEvent hutf8 store)

lemma delivers_writeTextExport {store : EventStore} {firstEvent : ℕ}
    (hfirst : firstEvent ≤ store.eventCount) :
    Delivers env (writeTextExport env store firstEvent)
      (exportPieces (store.events.drop firstEvent) .text) :=
  .cons (delivers_writeAll _) (delivers_eachEvent hfirst (delivers_writeTextEvent hutf8 store))

/-- **Each serializer delivers its format.** -/
theorem delivers_writeExport {store : EventStore} (hcount : store.eventCount ≤ sizeMax)
    {firstEvent : ℕ} (hfirst : firstEvent ≤ store.eventCount) (format : ExportFormat) :
    Delivers env (writeExport env format store firstEvent)
      (exportPieces (store.events.drop firstEvent) format) := by
  cases format with
  | json => exact delivers_writeJsonExport hutf8 hcount hfirst
  | csv => exact delivers_writeCsvExport hutf8 hfirst
  | text => exact delivers_writeTextExport hutf8 hfirst

end

/-! ## What the encodings say -/

/-- Where nothing fails the encoding is what was written, so what is read back from an export is
read back from the encoding. -/
lemma encoding_eq_of_emits {store : EventStore} (hcount : store.eventCount ≤ sizeMax)
    {firstEvent : ℕ} (hfirst : firstEvent ≤ store.eventCount) {format : ExportFormat}
    {bytes : List BYTE} (h : Emits .utf8 (writeExport .utf8 format store firstEvent) bytes) :
    encoding (store.events.drop firstEvent) format = bytes := by
  have hdelivers := delivers_writeExport ExportEnv.replacingUtf8_utf8 hcount hfirst format
  have htrue := h.returns ExportEnv.succeeds_utf8 ⟨[], 0⟩
  exact (hdelivers.completes _ htrue).symm.trans (h.contents _ htrue)

/-- The JSON encoding is a text for the array of the events. -/
theorem parse_encoding_json {store : EventStore} (hcount : store.eventCount ≤ sizeMax)
    {firstEvent : ℕ} (hfirst : firstEvent ≤ store.eventCount)
    (htext : ∀ event ∈ store.events.drop firstEvent, WellFormedText event) :
    (decodeUtf8 (encoding (store.events.drop firstEvent) .json)).bind Json.parse =
      some (.array ((store.events.drop firstEvent).map jsonObject)) := by
  obtain ⟨text, hprints, hparse⟩ :=
    prints_writeJsonExport ExportEnv.standardUtf8_utf8 hcount hfirst htext
  have hencoding : encoding (store.events.drop firstEvent) .json = encodeUtf8 text :=
    encoding_eq_of_emits hcount hfirst hprints
  rw [hencoding, decodeUtf8_encodeUtf8, Option.bind_some, hparse]

/-- The CSV encoding, after the byte order mark, is a text for the names and a row for each
event. -/
theorem parse_encoding_csv {store : EventStore} (hcount : store.eventCount ≤ sizeMax)
    {firstEvent : ℕ} (hfirst : firstEvent ≤ store.eventCount)
    (htext : ∀ event ∈ store.events.drop firstEvent, WellFormedText event) :
    ∃ text rows, encoding (store.events.drop firstEvent) .csv = utf8Bom ++ encodeUtf8 text ∧
      Csv.parse text = some (exportNames.map String.toList :: rows) ∧
      rows.map (fun row => row.map encodeUtf16) = (store.events.drop firstEvent).map
        (fun event => (attributes event).map fun a => a.2.printed) := by
  obtain ⟨text, rows, hemits, hparse, hrows⟩ :=
    prints_writeCsvExport ExportEnv.standardUtf8_utf8 hfirst htext
  exact ⟨text, rows, encoding_eq_of_emits hcount hfirst hemits, hparse, hrows⟩

/-! ## Exporting to a file -/

/-- What comes of an export: nothing is opened, or the serializer has run on the new file and the
handle was closed. -/
lemma exportEventsToFile_cases (env : FileEnv) (store : EventStore) (firstEvent : ℕ)
    (path : List WCHAR) (format : ExportFormat) (errorMessageCount : ℕ) :
    let outcome := exportEventsToFile env store firstEvent path format errorMessageCount
    let written := writeExport env.toExportEnv format store firstEvent ⟨[], 0⟩
    (outcome.result = false ∧ outcome.file = none) ∨
      (firstEvent ≤ store.eventCount ∧ outcome.file = some written.2 ∧
        outcome.result = (written.1 && env.closeHandle)) := by
  intro outcome written
  simp only [outcome, exportEventsToFile]
  by_cases hfirst : firstEvent > store.eventCount
  · rw [if_pos hfirst]
    exact .inl ⟨rfl, rfl⟩
  · rw [if_neg hfirst]
    cases env.createFile path with
    | false => exact .inl ⟨rfl, rfl⟩
    | true =>
      refine .inr ⟨Nat.le_of_not_lt hfirst, rfl, ?_⟩
      simp only [Bool.not_true, Bool.false_eq_true, if_false]
      cases written.1 <;> cases env.closeHandle <;> rfl

/-- **Success means the whole file.**  Whatever the system answers, `write_all` comes to its end in
as many rounds as there are bytes, the file holds a prefix of the encoding of the events from
`firstEvent` on, all of it when `TRUE` is returned, and when `FALSE` is returned after the file was
opened it could not be closed or the last call for one of its pieces has failed. -/
theorem exportEventsToFile_whole (env : FileEnv) (hutf8 : env.ReplacingUtf8) (store : EventStore)
    (hcount : store.eventCount ≤ sizeMax) (firstEvent : ℕ) (path : List WCHAR)
    (format : ExportFormat) (errorMessageCount : ℕ) :
    (∀ (data : List BYTE) (fuel : ℕ), data.length ≤ fuel →
      writeAllLoop env.toExportEnv fuel data = writeAll env.toExportEnv data) ∧
    (∀ file,
      (exportEventsToFile env store firstEvent path format errorMessageCount).file = some file →
        file.contents <+: encoding (store.events.drop firstEvent) format) ∧
    ((exportEventsToFile env store firstEvent path format errorMessageCount).result = true →
      ∃ file,
        (exportEventsToFile env store firstEvent path format errorMessageCount).file = some file ∧
          file.contents = encoding (store.events.drop firstEvent) format) ∧
    ∀ file,
      (exportEventsToFile env store firstEvent path format errorMessageCount).file = some file →
      (exportEventsToFile env store firstEvent path format errorMessageCount).result = false →
        env.closeHandle = false ∨
          ∃ call, file.calls = call + 1 ∧
            ∃ piece ∈ exportPieces (store.events.drop firstEvent) format,
              env.FailsOn call piece := by
  refine ⟨fun data fuel hfuel => writeAllLoop_congr hfuel (Nat.le_refl _), ?_⟩
  rcases exportEventsToFile_cases env store firstEvent path format errorMessageCount with
    ⟨hresult, hfile⟩ | ⟨hfirst, hfile, hresult⟩
  · rw [hfile, hresult]
    exact ⟨fun _ h => absurd h (by simp), fun h => absurd h (by simp),
      fun _ h => absurd h (by simp)⟩
  · have hdelivers : Delivers env.toExportEnv _ _ :=
      delivers_writeExport hutf8 hcount hfirst format
    obtain ⟨written, hprefix, hcontents⟩ := hdelivers.begins ⟨[], 0⟩
    rw [hfile, hresult]
    refine ⟨?_, ?_, ?_⟩
    · rintro _ ⟨⟩
      rw [hcontents]
      exact hprefix
    · intro htrue
      exact ⟨_, rfl, hdelivers.completes ⟨[], 0⟩ (Bool.and_eq_true_iff.mp htrue).1⟩
    · rintro _ ⟨⟩ hfalse
      rcases Bool.and_eq_false_iff.mp hfalse with hwritten | hclosed
      · exact .inr (hdelivers.fails ⟨[], 0⟩ hwritten)
      · exact .inl hclosed

/-- A disk with room for two bytes more. -/
def fullDisk : FileEnv :=
  { FileEnv.succeed with
    writeFile := fun call chunk => if call = 0 then some (Fin.ofNat (chunk + 1) 2) else none }

/-- They are the first two of the byte order mark, and the export fails. -/
theorem exportEventsToFile_whole_fullDisk :
    ∃ file, (exportEventsToFile fullDisk exportSample 0 (wide "C:\\a.csv") .csv 768).file =
        some file ∧
      file.contents = [0xef, 0xbb] ∧
      file.contents <+: encoding (exportSample.events.drop 0) .csv ∧
      ∃ call, file.calls = call + 1 ∧
        ∃ piece ∈ exportPieces (exportSample.events.drop 0) .csv, fullDisk.FailsOn call piece := by
  obtain ⟨-, hprefix, -, hfails⟩ := exportEventsToFile_whole fullDisk ExportEnv.replacingUtf8_utf8
    exportSample (by decide) 0 (wide "C:\\a.csv") .csv 768
  have hfile : (exportEventsToFile fullDisk exportSample 0 (wide "C:\\a.csv") .csv 768).file =
      some ⟨[0xef, 0xbb], 2⟩ := rfl
  have hresult : (exportEventsToFile fullDisk exportSample 0 (wide "C:\\a.csv") .csv 768).result =
      false := rfl
  refine ⟨_, hfile, rfl, hprefix _ hfile, ?_⟩
  rcases hfails _ hfile hresult with hclose | hcall
  · cases hclose
  · exact hcall

end TraceGlass
