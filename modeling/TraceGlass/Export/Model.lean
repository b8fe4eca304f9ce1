import TraceGlass.Store.Model

/-!
# The serializers (`export.c`)

A serializer writes to a file and returns whether everything it wrote succeeded, so it is a
`Writer`: a function from the file to a `BOOL` and the file afterwards.  `andThen` is the `&&` of
the source and the early returns of its `if (!write(..) || ..) return FALSE`.

`ExportEnv` answers the calls that can fail or fall short.  Each answer may depend on how many calls
came before, which the file counts.
-/

namespace TraceGlass

/-- What the system answers while an export is written. -/
structure ExportEnv where
  /-- `WideCharToMultiByte(CP_UTF8, 0, ..)` on the units of a string; `none` when it fails. -/
  wideCharToMultiByte : ℕ → List WCHAR → Option (List BYTE)
  /-- Whether `malloc` answers a block of this size. -/
  malloc : ℕ → ℕ → Bool
  /-- `WriteFile` on a chunk of this length: how much of it was written; `none` when it fails. -/
  writeFile : ℕ → (chunk : ℕ) → Option (Fin (chunk + 1))

/-- The open export file, with the number of calls answered so far. -/
structure ExportFile where
  contents : List BYTE
  calls : ℕ

/-- After one call more. -/
def ExportFile.tick (file : ExportFile) : ExportFile := { file with calls := file.calls + 1 }

/-- A function that writes to the file and returns a `BOOL`. -/
abbrev Writer := ExportFile → Bool × ExportFile

/-- The second writer runs if the first returns `TRUE`. -/
def Writer.andThen (first second : Writer) : Writer := fun file =>
  match first file with
  | (true, file) => second file
  | (false, file) => (false, file)

/-- One writer after the other, up to the first that returns `FALSE`. -/
def Writer.sequence (writers : List Writer) : Writer :=
  writers.foldr Writer.andThen fun file => (true, file)

/-! ## Bytes -/

/-- The loop of `write_all`, with the bytes left to write.  Every round writes at least one, so
their number is fuel enough. -/
def writeAllLoop (env : ExportEnv) : ℕ → List BYTE → Writer
  | _, [], file => (true, file)
  | 0, _ :: _, file => (false, file)
  | fuel + 1, data, file =>
      let chunk := if data.length > maxDword then maxDword else data.length
      match env.writeFile file.calls chunk with
      | none => (false, file.tick)
      | some written =>
          if written = 0 then (false, file.tick)
          else
            writeAllLoop env fuel (data.drop written)
              { file.tick with contents := file.contents ++ data.take written }

/-- `write_all`. -/
def writeAll (env : ExportEnv) (data : List BYTE) : Writer := writeAllLoop env data.length data

/-- `write_utf8`: ask for the length, allocate, convert and write. -/
def writeUtf8 (env : ExportEnv) (text : List WCHAR) : Writer := fun file =>
  if text.length > intMax then (false, file)
  else if text.length = 0 then (true, file)
  else
    match env.wideCharToMultiByte file.calls text with
    | none => (false, file.tick)
    | some sized =>
        let file := file.tick
        if sized.length = 0 then (false, file)
        else if !env.malloc file.calls sized.length then (false, file.tick)
        else
          let file := file.tick
          match env.wideCharToMultiByte file.calls text with
          | none => (false, file.tick)
          | some bytes =>
              if bytes.length ≠ sized.length then (false, file.tick)
              else writeAll env bytes file.tick

/-- `format_timestamp` into a `WCHAR[64]`. -/
def formatTimestamp (timestamp : SystemTime) : WString 64 :=
  stringCchPrintf 64 <|
    formatPadded 4 timestamp.wYear.toNat ++ wide "-" ++
      formatPadded 2 timestamp.wMonth.toNat ++ wide "-" ++
      formatPadded 2 timestamp.wDay.toNat ++ wide "T" ++
      formatPadded 2 timestamp.wHour.toNat ++ wide ":" ++
      formatPadded 2 timestamp.wMinute.toNat ++ wide ":" ++
      formatPadded 2 timestamp.wSecond.toNat ++ wide "." ++
      formatPadded 3 timestamp.wMilliseconds.toNat

/-- A number printed into a `WCHAR[64]`. -/
def formatNumber (value : ℕ) : WString 64 := stringCchPrintf 64 (formatUnsigned value)

/-! ## JSON -/

/-- The switch of `write_json_string`: the units that stand for one of the value's, where the buffer
has room for `room` units more. -/
def escapeJsonUnit (room : ℕ) (character : WCHAR) : List WCHAR :=
  if character = 0x22 then [0x5c, 0x22]
  else if character = 0x5c then [0x5c, 0x5c]
  else if character = 0x08 then [0x5c, 0x62]
  else if character = 0x0c then [0x5c, 0x66]
  else if character = 0x0a then [0x5c, 0x6e]
  else if character = 0x0d then [0x5c, 0x72]
  else if character = 0x09 then [0x5c, 0x74]
  else if character < 0x20 then
    -- `StringCchPrintfW` keeps one unit of the room for the terminator
    copyWstringLoop (room - 1) (wide "\\u" ++ formatHexPadded 4 character.toNat)
  else [character]

/-- The loop of `write_json_string`, with what the buffer holds so far. -/
def escapeJsonLoop (capacity : ℕ) : List WCHAR → List WCHAR → List WCHAR
  | [], escaped => escaped
  | character :: source, escaped =>
      escapeJsonLoop capacity source
        (escaped ++ escapeJsonUnit (capacity - escaped.length) character)

/-- The contents of the buffer `write_json_string` writes out. -/
def escapeJson (capacity : ℕ) (value : List WCHAR) : List WCHAR :=
  escapeJsonLoop capacity value [0x22] ++ [0x22]

/-- `write_json_string`. -/
def writeJsonString (env : ExportEnv) (value : List WCHAR) : Writer := fun file =>
  if value.length > (sizeMax / 2 - 3) / 6 then (false, file)
  else
    let capacity := sizeAdd (sizeMul value.length 6) 3
    if !env.malloc file.calls (sizeMul capacity 2) then (false, file.tick)
    else writeUtf8 env (escapeJson capacity value) file.tick

/-- `write_json_field`. -/
def writeJsonField (env : ExportEnv) (name value : List WCHAR) (trailingComma : Bool) : Writer :=
  .sequence
    [writeUtf8 env (wide "    \""), writeUtf8 env name, writeUtf8 env (wide "\": "),
      writeJsonString env value,
      writeUtf8 env (if trailingComma then wide ",\r\n" else wide "\r\n")]

/-- One turn of the loop of `write_json_export`. -/
def writeJsonEvent (env : ExportEnv) (store : EventStore) (index : ℕ) : Writer :=
  let event := store.events.getD index .zero
  .sequence
    [writeUtf8 env (wide "  \x7b\r\n"),
      writeJsonField env (wide "timestamp") (formatTimestamp event.timestamp).chars true,
      writeJsonField env (wide "event_type") (eventExportName event.type) true,
      writeJsonField env (wide "process_name") event.processName.chars true,
      writeUtf8 env (wide "    \"pid\": "),
      writeUtf8 env (formatNumber event.process.pid.toNat).chars,
      writeUtf8 env (wide ",\r\n"),
      writeUtf8 env (wide "    \"parent_pid\": "),
      writeUtf8 env (formatNumber event.parent.pid.toNat).chars,
      writeUtf8 env (wide ",\r\n"),
      writeJsonField env (wide "details") event.details.chars true,
      writeJsonField env (wide "protocol") event.protocol.chars true,
      writeJsonField env (wide "local_address") event.localAddress.chars true,
      writeUtf8 env (wide "    \"local_port\": "),
      writeUtf8 env (formatNumber event.localPort.toNat).chars,
      writeUtf8 env (wide ",\r\n"),
      writeJsonField env (wide "remote_address") event.remoteAddress.chars true,
      writeUtf8 env (wide "    \"remote_port\": "),
      writeUtf8 env (formatNumber event.remotePort.toNat).chars,
      writeUtf8 env (wide ",\r\n"),
      writeJsonField env (wide "state") event.networkState.chars true,
      writeJsonField env (wide "severity") (alertSeverityName event.severity) true,
      writeJsonField env (wide "rule") event.ruleName.chars false,
      writeUtf8 env
        (if sizeAdd index 1 < store.eventCount then wide "  \x7d,\r\n" else wide "  \x7d\r\n")]

/-- `write_json_export`. -/
def writeJsonExport (env : ExportEnv) (store : EventStore) (firstEvent : ℕ) : Writer :=
  .sequence <|
    writeUtf8 env (wide "[\r\n") ::
      (List.range' firstEvent (store.eventCount - firstEvent)).map (writeJsonEvent env store) ++
      [writeUtf8 env (wide "]\r\n")]

/-! ## CSV -/

/-- `utf8_bom`. -/
def utf8Bom : List BYTE := [0xef, 0xbb, 0xbf]

/-- The loop of `write_csv_field`. -/
def escapeCsvLoop : List WCHAR → List WCHAR → List WCHAR
  | [], escaped => escaped
  | character :: source, escaped =>
      escapeCsvLoop source
        (escaped ++ if character = 0x22 then [0x22, character] else [character])

/-- The contents of the buffer `write_csv_field` writes out. -/
def escapeCsv (value : List WCHAR) : List WCHAR := escapeCsvLoop value [0x22] ++ [0x22]

/-- `write_csv_field`. -/
def writeCsvField (env : ExportEnv) (value : List WCHAR) : Writer := fun file =>
  if value.length > (sizeMax / 2 - 3) / 2 then (false, file)
  else
    let capacity := sizeAdd (sizeMul value.length 2) 3
    if !env.malloc file.calls (sizeMul capacity 2) then (false, file.tick)
    else writeUtf8 env (escapeCsv value) file.tick

/-- The macro `CSV_TEXT`. -/
def csvText (env : ExportEnv) (value : List WCHAR) : Writer :=
  .sequence [writeCsvField env value, writeUtf8 env (wide ",")]

/-- One turn of the loop of `write_csv_export`. -/
def writeCsvEvent (env : ExportEnv) (store : EventStore) (index : ℕ) : Writer :=
  let event := store.events.getD index .zero
  .sequence
    [csvText env (formatTimestamp event.timestamp).chars,
      csvText env (eventExportName event.type),
      csvText env event.processName.chars,
      csvText env (formatNumber event.process.pid.toNat).chars,
      csvText env (formatNumber event.parent.pid.toNat).chars,
      csvText env event.details.chars,
      csvText env event.protocol.chars,
      csvText env event.localAddress.chars,
      csvText env (formatNumber event.localPort.toNat).chars,
      csvText env event.remoteAddress.chars,
      csvText env (formatNumber event.remotePort.toNat).chars,
      csvText env event.networkState.chars,
      csvText env (alertSeverityName event.severity),
      writeCsvField env event.ruleName.chars,
      writeUtf8 env (wide "\r\n")]

/-- The header row. -/
def csvHeader : List WCHAR :=
  wide <| "timestamp,event_type,process_name,pid,parent_pid,details,protocol,local_address," ++
    "local_port,remote_address,remote_port,state,severity,rule\r\n"

/-- `write_csv_export`. -/
def writeCsvExport (env : ExportEnv) (store : EventStore) (firstEvent : ℕ) : Writer :=
  .sequence <|
    writeAll env utf8Bom :: writeUtf8 env csvHeader ::
      (List.range' firstEvent (store.eventCount - firstEvent)).map (writeCsvEvent env store)

/-! ## Text -/

/-- What the format of `write_text_export` expands to. -/
def textLine (event : TraceGlassEvent) : List WCHAR :=
  (formatTimestamp event.timestamp).chars ++ wide " | " ++ eventTypeName event.type ++
    wide " | " ++ event.processName.chars ++
    wide " | PID " ++ formatUnsigned event.process.pid.toNat ++
    wide " | Parent PID " ++ formatUnsigned event.parent.pid.toNat ++
    wide " | " ++ event.details.chars ++ wide "\r\n"

/-- One turn of the loop of `write_text_export`, with its `WCHAR line[1536]`. -/
def writeTextEvent (env : ExportEnv) (store : EventStore) (index : ℕ) : Writer :=
  let event := store.events.getD index .zero
  writeUtf8 env (stringCchPrintf 1536 (textLine event)).chars

/-- `write_text_export`. -/
def writeTextExport (env : ExportEnv) (store : EventStore) (firstEvent : ℕ) : Writer :=
  .sequence <|
    writeAll env utf8Bom ::
      (List.range' firstEvent (store.eventCount - firstEvent)).map (writeTextEvent env store)

end TraceGlass
