import TraceGlass.Export.Writers

/-!
# Exporting to a file and the Save As dialog (`export.c`)

`exportEventsToFile` opens the file, hands it to the serializer of the format and closes it.
`exportEventsWithDialog` asks for the path first, and puts the extension of the selected format in
place where the path has none or one of the three.

Where a buffer for a message or a path may be missing, a missing one is a buffer of size `0`: the
source leaves both alone.
-/

namespace TraceGlass

/-- `ExportFormat`. -/
inductive ExportFormat
  | json
  | csv
  | text
  deriving DecidableEq, Repr

/-- `ExportResult`. -/
inductive ExportResult
  | cancelled
  | succeeded
  | failed
  deriving DecidableEq, Repr

/-- `ERROR_SUCCESS`. -/
def errorSuccess : DWORD := 0

/-- `ERROR_INVALID_PARAMETER`. -/
def errorInvalidParameter : DWORD := 87

/-- `ERROR_BUFFER_OVERFLOW`. -/
def errorBufferOverflow : DWORD := 111

/-- What the system answers while a file is exported. -/
structure FileEnv extends ExportEnv where
  /-- `CreateFileW(path, GENERIC_WRITE, .., CREATE_ALWAYS, ..)` opens the file. -/
  createFile : List WCHAR → Bool
  closeHandle : Bool
  /-- `GetLastError`, after so many calls of the export: what the last of them has set, or the code
  itself with `SetLastError`. -/
  getLastError : ℕ → DWORD
  /-- `FormatMessageW`; nothing when it fails. -/
  formatMessage : DWORD → WString 256

/-- A system on which everything succeeds at once. -/
def FileEnv.succeed : FileEnv where
  toExportEnv := .utf8
  createFile := fun _ => true
  closeHandle := true
  getLastError := fun _ => errorSuccess
  formatMessage := fun _ => .empty

/-- `set_export_error`: what the buffer holds afterwards. -/
def setExportError (env : FileEnv) (bufferCount : ℕ) (operation : List WCHAR) (error : DWORD) :
    List WCHAR :=
  copyWstringLoop (bufferCount - 1) <|
    operation ++ wide "\r\n\r\nReason:\r\n" ++
      (formatWindowsError 256 env.formatMessage error).chars

/-- The serializer of a format. -/
def writeExport (env : ExportEnv) : ExportFormat → EventStore → ℕ → Writer
  | .json => writeJsonExport env
  | .csv => writeCsvExport env
  | .text => writeTextExport env

/-- What `export_events_to_file` leaves behind. -/
structure FileExport where
  result : Bool
  /-- The file, if it was opened. -/
  file : Option ExportFile
  errorMessage : List WCHAR

/-- `export_events_to_file`. -/
def exportEventsToFile (env : FileEnv) (store : EventStore) (firstEvent : ℕ) (path : List WCHAR)
    (format : ExportFormat) (errorMessageCount : ℕ) : FileExport :=
  if firstEvent > store.eventCount then
    ⟨false, none,
      setExportError env errorMessageCount (wide "Events could not be exported.")
        errorInvalidParameter⟩
  else if !env.createFile path then
    ⟨false, none,
      setExportError env errorMessageCount (wide "The export file could not be created.")
        (env.getLastError 0)⟩
  else
    let (result, file) := writeExport env.toExportEnv format store firstEvent ⟨[], 0⟩
    let error := if result then errorSuccess else env.getLastError file.calls
    let (result, error) :=
      if !env.closeHandle && result then (false, env.getLastError (file.calls + 1))
      else (result, error)
    ⟨result, some file,
      if !result then
        setExportError env errorMessageCount (wide "The export could not be completed.") error
      else []⟩

/-! ## The path -/

/-- `path_has_extension`. -/
def pathHasExtension (path : List WCHAR) : Bool :=
  match wcsrchr path 46, wcsrchr path 92 with
  | none, _ => false
  | some _, none => true
  | some lastDot, some lastSlash => decide (lastDot > lastSlash)

/-- The three comparisons of what begins at the last dot. -/
def isExportExtension (w : Win32) (extension : List WCHAR) : Bool :=
  stringEqualsInsensitive w extension (wide ".json") ||
    stringEqualsInsensitive w extension (wide ".csv") ||
    stringEqualsInsensitive w extension (wide ".txt")

/-- What begins at the last dot of a path; `NULL` is no text at all. -/
def lastExtension (path : List WCHAR) : List WCHAR :=
  match wcsrchr path 46 with
  | some lastDot => path.drop lastDot
  | none => []

/-- `StringCchCatW` on a path; `none` when the result does not fit. -/
def stringCchCat (path extension : List WCHAR) : Option (List WCHAR) :=
  if (path ++ extension).length < maxPath then some (path ++ extension) else none

/-- `apply_selected_extension`; `none` is the `FALSE` return. -/
def applySelectedExtension (w : Win32) (path extension : List WCHAR) : Option (List WCHAR) :=
  match wcsrchr path 46 with
  | some lastDot =>
      if pathHasExtension path then
        if isExportExtension w (path.drop lastDot) then
          stringCchCat (path.take lastDot) extension
        else some path
      else stringCchCat path extension
  | none => stringCchCat path extension

/-! ## The dialog -/

/-- What `GetSaveFileNameW` and `CommDlgExtendedError` answer. -/
inductive SaveDialog
  /-- `FALSE`, with the extended error. -/
  | refused (error : DWORD)
  /-- The path in the dialog's buffer, and `nFilterIndex`. -/
  | chosen (path : WString maxPath) (filterIndex : DWORD)

/-- The format a filter index selects. -/
def selectedFormat (filterIndex : DWORD) : ExportFormat :=
  if filterIndex = 2 then .csv else if filterIndex = 3 then .text else .json

/-- The extension of a format. -/
def formatExtension : ExportFormat → List WCHAR
  | .csv => wide ".csv"
  | .text => wide ".txt"
  | .json => wide ".json"

/-- What `export_events_with_dialog` leaves behind. -/
structure DialogExport where
  result : ExportResult
  /-- The path it has passed to `export_events_to_file`, if it has called it. -/
  exportPath : Option (List WCHAR)
  savedPath : List WCHAR
  errorMessage : List WCHAR

/-- `export_events_with_dialog`. -/
def exportEventsWithDialog (w : Win32) (env : FileEnv) (dialog : SaveDialog) (store : EventStore)
    (firstEvent savedPathCount errorMessageCount : ℕ) : DialogExport :=
  match dialog with
  | .refused error =>
      if error = 0 then ⟨.cancelled, none, [], []⟩
      else
        ⟨.failed, none, [],
          setExportError env errorMessageCount (wide "The Save As dialog could not be opened.")
            error⟩
  | .chosen path filterIndex =>
      let format := selectedFormat filterIndex
      let path :=
        if !pathHasExtension path.chars || isExportExtension w (lastExtension path.chars) then
          applySelectedExtension w path.chars (formatExtension format)
        else some path.chars
      match path with
      | none =>
          ⟨.failed, none, [],
            setExportError env errorMessageCount (wide "The export path is too long.")
              errorBufferOverflow⟩
      | some path =>
          let exported := exportEventsToFile env store firstEvent path format errorMessageCount
          if !exported.result then ⟨.failed, some path, [], exported.errorMessage⟩
          else
            ⟨.succeeded, some path, copyWstringLoop (savedPathCount - 1) path,
              exported.errorMessage⟩

end TraceGlass
