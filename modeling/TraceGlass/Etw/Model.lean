import TraceGlass.Monitor.Model

/-!
# The ETW callback (`etw_monitor.c`)

The kernel's process provider reports a start or stop some time after it happened.
`etwEventCallback` reads the PID and the creation time from the record, and then asks the system
about the PID as it is now; what it learns there goes before what the record says.

TDH is modelled by the properties an `EventRecord` answers: the bytes of a property, or `none` where
`TdhGetPropertySize` or `TdhGetProperty` fails.  A `CallbackEnv` is what the rest of the system
answers at the moment the callback runs.
-/

namespace TraceGlass

/-- `GUID`. -/
structure Guid where
  data1 : DWORD
  data2 : WORD
  data3 : WORD
  data4 : List BYTE
  deriving DecidableEq

/-- `TRACEGLASS_KERNEL_PROCESS_PROVIDER`. -/
def kernelProcessProvider : Guid where
  data1 := 0x22fb2cd6
  data2 := 0x0e7b
  data3 := 0x422b
  data4 := [0xa0, 0xc7, 0x2f, 0xad, 0x1f, 0xd0, 0xe7, 0x16]

abbrev processStartEventId : USHORT := 1
abbrev processStopEventId : USHORT := 2

/-- The parts of an `EVENT_RECORD` the callback reads. -/
structure EventRecord where
  providerId : Guid
  id : USHORT
  processId : DWORD
  timeStamp : ULONGLONG
  property : List WCHAR → Option (List BYTE)

/-! ## Reading properties -/

/-- `read_event_property`: the bytes written to the front of the buffer; `none` is the `FALSE`
return. -/
def readEventProperty (record : EventRecord) (propertyName : List WCHAR) (bufferCapacity : ℕ) :
    Option (List BYTE) :=
  match record.property propertyName with
  | none => none
  | some bytes => if bytes.length = 0 ∨ bytes.length > bufferCapacity then none else some bytes

/-- The value of bytes in little-endian order. -/
def littleEndian : List BYTE → ℕ
  | [] => 0
  | b :: bytes => b.toNat + 256 * littleEndian bytes

/-- The body `read_event_dword` and `read_event_qword` share, for a value of `size` bytes: the first
property that is there in full, by either name. -/
def readEventNumber (size : ℕ) (record : EventRecord) (first second : List WCHAR) : ℕ :=
  match (readEventProperty record first size).filter fun bytes => bytes.length ≥ size with
  | some bytes => littleEndian bytes
  | none =>
      match (readEventProperty record second size).filter fun bytes => bytes.length ≥ size with
      | some bytes => littleEndian bytes
      | none => 0

/-- `read_event_dword`. -/
def readEventDword (record : EventRecord) (first second : List WCHAR) : DWORD :=
  .ofNat (readEventNumber 4 record first second)

/-- `read_event_qword`. -/
def readEventQword (record : EventRecord) (first second : List WCHAR) : ULONGLONG :=
  .ofNat (readEventNumber 8 record first second)

/-- The units of a byte buffer read as `WCHAR`s. -/
def wcharsOf : List BYTE → List WCHAR
  | low :: high :: bytes => .ofNat (low.toNat + 256 * high.toNat) :: wcharsOf bytes
  | _ => []

/-- `read_event_string`, where the 2048-byte buffer on the stack holds `stack` on entry. -/
def readEventString (record : EventRecord) (stack : List BYTE) (propertyName : List WCHAR)
    (destinationCount : ℕ) [NeZero destinationCount] : WString destinationCount :=
  match readEventProperty record propertyName 2048 with
  | none => .empty
  | some bytes =>
      if bytes.length ≥ 2 then
        copyWstring destinationCount
          (wcharsOf (((bytes ++ stack.drop bytes.length).set 2046 0).set 2047 0))
      else .empty

/-! ## The callback -/

/-- What the system answers while the callback runs. -/
structure CallbackEnv where
  /-- `OpenProcess` and the handle it opens. -/
  openProcess : DWORD → Option ProcessHandle
  /-- The Toolhelp rows; `none` when no snapshot can be taken. -/
  toolhelp : Option (List ProcessEntry32)
  /-- The local time. -/
  now : SystemTime
  /-- What the stack holds where `read_event_string` puts its buffer. -/
  stack : List BYTE

/-- The fields the callback takes from the record and from the process itself. -/
def etwProcessFields (env : CallbackEnv) (record : EventRecord) (type : EventType) :
    TraceGlassEvent :=
  let recordPid := readEventDword record (wide "ProcessID") (wide "ProcessId")
  let pid := if recordPid = 0 then record.processId else recordPid
  let payloadTime := readEventQword record (wide "CreateTime") (wide "CreationTime")
  let imageName := readEventString record env.stack (wide "ImageName") maxPath
  let queried := queryProcessIdentity (env.openProcess pid) pid
  { TraceGlassEvent.zero with
    type := type
    process :=
      ⟨pid, if queried.key.creationTime ≠ 0 then queried.key.creationTime else payloadTime⟩
    parent := ⟨readEventDword record (wide "ParentProcessID") (wide "ParentProcessId"), 0⟩
    executablePath := copyWstring maxPath queried.path.chars
    processName :=
      if imageName.chars ≠ [] then copyWstring maxPath (pathBasename imageName.chars)
      else if queried.path.chars ≠ [] then copyWstring maxPath (pathBasename queried.path.chars)
      else (queryProcessName env.toolhelp pid).2 }

/-- What the callback finds out about the parent. -/
def etwParentFields (env : CallbackEnv) (event : TraceGlassEvent) : TraceGlassEvent :=
  if event.parent.pid ≠ 0 then
    let parent := queryProcessIdentity (env.openProcess event.parent.pid) event.parent.pid
    if event.process.creationTime ≠ 0 ∧ parent.key.creationTime ≠ 0 ∧
        parent.key.creationTime > event.process.creationTime then
      -- a younger process has taken the parent's PID over
      { event with parent := ⟨parent.key.pid, 0⟩ }
    else if parent.path.chars ≠ [] then
      { event with
        parent := parent.key
        parentName := copyWstring maxPath (pathBasename parent.path.chars) }
    else
      { event with
        parent := parent.key
        parentName := (queryProcessName env.toolhelp parent.key.pid).2 }
  else event

/-- The timestamp and the details of an event the fields of which are filled in. -/
def etwFinish (w : Win32) (env : CallbackEnv) (record : EventRecord) (event : TraceGlassEvent) :
    TraceGlassEvent :=
  { event with
    timestamp := (localSystemtimeFromFiletime w record.timeStamp).getD env.now
    details := stringCchPrintf detailLength <|
      if event.type = .processStart then
        wide "Process start observed through ETW; parent " ++
          (if event.parentName.chars ≠ [] then event.parentName.chars else wide "<unknown>") ++
          wide " (PID " ++ formatUnsigned event.parent.pid.toNat ++ wide "); path " ++
          if event.executablePath.chars ≠ [] then event.executablePath.chars
          else wide "<unavailable>"
      else
        wide "Process stop observed through ETW (PID " ++
          formatUnsigned event.process.pid.toNat ++ wide ")" }

/-- `etw_event_callback`, with `monitor->running`: the event it pushes, if any. -/
def etwEventCallback (w : Win32) (running : Bool) (env : CallbackEnv) (record : EventRecord) :
    Option TraceGlassEvent :=
  if !running || record.providerId != kernelProcessProvider then none
  else if record.id ≠ processStartEventId ∧ record.id ≠ processStopEventId then none
  else
    let type := if record.id = processStartEventId then .processStart else .processStop
    some (etwFinish w env record (etwParentFields env (etwProcessFields env record type)))

/-! ## The key of the event -/

lemma etwParentFields_process (env : CallbackEnv) (event : TraceGlassEvent) :
    (etwParentFields env event).process = event.process := by
  unfold etwParentFields
  dsimp only
  split_ifs <;> rfl

lemma etwParentFields_type (env : CallbackEnv) (event : TraceGlassEvent) :
    (etwParentFields env event).type = event.type := by
  unfold etwParentFields
  dsimp only
  split_ifs <;> rfl

end TraceGlass
