import TraceGlass.Utils

/-!
# Events and process keys (`events.h`, `events.c`)

PID alone is not stable because Windows may reuse it, so every event carries a `ProcessKey`: the
PID together with the process creation time, or `0` where that time could not be read.
-/

namespace TraceGlass

abbrev detailLength : ℕ := 1024
abbrev protocolLength : ℕ := 16
abbrev addressLength : ℕ := 64
abbrev stateLength : ℕ := 32
abbrev ruleLength : ℕ := 96

instance : NeZero detailLength := ⟨by decide⟩
instance : NeZero protocolLength := ⟨by decide⟩
instance : NeZero addressLength := ⟨by decide⟩
instance : NeZero stateLength := ⟨by decide⟩
instance : NeZero ruleLength := ⟨by decide⟩

/-- `EventType`. -/
inductive EventType
  | processStart
  | processStop
  | network
  | file
  | registry
  | alert
  deriving DecidableEq, Repr, Inhabited

/-- `AlertSeverity`, in increasing order. -/
inductive AlertSeverity
  | none
  | info
  | low
  | medium
  | high
  deriving DecidableEq, Repr, Inhabited

/-- The numeric value the comparator of the alert table reads. -/
def AlertSeverity.toNat : AlertSeverity → ℕ
  | .none => 0
  | .info => 1
  | .low => 2
  | .medium => 3
  | .high => 4

/-- `ProcessKey`: a PID and the creation time of its process, `0` when unknown. -/
@[ext] structure ProcessKey where
  pid : DWORD
  creationTime : ULONGLONG
  deriving DecidableEq, Repr, Inhabited

/-- `TraceGlassEvent`. -/
structure TraceGlassEvent where
  type : EventType
  severity : AlertSeverity
  sequence : ULONGLONG
  process : ProcessKey
  parent : ProcessKey
  timestamp : SystemTime
  processName : WString maxPath
  parentName : WString maxPath
  executablePath : WString maxPath
  protocol : WString protocolLength
  localAddress : WString addressLength
  remoteAddress : WString addressLength
  networkState : WString stateLength
  ruleName : WString ruleLength
  localPort : USHORT
  remotePort : USHORT
  details : WString detailLength
  deriving DecidableEq

/-- The event `ZeroMemory` leaves behind: the blank every producer fills in. -/
def TraceGlassEvent.zero : TraceGlassEvent where
  type := .processStart
  severity := .none
  sequence := 0
  process := ⟨0, 0⟩
  parent := ⟨0, 0⟩
  timestamp := .zero
  processName := .empty
  parentName := .empty
  executablePath := .empty
  protocol := .empty
  localAddress := .empty
  remoteAddress := .empty
  networkState := .empty
  ruleName := .empty
  localPort := 0
  remotePort := 0
  details := .empty

instance : Inhabited TraceGlassEvent := ⟨.zero⟩

/-! ## Display names -/

/-- `event_type_name`. -/
def eventTypeName : EventType → List WCHAR
  | .processStart => wide "PROCESS START"
  | .processStop => wide "PROCESS STOP"
  | .network => wide "NETWORK"
  | .file => wide "FILE"
  | .registry => wide "REGISTRY"
  | .alert => wide "ALERT"

/-- `event_category_name`. -/
def eventCategoryName : EventType → List WCHAR
  | .processStart => wide "Process"
  | .processStop => wide "Process"
  | .network => wide "Network"
  | .file => wide "File"
  | .registry => wide "Registry"
  | .alert => wide "Alert"

/-- `event_export_name`. -/
def eventExportName : EventType → List WCHAR
  | .processStart => wide "process_start"
  | .processStop => wide "process_stop"
  | .network => wide "network_connection"
  | .file => wide "file"
  | .registry => wide "registry"
  | .alert => wide "alert"

/-- `alert_severity_name`. -/
def alertSeverityName : AlertSeverity → List WCHAR
  | .info => wide "INFO"
  | .low => wide "LOW"
  | .medium => wide "MEDIUM"
  | .high => wide "HIGH"
  | .none => wide "NONE"

end TraceGlass
