import TraceGlass.Events

/-!
# Detection (`detection.c`)

Three local rules, each of which looks at one event only.  An alert is a copy of the event it is
about with its own type, severity, rule name and details.
-/

namespace TraceGlass

/-- `TRACEGLASS_MAX_ALERTS_PER_EVENT`. -/
def maxAlertsPerEvent : ℕ := 3

/-- `is_office_process`. -/
def isOfficeProcess (w : Win32) (name : List WCHAR) : Bool :=
  [wide "WINWORD.EXE", wide "EXCEL.EXE", wide "OUTLOOK.EXE", wide "POWERPNT.EXE",
    wide "MSACCESS.EXE"].any fun officeName => stringEqualsInsensitive w name officeName

/-- `is_script_interpreter`. -/
def isScriptInterpreter (w : Win32) (name : List WCHAR) : Bool :=
  [wide "powershell.exe", wide "pwsh.exe", wide "wscript.exe", wide "cscript.exe",
    wide "mshta.exe"].any fun interpreterName => stringEqualsInsensitive w name interpreterName

/-- `initialize_alert`. -/
def initializeAlert (source : TraceGlassEvent) : TraceGlassEvent :=
  { source with type := .alert, severity := .info, ruleName := .empty }

/-- One of the rules: when it fires, and what it writes into the alert. -/
structure DetectionRule where
  fires : Win32 → TraceGlassEvent → Bool
  severity : AlertSeverity
  ruleName : List WCHAR
  details : TraceGlassEvent → List WCHAR

/-- The alert of a rule that fires on the event. -/
def DetectionRule.alert (rule : DetectionRule) (event : TraceGlassEvent) : TraceGlassEvent :=
  { initializeAlert event with
    severity := rule.severity
    ruleName := copyWstring ruleLength rule.ruleName
    details := stringCchPrintf detailLength (rule.details event) }

/-- An Office application is the parent of a script interpreter. -/
def officeSpawnedInterpreter : DetectionRule where
  fires w event :=
    event.type == .processStart && isOfficeProcess w event.parentName.chars &&
      isScriptInterpreter w event.processName.chars
  severity := .medium
  ruleName := wide "Office spawned script interpreter"
  details event :=
    wide "Office application spawned a script interpreter: " ++ event.parentName.chars ++
      wide " -> " ++ event.processName.chars

/-- A process was started from a temporary directory. -/
def executableInTemporaryDirectory : DetectionRule where
  fires w event :=
    event.type == .processStart &&
      (stringContainsInsensitive w event.executablePath.chars (wide "\\AppData\\Local\\Temp\\") ||
        stringContainsInsensitive w event.executablePath.chars (wide "\\Windows\\Temp\\"))
  severity := .medium
  ruleName := wide "Executable in temporary directory"
  details event :=
    wide "Executable is running from a temporary directory: " ++ event.executablePath.chars

/-- A script interpreter has a TCP connection. -/
def interpreterOwnsConnection : DetectionRule where
  fires w event := event.type == .network && isScriptInterpreter w event.processName.chars
  severity := .info
  ruleName := wide "Script interpreter owns TCP connection"
  details event :=
    wide "Script interpreter owns an established TCP connection; remote endpoint " ++
      event.remoteAddress.chars ++ wide ":" ++ formatUnsigned event.remotePort.toNat

/-- One `if` of `detection_evaluate`: the alerts so far, with the rule's own if there is room. -/
def DetectionRule.evaluate (rule : DetectionRule) (w : Win32) (event : TraceGlassEvent)
    (alertCapacity : ℕ) (alerts : List TraceGlassEvent) : List TraceGlassEvent :=
  if rule.fires w event && alerts.length < alertCapacity then alerts ++ [rule.alert event]
  else alerts

/-- `detection_evaluate`: the alerts written, of which the return value is the number. -/
def detectionEvaluate (w : Win32) (event : TraceGlassEvent) (alertCapacity : ℕ) :
    List TraceGlassEvent :=
  if alertCapacity = 0 ∨ event.type = .alert then []
  else
    let alerts := officeSpawnedInterpreter.evaluate w event alertCapacity []
    let alerts := executableInTemporaryDirectory.evaluate w event alertCapacity alerts
    interpreterOwnsConnection.evaluate w event alertCapacity alerts

/-! ## What every alert has in common -/

namespace DetectionRule

variable {w : Win32} {event : TraceGlassEvent} {alertCapacity : ℕ}

/-- A property of the alerts so far and of the rule's alert is one of all alerts. -/
lemma forall_evaluate {rule : DetectionRule} {alerts : List TraceGlassEvent}
    {P : TraceGlassEvent → Prop} (halerts : ∀ a ∈ alerts, P a) (halert : P (rule.alert event)) :
    ∀ a ∈ rule.evaluate w event alertCapacity alerts, P a := by
  unfold evaluate
  split
  · intro a ha
    rcases List.mem_append.mp ha with ha | ha
    · exact halerts a ha
    · rw [List.mem_singleton.mp ha]
      exact halert
  · exact halerts

end DetectionRule

/-- What holds of the alert of every rule holds of all alerts of an event. -/
lemma forall_detectionEvaluate {w : Win32} {event : TraceGlassEvent} {alertCapacity : ℕ}
    {P : TraceGlassEvent → Prop} (h : ∀ rule : DetectionRule, P (rule.alert event)) :
    ∀ a ∈ detectionEvaluate w event alertCapacity, P a := by
  unfold detectionEvaluate
  split
  · simp
  · exact DetectionRule.forall_evaluate
      (DetectionRule.forall_evaluate (DetectionRule.forall_evaluate (by simp) (h _)) (h _)) (h _)

lemma type_of_mem_detectionEvaluate {w : Win32} {event alert : TraceGlassEvent}
    {alertCapacity : ℕ} (h : alert ∈ detectionEvaluate w event alertCapacity) :
    alert.type = .alert :=
  forall_detectionEvaluate (P := fun a => a.type = .alert) (fun _ => rfl) alert h

lemma process_of_mem_detectionEvaluate {w : Win32} {event alert : TraceGlassEvent}
    {alertCapacity : ℕ} (h : alert ∈ detectionEvaluate w event alertCapacity) :
    alert.process = event.process :=
  forall_detectionEvaluate (P := fun a => a.process = event.process) (fun _ => rfl) alert h

/-- No rule looks at the sequence number; the alerts copy it. -/
lemma detectionEvaluate_sequence (w : Win32) (event : TraceGlassEvent) (sequence : ULONGLONG)
    (alertCapacity : ℕ) :
    detectionEvaluate w { event with sequence := sequence } alertCapacity =
      (detectionEvaluate w event alertCapacity).map fun a => { a with sequence := sequence } := by
  have hevaluate : ∀ (rule : DetectionRule) (alerts : List TraceGlassEvent),
      rule.fires w { event with sequence := sequence } = rule.fires w event →
      rule.details { event with sequence := sequence } = rule.details event →
      rule.evaluate w { event with sequence := sequence } alertCapacity
          (alerts.map fun a => { a with sequence := sequence }) =
        (rule.evaluate w event alertCapacity alerts).map
          fun a => { a with sequence := sequence } := by
    intro rule alerts hfires hdetails
    unfold DetectionRule.evaluate
    rw [hfires, List.length_map]
    split
    · simp [DetectionRule.alert, initializeAlert, hdetails]
    · rfl
  unfold detectionEvaluate
  split
  · rfl
  · have hoffice := hevaluate officeSpawnedInterpreter [] rfl rfl
    rw [List.map_nil] at hoffice
    simp only [hoffice, hevaluate executableInTemporaryDirectory _ rfl rfl,
      hevaluate interpreterOwnsConnection _ rfl rfl]

/-- A STOP breaks no rule. -/
lemma detectionEvaluate_stop {w : Win32} {event : TraceGlassEvent} {alertCapacity : ℕ}
    (h : event.type = .processStop) : detectionEvaluate w event alertCapacity = [] := by
  simp [detectionEvaluate, DetectionRule.evaluate, officeSpawnedInterpreter,
    executableInTemporaryDirectory, interpreterOwnsConnection, h]

end TraceGlass
