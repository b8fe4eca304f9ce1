import TraceGlass.Detection
import Mathlib.Data.List.Infix

/-!
# Detection matches its rules exactly

`Rule.Holds` says in its own terms when a rule applies to an event: names are compared as wholes,
and a directory is looked for anywhere in the path, both without regard to case.  What
`detection_evaluate` writes is the alerts of the rules that hold, in order, as far as there is room;
there is always room where the caller gives the room `drain_events` gives.
-/

namespace TraceGlass

variable {w : Win32}

/-! ## The search for an infix -/

/-- The inner loop answers whether the needle is in front of the value, up to case. -/
lemma matchesAt_iff (value needle : List WCHAR) :
    matchesAt w value needle = true ↔ needle.map w.towlower <+: value.map w.towlower := by
  induction needle generalizing value with
  | nil => simp [matchesAt]
  | cons n needle ih =>
    cases value with
    | nil => simp [matchesAt]
    | cons v value =>
      simp only [matchesAt, Bool.and_eq_true, beq_iff_eq, ih, List.map_cons, List.cons_prefix_cons]
      rw [eq_comm]

/-- An infix is a prefix of what follows some index, and no further than its length allows. -/
lemma infix_iff_exists_drop {α : Type*} {xs ys : List α} (hle : xs.length ≤ ys.length) :
    xs <:+: ys ↔ ∃ index < ys.length - xs.length + 1, xs <+: ys.drop index := by
  constructor
  · rintro ⟨before, after, rfl⟩
    refine ⟨before.length, ?_, after, ?_⟩
    · simp only [List.length_append]
      omega
    · rw [List.append_assoc, List.drop_left]
  · rintro ⟨index, -, hprefix⟩
    exact hprefix.isInfix.trans (List.drop_suffix index ys).isInfix

/-- **The search finds the needle wherever it stands**, up to the case of each unit. -/
theorem stringContainsInsensitive_iff (value needle : List WCHAR) :
    stringContainsInsensitive w value needle = true ↔
      needle.map w.towlower <:+: value.map w.towlower := by
  unfold stringContainsInsensitive
  split
  · next hempty =>
    obtain rfl := List.eq_nil_of_length_eq_zero hempty
    simp
  · split
    · next hlong =>
      simp only [Bool.false_eq_true, false_iff]
      intro hinfix
      have hlength := hinfix.length_le
      rw [List.length_map, List.length_map] at hlength
      omega
    · next hfits =>
      rw [infix_iff_exists_drop (by simpa using hfits)]
      simp only [List.any_eq_true, List.mem_range, matchesAt_iff, List.length_map, List.map_drop]

/-! ## When a rule holds -/

/-- The two names are the same, up to case. -/
def SameName (w : Win32) (name other : List WCHAR) : Prop :=
  w.compareStringOrdinal name other = .eq

instance (name other : List WCHAR) : Decidable (SameName w name other) :=
  inferInstanceAs (Decidable (_ = _))

/-- The names of the Office applications, and of the script interpreters. -/
def officeNames : List (List WCHAR) :=
  [wide "WINWORD.EXE", wide "EXCEL.EXE", wide "OUTLOOK.EXE", wide "POWERPNT.EXE",
    wide "MSACCESS.EXE"]

def interpreterNames : List (List WCHAR) :=
  [wide "powershell.exe", wide "pwsh.exe", wide "wscript.exe", wide "cscript.exe",
    wide "mshta.exe"]

/-- The temporary directories, between separators. -/
def temporaryDirectories : List (List WCHAR) :=
  [wide "\\AppData\\Local\\Temp\\", wide "\\Windows\\Temp\\"]

/-- The rules, in the order of the code. -/
inductive Rule
  | officeSpawnedInterpreter
  | executableInTemporaryDirectory
  | interpreterOwnsConnection
  deriving DecidableEq

namespace Rule

/-- All of them. -/
def all : List Rule :=
  [officeSpawnedInterpreter, executableInTemporaryDirectory, interpreterOwnsConnection]

/-- The rule of the code. -/
def code : Rule → DetectionRule
  | officeSpawnedInterpreter => TraceGlass.officeSpawnedInterpreter
  | executableInTemporaryDirectory => TraceGlass.executableInTemporaryDirectory
  | interpreterOwnsConnection => TraceGlass.interpreterOwnsConnection

/-- The rule applies to the event. -/
def Holds (w : Win32) (event : TraceGlassEvent) : Rule → Prop
  | officeSpawnedInterpreter =>
      event.type = .processStart ∧
        (∃ name ∈ officeNames, SameName w event.parentName.chars name) ∧
        ∃ name ∈ interpreterNames, SameName w event.processName.chars name
  | executableInTemporaryDirectory =>
      event.type = .processStart ∧
        ∃ directory ∈ temporaryDirectories,
          directory.map w.towlower <:+: event.executablePath.chars.map w.towlower
  | interpreterOwnsConnection =>
      event.type = .network ∧
        ∃ name ∈ interpreterNames, SameName w event.processName.chars name

instance (event : TraceGlassEvent) (rule : Rule) : Decidable (rule.Holds w event) := by
  cases rule <;> unfold Holds <;> infer_instance

end Rule

lemma isOfficeProcess_iff (name : List WCHAR) :
    isOfficeProcess w name = true ↔ ∃ other ∈ officeNames, SameName w name other := by
  simp only [isOfficeProcess, List.any_eq_true, stringEqualsInsensitive, beq_iff_eq, SameName,
    officeNames]

lemma isScriptInterpreter_iff (name : List WCHAR) :
    isScriptInterpreter w name = true ↔ ∃ other ∈ interpreterNames, SameName w name other := by
  simp only [isScriptInterpreter, List.any_eq_true, stringEqualsInsensitive, beq_iff_eq, SameName,
    interpreterNames]

/-- **Each condition of the code is the rule's.** -/
theorem fires_iff (event : TraceGlassEvent) (rule : Rule) :
    rule.code.fires w event = true ↔ rule.Holds w event := by
  cases rule with
  | officeSpawnedInterpreter =>
    simp only [Rule.code, officeSpawnedInterpreter, Bool.and_eq_true, beq_iff_eq,
      isOfficeProcess_iff, isScriptInterpreter_iff, Rule.Holds, and_assoc]
  | executableInTemporaryDirectory =>
    simp only [Rule.code, executableInTemporaryDirectory, Bool.and_eq_true, Bool.or_eq_true,
      beq_iff_eq, stringContainsInsensitive_iff, Rule.Holds, temporaryDirectories,
      List.mem_cons, List.not_mem_nil, or_false, exists_eq_or_imp, exists_eq_left]
  | interpreterOwnsConnection =>
    simp only [Rule.code, interpreterOwnsConnection, Bool.and_eq_true, beq_iff_eq,
      isScriptInterpreter_iff, Rule.Holds]

/-! ## What is written -/

/-- The alert of a rule. -/
def Rule.alert (event : TraceGlassEvent) (rule : Rule) : TraceGlassEvent := rule.code.alert event

/-- The rules that hold of an event, in order. -/
def heldRules (w : Win32) (event : TraceGlassEvent) : List Rule :=
  Rule.all.filter fun rule => rule.Holds w event

/-- One `if` of the code takes the alerts of the rules before it, as far as there is room, to those
of the rules up to it. -/
lemma evaluate_take (event : TraceGlassEvent) (alertCapacity : ℕ) (rule : Rule)
    (alerts : List TraceGlassEvent) :
    rule.code.evaluate w event alertCapacity (alerts.take alertCapacity) =
      (alerts ++ ([rule].filter fun rule => rule.Holds w event).map (Rule.alert event)).take
        alertCapacity := by
  by_cases hholds : rule.Holds w event
  · have hfires := (fires_iff event rule).mpr hholds
    rw [List.filter_cons_of_pos (by simpa using hholds), List.filter_nil, List.map_singleton,
      DetectionRule.evaluate, hfires, Bool.true_and]
    by_cases hroom : alerts.length < alertCapacity
    · rw [List.take_of_length_le hroom.le, if_pos (by simpa using hroom), List.take_of_length_le]
      · rfl
      · rw [List.length_append, List.length_singleton]
        exact hroom
    · have hfull : ¬ decide ((alerts.take alertCapacity).length < alertCapacity) = true := by
        rw [decide_eq_true_iff, List.length_take]
        omega
      rw [if_neg hfull, List.take_append_of_le_length (Nat.le_of_not_lt hroom)]
  · have hfires : rule.code.fires w event = false := by
      rw [← Bool.not_eq_true, fires_iff]
      exact hholds
    rw [List.filter_cons_of_neg (by simpa using hholds), List.filter_nil, List.map_nil,
      List.append_nil, DetectionRule.evaluate, hfires]
    rfl

/-- No rule holds of an alert. -/
lemma heldRules_alert {event : TraceGlassEvent} (h : event.type = .alert) :
    heldRules w event = [] := by
  rw [heldRules, List.filter_eq_nil_iff]
  intro rule _
  cases rule <;> simp [Rule.Holds, h]

/-- **What `detection_evaluate` writes.** -/
theorem detectionEvaluate_eq (event : TraceGlassEvent) (alertCapacity : ℕ) :
    detectionEvaluate w event alertCapacity =
      ((heldRules w event).map (Rule.alert event)).take alertCapacity := by
  unfold detectionEvaluate
  split
  · next hnone =>
    rcases hnone with rfl | halert
    · rw [List.take_zero]
    · rw [heldRules_alert halert, List.map_nil, List.take_nil]
  · have hoffice := evaluate_take (w := w) event alertCapacity .officeSpawnedInterpreter []
    have htemporary := fun alerts =>
      evaluate_take (w := w) event alertCapacity .executableInTemporaryDirectory alerts
    have hconnection := fun alerts =>
      evaluate_take (w := w) event alertCapacity .interpreterOwnsConnection alerts
    simp only [Rule.code, List.take_nil, List.nil_append] at hoffice htemporary hconnection
    simp only [hoffice, htemporary, hconnection, ← List.map_append, ← List.filter_append]
    rfl

/-- A path that is nothing but the directory breaks the rule. -/
example :
    heldRules .sample
      { TraceGlassEvent.zero with
        executablePath := copyWstring maxPath (wide "\\windows\\TEMP\\") } =
      [.executableInTemporaryDirectory] := by
  decide +kernel

/-! ## What an alert says -/

lemma noNul_details (event : TraceGlassEvent) (rule : Rule) : NoNul (rule.code.details event) := by
  cases rule with
  | officeSpawnedInterpreter =>
    have hstart : NoNul (wide "Office application spawned a script interpreter: ") := by decide
    have harrow : NoNul (wide " -> ") := by decide
    exact ((hstart.append event.parentName.noNul).append harrow).append event.processName.noNul
  | executableInTemporaryDirectory =>
    have hstart : NoNul (wide "Executable is running from a temporary directory: ") := by decide
    exact hstart.append event.executablePath.noNul
  | interpreterOwnsConnection =>
    have hstart : NoNul
        (wide "Script interpreter owns an established TCP connection; remote endpoint ") := by
      decide
    have hcolon : NoNul (wide ":") := by decide
    exact ((hstart.append event.remoteAddress.noNul).append hcolon).append
      (noNul_formatUnsigned _)

/-- Two paths, or an address and a port, fit into the details beside any of the messages. -/
lemma length_details_lt (event : TraceGlassEvent) (rule : Rule) :
    (rule.code.details event).length < detailLength := by
  have hdetail : detailLength = 1024 := rfl
  cases rule with
  | officeSpawnedInterpreter =>
    have hstart : (wide "Office application spawned a script interpreter: ").length = 49 := by
      decide
    have harrow : (wide " -> ").length = 4 := rfl
    have hparent : event.parentName.chars.length < 260 := event.parentName.length_lt
    have hprocess : event.processName.chars.length < 260 := event.processName.length_lt
    simp only [Rule.code, officeSpawnedInterpreter, List.length_append, hstart, harrow, hdetail]
    omega
  | executableInTemporaryDirectory =>
    have hstart : (wide "Executable is running from a temporary directory: ").length = 50 := by
      decide
    have hpath : event.executablePath.chars.length < 260 := event.executablePath.length_lt
    simp only [Rule.code, executableInTemporaryDirectory, List.length_append, hstart, hdetail]
    omega
  | interpreterOwnsConnection =>
    have hstart : (wide
        "Script interpreter owns an established TCP connection; remote endpoint ").length = 71 := by
      decide
    have hcolon : (wide ":").length = 1 := rfl
    have haddress : event.remoteAddress.chars.length < 64 := event.remoteAddress.length_lt
    have hport : (formatUnsigned event.remotePort.toNat).length ≤ 5 :=
      length_formatUnsigned_le (by decide) (Nat.lt_trans (UInt16.toNat_lt _) (by decide))
    simp only [Rule.code, interpreterOwnsConnection, List.length_append, hstart, hcolon, hdetail]
    omega

/-- The details are written whole. -/
lemma details_alert (event : TraceGlassEvent) (rule : Rule) :
    (rule.alert event).details.chars = rule.code.details event :=
  copyWstring_of_length_lt (noNul_details event rule) (length_details_lt event rule)

lemma length_heldRules_le (event : TraceGlassEvent) :
    (heldRules w event).length ≤ maxAlertsPerEvent :=
  List.length_filter_le _ _

/-- **Detection matches its rules exactly.**  The alerts written are those of the rules that hold,
in order, up to the room there is: so never more than that, none for an alert, with more room the
same ones and perhaps more, and all of them where there is room for
`TRACEGLASS_MAX_ALERTS_PER_EVENT`.  Each is a copy of the event but for its type, severity, rule
name and details, and the details are the rule's message in full. -/
theorem detectionEvaluate_exact (w : Win32) (event : TraceGlassEvent) :
    (∀ alertCapacity, detectionEvaluate w event alertCapacity =
      ((Rule.all.filter fun rule => rule.Holds w event).map (Rule.alert event)).take
        alertCapacity) ∧
    (∀ alertCapacity, (detectionEvaluate w event alertCapacity).length ≤ alertCapacity) ∧
    (event.type = .alert → ∀ alertCapacity, detectionEvaluate w event alertCapacity = []) ∧
    (∀ smaller larger, smaller ≤ larger →
      detectionEvaluate w event smaller <+: detectionEvaluate w event larger) ∧
    (∀ alertCapacity ≥ maxAlertsPerEvent, detectionEvaluate w event alertCapacity =
      (Rule.all.filter fun rule => rule.Holds w event).map (Rule.alert event)) ∧
    ∀ rule : Rule,
      rule.alert event =
        { event with
          type := .alert
          severity := (rule.alert event).severity
          ruleName := (rule.alert event).ruleName
          details := (rule.alert event).details } ∧
      (rule.alert event).details.chars = rule.code.details event := by
  refine ⟨detectionEvaluate_eq event, fun alertCapacity => ?_, fun halert alertCapacity => ?_,
    fun smaller larger hle => ?_, fun alertCapacity hroom => ?_,
    fun rule => ⟨rfl, details_alert event rule⟩⟩
  · rw [detectionEvaluate_eq]
    exact List.length_take_le _ _
  · rw [detectionEvaluate_eq, heldRules_alert halert, List.map_nil, List.take_nil]
  · rw [detectionEvaluate_eq, detectionEvaluate_eq]
    exact List.take_prefix_take_left hle
  · rw [detectionEvaluate_eq, List.take_of_length_le]
    · rfl
    · rw [List.length_map]
      exact (length_heldRules_le event).trans hroom

end TraceGlass
