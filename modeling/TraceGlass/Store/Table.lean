import TraceGlass.Store.Cases
import Mathlib.Data.List.Pairwise

/-!
# The identity table

What matching reads and changes of a process record is its key and its active flag: a `Slot`.  A
`Table` is the list of slots in record order, and a `Report` is what is left of a START or STOP
event, its kind and key.  `Table.apply` is one report on a table: the table afterwards and whether
the report was news.

`Table.applied` is the inversion of `apply`, with the table split around the slot the report lands
on; all facts about tables come from it.  `apply_filter` says that a report is decided by the slots
of its own PID alone, and `slots_eventStoreAdd` connects the table with the store.
-/

namespace TraceGlass

/-- The part of a `ProcessRecord` that identifies a process. -/
structure Slot where
  key : ProcessKey
  active : Bool
  deriving DecidableEq, Repr

/-- Whether a report says that a process started or that it stopped. -/
inductive ReportKind
  | start
  | stop
  deriving DecidableEq, Repr

/-- The part of a START or STOP event that identifies a process. -/
structure Report where
  kind : ReportKind
  key : ProcessKey
  deriving DecidableEq, Repr

/-! ## Slots -/

namespace Slot

/-- A known creation time is written into the slot. -/
def learn (slot : Slot) (key : ProcessKey) : Slot :=
  if key.creationTime ≠ 0 then
    { slot with key := { slot.key with creationTime := key.creationTime } }
  else slot

/-- The slot carries this very key, creation time included. -/
def exact (key : ProcessKey) (slot : Slot) : Bool :=
  key.pid != 0 && (processKeysMatch slot.key key &&
    (slot.key.creationTime == key.creationTime && key.creationTime != 0))

/-- The slot is active and its key is compatible. -/
def fallback (key : ProcessKey) (slot : Slot) : Bool :=
  key.pid != 0 && (processKeysMatch slot.key key && slot.active)

variable {key : ProcessKey} {slot : Slot}

@[simp] lemma learn_active : (slot.learn key).active = slot.active := by
  unfold learn
  split <;> rfl

lemma learn_self (slot : Slot) (key : ProcessKey) :
    { slot.learn key with active := slot.active } = slot.learn key := by
  unfold learn
  split <;> rfl

@[simp] lemma learn_pid : (slot.learn key).key.pid = slot.key.pid := by
  unfold learn
  split <;> rfl

lemma learn_of_unknown (h : key.creationTime = 0) : slot.learn key = slot := by
  simp [learn, h]

lemma learn_creationTime (h : key.creationTime ≠ 0) :
    (slot.learn key).key.creationTime = key.creationTime := by
  simp [learn, h]

/-- A slot that learns a known key of its own PID carries that key. -/
lemma learn_key (hpid : slot.key.pid = key.pid) (h : key.creationTime ≠ 0) :
    (slot.learn key).key = key := by
  cases key
  simp_all [learn]

end Slot

lemma processKeysMatch_iff {left right : ProcessKey} :
    processKeysMatch left right = true ↔ left.pid = right.pid ∧
      (left.creationTime = right.creationTime ∨ left.creationTime = 0 ∨
        right.creationTime = 0) := by
  unfold processKeysMatch
  by_cases hpid : left.pid = right.pid <;> simp [hpid, or_assoc]

namespace Slot

variable {key : ProcessKey} {slot : Slot}

lemma exact_iff :
    slot.exact key = true ↔ key.pid ≠ 0 ∧ key.creationTime ≠ 0 ∧ slot.key = key := by
  obtain ⟨⟨pid, time⟩, active⟩ := slot
  obtain ⟨kpid, ktime⟩ := key
  simp only [exact, Bool.and_eq_true, bne_iff_ne, ne_eq, processKeysMatch_iff, beq_iff_eq,
    ProcessKey.mk.injEq]
  constructor
  · rintro ⟨hpid, ⟨heq, -⟩, htime, hne⟩
    exact ⟨hpid, hne, heq, htime⟩
  · rintro ⟨hpid, hne, heq, htime⟩
    exact ⟨hpid, ⟨heq, .inl htime⟩, htime, hne⟩

lemma fallback_iff :
    slot.fallback key = true ↔ key.pid ≠ 0 ∧ slot.key.pid = key.pid ∧
      (slot.key.creationTime = key.creationTime ∨ slot.key.creationTime = 0 ∨
        key.creationTime = 0) ∧ slot.active = true := by
  simp [fallback, processKeysMatch_iff, and_assoc]

/-- Both tests look at one PID only. -/
lemma pid_eq_of_exact (h : slot.exact key = true) : slot.key.pid = key.pid := by
  rw [(exact_iff.mp h).2.2]

lemma pid_eq_of_fallback (h : slot.fallback key = true) : slot.key.pid = key.pid :=
  (fallback_iff.mp h).2.1

end Slot

/-! ## Tables -/

/-- The slots of a process table, oldest first. -/
abbrev Table := List Slot

namespace Table

/-- The index of the slot a key refers to. -/
def find (table : Table) (key : ProcessKey) : Option ℕ :=
  BackScan.backScan (Slot.exact key) (Slot.fallback key) table

/-- The slot at an index. -/
def slot (table : Table) (index : ℕ) : Slot := table.getD index ⟨⟨0, 0⟩, false⟩

/-- One report: the table afterwards, and whether the report was accepted. -/
def apply (table : Table) (report : Report) : Table × Bool :=
  match report.kind, table.find report.key with
  | .start, some index => (table.set index ((table.slot index).learn report.key), false)
  | .start, none => (table ++ [⟨report.key, true⟩], true)
  | .stop, some index =>
      if (table.slot index).active then
        (table.set index { (table.slot index).learn report.key with active := false }, true)
      else (table, false)
  | .stop, none => (table ++ [⟨report.key, false⟩], true)

/-- The table after a list of reports. -/
def applyAll (table : Table) (reports : List Report) : Table :=
  reports.foldl (fun t report => (t.apply report).1) table

@[simp] lemma applyAll_nil (table : Table) : table.applyAll [] = table := rfl

@[simp] lemma applyAll_cons (table : Table) (report : Report) (reports : List Report) :
    table.applyAll (report :: reports) = applyAll (table.apply report).1 reports := rfl

lemma applyAll_append (table : Table) (reports reports' : List Report) :
    table.applyAll (reports ++ reports') = (table.applyAll reports).applyAll reports' :=
  List.foldl_append

/-- The slot `s`, with `r` after it in the table, is what `key` refers to: the last exact match, or
the last active match where nothing matches exactly. -/
def Refers (table : Table) (key : ProcessKey) (s : Slot) (r : Table) : Prop :=
  (s.exact key = true ∧ ∀ y ∈ r, y.exact key = false) ∨
    ((∀ y ∈ table, y.exact key = false) ∧ s.fallback key = true ∧
      ∀ y ∈ r, y.fallback key = false)

/-- The key refers to nothing. -/
def Unmatched (table : Table) (key : ProcessKey) : Prop :=
  (∀ y ∈ table, y.exact key = false) ∧ ∀ y ∈ table, y.fallback key = false

lemma Refers.pid {table r : Table} {key : ProcessKey} {s : Slot} (h : Refers table key s r) :
    s.key.pid = key.pid := by
  rcases h with ⟨hs, -⟩ | ⟨-, hs, -⟩
  · exact Slot.pid_eq_of_exact hs
  · exact Slot.pid_eq_of_fallback hs

/-- The ways a report can land on a table. -/
inductive Applied (table : Table) : Report → Table × Bool → Prop
  | coalesced {l r : Table} {s : Slot} {key : ProcessKey} (hsplit : table = l ++ s :: r)
      (hs : Refers table key s r) :
      Applied table ⟨.start, key⟩ (l ++ s.learn key :: r, false)
  | opened {key : ProcessKey} (hnone : Unmatched table key) :
      Applied table ⟨.start, key⟩ (table ++ [⟨key, true⟩], true)
  | ignored {l r : Table} {s : Slot} {key : ProcessKey} (hsplit : table = l ++ s :: r)
      (hs : Refers table key s r) (hactive : s.active = false) :
      Applied table ⟨.stop, key⟩ (table, false)
  | closed {l r : Table} {s : Slot} {key : ProcessKey} (hsplit : table = l ++ s :: r)
      (hs : Refers table key s r) (hactive : s.active = true) :
      Applied table ⟨.stop, key⟩ (l ++ { s.learn key with active := false } :: r, true)
  | stopped {key : ProcessKey} (hnone : Unmatched table key) :
      Applied table ⟨.stop, key⟩ (table ++ [⟨key, false⟩], true)

lemma slot_split (l r : Table) (s : Slot) : (l ++ s :: r).slot l.length = s := by
  simp [slot]

lemma find_of_refers {l r : Table} {s : Slot} {key : ProcessKey}
    (hs : Refers (l ++ s :: r) key s r) : (l ++ s :: r).find key = some l.length := by
  rcases hs with ⟨hs, hlast⟩ | ⟨hnone, hs, hlast⟩
  · exact (BackScan.Outcome.hit hs hlast).eq_backScan
  · exact (BackScan.Outcome.kept hnone hs hlast).eq_backScan

lemma find_of_unmatched {table : Table} {key : ProcessKey} (h : Unmatched table key) :
    table.find key = none :=
  (BackScan.Outcome.missing h.1 h.2).eq_backScan

/-- Finding either stands on a slot or finds nothing. -/
lemma find_cases (table : Table) (key : ProcessKey) :
    (∃ l s r, table = l ++ s :: r ∧ Refers table key s r) ∨ Unmatched table key := by
  have hout := BackScan.outcome_backScan (Slot.exact key) (Slot.fallback key) table
  generalize BackScan.backScan (Slot.exact key) (Slot.fallback key) table = o at hout
  cases hout with
  | @hit l r s hs hlast => exact .inl ⟨l, s, r, rfl, .inl ⟨hs, hlast⟩⟩
  | @kept l r s hnone hs hlast => exact .inl ⟨l, s, r, rfl, .inr ⟨hnone, hs, hlast⟩⟩
  | missing hnone hkeep => exact .inr ⟨hnone, hkeep⟩

/-- The inversion decides the result. -/
theorem Applied.eq_apply {table : Table} {report : Report} {result : Table × Bool}
    (h : Applied table report result) : table.apply report = result := by
  cases h with
  | coalesced hsplit hs =>
    subst hsplit
    simp [apply, find_of_refers hs, slot_split]
  | opened hnone => simp [apply, find_of_unmatched hnone]
  | ignored hsplit hs hactive =>
    subst hsplit
    simp [apply, find_of_refers hs, slot_split, hactive]
  | closed hsplit hs hactive =>
    subst hsplit
    simp [apply, find_of_refers hs, slot_split, hactive]
  | stopped hnone => simp [apply, find_of_unmatched hnone]

/-- **The inversion of one report.** -/
theorem applied (table : Table) (report : Report) :
    Applied table report (table.apply report) := by
  obtain ⟨kind, key⟩ := report
  have h : ∃ result, Applied table ⟨kind, key⟩ result := by
    rcases find_cases table key with ⟨l, s, r, hsplit, hs⟩ | hnone
    · cases kind with
      | start => exact ⟨_, .coalesced hsplit hs⟩
      | stop =>
        cases hactive : s.active with
        | false => exact ⟨_, .ignored hsplit hs hactive⟩
        | true => exact ⟨_, .closed hsplit hs hactive⟩
    · cases kind with
      | start => exact ⟨_, .opened hnone⟩
      | stop => exact ⟨_, .stopped hnone⟩
  obtain ⟨result, hresult⟩ := h
  exact hresult.eq_apply ▸ hresult

/-! ## One PID at a time -/

/-- The slots of one PID. -/
def ofPid (table : Table) (pid : DWORD) : Table := table.filter fun s => s.key.pid == pid

lemma mem_ofPid {table : Table} {pid : DWORD} {s : Slot} :
    s ∈ table.ofPid pid ↔ s ∈ table ∧ s.key.pid = pid := by
  simp [ofPid]

@[simp] lemma ofPid_append (t t' : Table) (pid : DWORD) :
    ofPid (t ++ t') pid = ofPid t pid ++ ofPid t' pid := List.filter_append _ _

lemma ofPid_cons_of_eq {t : Table} {s : Slot} {pid : DWORD} (h : s.key.pid = pid) :
    ofPid (s :: t) pid = s :: ofPid t pid := by
  simp [ofPid, h]

lemma ofPid_cons_of_ne {t : Table} {s : Slot} {pid : DWORD} (h : s.key.pid ≠ pid) :
    ofPid (s :: t) pid = ofPid t pid := by
  simp [ofPid, h]

private lemma Refers.ofPid {table r : Table} {key : ProcessKey} {s : Slot}
    (h : Refers table key s r) :
    Refers (table.ofPid key.pid) key s (Table.ofPid r key.pid) := by
  rcases h with ⟨hs, hlast⟩ | ⟨hnone, hs, hlast⟩
  · exact .inl ⟨hs, fun y hy => hlast y (mem_ofPid.mp hy).1⟩
  · exact .inr ⟨fun y hy => hnone y (mem_ofPid.mp hy).1, hs,
      fun y hy => hlast y (mem_ofPid.mp hy).1⟩

private lemma Unmatched.ofPid {table : Table} {key : ProcessKey} (h : Unmatched table key) :
    Unmatched (table.ofPid key.pid) key :=
  ⟨fun y hy => h.1 y (mem_ofPid.mp hy).1, fun y hy => h.2 y (mem_ofPid.mp hy).1⟩

/-- A report of one PID does not touch the slots of another. -/
lemma ofPid_apply_of_ne {table : Table} {report : Report} {pid : DWORD}
    (hne : report.key.pid ≠ pid) : ofPid (table.apply report).1 pid = table.ofPid pid := by
  have happ := table.applied report
  generalize table.apply report = result at happ
  cases happ with
  | coalesced hsplit hs =>
    have hpid := hs.pid
    rw [hsplit, ofPid_append, ofPid_append, ofPid_cons_of_ne (by simpa [hpid] using hne),
      ofPid_cons_of_ne (by simpa [hpid] using hne)]
  | opened => simp [ofPid, hne]
  | ignored => rfl
  | closed hsplit hs =>
    have hpid := hs.pid
    rw [hsplit, ofPid_append, ofPid_append, ofPid_cons_of_ne (by simpa [hpid] using hne),
      ofPid_cons_of_ne (by simpa [hpid] using hne)]
  | stopped => simp [ofPid, hne]

/-- **A report is decided by the slots of its own PID.** -/
theorem ofPid_apply (table : Table) (report : Report) :
    (table.ofPid report.key.pid).apply report =
      (ofPid (table.apply report).1 report.key.pid, (table.apply report).2) := by
  have happ := table.applied report
  generalize table.apply report = result at happ
  apply Applied.eq_apply
  cases happ with
  | @coalesced l r s key hsplit hs =>
    have hpid := hs.pid
    have hsplit' : table.ofPid key.pid = ofPid l key.pid ++ s :: ofPid r key.pid := by
      rw [hsplit, ofPid_append, ofPid_cons_of_eq hpid]
    rw [ofPid_append, ofPid_cons_of_eq (by simpa using hpid)]
    exact .coalesced hsplit' hs.ofPid
  | @opened key hnone =>
    rw [ofPid_append, ofPid_cons_of_eq rfl]
    exact .opened hnone.ofPid
  | @ignored l r s key hsplit hs hactive =>
    have hsplit' : table.ofPid key.pid = ofPid l key.pid ++ s :: ofPid r key.pid := by
      rw [hsplit, ofPid_append, ofPid_cons_of_eq hs.pid]
    exact .ignored hsplit' hs.ofPid hactive
  | @closed l r s key hsplit hs hactive =>
    have hpid := hs.pid
    have hsplit' : table.ofPid key.pid = ofPid l key.pid ++ s :: ofPid r key.pid := by
      rw [hsplit, ofPid_append, ofPid_cons_of_eq hpid]
    rw [ofPid_append, ofPid_cons_of_eq (by simpa using hpid)]
    exact .closed hsplit' hs.ofPid hactive
  | @stopped key hnone =>
    rw [ofPid_append, ofPid_cons_of_eq rfl]
    exact .stopped hnone.ofPid

/-- Over a run, the slots of a PID depend on the reports of that PID alone. -/
theorem ofPid_applyAll (table : Table) (reports : List Report) (pid : DWORD) :
    ofPid (table.applyAll reports) pid =
      (table.ofPid pid).applyAll (reports.filter fun r => r.key.pid == pid) := by
  induction reports generalizing table with
  | nil => rfl
  | cons report reports ih =>
    rw [applyAll_cons, ih]
    by_cases hpid : report.key.pid = pid
    · subst hpid
      rw [List.filter_cons_of_pos (by simp), applyAll_cons, ofPid_apply]
    · rw [List.filter_cons_of_neg (by simpa using hpid), ofPid_apply_of_ne hpid]

end Table

end TraceGlass
