import TraceGlass.Gui.Compare
import TraceGlass.Lib.Comparator
import TraceGlass.Store.History

/-!
# The tables' order is one

`compare_event_items` is lawful on the events whose times the system can convert: it is put together
from comparisons of numbers and of texts, and falls back to the sequence number at the end.
Sequence numbers are distinct, so two rows never tie, and a table has one sorted order.
-/

namespace TraceGlass

open Comparator

/-! ## The parts -/

lemma compareNumbers_le_iff {left right : ULONGLONG} :
    compareNumbers left right ≤ 0 ↔ left.toNat ≤ right.toNat := by
  simp only [compareNumbers, UInt64.lt_iff_toNat_lt, gt_iff_lt]
  split
  · omega
  · split <;> omega

lemma compareNumbers_eq_zero_iff {left right : ULONGLONG} :
    compareNumbers left right = 0 ↔ left = right := by
  rw [← UInt64.toNat_inj]
  simp only [compareNumbers, UInt64.lt_iff_toNat_lt, gt_iff_lt]
  split
  · omega
  · split <;> omega

lemma lawful_compareNumbers : Lawful (fun _ => True) compareNumbers := by
  refine lawful_of_key UInt64.toNat (fun _ _ => compareNumbers_le_iff) fun left right => ?_
  simp only [compareNumbers, UInt64.lt_iff_toNat_lt, gt_iff_lt]
  split
  · rw [if_neg (by omega)]
  · split <;> rfl

lemma compareText_le_iff {w : Win32} {left right : List WCHAR} :
    compareText w left right ≤ 0 ↔ (w.compareStringOrdinal left right).isLE = true := by
  rw [compareText]
  cases w.compareStringOrdinal left right <;> decide

variable {w : Win32}

/-- The system can convert the event's time. -/
def Timed (w : Win32) (event : TraceGlassEvent) : Prop :=
  (w.systemTimeToFileTime event.timestamp).isSome = true

instance (w : Win32) (event : TraceGlassEvent) : Decidable (Timed w event) :=
  inferInstanceAs (Decidable (_ = _))

lemma lawful_compareEventTimes : Lawful (Timed w) (compareEventTimes w) := by
  have htimes := (lawful_compareNumbers.comap
    fun e : TraceGlassEvent => (w.systemTimeToFileTime e.timestamp).getD 0).lexicographic
      (lawful_compareNumbers.comap TraceGlassEvent.sequence)
  refine htimes.congr (fun _ _ => trivial) fun left right hleft hright => ?_
  obtain ⟨leftTime, hl⟩ := Option.isSome_iff_exists.mp hleft
  obtain ⟨rightTime, hr⟩ := Option.isSome_iff_exists.mp hright
  simp only [compareEventTimes, Comparator.lexicographic, hl, hr, Option.getD_some, ne_eq, ite_not]

/-- Only the first column of each table needs the times. -/
def Comparable (w : Win32) (column : ℤ) (event : TraceGlassEvent) : Prop :=
  column = 0 → Timed w event

instance (w : Win32) (column : ℤ) (event : TraceGlassEvent) :
    Decidable (Comparable w column event) := inferInstanceAs (Decidable (_ → _))

lemma lawful_timeColumn : Lawful (Comparable w 0) (compareEventTimes w) :=
  lawful_compareEventTimes.congr (fun _ h => h rfl) fun _ _ _ _ => rfl

variable {p : TraceGlassEvent → Prop}

/-- A comparison by a number. -/
lemma lawful_byNumber (number : TraceGlassEvent → ULONGLONG) :
    Lawful p fun left right => compareNumbers (number left) (number right) :=
  (lawful_compareNumbers.comap number).congr (fun _ _ => trivial) fun _ _ _ _ => rfl

section
variable [Std.TransCmp w.compareStringOrdinal]

lemma lawful_compareText : Lawful (fun _ => True) (compareText w) where
  swap left right _ _ := by
    have hswap : w.compareStringOrdinal right left = (w.compareStringOrdinal left right).swap :=
      Std.OrientedCmp.eq_swap
    rw [compareText, compareText, hswap]
    cases w.compareStringOrdinal left right <;> rfl
  trans a b c _ _ _ hab hbc := by
    rw [compareText_le_iff] at hab hbc ⊢
    exact Std.TransCmp.isLE_trans hab hbc

/-- A comparison by a text. -/
lemma lawful_byText (text : TraceGlassEvent → List WCHAR) :
    Lawful p fun left right => compareText w (text left) (text right) :=
  (lawful_compareText.comap text).congr (fun _ _ => trivial) fun _ _ _ _ => rfl

lemma lawful_compareEndpoints (remote : Bool) :
    Lawful p fun left right => compareEndpoints w left right remote := by
  have haddress : Lawful p _ := lawful_byText (w := w) fun e : TraceGlassEvent =>
    if remote then e.remoteAddress.chars else e.localAddress.chars
  have hport : Lawful p _ := lawful_byNumber fun e : TraceGlassEvent =>
    if remote then e.remotePort.toUInt64 else e.localPort.toUInt64
  refine (haddress.lexicographic hport).congr (fun _ h => h) fun left right _ _ => ?_
  cases remote <;> simp only [compareEndpoints, Comparator.lexicographic, ne_eq, ite_not]

/-! ## The columns -/

lemma lawful_zero : Lawful p fun _ _ => 0 :=
  ⟨fun _ _ _ _ => rfl, fun _ _ _ _ _ _ _ _ => le_rfl⟩

lemma lawful_compareTimelineColumn (column : ℤ) :
    Lawful (Comparable w column) (compareTimelineColumn w column) := by
  unfold compareTimelineColumn
  split
  · exact lawful_timeColumn
  · exact lawful_byText fun e => eventCategoryName e.type
  · exact lawful_byText fun e => e.processName.chars
  · exact lawful_byNumber fun e => e.process.pid.toUInt64
  · exact lawful_byText fun e => e.details.chars
  · exact lawful_zero

lemma lawful_compareNetworkColumn (column : ℤ) :
    Lawful (Comparable w column) (compareNetworkColumn w column) := by
  unfold compareNetworkColumn
  split
  · exact lawful_timeColumn
  · exact lawful_byText fun e => e.processName.chars
  · exact lawful_byNumber fun e => e.process.pid.toUInt64
  · exact lawful_byText fun e => e.protocol.chars
  · exact lawful_compareEndpoints false
  · exact lawful_compareEndpoints true
  · exact lawful_byText fun e => e.networkState.chars
  · exact lawful_zero

lemma lawful_compareAlertColumn (column : ℤ) :
    Lawful (Comparable w column) (compareAlertColumn w column) := by
  unfold compareAlertColumn
  split
  · exact lawful_timeColumn
  · exact lawful_byNumber fun e => .ofNat e.severity.toNat
  · exact lawful_byText fun e => e.ruleName.chars
  · exact lawful_byText fun e => e.processName.chars
  · exact lawful_byText fun e => e.details.chars
  · exact lawful_zero

/-- The comparison by the column a table is sorted by. -/
def compareColumn (w : Win32) (sort : SortState) (left right : TraceGlassEvent) : ℤ :=
  match sort.view with
  | .timeline => compareTimelineColumn w sort.column left right
  | .network => compareNetworkColumn w sort.column left right
  | .alerts => compareAlertColumn w sort.column left right
  | .overview => 0
  | .processes => 0

lemma lawful_compareColumn (sort : SortState) :
    Lawful (Comparable w sort.column) (compareColumn w sort) := by
  unfold compareColumn
  split
  · exact lawful_compareTimelineColumn _
  · exact lawful_compareNetworkColumn _
  · exact lawful_compareAlertColumn _
  · exact lawful_zero
  · exact lawful_zero

end

/-! ## The rows -/

/-- The index is one of the history, of an event that the column can compare. -/
def ComparableAt (w : Win32) (store : EventStore) (column : ℤ) (index : ℕ) : Prop :=
  index < store.eventCount ∧ Comparable w column (store.events.getD index .zero)

/-- On such rows the comparison is by the column and then by the sequence number. -/
lemma compareEventItems_eq (w : Win32) (store : EventStore) (sort : SortState) {i j : ℕ}
    (hi : i < store.eventCount) (hj : j < store.eventCount) :
    compareEventItems w store sort i j =
      if sort.ascending then
        lexicographic (compareColumn w sort) (fun l r => compareNumbers l.sequence r.sequence)
          (store.events.getD i .zero) (store.events.getD j .zero)
      else
        -lexicographic (compareColumn w sort) (fun l r => compareNumbers l.sequence r.sequence)
          (store.events.getD i .zero) (store.events.getD j .zero) := by
  have hin : ¬ (i ≥ store.eventCount ∨ j ≥ store.eventCount) := by omega
  simp only [compareEventItems, if_neg hin]
  rfl

/-- **The order of a table is lawful**, whatever it is sorted by. -/
theorem lawful_compareEventItems [Std.TransCmp w.compareStringOrdinal] (store : EventStore)
    (sort : SortState) :
    Lawful (ComparableAt w store sort.column) (compareEventItems w store sort) := by
  have hrows := ((lawful_compareColumn (w := w) sort).lexicographic
    (lawful_byNumber TraceGlassEvent.sequence)).comap fun index => store.events.getD index .zero
  cases hascending : sort.ascending with
  | true =>
    refine hrows.congr (fun _ h => h.2) fun i j hi hj => ?_
    rw [compareEventItems_eq w store sort hi.1 hj.1, hascending]
    rfl
  | false =>
    refine hrows.neg.congr (fun _ h => h.2) fun i j hi hj => ?_
    rw [compareEventItems_eq w store sort hi.1 hj.1, hascending]
    rfl

/-- Two rows never tie. -/
lemma eq_of_compareEventItems_eq_zero {store : EventStore} (h : Sequenced store)
    {sort : SortState} {i j : ℕ} (hi : i < store.eventCount) (hj : j < store.eventCount)
    (hzero : compareEventItems w store sort i j = 0) : i = j := by
  have hlex : lexicographic (compareColumn w sort) (fun l r => compareNumbers l.sequence r.sequence)
      (store.events.getD i .zero) (store.events.getD j .zero) = 0 := by
    rw [compareEventItems_eq w store sort hi hj] at hzero
    split at hzero
    · exact hzero
    · exact neg_eq_zero.mp hzero
  rw [Comparator.lexicographic] at hlex
  split at hlex
  · have hsequence := congrArg UInt64.toNat (compareNumbers_eq_zero_iff.mp hlex)
    rw [h.sequence_eq i hi, h.sequence_eq j hj] at hsequence
    omega
  · next hne => exact absurd hlex hne

/-! ## Longer histories -/

section
variable {store after : EventStore}

lemma getD_of_longer (h : store.events <+: after.events) {index : ℕ}
    (hindex : index < store.eventCount) :
    after.events.getD index .zero = store.events.getD index .zero := by
  obtain ⟨more, hmore⟩ := h
  rw [← hmore]
  exact List.getD_append _ _ _ _ hindex

/-- Two rows keep their order when the history grows. -/
lemma compareEventItems_of_longer (h : store.events <+: after.events) (sort : SortState) {i j : ℕ}
    (hi : i < store.eventCount) (hj : j < store.eventCount) :
    compareEventItems w after sort i j = compareEventItems w store sort i j := by
  have hcount : store.eventCount ≤ after.eventCount := h.length_le
  rw [compareEventItems_eq w after sort (by omega) (by omega),
    compareEventItems_eq w store sort hi hj, getD_of_longer h hi, getD_of_longer h hj]

end

end TraceGlass
