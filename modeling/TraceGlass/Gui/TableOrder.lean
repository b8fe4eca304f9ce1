import TraceGlass.Gui.Order

/-!
# A table is sorted one way

Over the events the system can give a time, which is all of them where the timestamps are valid,
`compare_event_items` is a strict total order of the rows, whatever column the table is sorted by.
So the rows have one sorted order, and turning the direction around turns that order around.
-/

namespace TraceGlass

open Comparator SortedArray

variable {w : Win32} {store : EventStore} {sort : SortState}

/-- The other direction. -/
def SortState.turned (sort : SortState) : SortState := { sort with ascending := !sort.ascending }

/-- It answers the opposite. -/
lemma compareEventItems_turned {i j : ℕ} (hi : i < store.eventCount) (hj : j < store.eventCount) :
    compareEventItems w store sort.turned i j = -compareEventItems w store sort i j := by
  have hcolumn : compareColumn w sort.turned = compareColumn w sort := rfl
  rw [compareEventItems_eq w store sort.turned hi hj, compareEventItems_eq w store sort hi hj,
    hcolumn]
  cases hascending : sort.ascending <;> simp [SortState.turned, hascending]

/-- `SystemTimeToFileTime` converts every valid time. -/
def Win32.ConvertsValidTimes (w : Win32) : Prop :=
  ∀ time : SystemTime, time.Valid → (w.systemTimeToFileTime time).isSome = true

/-- As the sample does, and no other time. -/
lemma Win32.sample_convertsValidTimes (time : SystemTime) :
    (Win32.sample.systemTimeToFileTime time).isSome = true ↔ time.Valid := by
  simp [Win32.sample, SystemTime.toFileTime]

/-- All events have valid timestamps. -/
def ValidTimes (store : EventStore) : Prop := ∀ event ∈ store.events, event.timestamp.Valid

instance (store : EventStore) : Decidable (ValidTimes store) :=
  inferInstanceAs (Decidable (∀ event ∈ store.events, _))

lemma comparableAt_of_validTimes (hconverts : w.ConvertsValidTimes) (hvalid : ValidTimes store)
    {index : ℕ} (hindex : index < store.eventCount) (column : ℤ) :
    ComparableAt w store column index := by
  refine ⟨hindex, fun _ => hconverts _ (hvalid _ ?_)⟩
  rw [List.getD_eq_getElem _ _ hindex]
  exact List.getElem_mem hindex

section
variable [Std.TransCmp w.compareStringOrdinal]

/-- Sorted rows, and the same rows sorted the other way. -/
lemma sort_turned_eq_reverse (hstore : Reachable store) {rows : List ℕ}
    (hcomparable : ∀ i ∈ rows, ComparableAt w store sort.column i) (sorter : CompareSort ℕ) :
    sorter.sort (compareEventItems w store sort.turned) rows =
      (sorter.sort (compareEventItems w store sort) rows).reverse := by
  have hlawful := lawful_compareEventItems (w := w) store sort
  have hturned := lawful_compareEventItems (w := w) store sort.turned
  have hperm := sorter.perm (compareEventItems w store sort) rows
  have hpermTurned := sorter.perm (compareEventItems w store sort.turned) rows
  have hmem : ∀ i ∈ sorter.sort (compareEventItems w store sort.turned) rows,
      ComparableAt w store sort.turned.column i := fun i hi =>
    hcomparable i (hpermTurned.mem_iff.mp hi)
  refine eq_of_perm_of_sorted hturned
    (hpermTurned.trans (hperm.symm.trans (List.reverse_perm _).symm)) hmem
    (fun i j hi hj hzero => eq_of_compareEventItems_eq_zero hstore.sequenced hi.1 hj.1 hzero)
    (sorter.sorted _ _ (hturned.consistentOn hcomparable)) ?_
  rw [List.pairwise_reverse]
  refine (sorter.sorted _ _ (hlawful.consistentOn hcomparable)).imp_of_mem fun {i j} hi hj hij => ?_
  have hci := hcomparable i (hperm.mem_iff.mp hi)
  have hcj := hcomparable j (hperm.mem_iff.mp hj)
  rw [compareEventItems_turned hcj.1 hci.1, hlawful.swap i j hci hcj, neg_neg]
  exact hij

/-- **The order of a table is a strict total order of its rows**, for every view, column and
direction: swapping the rows turns the sign around, the order is transitive, and no two rows tie.
So any rows have one sorted order, and the other direction has them in reverse. -/
theorem compareEventItems_strictOrder (hconverts : w.ConvertsValidTimes) (hstore : Reachable store)
    (hvalid : ValidTimes store) (sort : SortState) :
    (∀ i < store.eventCount, ∀ j < store.eventCount,
      compareEventItems w store sort j i = -compareEventItems w store sort i j) ∧
    (∀ i < store.eventCount, ∀ j < store.eventCount, ∀ k < store.eventCount,
      compareEventItems w store sort i j < 0 → compareEventItems w store sort j k < 0 →
        compareEventItems w store sort i k < 0) ∧
    (∀ i < store.eventCount, ∀ j < store.eventCount,
      compareEventItems w store sort i j = 0 ↔ i = j) ∧
    ∀ rows : List ℕ, (∀ i ∈ rows, i < store.eventCount) → ∀ sorter : CompareSort ℕ,
      ((sorter.sort (compareEventItems w store sort) rows).Pairwise fun i j =>
        compareEventItems w store sort i j ≤ 0) ∧
      (∀ order : List ℕ, order.Perm rows →
        (order.Pairwise fun i j => compareEventItems w store sort i j ≤ 0) →
          order = sorter.sort (compareEventItems w store sort) rows) ∧
      sorter.sort (compareEventItems w store { sort with ascending := !sort.ascending }) rows =
        (sorter.sort (compareEventItems w store sort) rows).reverse := by
  have hlawful := lawful_compareEventItems (w := w) store sort
  have hat : ∀ i < store.eventCount, ComparableAt w store sort.column i := fun i hi =>
    comparableAt_of_validTimes hconverts hvalid hi sort.column
  refine ⟨fun i hi j hj => hlawful.swap i j (hat i hi) (hat j hj), fun i hi j hj k hk hij hjk => ?_,
    fun i hi j hj => ⟨eq_of_compareEventItems_eq_zero hstore.sequenced hi hj, ?_⟩,
    fun rows hrows sorter => ⟨?_, fun order hperm horder => ?_, ?_⟩⟩
  · exact hlawful.lt_of_lt_of_le (hat i hi) (hat j hj) (hat k hk) hij hjk.le
  · rintro rfl
    have hswap := hlawful.swap i i (hat i hi) (hat i hi)
    omega
  · exact sorter.sorted _ _ (hlawful.consistentOn fun i hi => hat i (hrows i hi))
  · refine eq_of_perm_of_sorted hlawful (hperm.trans (sorter.perm _ rows).symm)
      (fun i hi => hat i (hrows i (hperm.mem_iff.mp hi)))
      (fun i j hi hj hzero => eq_of_compareEventItems_eq_zero hstore.sequenced hi.1 hj.1 hzero)
      horder (sorter.sorted _ _ (hlawful.consistentOn fun i hi => hat i (hrows i hi)))
  · exact sort_turned_eq_reverse hstore (fun i hi => hat i (hrows i hi)) sorter

end

/-- Two connections of the first millisecond of 1601. -/
def firstConnections : EventStore :=
  addEvents eventStoreInitialize <| List.replicate 2
    { TraceGlassEvent.zero with type := .network, timestamp := ⟨1601, 1, 1, 1, 0, 0, 0, 0⟩ }

/-- The later one comes second, and first where the order is turned around. -/
theorem compareEventItems_strictOrder_firstConnections :
    compareEventItems .sample firstConnections ⟨0, true, true, .network⟩ 1 0 =
        -compareEventItems .sample firstConnections ⟨0, true, true, .network⟩ 0 1 ∧
      (CompareSort.insertion ℕ).sort
          (compareEventItems .sample firstConnections ⟨0, false, true, .network⟩) [0, 1] =
        ((CompareSort.insertion ℕ).sort
          (compareEventItems .sample firstConnections ⟨0, true, true, .network⟩)
          [0, 1]).reverse := by
  have hvalid : ValidTimes firstConnections := by decide
  have hconverts : Win32.sample.ConvertsValidTimes := fun time =>
    (Win32.sample_convertsValidTimes time).mpr
  obtain ⟨hswap, -, -, hsorted⟩ := compareEventItems_strictOrder (w := .sample) hconverts
    (reachable_eventStoreInitialize.addEvents _) hvalid ⟨0, true, true, .network⟩
  exact ⟨hswap 0 (by decide) 1 (by decide), (hsorted [0, 1] (by decide) (.insertion ℕ)).2.2⟩

end TraceGlass
