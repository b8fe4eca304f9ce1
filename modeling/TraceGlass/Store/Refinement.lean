import TraceGlass.Store.Counts
import TraceGlass.Store.Table

/-!
# The store refines the identity table

`EventStore.table` forgets everything about a process record but its slot.  One call of
`event_store_add` is one `Table.apply` of the event's report, whatever the rest of the record and
the event hold: `table_eventStoreAdd` says so under any allocation outcome, and
`eventStoreAdd_succeed` is the exact statement when the reservations succeed.  Runs follow, for the
table (`table_addEvents`) and for the reports in the history (`historyReports_addEvents`).
-/

namespace TraceGlass

/-- The slot of a record. -/
def ProcessRecord.slot (record : ProcessRecord) : Slot := ⟨record.key, record.active⟩

/-- The identity table of a store. -/
def EventStore.table (store : EventStore) : Table := store.processes.map ProcessRecord.slot

/-- The report a START or STOP event makes; other events make none. -/
def reportOf (event : TraceGlassEvent) : Option Report :=
  match event.type with
  | .processStart => some ⟨.start, event.process⟩
  | .processStop => some ⟨.stop, event.process⟩
  | .network | .file | .registry | .alert => none

/-- The reports of a list of events, in order. -/
def reportsOf (events : List TraceGlassEvent) : List Report := events.filterMap reportOf

/-- What an event does to a table, and whether it is accepted. -/
def Table.add (table : Table) (event : TraceGlassEvent) : Table × Bool :=
  match reportOf event with
  | some report => table.apply report
  | none => (table, true)

@[simp] lemma reportOf_stamped (store : EventStore) (event : TraceGlassEvent) :
    reportOf (stamped store event) = reportOf event := rfl

lemma reportOf_start {event : TraceGlassEvent} (h : event.type = .processStart) :
    reportOf event = some ⟨.start, event.process⟩ := by
  simp [reportOf, h]

lemma reportOf_stop {event : TraceGlassEvent} (h : event.type = .processStop) :
    reportOf event = some ⟨.stop, event.process⟩ := by
  simp [reportOf, h]

/-! ## Finding and updating commute with forgetting -/

lemma eventStoreFindProcess_eq_find (store : EventStore) (key : ProcessKey) :
    eventStoreFindProcess store key = store.table.find key := by
  rw [eventStoreFindProcess_eq_backScan, EventStore.table, Table.find, BackScan.backScan_map]
  rfl

lemma EventStore.slot_record {store : EventStore} {index : ℕ}
    (h : index < store.processes.length) :
    store.table.slot index = (store.record index).slot := by
  simp [EventStore.table, Table.slot, EventStore.record, h]

lemma slot_updateRecordFromEvent (record : ProcessRecord) (event : TraceGlassEvent) :
    (updateRecordFromEvent record event).slot = record.slot.learn event.process := by
  unfold updateRecordFromEvent Slot.learn ProcessRecord.slot
  split <;> simp_all

lemma key_newRecord (event : TraceGlassEvent) : (newRecord event).key = event.process := by
  simp only [newRecord, updateRecordFromEvent]
  split <;> rfl

/-! ## The two halves of a call -/

/-- Staging leaves the history alone. -/
lemma Staging.history_eq {alloc : ReallocOutcome} {store store' : EventStore}
    {event : TraceGlassEvent} {staged : Staged} (h : Staging alloc store event staged)
    (hs : (∃ ok, staged = .returned ok store') ∨ staged = .staged store') :
    store'.events = store.events ∧ store'.eventCapacity = store.eventCapacity ∧
      store'.nextSequence = store.nextSequence := by
  cases h <;> rcases hs with ⟨ok, hs⟩ | hs <;> cases hs <;> exact ⟨rfl, rfl, rfl⟩

lemma table_openedStore (store : EventStore) (capacity : ℕ) (event : TraceGlassEvent) :
    (openedStore store capacity event).table = store.table ++ [⟨event.process, true⟩] := by
  simp [openedStore, EventStore.table, ProcessRecord.slot, key_newRecord]

lemma table_stoppedStore (store : EventStore) (capacity : ℕ) (event : TraceGlassEvent) :
    (stoppedStore store capacity event).table = store.table ++ [⟨event.process, false⟩] := by
  simp [stoppedStore, EventStore.table, ProcessRecord.slot, key_newRecord]

/-- The table after a branch that goes on to the history. -/
lemma Staging.table_staged {alloc : ReallocOutcome} {store store' : EventStore}
    {event : TraceGlassEvent} (h : Staging alloc store event (.staged store')) :
    store.table.add event = (store'.table, true) := by
  cases h with
  | startOpened htype hfind =>
    rw [eventStoreFindProcess_eq_find] at hfind
    simp [Table.add, reportOf_start htype, Table.apply, hfind, table_openedStore]
  | @stopClosed index htype hfind hactive =>
    have hlt := eventStoreFindProcess_lt hfind
    have hslot := slot_updateRecordFromEvent (store.record index) event
    rw [eventStoreFindProcess_eq_find] at hfind
    have hact : (store.record index).slot.active = true := hactive
    simp only [Table.add, reportOf_stop htype, Table.apply, hfind, EventStore.slot_record hlt,
      hact, if_true, Prod.mk.injEq, and_true]
    rw [← hslot, EventStore.table, EventStore.table, closedStore, List.map_set]
    rfl
  | stopRecorded htype hfind =>
    rw [eventStoreFindProcess_eq_find] at hfind
    simp [Table.add, reportOf_stop htype, Table.apply, hfind, table_stoppedStore]
  | network htype | alert htype => simp [Table.add, reportOf, htype, EventStore.table]
  | other htype => rcases htype with htype | htype <;> simp [Table.add, reportOf, htype]

/-- The table after an early return with `TRUE`. -/
lemma Staging.table_returned {alloc : ReallocOutcome} {store store' : EventStore}
    {event : TraceGlassEvent} (h : Staging alloc store event (.returned true store')) :
    store.table.add event = (store'.table, false) := by
  cases h with
  | @startCoalesced index htype hfind =>
    have hlt := eventStoreFindProcess_lt hfind
    have hslot := slot_updateRecordFromEvent (store.record index) event
    rw [eventStoreFindProcess_eq_find] at hfind
    simp only [Table.add, reportOf_start htype, Table.apply, hfind, EventStore.slot_record hlt]
    rw [← hslot, EventStore.table, EventStore.table, mergeRecord, List.map_set]
  | stopIgnored htype hfind hactive =>
    have hlt := eventStoreFindProcess_lt hfind
    rw [eventStoreFindProcess_eq_find] at hfind
    have hact : (store.record _).slot.active = false := hactive
    simp [Table.add, reportOf_stop htype, Table.apply, hfind, EventStore.slot_record hlt, hact]

/-- An early return with `FALSE` has changed nothing. -/
lemma Staging.eq_of_returned_false {alloc : ReallocOutcome} {store store' : EventStore}
    {event : TraceGlassEvent} (h : Staging alloc store event (.returned false store')) :
    store' = store := by
  cases h <;> rfl

lemma table_appendedStore (store : EventStore) (capacity : ℕ) (event : TraceGlassEvent) :
    (appendedStore store capacity event).table = store.table := rfl

/-! ## One call -/

/-- **A call leaves the table alone or applies the event to it.** -/
theorem table_eventStoreAdd (alloc : ReallocOutcome) (store : EventStore)
    (event : TraceGlassEvent) :
    (eventStoreAdd alloc store event).store.table = store.table ∨
      (eventStoreAdd alloc store event).store.table = (store.table.add event).1 := by
  refine eventStoreAdd_preserves (I := fun s => s.table = store.table ∨
    s.table = (store.table.add event).1) ?_ ?_ ?_
  · intro ok s hstage
    cases ok with
    | false => exact .inl (by rw [hstage.eq_of_returned_false])
    | true => exact .inr (by rw [hstage.table_returned])
  · intro s hstage
    exact .inr (by rw [hstage.table_staged])
  · intro s capacity hs _
    rwa [table_appendedStore]

lemma reserveProcesses_realloc_ok {store : EventStore} (h : ReservationsSucceed store) :
    reserveProcesses ReallocOutcome.succeed.processes store (sizeAdd store.processCount 1) ≠
      none := by
  have := h.1
  intro hnone
  simp only [ReallocOutcome.succeed] at hnone
  simp [hnone] at this

/-- Whether the history can grow depends on its length and capacity only. -/
lemma reserveEvents_isSome_congr {store store' : EventStore} (realloc : Bool)
    (hevents : store'.events = store.events)
    (hcapacity : store'.eventCapacity = store.eventCapacity) :
    (reserveEvents realloc store' (sizeAdd store'.eventCount 1)).isSome =
      (reserveEvents realloc store (sizeAdd store.eventCount 1)).isSome := by
  simp [reserveEvents, EventStore.eventCount, hevents, hcapacity]

/-- **One call whose reservations succeed.**  The table and the verdict are those of `Table.add`,
and the history grows by the event exactly when it is accepted. -/
theorem eventStoreAdd_succeed {store : EventStore} (h : ReservationsSucceed store)
    (event : TraceGlassEvent) :
    (eventStoreAdd .succeed store event).ok = true ∧
    (eventStoreAdd .succeed store event).store.table = (store.table.add event).1 ∧
    (eventStoreAdd .succeed store event).accepted = (store.table.add event).2 ∧
    (eventStoreAdd .succeed store event).store.events =
      store.events ++ if (store.table.add event).2 then [stamped store event] else [] := by
  have hcase := eventStoreAdd_case .succeed store event
  generalize eventStoreAdd .succeed store event = result at hcase
  cases hcase with
  | @returned ok store' hstage =>
    have hhist := hstage.history_eq (.inl ⟨ok, rfl⟩)
    cases ok with
    | false =>
      cases hstage with
      | startUnreserved _ _ hreserve => exact absurd hreserve (reserveProcesses_realloc_ok h)
      | stopUnreserved _ _ hreserve => exact absurd hreserve (reserveProcesses_realloc_ok h)
    | true => simp [hstage.table_returned, hhist.1]
  | @appended store' result hstage happend =>
    have hhist := hstage.history_eq (.inr rfl)
    cases happend with
    | unreserved hreserve =>
      have hok := reserveEvents_isSome_congr true hhist.1 hhist.2.1
      rw [show reserveEvents true store' _ = none from hreserve, h.2] at hok
      cases hok
    | @appended capacity =>
      have hstamp : stamped store' event = stamped store event := by
        simp [stamped, hhist.2.2]
      refine ⟨rfl, ?_, ?_, ?_⟩
      · rw [table_appendedStore, hstage.table_staged]
      · rw [hstage.table_staged]
      · rw [hstage.table_staged, if_pos rfl, ← hhist.1, ← hstamp]
        rfl

/-- What a call does to the history and to the event it is given, whatever the allocator does. -/
lemma eventStoreAdd_history (alloc : ReallocOutcome) (store : EventStore)
    (event : TraceGlassEvent) :
    ((eventStoreAdd alloc store event).accepted = false ∧
      (eventStoreAdd alloc store event).event = event ∧
      (eventStoreAdd alloc store event).store.events = store.events ∧
      (eventStoreAdd alloc store event).store.nextSequence = store.nextSequence) ∨
    ((eventStoreAdd alloc store event).accepted = true ∧
      (eventStoreAdd alloc store event).ok = true ∧
      (eventStoreAdd alloc store event).event = stamped store event ∧
      (eventStoreAdd alloc store event).store.events = store.events ++ [stamped store event] ∧
      (eventStoreAdd alloc store event).store.nextSequence = store.nextSequence + 1) := by
  have hcase := eventStoreAdd_case alloc store event
  generalize eventStoreAdd alloc store event = result at hcase
  cases hcase with
  | @returned ok store' hstage =>
    obtain ⟨hevents, -, hsequence⟩ := hstage.history_eq (.inl ⟨ok, rfl⟩)
    exact .inl ⟨rfl, rfl, hevents, hsequence⟩
  | @appended store' result hstage happend =>
    obtain ⟨hevents, -, hsequence⟩ := hstage.history_eq (.inr rfl)
    cases happend with
    | unreserved => exact .inl ⟨rfl, rfl, hevents, hsequence⟩
    | appended =>
      have hstamp : stamped store' event = stamped store event := by simp [stamped, hsequence]
      refine .inr ⟨rfl, rfl, hstamp, ?_, ?_⟩
      · rw [appendedStore, hstamp, hevents]
      · rw [appendedStore, hsequence]

/-- An event that is no report is accepted. -/
lemma accepted_of_reportOf_none {store : EventStore} (h : ReservationsSucceed store)
    {event : TraceGlassEvent} (hreport : reportOf event = none) :
    (eventStoreAdd .succeed store event).accepted = true := by
  rw [(eventStoreAdd_succeed h event).2.2.1, Table.add, hreport]

/-! ## Runs -/

lemma addEvents_snoc (store : EventStore) (events : List TraceGlassEvent)
    (event : TraceGlassEvent) :
    addEvents store (events ++ [event]) = addEvent (addEvents store events) event := by
  simp [addEvents]

lemma addEvents_append (store : EventStore) (events events' : List TraceGlassEvent) :
    addEvents store (events ++ events') = addEvents (addEvents store events) events' :=
  List.foldl_append

lemma allocationsSucceed_append {store : EventStore} {events events' : List TraceGlassEvent} :
    AllocationsSucceed store (events ++ events') ↔
      AllocationsSucceed store events ∧ AllocationsSucceed (addEvents store events) events' :=
  Machine.along_append store events events'

lemma table_add_eq (table : Table) (event : TraceGlassEvent) :
    (table.add event).1 = table.applyAll (reportsOf [event]) := by
  cases h : reportOf event <;> simp [Table.add, reportsOf, h]

lemma reportsOf_append (events events' : List TraceGlassEvent) :
    reportsOf (events ++ events') = reportsOf events ++ reportsOf events' :=
  List.filterMap_append

/-- The table of a run is the run of the table. -/
theorem table_addEvents {store : EventStore} {events : List TraceGlassEvent}
    (h : AllocationsSucceed store events) :
    (addEvents store events).table = store.table.applyAll (reportsOf events) := by
  induction events using List.reverseRecOn with
  | nil => rfl
  | append_singleton events event ih =>
    obtain ⟨hpre, hlast⟩ := allocationsSucceed_append.mp h
    rw [addEvents_snoc, addEvent, (eventStoreAdd_succeed hlast.1 event).2.1, ih hpre,
      table_add_eq, reportsOf_append, Table.applyAll_append]

namespace Table

/-- The reports of a list that are accepted, in order. -/
def accepted : Table → List Report → List Report
  | _, [] => []
  | table, report :: reports =>
      if (table.apply report).2 then report :: accepted (table.apply report).1 reports
      else accepted (table.apply report).1 reports

lemma accepted_append (table : Table) (reports reports' : List Report) :
    table.accepted (reports ++ reports') =
      table.accepted reports ++ (table.applyAll reports).accepted reports' := by
  induction reports generalizing table with
  | nil => rfl
  | cons report reports ih =>
    simp only [List.cons_append, accepted, ih, applyAll_cons]
    split <;> rfl

/-- Acceptance, too, is decided one PID at a time. -/
lemma filter_accepted (table : Table) (reports : List Report) (pid : DWORD) :
    (table.accepted reports).filter (fun r => r.key.pid == pid) =
      (table.ofPid pid).accepted (reports.filter fun r => r.key.pid == pid) := by
  induction reports generalizing table with
  | nil => rfl
  | cons report reports ih =>
    by_cases hpid : report.key.pid = pid
    · subst hpid
      rw [List.filter_cons_of_pos (by simp)]
      simp only [accepted, ofPid_apply]
      split
      · rw [List.filter_cons_of_pos (by simp), ih]
      · rw [ih]
    · rw [List.filter_cons_of_neg (by simpa using hpid)]
      simp only [accepted]
      rw [← ofPid_apply_of_ne hpid]
      split
      · rw [List.filter_cons_of_neg (by simpa using hpid), ih]
      · rw [ih]

end Table

/-- The reports in the history of a store. -/
def EventStore.historyReports (store : EventStore) : List Report := reportsOf store.events

/-- The history of a run gains the accepted reports, in order. -/
theorem historyReports_addEvents {store : EventStore} {events : List TraceGlassEvent}
    (h : AllocationsSucceed store events) :
    (addEvents store events).historyReports =
      store.historyReports ++ store.table.accepted (reportsOf events) := by
  induction events using List.reverseRecOn with
  | nil => simp [addEvents, reportsOf, Table.accepted]
  | append_singleton events event ih =>
    obtain ⟨hpre, hlast⟩ := allocationsSucceed_append.mp h
    have hadd := eventStoreAdd_succeed hlast.1 event
    rw [addEvents_snoc, EventStore.historyReports, addEvent, hadd.2.2.2, reportsOf_append]
    rw [show reportsOf (addEvents store events).events = _ from ih hpre, table_addEvents hpre,
      reportsOf_append, Table.accepted_append, ← List.append_assoc]
    congr 1
    cases hreport : reportOf event with
    | none => simp [Table.add, hreport, reportsOf, Table.accepted]
    | some report =>
      simp only [Table.add, hreport, reportsOf, List.filterMap_cons, List.filterMap_nil,
        Table.accepted]
      split <;> simp [hreport]

end TraceGlass
