import TraceGlass.Store.Identity

/-!
# What a call does to the process records

A call of `event_store_add` leaves the table alone, merges the report into the record it finds, or
appends one record.  `RecordsAfter` is that inversion on whole records (`Table.Applied` sees only
their keys and flags); every fact about names, paths and parent keys is a case analysis over it.
-/

namespace TraceGlass

/-- The report is merged into the record at `index`. -/
def MergesAt (store : EventStore) (event : TraceGlassEvent) (index : ℕ) : Prop :=
  eventStoreFindProcess store event.process = some index ∧
    (event.type = .processStart ∨
      event.type = .processStop ∧ (store.record index).active = true)

instance (store : EventStore) (event : TraceGlassEvent) (index : ℕ) :
    Decidable (MergesAt store event index) :=
  inferInstanceAs (Decidable (_ ∧ _))

/-- The record at `index` after the report. -/
def mergedRecord (store : EventStore) (index : ℕ) (event : TraceGlassEvent) : ProcessRecord :=
  if event.type = .processStop then
    { updateRecordFromEvent (store.record index) event with
      active := false, stopTime := event.timestamp }
  else updateRecordFromEvent (store.record index) event

/-- The record a report no record answers to gets. -/
def addedRecord (event : TraceGlassEvent) : ProcessRecord :=
  if event.type = .processStop then
    { newRecord event with active := false, stopTime := event.timestamp }
  else { newRecord event with active := true, startTime := event.timestamp }

/-- The ways the process table can look after a call. -/
inductive RecordsAfter (store : EventStore) (event : TraceGlassEvent) : List ProcessRecord → Prop
  | kept (h : ∀ index, ¬ MergesAt store event index) : RecordsAfter store event store.processes
  | merged {index : ℕ} (h : MergesAt store event index) :
      RecordsAfter store event (store.processes.set index (mergedRecord store index event))
  | added (hreport : event.type = .processStart ∨ event.type = .processStop)
      (hfind : eventStoreFindProcess store event.process = none) :
      RecordsAfter store event (store.processes ++ [addedRecord event])

lemma MergesAt.lt {store : EventStore} {event : TraceGlassEvent} {index : ℕ}
    (h : MergesAt store event index) : index < store.processCount :=
  eventStoreFindProcess_lt h.1

lemma MergesAt.unique {store : EventStore} {event : TraceGlassEvent} {index index' : ℕ}
    (h : MergesAt store event index) (h' : MergesAt store event index') : index = index' :=
  Option.some.inj (h.1.symm.trans h'.1)

lemma not_mergesAt_of_find {store : EventStore} {event : TraceGlassEvent}
    (h : eventStoreFindProcess store event.process = none) (index : ℕ) :
    ¬ MergesAt store event index := by
  rintro ⟨hfind, -⟩
  rw [h] at hfind
  cases hfind

lemma not_mergesAt_of_type {store : EventStore} {event : TraceGlassEvent}
    (hstart : event.type ≠ .processStart) (hstop : event.type ≠ .processStop) (index : ℕ) :
    ¬ MergesAt store event index := by
  rintro ⟨-, htype | ⟨htype, -⟩⟩
  · exact hstart htype
  · exact hstop htype

/-- The first half of a call. -/
lemma Staging.recordsAfter {alloc : ReallocOutcome} {store store' : EventStore}
    {event : TraceGlassEvent} {staged : Staged} (h : Staging alloc store event staged)
    (hs : (∃ ok, staged = .returned ok store') ∨ staged = .staged store') :
    RecordsAfter store event store'.processes := by
  have hstore : ∀ s, ((∃ ok, Staged.returned ok s = staged) ∨ Staged.staged s = staged) →
      s = store' := by
    rintro s (⟨ok, rfl⟩ | rfl) <;> rcases hs with ⟨ok', hs⟩ | hs <;> cases hs <;> rfl
  cases h with
  | startCoalesced htype hfind =>
    obtain rfl := hstore _ (.inl ⟨_, rfl⟩)
    have hmerged : RecordsAfter store event _ := .merged ⟨hfind, .inl htype⟩
    rw [mergedRecord, if_neg (by rw [htype]; decide)] at hmerged
    exact hmerged
  | startUnreserved _ hfind | stopUnreserved _ hfind =>
    obtain rfl := hstore _ (.inl ⟨_, rfl⟩)
    exact .kept (not_mergesAt_of_find hfind)
  | stopIgnored htype hfind hactive =>
    obtain rfl := hstore _ (.inl ⟨_, rfl⟩)
    refine .kept ?_
    rintro index ⟨hfind', hstart | ⟨-, hlive⟩⟩
    · rw [htype] at hstart
      cases hstart
    · obtain rfl := Option.some.inj (hfind.symm.trans hfind')
      rw [hactive] at hlive
      cases hlive
  | startOpened htype hfind =>
    obtain rfl := hstore _ (.inr rfl)
    have hadded : RecordsAfter store event _ := .added (.inl htype) hfind
    rw [addedRecord, if_neg (by rw [htype]; decide)] at hadded
    exact hadded
  | stopClosed htype hfind hactive =>
    obtain rfl := hstore _ (.inr rfl)
    have hmerged : RecordsAfter store event _ := .merged ⟨hfind, .inr ⟨htype, hactive⟩⟩
    rw [mergedRecord, if_pos htype] at hmerged
    exact hmerged
  | stopRecorded htype hfind =>
    obtain rfl := hstore _ (.inr rfl)
    have hadded : RecordsAfter store event _ := .added (.inr htype) hfind
    rw [addedRecord, if_pos htype] at hadded
    exact hadded
  | network htype | alert htype =>
    obtain rfl := hstore _ (.inr rfl)
    exact .kept (not_mergesAt_of_type (by rw [htype]; decide) (by rw [htype]; decide))
  | other htype =>
    obtain rfl := hstore _ (.inr rfl)
    refine .kept (not_mergesAt_of_type ?_ ?_) <;> rcases htype with htype | htype <;> rw [htype] <;>
      decide

/-- **The records after a call**, whatever the allocator does. -/
theorem recordsAfter (alloc : ReallocOutcome) (store : EventStore) (event : TraceGlassEvent) :
    RecordsAfter store event (eventStoreAdd alloc store event).store.processes := by
  have hcase := eventStoreAdd_case alloc store event
  generalize eventStoreAdd alloc store event = result at hcase
  cases hcase with
  | @returned ok store' hstage => exact hstage.recordsAfter (.inl ⟨ok, rfl⟩)
  | appended hstage happend =>
    have hrecords := hstage.recordsAfter (.inr rfl)
    cases happend with
    | unreserved => exact hrecords
    | appended => exact hrecords

/-! ## The fields of the written record -/

section
variable (store : EventStore) (index : ℕ) (event : TraceGlassEvent)

lemma mergedRecord_key : (mergedRecord store index event).key =
    (updateRecordFromEvent (store.record index) event).key := by
  unfold mergedRecord
  split <;> rfl

lemma mergedRecord_parent : (mergedRecord store index event).parent =
    (updateRecordFromEvent (store.record index) event).parent := by
  unfold mergedRecord
  split <;> rfl

lemma mergedRecord_names :
    (mergedRecord store index event).name =
        (updateRecordFromEvent (store.record index) event).name ∧
    (mergedRecord store index event).parentName =
      (updateRecordFromEvent (store.record index) event).parentName ∧
    (mergedRecord store index event).path =
      (updateRecordFromEvent (store.record index) event).path := by
  unfold mergedRecord
  split <;> exact ⟨rfl, rfl, rfl⟩

end

/-- A merge keeps the PID, and a known creation time. -/
lemma MergesAt.key_eq {store : EventStore} {event : TraceGlassEvent} {index : ℕ}
    (h : MergesAt store event index) :
    (mergedRecord store index event).key.pid = (store.record index).key.pid ∧
      ((store.record index).key.creationTime ≠ 0 →
        (mergedRecord store index event).key = (store.record index).key) := by
  rw [mergedRecord_key]
  unfold updateRecordFromEvent
  by_cases hknown : event.process.creationTime = 0
  · simp [hknown]
  · rw [if_pos hknown]
    refine ⟨rfl, fun htime => ?_⟩
    rcases find_known h.1 hknown with hkey | ⟨hzero, -⟩
    · rw [hkey]
    · exact absurd hzero htime

/-- A record that is found matches the key, and it is active where it does not carry it. -/
lemma find_matches {store : EventStore} {key : ProcessKey} {index : ℕ}
    (h : eventStoreFindProcess store key = some index) :
    key.pid ≠ 0 ∧ processKeysMatch (store.record index).key key = true ∧
      ((store.record index).active = true ∨
        (store.record index).key = key ∧ key.creationTime ≠ 0) := by
  have hout := eventStoreFindProcess_outcome store key
  rw [h] at hout
  rw [EventStore.record]
  generalize store.processes = processes at hout
  cases hout with
  | @hit l x r hx =>
    simp only [exactMatch, Bool.and_eq_true, bne_iff_ne, beq_iff_eq] at hx
    obtain ⟨hpid, hmatch, htime, hknown⟩ := hx
    refine ⟨hpid, by simpa using hmatch, .inr ⟨?_, hknown⟩⟩
    simpa using ProcessKey.ext (processKeysMatch_iff.mp hmatch).1 htime
  | kept _ hx =>
    simp only [activeMatch, Bool.and_eq_true, bne_iff_ne] at hx
    exact ⟨hx.1, by simpa using hx.2.1, .inl (by simpa using hx.2.2)⟩

/-- A known key finds the one record that carries it. -/
lemma Reachable.find_exact {store : EventStore} (h : Reachable store) {j : ℕ}
    {record : ProcessRecord} (hj : store.processes[j]? = some record) (hpid : record.key.pid ≠ 0)
    (hknown : record.key.creationTime ≠ 0) : eventStoreFindProcess store record.key = some j := by
  have hmem := List.mem_of_getElem? hj
  cases hfind : eventStoreFindProcess store record.key with
  | none => exact absurd rfl (key_ne_of_find_none hfind hpid hknown record hmem)
  | some index =>
    have hlt := eventStoreFindProcess_lt hfind
    rcases find_known hfind hknown with hkey | ⟨-, hnone⟩
    · have hindex : store.processes[index]? = some (store.record index) := by
        simp [EventStore.record, hlt]
      rw [h.index_eq_of_key hpid hknown hindex hj hkey rfl]
    · exact absurd rfl (hnone record hmem)

/-! ## The records that were there before -/

section
variable {store : EventStore} {event : TraceGlassEvent} (alloc : ReallocOutcome)

lemma record_of_mergesAt {index : ℕ} (h : MergesAt store event index) :
    (eventStoreAdd alloc store event).store.record index = mergedRecord store index event := by
  have hafter := recordsAfter alloc store event
  generalize (eventStoreAdd alloc store event).store = after at hafter
  rw [EventStore.record]
  generalize after.processes = processes at hafter
  cases hafter with
  | kept hkept => exact absurd h (hkept index)
  | merged h' =>
    obtain rfl := h.unique h'
    have hlt := h.lt
    simp only [EventStore.processCount] at hlt
    simp [hlt]
  | added _ hfind => exact absurd h (not_mergesAt_of_find hfind index)

lemma record_of_not_mergesAt {index : ℕ} (hlt : index < store.processCount)
    (h : ¬ MergesAt store event index) :
    (eventStoreAdd alloc store event).store.record index = store.record index := by
  have hafter := recordsAfter alloc store event
  generalize (eventStoreAdd alloc store event).store = after at hafter
  simp only [EventStore.processCount] at hlt
  rw [EventStore.record]
  generalize after.processes = processes at hafter
  cases hafter with
  | kept => rfl
  | @merged index' h' =>
    have hne : index' ≠ index := by
      rintro rfl
      exact h h'
    simp [EventStore.record, List.getElem?_set_ne hne]
  | added => simp [EventStore.record, List.getElem?_append_left hlt]

lemma processCount_le_eventStoreAdd :
    store.processCount ≤ (eventStoreAdd alloc store event).store.processCount := by
  have hafter := recordsAfter alloc store event
  generalize (eventStoreAdd alloc store event).store = after at hafter
  simp only [EventStore.processCount]
  generalize after.processes = processes at hafter
  cases hafter with
  | kept => exact Nat.le_refl _
  | merged => simp
  | added => simp

lemma pid_eventStoreAdd {index : ℕ} (hlt : index < store.processCount) :
    ((eventStoreAdd alloc store event).store.record index).key.pid =
      (store.record index).key.pid := by
  by_cases h : MergesAt store event index
  · rw [record_of_mergesAt alloc h, h.key_eq.1]
  · rw [record_of_not_mergesAt alloc hlt h]

/-- A known key stays. -/
lemma key_eventStoreAdd {index : ℕ} (hlt : index < store.processCount)
    (hknown : (store.record index).key.creationTime ≠ 0) :
    ((eventStoreAdd alloc store event).store.record index).key = (store.record index).key := by
  by_cases h : MergesAt store event index
  · rw [record_of_mergesAt alloc h, h.key_eq.2 hknown]
  · rw [record_of_not_mergesAt alloc hlt h]

end

end TraceGlass
