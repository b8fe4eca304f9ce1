import TraceGlass.Store.Refinement
import TraceGlass.Lib.Lists

/-!
# Process identity

Matching treats an unknown creation time as a wildcard, which is not transitive, and a matched
record has its key rewritten in place.  `Slot.Apart` is the symmetric relation that holds between
any two slots of a reachable table all the same: one PID never has the same known key twice, and
two active slots of a PID both know their creation time.

`Table.WellKeyed` is that relation over the table and `WellKeyed.apply` its preservation by one
report.  `Slot.Evolves` is what a report may do to a slot that is already there.
-/

namespace TraceGlass

namespace Slot

/-- What holds between two different slots of a reachable table. -/
def Apart (a b : Slot) : Prop :=
  a.key.pid ≠ 0 → a.key.pid = b.key.pid →
    (a.key.creationTime = b.key.creationTime → a.key.creationTime = 0) ∧
      (a.active = true → b.active = true → a.key.creationTime ≠ 0 ∧ b.key.creationTime ≠ 0)

lemma Apart.symm {a b : Slot} (h : a.Apart b) : b.Apart a := by
  intro hpid heq
  obtain ⟨hkey, hact⟩ := h (heq ▸ hpid) heq.symm
  exact ⟨fun ht => ht ▸ hkey ht.symm, fun hb ha => (hact ha hb).symm⟩

/-- The change of one slot under one report: the PID stays, a known creation time stays, and an
inactive slot stays inactive. -/
structure Evolves (a b : Slot) : Prop where
  pid_eq : b.key.pid = a.key.pid
  creationTime_eq : a.key.creationTime ≠ 0 → b.key.creationTime = a.key.creationTime
  inactive : a.active = false → b.active = false

lemma Evolves.refl (a : Slot) : a.Evolves a := ⟨rfl, fun _ => rfl, id⟩

end Slot

namespace Table

/-- Every two slots of the table are apart. -/
def WellKeyed (table : Table) : Prop := table.Pairwise Slot.Apart

/-- The slot a known key refers to already carries it, or its creation time is unknown and no slot
carries the key. -/
lemma Refers.known {table r : Table} {key : ProcessKey} {s : Slot} (h : Refers table key s r)
    (hknown : key.creationTime ≠ 0) :
    s.key = key ∨ (s.key.creationTime = 0 ∧ s.active = true ∧ ∀ y ∈ table, y.key ≠ key) := by
  rcases h with ⟨hs, -⟩ | ⟨hnone, hs, -⟩
  · exact .inl (Slot.exact_iff.mp hs).2.2
  · obtain ⟨hpid, hpideq, htime, hact⟩ := Slot.fallback_iff.mp hs
    have hne : ∀ y ∈ table, y.key ≠ key := by
      intro y hy heq
      have := hnone y hy
      rw [Slot.exact_iff.mpr ⟨hpid, hknown, heq⟩] at this
      cases this
    rcases htime with heq | hzero | hzero
    · exact .inl (ProcessKey.ext hpideq heq)
    · exact .inr ⟨hzero, hact, hne⟩
    · exact absurd hzero hknown

/-- The slot a report lands on only evolves. -/
lemma Refers.evolves {table r : Table} {key : ProcessKey} {s : Slot} (h : Refers table key s r)
    {active : Bool} (hactive : s.active = false → active = false) :
    s.Evolves { s.learn key with active := active } := by
  refine ⟨Slot.learn_pid, ?_, hactive⟩
  intro hs
  by_cases hknown : key.creationTime = 0
  · simp [Slot.learn_of_unknown hknown]
  · rcases h.known hknown with heq | ⟨hzero, -⟩
    · simp only [Slot.learn_creationTime hknown, heq]
    · exact absurd hzero hs

/-- What an unmatched key says about the slots of its PID. -/
lemma Unmatched.slots {table : Table} {key : ProcessKey} (h : Unmatched table key)
    (hpid : key.pid ≠ 0) {y : Slot} (hy : y ∈ table) (heq : y.key.pid = key.pid) :
    (y.key.creationTime = key.creationTime → key.creationTime = 0) ∧
      (y.active = true → y.key.creationTime ≠ 0 ∧ key.creationTime ≠ 0) := by
  have hexact := h.1 y hy
  have hfall := h.2 y hy
  constructor
  · intro htime
    by_contra hknown
    have hkey : y.key = key := ProcessKey.ext heq htime
    rw [Slot.exact_iff.mpr ⟨hpid, hknown, hkey⟩] at hexact
    cases hexact
  · intro hact
    constructor <;> intro hzero
    · rw [Slot.fallback_iff.mpr ⟨hpid, heq, .inr (.inl hzero), hact⟩] at hfall
      cases hfall
    · rw [Slot.fallback_iff.mpr ⟨hpid, heq, .inr (.inr hzero), hact⟩] at hfall
      cases hfall

/-- A new slot for an unmatched key is apart from every slot there is. -/
lemma Unmatched.apart {table : Table} {key : ProcessKey} (h : Unmatched table key) (active : Bool)
    {y : Slot} (hy : y ∈ table) : Slot.Apart ⟨key, active⟩ y := by
  intro hpid heq
  obtain ⟨htime, hact⟩ := h.slots hpid hy heq.symm
  exact ⟨fun ht => htime ht.symm, fun _ hy => (hact hy).symm⟩

/-- The slot a report lands on stays apart from every other. -/
lemma Refers.apart {l r : Table} {key : ProcessKey} {s : Slot}
    (h : Refers (l ++ s :: r) key s r) {active : Bool} (hactive : active = true → s.active = true)
    {y : Slot} (hy : y ∈ l ++ r) (hsy : s.Apart y) :
    Slot.Apart { s.learn key with active := active } y := by
  intro hpid heq
  simp only [Slot.learn_pid] at hpid heq
  obtain ⟨htime, hact⟩ := hsy hpid heq
  by_cases hknown : key.creationTime = 0
  · rw [Slot.learn_of_unknown hknown]
    exact ⟨htime, fun ha => hact (hactive ha)⟩
  · rw [Slot.learn_creationTime hknown]
    have hmem : y ∈ l ++ s :: r := by
      rcases List.mem_append.mp hy with hy | hy <;> simp [hy]
    rcases h.known hknown with hkey | ⟨hzero, hsact, hnone⟩
    · rw [← hkey]
      exact ⟨htime, fun ha => hact (hactive ha)⟩
    · -- the slot was the only active one of its PID, and no slot carried the key it learns
      refine ⟨fun ht => absurd ?_ (hnone y hmem), fun ha hy => ?_⟩
      · exact ProcessKey.ext (heq.symm.trans h.pid) ht.symm
      · exact absurd hzero (hact hsact hy).1

/-- **One report keeps the slots apart.** -/
theorem WellKeyed.apply {table : Table} (h : table.WellKeyed) (report : Report) :
    WellKeyed (table.apply report).1 := by
  have happ := table.applied report
  generalize table.apply report = result at happ
  cases happ with
  | @coalesced l r s key hsplit hs =>
    subst hsplit
    refine ListLib.pairwise_replace Slot.Apart.symm h fun y hy hsy => ?_
    exact Slot.learn_self s key ▸ hs.apart id hy hsy
  | opened hnone => exact ListLib.pairwise_snoc Slot.Apart.symm h fun y hy => hnone.apart true hy
  | ignored => exact h
  | closed hsplit hs =>
    subst hsplit
    exact ListLib.pairwise_replace Slot.Apart.symm h fun y hy hsy =>
      hs.apart (by simp) hy hsy
  | stopped hnone => exact ListLib.pairwise_snoc Slot.Apart.symm h fun y hy => hnone.apart false hy

/-- **One report only evolves the slots there are.** -/
theorem evolves_apply {table : Table} {report : Report} {i : ℕ} {s : Slot}
    (hi : table[i]? = some s) :
    ∃ s', (table.apply report).1[i]? = some s' ∧ s.Evolves s' := by
  have happ := table.applied report
  generalize table.apply report = result at happ
  have hsnoc : ∀ x : Slot, (table ++ [x])[i]? = some s := fun x => by
    rw [List.getElem?_append_left (List.getElem?_eq_some_iff.mp hi).1, hi]
  cases happ with
  | @coalesced l r t key hsplit ht =>
    subst hsplit
    rcases ListLib.getElem?_replace (t.learn key) hi with ⟨rfl, hget⟩ | hget
    · exact ⟨_, hget, Slot.learn_self s key ▸ ht.evolves id⟩
    · exact ⟨_, hget, .refl s⟩
  | opened => exact ⟨s, hsnoc _, .refl s⟩
  | ignored => exact ⟨s, hi, .refl s⟩
  | @closed l r t key hsplit ht =>
    subst hsplit
    rcases ListLib.getElem?_replace ({ t.learn key with active := false } : Slot) hi with
      ⟨rfl, hget⟩ | hget
    · exact ⟨_, hget, ht.evolves fun _ => rfl⟩
    · exact ⟨_, hget, .refl s⟩
  | stopped => exact ⟨s, hsnoc _, .refl s⟩

/-- An active slot of unknown creation time is what every key of its PID refers to that no slot
carries exactly. -/
theorem WellKeyed.refers_of_unknown {l r : Table} {s : Slot} (h : WellKeyed (l ++ s :: r))
    (hact : s.active = true) (hzero : s.key.creationTime = 0) {key : ProcessKey}
    (hpid : key.pid ≠ 0) (heq : s.key.pid = key.pid)
    (hnone : ∀ y ∈ l ++ s :: r, y.exact key = false) : Refers (l ++ s :: r) key s r := by
  refine .inr ⟨hnone, Slot.fallback_iff.mpr ⟨hpid, heq, .inr (.inl hzero), hact⟩, ?_⟩
  intro y hy
  rw [WellKeyed, List.pairwise_middle Slot.Apart.symm, List.pairwise_cons] at h
  have hapart := h.1 y (by simp [hy])
  by_contra hfall
  obtain ⟨-, hypid, -, hyact⟩ := Slot.fallback_iff.mp (by simpa using hfall)
  exact absurd hzero ((hapart (heq ▸ hpid) (heq.trans hypid.symm)).2 hact hyact).1

lemma WellKeyed.add {table : Table} (h : table.WellKeyed) (event : TraceGlassEvent) :
    WellKeyed (table.add event).1 := by
  unfold Table.add
  split
  · exact h.apply _
  · exact h

lemma evolves_add {table : Table} {event : TraceGlassEvent} {i : ℕ} {s : Slot}
    (hi : table[i]? = some s) : ∃ s', (table.add event).1[i]? = some s' ∧ s.Evolves s' := by
  unfold Table.add
  split
  · exact evolves_apply hi
  · exact ⟨s, hi, .refl s⟩

end Table

/-! ## The store -/

/-- Every reachable table is well keyed, whatever the allocator did on the way. -/
theorem Reachable.wellKeyed {store : EventStore} (h : Reachable store) :
    store.table.WellKeyed := by
  refine h.invariant (I := fun s => s.table.WellKeyed) List.Pairwise.nil ?_
  intro s alloc event hs
  rcases table_eventStoreAdd alloc s event with heq | heq <;> rw [heq]
  · exact hs
  · exact hs.add event

/-- A call only evolves the slots of the records there are. -/
lemma evolves_eventStoreAdd {store : EventStore} (alloc : ReallocOutcome)
    (event : TraceGlassEvent) {i : ℕ} {s : Slot} (hi : store.table[i]? = some s) :
    ∃ s', (eventStoreAdd alloc store event).store.table[i]? = some s' ∧ s.Evolves s' := by
  rcases table_eventStoreAdd alloc store event with heq | heq <;> rw [heq]
  · exact ⟨s, hi, .refl s⟩
  · exact Table.evolves_add hi

lemma EventStore.table_getElem? {store : EventStore} {i : ℕ} {record : ProcessRecord}
    (h : store.processes[i]? = some record) : store.table[i]? = some record.slot := by
  simp [EventStore.table, h]

lemma EventStore.processes_getElem? {store : EventStore} {i : ℕ} {s : Slot}
    (h : store.table[i]? = some s) :
    ∃ record, store.processes[i]? = some record ∧ record.slot = s := by
  simpa [EventStore.table] using h

/-- An active record of unknown creation time is what the fallback finds for every key of its PID
that no record carries exactly. -/
lemma Reachable.find_unknown {store : EventStore} (h : Reachable store) {i : ℕ}
    {record : ProcessRecord} (hi : store.processes[i]? = some record)
    (hact : record.active = true) (hzero : record.key.creationTime = 0)
    (hpid : record.key.pid ≠ 0) (time : ULONGLONG)
    (hnone : time = 0 ∨ ∀ r ∈ store.processes, r.key ≠ ⟨record.key.pid, time⟩) :
    eventStoreFindProcess store ⟨record.key.pid, time⟩ = some i := by
  have hkeyed := h.wellKeyed
  have hslot := EventStore.table_getElem? hi
  obtain ⟨hlt, hget⟩ := List.getElem?_eq_some_iff.mp hslot
  have hsplit : store.table = store.table.take i ++ record.slot :: store.table.drop (i + 1) := by
    rw [← hget, ← List.drop_eq_getElem_cons hlt, List.take_append_drop]
  have hlen : (store.table.take i).length = i := List.length_take_of_le hlt.le
  have hexact : ∀ y ∈ store.table, y.exact ⟨record.key.pid, time⟩ = false := by
    intro y hy
    by_contra hyes
    obtain ⟨-, htime, hkey⟩ := Slot.exact_iff.mp (by simpa using hyes)
    obtain ⟨r, hr, rfl⟩ := List.mem_map.mp hy
    rcases hnone with hz | hnone
    · exact htime hz
    · exact hnone r hr hkey
  rw [eventStoreFindProcess_eq_find]
  rw [hsplit] at hkeyed hexact ⊢
  have hrefers : Table.Refers _ ⟨record.key.pid, time⟩ _ _ :=
    hkeyed.refers_of_unknown hact hzero hpid rfl hexact
  rw [Table.find_of_refers hrefers, hlen]

/-! ## A STOP with a known key -/

/-- What a known key finds: the record that carries it or, where none does, an active one of unknown
creation time. -/
lemma find_known {store : EventStore} {key : ProcessKey} {index : ℕ}
    (h : eventStoreFindProcess store key = some index) (hknown : key.creationTime ≠ 0) :
    (store.record index).key = key ∨
      ((store.record index).key.creationTime = 0 ∧ ∀ r ∈ store.processes, r.key ≠ key) := by
  have hlt := eventStoreFindProcess_lt h
  rw [eventStoreFindProcess_eq_find] at h
  rcases Table.find_cases store.table key with ⟨l, s, r, hsplit, hrefers⟩ | hnone
  · rw [hsplit] at hrefers
    have hfind := Table.find_of_refers hrefers
    rw [← hsplit, h, Option.some.injEq] at hfind
    have hslot := EventStore.slot_record hlt
    rw [hfind, hsplit, Table.slot_split] at hslot
    have hkey : s.key = (store.record index).key := by
      rw [hfind, hslot]
      rfl
    rcases hrefers.known hknown with heq | ⟨hzero, -, hnever⟩
    · exact .inl (hkey ▸ heq)
    · refine .inr ⟨hkey ▸ hzero, fun r hr => ?_⟩
      exact hnever r.slot (hsplit ▸ List.mem_map_of_mem hr)
  · rw [Table.find_of_unmatched hnone] at h
    cases h

/-- A known key that finds nothing is carried by no record. -/
lemma key_ne_of_find_none {store : EventStore} {key : ProcessKey}
    (h : eventStoreFindProcess store key = none) (hpid : key.pid ≠ 0)
    (hknown : key.creationTime ≠ 0) : ∀ r ∈ store.processes, r.key ≠ key := by
  intro r hr heq
  have hout := eventStoreFindProcess_outcome store key
  rw [h] at hout
  have hexact : exactMatch key r = true := by
    simp [exactMatch, processKeysMatch_iff, heq, hpid, hknown]
  generalize store.processes = processes at hout hr
  cases hout with
  | missing hnone => simp [hnone r hr] at hexact

/-- Two records of one known key are one record. -/
lemma Reachable.index_eq_of_key {store : EventStore} (h : Reachable store) {key : ProcessKey}
    (hpid : key.pid ≠ 0) (hknown : key.creationTime ≠ 0) {i j : ℕ} {a b : ProcessRecord}
    (hi : store.processes[i]? = some a) (hj : store.processes[j]? = some b) (ha : a.key = key)
    (hb : b.key = key) : i = j := by
  refine ListLib.index_eq_of_not_rel Slot.Apart.symm h.wellKeyed (EventStore.table_getElem? hi)
    (EventStore.table_getElem? hj) fun hapart => ?_
  have hkey : a.key.pid ≠ 0 := ha ▸ hpid
  exact (ha ▸ hknown) ((hapart hkey (by simp [ProcessRecord.slot, ha, hb])).1
    (by simp [ProcessRecord.slot, ha, hb]))

/-- On the way from `store` to `after` the records of other known keys stay as they are, and
afterwards no record of this key is active. -/
def Closes (key : ProcessKey) (store after : EventStore) : Prop :=
  (∀ (i : ℕ) (record : ProcessRecord), store.processes[i]? = some record →
    record.key.creationTime ≠ 0 → record.key ≠ key → after.processes[i]? = some record) ∧
  ∀ record ∈ after.processes, record.key = key → record.active = false

section Closes

variable {store : EventStore} {event : TraceGlassEvent} {index : ℕ}

/-- The record found is inactive already, or no record carries the key. -/
private lemma closes_ignored (h : Reachable store) (hpid : event.process.pid ≠ 0)
    (hknown : event.process.creationTime ≠ 0)
    (hfind : eventStoreFindProcess store event.process = some index)
    (hinactive : (store.record index).active = false) : Closes event.process store store := by
  refine ⟨fun i record hi _ _ => hi, fun record hrecord hkey => ?_⟩
  have hlt := eventStoreFindProcess_lt hfind
  have hindex : store.processes[index]? = some (store.record index) := by
    simp [EventStore.record, hlt]
  rcases find_known hfind hknown with hown | ⟨-, hnever⟩
  · obtain ⟨j, hj⟩ := List.mem_iff_getElem?.mp hrecord
    obtain rfl := h.index_eq_of_key hpid hknown hj hindex hkey hown
    rw [hj, Option.some.injEq] at hindex
    rw [hindex, hinactive]
  · exact absurd hkey (hnever record hrecord)

/-- The record found is the one that is rewritten. -/
private lemma closes_closed (h : Reachable store) (hpid : event.process.pid ≠ 0)
    (hknown : event.process.creationTime ≠ 0)
    (hfind : eventStoreFindProcess store event.process = some index) :
    Closes event.process store (closedStore store index event) := by
  have hlt := eventStoreFindProcess_lt hfind
  have hindex : store.processes[index]? = some (store.record index) := by
    simp [EventStore.record, hlt]
  have hfound := find_known hfind hknown
  constructor
  · intro i record hi hrecord hne
    have hother : index ≠ i := by
      rintro rfl
      rw [hindex, Option.some.injEq] at hi
      rcases hfound with hown | ⟨hzero, -⟩
      · exact hne (hi ▸ hown)
      · exact hrecord (hi ▸ hzero)
    simp only [closedStore]
    rw [List.getElem?_set_ne hother, hi]
  · intro record hrecord hkey
    obtain ⟨j, hj⟩ := List.mem_iff_getElem?.mp hrecord
    simp only [closedStore, List.getElem?_set] at hj
    split at hj
    · rw [← Option.some.inj hj]
    · next hne =>
      rcases hfound with hown | ⟨-, hnever⟩
      · exact absurd (h.index_eq_of_key hpid hknown hindex hj hown hkey) hne
      · exact absurd hkey (hnever record (List.mem_of_getElem? hj))

/-- Without a record of the key an inactive one is added. -/
private lemma closes_recorded (hpid : event.process.pid ≠ 0)
    (hknown : event.process.creationTime ≠ 0)
    (hfind : eventStoreFindProcess store event.process = none) (capacity : ℕ) :
    Closes event.process store (stoppedStore store capacity event) := by
  constructor
  · intro i record hi _ _
    obtain ⟨hlt, -⟩ := List.getElem?_eq_some_iff.mp hi
    simp only [stoppedStore]
    rw [List.getElem?_append_left hlt, hi]
  · intro record hrecord hkey
    rcases List.mem_append.mp hrecord with hrecord | hrecord
    · exact absurd hkey (key_ne_of_find_none hfind hpid hknown record hrecord)
    · rw [List.mem_singleton.mp hrecord]

end Closes

/-- **A STOP with a known key** leaves every record of another known key as it is, and no active
record of its own key, whatever the store holds and whatever the allocator does. -/
theorem eventStoreAdd_stop_known {store : EventStore} (h : Reachable store)
    (alloc : ReallocOutcome) {event : TraceGlassEvent} (htype : event.type = .processStop)
    (hpid : event.process.pid ≠ 0) (hknown : event.process.creationTime ≠ 0) :
    Closes event.process store (eventStoreAdd alloc store event).store := by
  refine eventStoreAdd_preserves (I := Closes event.process store) ?_ ?_ (fun _ _ hs _ => hs)
  · intro ok s hstage
    cases hstage with
    | startCoalesced hstart | startUnreserved hstart =>
      rw [hstart] at htype
      cases htype
    | stopIgnored _ hfind hinactive => exact closes_ignored h hpid hknown hfind hinactive
    | stopUnreserved _ hfind =>
      refine ⟨fun i record hi _ _ => hi, fun record hrecord hkey => ?_⟩
      exact absurd hkey (key_ne_of_find_none hfind hpid hknown record hrecord)
  · intro s hstage
    cases hstage with
    | startOpened ht | network ht | alert ht =>
      rw [ht] at htype
      cases htype
    | other ht =>
      rw [htype] at ht
      rcases ht with ht | ht <;> cases ht
    | stopClosed _ hfind => exact closes_closed h hpid hknown hfind
    | stopRecorded _ hfind => exact closes_recorded hpid hknown hfind _

/-! ## The invariant -/

/-- **Process identity.**  In every store any sequence of calls leads to, with allocation failing
at any of them: no two records share a PID and a known creation time; an active record of unknown
creation time is the only active record of its PID, and the one the PID-only fallback finds; and
one further call leaves every record at its index with its PID, its creation time once known and
its inactivity. -/
theorem processIdentity_of_reachable {store : EventStore} (h : Reachable store) :
    (∀ (i j : ℕ) (a b : ProcessRecord),
      store.processes[i]? = some a → store.processes[j]? = some b →
      a.key.pid ≠ 0 → a.key.creationTime ≠ 0 → a.key = b.key → i = j) ∧
    (∀ (i j : ℕ) (a b : ProcessRecord),
      store.processes[i]? = some a → store.processes[j]? = some b →
      a.key.pid ≠ 0 → a.key.pid = b.key.pid → a.active = true → b.active = true →
      a.key.creationTime = 0 → i = j) ∧
    (∀ (i : ℕ) (a : ProcessRecord), store.processes[i]? = some a → a.key.pid ≠ 0 → a.active = true →
      a.key.creationTime = 0 → eventStoreFindProcess store ⟨a.key.pid, 0⟩ = some i) ∧
    ∀ (alloc : ReallocOutcome) (event : TraceGlassEvent) (i : ℕ) (a : ProcessRecord),
      store.processes[i]? = some a →
      ∃ a', (eventStoreAdd alloc store event).store.processes[i]? = some a' ∧
        a'.key.pid = a.key.pid ∧
        (a.key.creationTime ≠ 0 → a'.key.creationTime = a.key.creationTime) ∧
        (a.active = false → a'.active = false) := by
  have hkeyed := h.wellKeyed
  refine ⟨?_, ?_, ?_, ?_⟩
  · intro i j a b hi hj hpid htime hkey
    refine ListLib.index_eq_of_not_rel Slot.Apart.symm hkeyed
      (EventStore.table_getElem? hi) (EventStore.table_getElem? hj) fun hapart => ?_
    exact htime ((hapart hpid (congrArg ProcessKey.pid hkey)).1
      (congrArg ProcessKey.creationTime hkey))
  · intro i j a b hi hj hpid heq ha hb hzero
    refine ListLib.index_eq_of_not_rel Slot.Apart.symm hkeyed
      (EventStore.table_getElem? hi) (EventStore.table_getElem? hj) fun hapart => ?_
    exact ((hapart hpid heq).2 ha hb).1 hzero
  · intro i a hi hpid hact hzero
    exact h.find_unknown hi hact hzero hpid 0 (.inl rfl)
  · intro alloc event i a hi
    obtain ⟨s', hs', hev⟩ := evolves_eventStoreAdd alloc event (EventStore.table_getElem? hi)
    obtain ⟨a', ha', rfl⟩ := EventStore.processes_getElem? hs'
    exact ⟨a', ha', hev.pid_eq, hev.creationTime_eq, hev.inactive⟩

/-- A START of PID 8 whose creation time could not be read. -/
def unreadStart : TraceGlassEvent := { TraceGlassEvent.zero with process := ⟨8, 0⟩ }

/-- A START or STOP of PID 8 with this creation time. -/
def reportOfEight (type : EventType) (creationTime : ULONGLONG) : TraceGlassEvent :=
  { TraceGlassEvent.zero with type := type, process := ⟨8, creationTime⟩ }

/-- The store after two processes with the PID have started and ended, and a third has started. -/
def reusedEight : EventStore :=
  addEvents eventStoreInitialize [reportOfEight .processStart 5, reportOfEight .processStop 5,
    reportOfEight .processStart 6, reportOfEight .processStop 6, unreadStart]

/-- Of its three records the PID alone finds the last one, no other of them is active, and whatever
is added, the first one stays the record of the first process. -/
theorem processIdentity_of_unreadStart :
    reusedEight.processes.map (fun record => record.key) = [⟨8, 5⟩, ⟨8, 6⟩, ⟨8, 0⟩] ∧
    eventStoreFindProcess reusedEight ⟨8, 0⟩ = some 2 ∧
    (∀ i ∈ [0, 1], (reusedEight.record i).active = false) ∧
    ∀ alloc event, ∃ first,
      (eventStoreAdd alloc reusedEight event).store.processes[0]? = some first ∧
      first.key = ⟨8, 5⟩ ∧ first.active = false := by
  obtain ⟨-, hsingle, hfound, hkept⟩ :=
    processIdentity_of_reachable (reachable_eventStoreInitialize.addEvents
      [reportOfEight .processStart 5, reportOfEight .processStop 5, reportOfEight .processStart 6,
        reportOfEight .processStop 6, unreadStart])
  have hlast : reusedEight.processes[2]? = some (reusedEight.record 2) := by decide
  refine ⟨by decide, ?_, fun i hi => ?_, fun alloc event => ?_⟩
  · exact hfound 2 _ hlast (by decide) (by decide) (by decide)
  · have hother : ∀ i ∈ [0, 1], reusedEight.processes[i]? = some (reusedEight.record i) ∧ i ≠ 2 ∧
        (reusedEight.record 2).key.pid = (reusedEight.record i).key.pid := by decide
    obtain ⟨hrecord, hne, hpid⟩ := hother i hi
    refine Bool.eq_false_iff.mpr fun hactive => hne ?_
    exact (hsingle 2 i _ _ hlast hrecord (by decide) hpid (by decide) hactive (by decide)).symm
  · obtain ⟨first, hfirst, hpid, htime, hinactive⟩ :=
      hkept alloc event 0 (reusedEight.record 0) (by decide)
    exact ⟨first, hfirst, ProcessKey.ext hpid (htime (by decide)), hinactive (by decide)⟩

end TraceGlass
