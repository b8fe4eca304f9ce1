import TraceGlass.Store.Refinement
import TraceGlass.Lib.Lists

/-!
# Two producers reporting one process instance

ETW and the poller each report a START and a STOP of the same instance, and either may have failed
to read the creation time.  Until the first STOP every report lands on the one record, whatever its
key: the record is active, and an active record takes an unknown key.  After it the record is
inactive and only an exact match finds it, so a late duplicate is coalesced exactly when both it
and the record know the creation time.  `oneRecord_iff` turns that into the exact condition on the
order of delivery.
-/

namespace TraceGlass

/-! ## The table of one instance -/

/-- The key of a report of the instance `(pid, time)`: the full key or, where the creation time
could not be queried, the PID alone. -/
def instanceKey (pid : DWORD) (time : ULONGLONG) (known : Bool) : ProcessKey :=
  if known then ⟨pid, time⟩ else ⟨pid, 0⟩

section Instance

variable {pid : DWORD} {time : ULONGLONG}

lemma learn_instanceKey (known known' active : Bool) (htime : time ≠ 0) :
    (Slot.mk (instanceKey pid time known) active).learn (instanceKey pid time known') =
      ⟨instanceKey pid time (known || known'), active⟩ := by
  cases known <;> cases known' <;> simp [Slot.learn, instanceKey, htime]

namespace Table

/-- While the record is open every key of the instance refers to it. -/
lemma refers_open (hpid : pid ≠ 0) (htime : time ≠ 0) (known known' : Bool) :
    Refers [⟨instanceKey pid time known, true⟩] (instanceKey pid time known')
      ⟨instanceKey pid time known, true⟩ [] := by
  cases known <;> cases known' <;>
    simp [Refers, Slot.exact, Slot.fallback, processKeysMatch, instanceKey, hpid, htime,
      htime.symm]

lemma unmatched_nil (key : ProcessKey) : Unmatched [] key := by simp [Unmatched]

/-- Once it is closed only the full key does, and only if the record learnt it. -/
lemma refers_closed (hpid : pid ≠ 0) (htime : time ≠ 0) :
    Refers [⟨instanceKey pid time true, false⟩] (instanceKey pid time true)
      ⟨instanceKey pid time true, false⟩ [] := by
  simp [Refers, Slot.exact, processKeysMatch, instanceKey, hpid, htime]

lemma unmatched_closed (htime : time ≠ 0) {known known' : Bool}
    (h : ¬ (known = true ∧ known' = true)) :
    Unmatched [⟨instanceKey pid time known, false⟩] (instanceKey pid time known') := by
  cases known <;> cases known' <;>
    simp_all [Unmatched, Slot.exact, Slot.fallback, instanceKey, htime.symm]

lemma apply_start_open (hpid : pid ≠ 0) (htime : time ≠ 0) (known known' : Bool) :
    apply [⟨instanceKey pid time known, true⟩] ⟨.start, instanceKey pid time known'⟩ =
      ([⟨instanceKey pid time (known || known'), true⟩], false) := by
  have happ := Applied.coalesced (l := []) rfl (refers_open hpid htime known known')
  rw [learn_instanceKey known known' true htime] at happ
  exact happ.eq_apply

lemma apply_stop_open (hpid : pid ≠ 0) (htime : time ≠ 0) (known known' : Bool) :
    apply [⟨instanceKey pid time known, true⟩] ⟨.stop, instanceKey pid time known'⟩ =
      ([⟨instanceKey pid time (known || known'), false⟩], true) := by
  have happ := Applied.closed (l := []) rfl (refers_open hpid htime known known') rfl
  rw [learn_instanceKey known known' true htime] at happ
  exact happ.eq_apply

/-- The full key on a closed record that knows it changes nothing and is not news. -/
lemma apply_closed_known (hpid : pid ≠ 0) (htime : time ≠ 0) (kind : ReportKind) :
    apply [⟨instanceKey pid time true, false⟩] ⟨kind, instanceKey pid time true⟩ =
      ([⟨instanceKey pid time true, false⟩], false) := by
  cases kind with
  | start =>
    have happ := Applied.coalesced (l := []) rfl (refers_closed hpid htime)
    rw [learn_instanceKey true true false htime] at happ
    exact happ.eq_apply
  | stop => exact (Applied.ignored (l := []) rfl (refers_closed hpid htime) rfl).eq_apply

/-- Any other report after the STOP makes a second record. -/
lemma length_apply_closed (htime : time ≠ 0) {known known' : Bool}
    (h : ¬ (known = true ∧ known' = true)) (kind : ReportKind) :
    (apply [⟨instanceKey pid time known, false⟩] ⟨kind, instanceKey pid time known'⟩).1.length =
      2 := by
  have hnone : Unmatched [⟨instanceKey pid time known, false⟩] (instanceKey pid time known') :=
    unmatched_closed htime h
  cases kind with
  | start => rw [(Applied.opened hnone).eq_apply]; rfl
  | stop => rw [(Applied.stopped hnone).eq_apply]; rfl

/-- No report removes a record. -/
lemma length_le_apply (table : Table) (report : Report) :
    table.length ≤ (table.apply report).1.length := by
  have happ := table.applied report
  generalize table.apply report = result at happ
  cases happ with
  | coalesced hsplit | closed hsplit => simp [hsplit]
  | ignored => exact Nat.le_refl _
  | opened | stopped => simp

lemma length_le_applyAll (table : Table) (reports : List Report) :
    table.length ≤ (table.applyAll reports).length := by
  induction reports generalizing table with
  | nil => exact Nat.le_refl _
  | cons report reports ih =>
    exact (length_le_apply table report).trans (ih (table.apply report).1)

/-! ## Runs of reports of one instance -/

/-- Some report of the list carries the full key. -/
def anyKnown (pid : DWORD) (time : ULONGLONG) (reports : List Report) : Bool :=
  reports.any fun r => r.key == ⟨pid, time⟩

/-- Reports whose keys are those of the instance. -/
def OfInstance (pid : DWORD) (time : ULONGLONG) (reports : List Report) : Prop :=
  ∀ r ∈ reports, ∃ known, r.key = instanceKey pid time known

lemma instanceKey_eq_iff (htime : time ≠ 0) {known : Bool} :
    instanceKey pid time known = ⟨pid, time⟩ ↔ known = true := by
  cases known <;> simp [instanceKey, htime.symm]

lemma beq_instanceKey (htime : time ≠ 0) (known : Bool) :
    (instanceKey pid time known == ⟨pid, time⟩) = known := by
  rw [Bool.eq_iff_iff, beq_iff_eq, instanceKey_eq_iff htime]

/-- Further STARTs on an open record only teach it its creation time. -/
lemma applyAll_starts (hpid : pid ≠ 0) (htime : time ≠ 0) {starts : List Report}
    (hkeys : OfInstance pid time starts) (hstart : ∀ r ∈ starts, r.kind = .start) (known : Bool) :
    applyAll [⟨instanceKey pid time known, true⟩] starts =
        [⟨instanceKey pid time (known || anyKnown pid time starts), true⟩] ∧
      accepted [⟨instanceKey pid time known, true⟩] starts = [] := by
  induction starts generalizing known with
  | nil => simp [anyKnown, accepted]
  | cons r starts ih =>
    obtain ⟨kind, key⟩ := r
    obtain ⟨known', hkey⟩ := hkeys ⟨kind, key⟩ (by simp)
    have hkind : kind = .start := hstart ⟨kind, key⟩ (by simp)
    simp only at hkey
    subst hkey hkind
    have hrest := ih (fun r hr => hkeys r (List.mem_cons_of_mem _ hr))
      (fun r hr => hstart r (List.mem_cons_of_mem _ hr)) (known || known')
    have hany : anyKnown pid time (⟨.start, instanceKey pid time known'⟩ :: starts) =
        (known' || anyKnown pid time starts) := by
      simp only [anyKnown, List.any_cons, beq_instanceKey htime]
    rw [applyAll_cons, accepted, apply_start_open hpid htime, hany, ← Bool.or_assoc]
    exact hrest

/-- Full keys on a closed record that knows its creation time change nothing. -/
lemma applyAll_late (hpid : pid ≠ 0) (htime : time ≠ 0) {late : List Report}
    (hknown : ∀ r ∈ late, r.key = ⟨pid, time⟩) :
    applyAll [⟨instanceKey pid time true, false⟩] late =
        [⟨instanceKey pid time true, false⟩] ∧
      accepted [⟨instanceKey pid time true, false⟩] late = [] := by
  induction late with
  | nil => exact ⟨rfl, rfl⟩
  | cons r late ih =>
    obtain ⟨kind, key⟩ := r
    obtain rfl : key = instanceKey pid time true := hknown ⟨kind, key⟩ (by simp)
    rw [applyAll_cons, accepted, apply_closed_known hpid htime]
    exact ih fun r hr => hknown r (List.mem_cons_of_mem _ hr)

/-- A late report that is not coalesced leaves more than one record for good. -/
lemma one_lt_length_late (hpid : pid ≠ 0) (htime : time ≠ 0) {late : List Report} {known : Bool}
    (hkeys : OfInstance pid time late)
    (h : ¬ (late = [] ∨ (known = true ∧ ∀ r ∈ late, r.key = ⟨pid, time⟩))) :
    1 < (applyAll [⟨instanceKey pid time known, false⟩] late).length := by
  induction late with
  | nil => simp at h
  | cons r late ih =>
    obtain ⟨kind, key⟩ := r
    obtain ⟨known', hkey⟩ := hkeys ⟨kind, key⟩ (by simp)
    simp only at hkey
    subst hkey
    by_cases hboth : known = true ∧ known' = true
    · -- this one is coalesced, so a later one is not
      obtain ⟨rfl, rfl⟩ := hboth
      rw [applyAll_cons, apply_closed_known hpid htime]
      refine ih (fun r hr => hkeys r (List.mem_cons_of_mem _ hr)) fun hlate => h (.inr ⟨rfl, ?_⟩)
      intro r hr
      rcases List.mem_cons.mp hr with rfl | hr
      · rfl
      · rcases hlate with rfl | ⟨-, hlate⟩
        · simp at hr
        · exact hlate r hr
    · rw [applyAll_cons]
      apply Nat.lt_of_lt_of_le _ (length_le_applyAll _ late)
      rw [length_apply_closed htime hboth kind]
      exact Nat.one_lt_two

end Table

end Instance

/-! ## The order of delivery -/

/-- The reports up to and including the first STOP. -/
def throughFirstStop : List Report → List Report
  | [] => []
  | r :: reports => if r.kind = .stop then [r] else r :: throughFirstStop reports

/-- The reports after the first STOP. -/
def afterFirstStop : List Report → List Report
  | [] => []
  | r :: reports => if r.kind = .stop then reports else afterFirstStop reports

/-- A list of reports is STARTs only, or STARTs, a STOP and the rest. -/
lemma firstStop_cases (reports : List Report) :
    ((∀ r ∈ reports, r.kind = .start) ∧ throughFirstStop reports = reports ∧
      afterFirstStop reports = []) ∨
    ∃ starts key late, reports = starts ++ ⟨.stop, key⟩ :: late ∧
      (∀ r ∈ starts, r.kind = .start) ∧ throughFirstStop reports = starts ++ [⟨.stop, key⟩] ∧
      afterFirstStop reports = late := by
  induction reports with
  | nil => exact .inl ⟨by simp, rfl, rfl⟩
  | cons r reports ih =>
    obtain ⟨kind, key⟩ := r
    cases kind with
    | stop => exact .inr ⟨[], key, reports, rfl, by simp, by simp [throughFirstStop],
        by simp [afterFirstStop]⟩
    | start =>
      rcases ih with ⟨hstart, hthrough, hafter⟩ |
        ⟨starts, k, late, hsplit, hstart, hthrough, hafter⟩
      · left
        refine ⟨?_, by simp [throughFirstStop, hthrough], by simp [afterFirstStop, hafter]⟩
        intro r hr
        rcases List.mem_cons.mp hr with rfl | hr
        · rfl
        · exact hstart r hr
      · right
        refine ⟨⟨.start, key⟩ :: starts, k, late, by simp [hsplit], ?_,
          by simp [throughFirstStop, hthrough], by simp [afterFirstStop, hafter]⟩
        intro r hr
        rcases List.mem_cons.mp hr with rfl | hr
        · rfl
        · exact hstart r hr

/-- Every report after the first STOP is a duplicate the record can recognise: it carries the
creation time, and so did a report up to the STOP. -/
def LateReportsRecognised (pid : DWORD) (time : ULONGLONG) (reports : List Report) : Prop :=
  afterFirstStop reports = [] ∨
    (∀ r ∈ afterFirstStop reports, r.key = ⟨pid, time⟩) ∧
      ∃ r ∈ throughFirstStop reports, r.key = ⟨pid, time⟩

/-- One record, closed by any STOP, one START and at most one STOP. -/
def Table.OneInstance (reports : List Report) : Prop :=
  (Table.applyAll [] reports).length = 1 ∧
    ((∃ r ∈ reports, r.kind = .stop) → ∀ s ∈ Table.applyAll [] reports, s.active = false) ∧
    (Table.accepted [] reports).countP (fun r => r.kind == .start) = 1 ∧
    (Table.accepted [] reports).countP (fun r => r.kind == .stop) ≤ 1

/-- **The exact condition, on a table.** -/
theorem Table.oneInstance_iff {pid : DWORD} {time : ULONGLONG} (hpid : pid ≠ 0) (htime : time ≠ 0)
    {first : ProcessKey} {rest : List Report}
    (hkeys : Table.OfInstance pid time (⟨.start, first⟩ :: rest)) :
    Table.OneInstance (⟨.start, first⟩ :: rest) ↔
      LateReportsRecognised pid time (⟨.start, first⟩ :: rest) := by
  obtain ⟨known, hfirst⟩ := hkeys ⟨.start, first⟩ (by simp)
  simp only at hfirst
  subst hfirst
  have hrest : Table.OfInstance pid time rest := fun r hr => hkeys r (List.mem_cons_of_mem _ hr)
  have hopen : Table.apply [] ⟨.start, instanceKey pid time known⟩ =
      ([⟨instanceKey pid time known, true⟩], true) :=
    (Table.Applied.opened (Table.unmatched_nil _)).eq_apply
  unfold Table.OneInstance LateReportsRecognised
  simp only [Table.applyAll_cons, Table.accepted, hopen, throughFirstStop, afterFirstStop,
    reduceCtorEq, if_true, if_false]
  rcases firstStop_cases rest with ⟨hstart, hthrough, hafter⟩ |
    ⟨starts, key, late, rfl, hstart, hthrough, hafter⟩
  · -- no STOP: the record stays open and both sides hold
    obtain ⟨htable, hacc⟩ := Table.applyAll_starts hpid htime hrest hstart known
    have hnostop : ∀ r ∈ rest, r.kind ≠ .stop := by
      intro r hr
      rw [hstart r hr]
      simp
    rw [htable, hacc, hafter]
    simpa using hnostop
  · have hstarts : Table.OfInstance pid time starts := fun r hr => hrest r (by simp [hr])
    have hlate : Table.OfInstance pid time late := fun r hr => hrest r (by simp [hr])
    obtain ⟨known', hkey⟩ := hrest ⟨.stop, key⟩ (by simp)
    simp only at hkey
    subst hkey
    obtain ⟨htable, hacc⟩ := Table.applyAll_starts hpid htime hstarts hstart known
    have hstop := Table.apply_stop_open hpid htime (known || Table.anyKnown pid time starts) known'
    have hseen : (∃ r ∈ (⟨.start, instanceKey pid time known⟩ : Report) ::
        (starts ++ [⟨.stop, instanceKey pid time known'⟩]), r.key = ⟨pid, time⟩) ↔
          (known || Table.anyKnown pid time starts || known') = true := by
      simp [Table.anyKnown, instanceKey_eq_iff htime, or_assoc, or_and_right, exists_or]
    rw [hthrough, hafter, hseen, Table.applyAll_append, Table.accepted_append, htable, hacc,
      Table.applyAll_cons, Table.accepted, hstop]
    generalize (known || Table.anyKnown pid time starts || known') = seen
    by_cases hcond : late = [] ∨ ((∀ r ∈ late, r.key = ⟨pid, time⟩) ∧ seen = true)
    · have hclosed : Table.applyAll [⟨instanceKey pid time seen, false⟩] late =
          [⟨instanceKey pid time seen, false⟩] ∧
            Table.accepted [⟨instanceKey pid time seen, false⟩] late = [] := by
        rcases hcond with rfl | ⟨hknown, rfl⟩
        · exact ⟨rfl, rfl⟩
        · exact Table.applyAll_late hpid htime hknown
      simp [hclosed.1, hclosed.2, hcond]
    · have hlen : 1 < (Table.applyAll [⟨instanceKey pid time seen, false⟩] late).length :=
        Table.one_lt_length_late hpid htime hlate (by rwa [and_comm])
      refine iff_of_false (fun hone => ?_) hcond
      have hlen' := hone.1
      simp only at hlen'
      omega

/-! ## The store -/

/-- What one producer reports of the instance: a START then a STOP, either possibly missing, each
under the full key or under the PID alone. -/
structure ProducerStream (pid : DWORD) (time : ULONGLONG) (reports : List Report) : Prop where
  kinds : (reports.map Report.kind).Sublist [.start, .stop]
  keys : ∀ r ∈ reports, r.key = ⟨pid, time⟩ ∨ r.key = ⟨pid, 0⟩

/-- The reports of one PID among the events added. -/
def reportsOfPid (events : List TraceGlassEvent) (pid : DWORD) : List Report :=
  (reportsOf events).filter fun r => r.key.pid == pid

/-- The events of one type and PID in the history. -/
def historyCount (store : EventStore) (type : EventType) (pid : DWORD) : ℕ :=
  store.events.countP fun e => decide (e.type = type) && e.process.pid == pid

/-- The store holds the instance once: one record of the PID, inactive if a STOP was added, and in
the history one START and at most one STOP of the PID. -/
def HoldsOneInstance (store : EventStore) (pid : DWORD) (stopped : Prop) : Prop :=
  (store.processes.countP fun record => record.key.pid == pid) = 1 ∧
    (stopped → ∀ record ∈ store.processes, record.key.pid = pid → record.active = false) ∧
    historyCount store .processStart pid = 1 ∧ historyCount store .processStop pid ≤ 1

/-- A count over the history is a count over its reports. -/
lemma historyCount_eq (store : EventStore) (pid : DWORD) :
    historyCount store .processStart pid = (store.historyReports.filter fun r =>
        r.key.pid == pid).countP (fun r => r.kind == .start) ∧
      historyCount store .processStop pid = (store.historyReports.filter fun r =>
        r.key.pid == pid).countP (fun r => r.kind == .stop) := by
  unfold historyCount EventStore.historyReports reportsOf
  constructor <;>
  · rw [List.countP_filter, List.countP_filterMap]
    refine List.countP_congr fun e _ => ?_
    cases htype : e.type <;> simp [reportOf, htype]

/-- What the store holds of one PID is what the table makes of the reports of that PID. -/
lemma holdsOneInstance_iff {events : List TraceGlassEvent}
    (halloc : AllocationsSucceed eventStoreInitialize events) (pid : DWORD) :
    HoldsOneInstance (addEvents eventStoreInitialize events) pid
        (∃ r ∈ reportsOfPid events pid, r.kind = .stop) ↔
      Table.OneInstance (reportsOfPid events pid) := by
  have htable : (addEvents eventStoreInitialize events).table.ofPid pid =
      Table.applyAll [] (reportsOfPid events pid) := by
    rw [table_addEvents halloc, Table.ofPid_applyAll]
    rfl
  have hhist : ((addEvents eventStoreInitialize events).historyReports.filter fun r =>
      r.key.pid == pid) = Table.accepted [] (reportsOfPid events pid) := by
    rw [historyReports_addEvents halloc, List.filter_append, Table.filter_accepted]
    rfl
  obtain ⟨hstarts, hstops⟩ := historyCount_eq (addEvents eventStoreInitialize events) pid
  have hlength : ((addEvents eventStoreInitialize events).processes.countP fun record =>
      record.key.pid == pid) = (Table.applyAll [] (reportsOfPid events pid)).length := by
    rw [← htable, Table.ofPid, ← List.countP_eq_length_filter, EventStore.table, List.countP_map]
    rfl
  have hactive : (∀ record ∈ (addEvents eventStoreInitialize events).processes,
      record.key.pid = pid → record.active = false) ↔
        ∀ s ∈ Table.applyAll [] (reportsOfPid events pid), s.active = false := by
    rw [← htable]
    simp [Table.mem_ofPid, EventStore.table, ProcessRecord.slot]
  unfold HoldsOneInstance Table.OneInstance
  rw [hlength, hactive, hstarts, hstops, hhist]

lemma ProducerStream.interleaved {pid : DWORD} {time : ULONGLONG} {etw poller reports : List Report}
    (hetw : ProducerStream pid time etw) (hpoller : ProducerStream pid time poller)
    (h : ListLib.Interleaves etw poller reports) : Table.OfInstance pid time reports := by
  intro r hr
  have hkey : r.key = ⟨pid, time⟩ ∨ r.key = ⟨pid, 0⟩ := by
    rcases h.mem_iff.mp hr with hr | hr
    · exact hetw.keys r hr
    · exact hpoller.keys r hr
  rcases hkey with hkey | hkey
  · exact ⟨true, hkey⟩
  · exact ⟨false, hkey⟩

/-- **One instance, two producers.**  Interleave the two producers' reports of the one instance
behind a PID, a START first, among any events of other PIDs and other types.  The store holds the
instance once exactly when no report follows the first STOP, or those that do carry the creation
time and so did a report before them. -/
theorem holdsOneInstance_iff_lateReportsRecognised {pid : DWORD} {time : ULONGLONG} (hpid : pid ≠ 0)
    (htime : time ≠ 0) {etw poller : List Report} (hetw : ProducerStream pid time etw)
    (hpoller : ProducerStream pid time poller) {events : List TraceGlassEvent}
    (halloc : AllocationsSucceed eventStoreInitialize events)
    (hmerge : ListLib.Interleaves etw poller (reportsOfPid events pid))
    (hfirst : ∃ key rest, reportsOfPid events pid = ⟨.start, key⟩ :: rest) :
    HoldsOneInstance (addEvents eventStoreInitialize events) pid
        (∃ r ∈ reportsOfPid events pid, r.kind = .stop) ↔
      LateReportsRecognised pid time (reportsOfPid events pid) := by
  have hkeys := hetw.interleaved hpoller hmerge
  obtain ⟨key, rest, hsplit⟩ := hfirst
  rw [holdsOneInstance_iff halloc pid]
  rw [hsplit] at hkeys ⊢
  exact Table.oneInstance_iff hpid htime hkeys

/-- A START or STOP with nothing but its key. -/
def bareReport (type : EventType) (pid : DWORD) (time : ULONGLONG) : TraceGlassEvent :=
  { TraceGlassEvent.zero with type := type, process := ⟨pid, time⟩ }

/-- Both producers report the start, then both the stop, and the poller cannot read the creation
time. -/
def unreadDuplicates : List TraceGlassEvent :=
  [bareReport .processStart 8 5, bareReport .processStart 8 0, bareReport .processStop 8 5,
    bareReport .processStop 8 0]

/-- There the poller's STOP finds no active record, and makes a second one and a second STOP. -/
theorem two_records_of_unreadDuplicates :
    ProducerStream 8 5 [⟨.start, ⟨8, 5⟩⟩, ⟨.stop, ⟨8, 5⟩⟩] ∧
    ProducerStream 8 5 [⟨.start, ⟨8, 0⟩⟩, ⟨.stop, ⟨8, 0⟩⟩] ∧
    ListLib.Interleaves [⟨.start, ⟨8, 5⟩⟩, ⟨.stop, ⟨8, 5⟩⟩] [⟨.start, ⟨8, 0⟩⟩, ⟨.stop, ⟨8, 0⟩⟩]
      (reportsOfPid unreadDuplicates 8) ∧
    AllocationsSucceed eventStoreInitialize unreadDuplicates ∧
    ((addEvents eventStoreInitialize unreadDuplicates).processes.countP fun record =>
      record.key.pid == 8) = 2 ∧
    historyCount (addEvents eventStoreInitialize unreadDuplicates) .processStop 8 = 2 ∧
    ¬ HoldsOneInstance (addEvents eventStoreInitialize unreadDuplicates) 8
      (∃ r ∈ reportsOfPid unreadDuplicates 8, r.kind = .stop) := by
  have htwo : ((addEvents eventStoreInitialize unreadDuplicates).processes.countP fun record =>
      record.key.pid == 8) = 2 := by decide +kernel
  refine ⟨⟨by decide, by decide⟩, ⟨by decide, by decide⟩, .left (.right (.left (.right .nil))),
    by decide +kernel, htwo, by decide +kernel, fun h => ?_⟩
  rw [HoldsOneInstance, htwo] at h
  exact absurd h.1 (by decide)

/-- The same four reports with the poller's two first. -/
def readDuplicates : List TraceGlassEvent :=
  [bareReport .processStart 8 0, bareReport .processStart 8 5, bareReport .processStop 8 0,
    bareReport .processStop 8 5]

/-- There the late STOP is ETW's, whose key the record learnt. -/
theorem holdsOneInstance_of_readDuplicates :
    HoldsOneInstance (addEvents eventStoreInitialize readDuplicates) 8
      (∃ r ∈ reportsOfPid readDuplicates 8, r.kind = .stop) :=
  (@holdsOneInstance_iff_lateReportsRecognised 8 5 (by decide) (by decide)
    [⟨.start, ⟨8, 5⟩⟩, ⟨.stop, ⟨8, 5⟩⟩] [⟨.start, ⟨8, 0⟩⟩, ⟨.stop, ⟨8, 0⟩⟩]
    ⟨by decide, by decide⟩ ⟨by decide, by decide⟩ readDuplicates (by decide +kernel)
    (.right (.left (.right (.left .nil)))) ⟨⟨8, 0⟩, _, rfl⟩).mpr
      (.inr ⟨by decide, by decide⟩)

end TraceGlass
