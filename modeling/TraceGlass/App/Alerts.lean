import TraceGlass.App.History
import TraceGlass.Store.Identity

/-!
# Which report raises the alerts

`drain_events` evaluates the rules on the events the store accepts, and on no other.  Of several
START reports of one process the store accepts the first at most: it merges the rest into the
record, whose fields no rule looks at.  `raised_session` is what a whole session raises for one
process, and `find_isSome_of_start` why a later START adds nothing.
-/

namespace TraceGlass

open SortedArray

variable {w : Win32} {sorter : CompareSort ℕ}

/-- The history has an alert of this rule about this process. -/
def Raised (store : EventStore) (key : ProcessKey) (rule : WString ruleLength) : Prop :=
  ∃ e ∈ store.events, e.type = .alert ∧ e.process = key ∧ e.ruleName = rule

instance (store : EventStore) (key : ProcessKey) (rule : WString ruleLength) :
    Decidable (Raised store key rule) :=
  inferInstanceAs (Decidable (∃ e ∈ store.events, _))

/-- The names of the rules that fire on the event. -/
def rulesOf (w : Win32) (event : TraceGlassEvent) : List (WString ruleLength) :=
  (detectionEvaluate w event maxAlertsPerEvent).map TraceGlassEvent.ruleName

/-- The event is a START report of this process. -/
def StartsProcess (key : ProcessKey) (event : TraceGlassEvent) : Prop :=
  event.type = .processStart ∧ event.process = key

instance (key : ProcessKey) (event : TraceGlassEvent) : Decidable (StartsProcess key event) :=
  inferInstanceAs (Decidable (_ ∧ _))

/-! ## A record once made -/

/-- A record carries the key. -/
def Recorded (store : EventStore) (key : ProcessKey) : Prop :=
  ∃ record ∈ store.processes, record.key = key

lemma Recorded.add {store : EventStore} {key : ProcessKey} (h : Recorded store key)
    (hknown : key.creationTime ≠ 0) (alloc : ReallocOutcome) (event : TraceGlassEvent) :
    Recorded (eventStoreAdd alloc store event).store key := by
  obtain ⟨record, hrecord, rfl⟩ := h
  obtain ⟨i, hi⟩ := List.mem_iff_getElem?.mp hrecord
  obtain ⟨s, hs, hevolves⟩ := evolves_eventStoreAdd alloc event (EventStore.table_getElem? hi)
  obtain ⟨record', hrecord', rfl⟩ := EventStore.processes_getElem? hs
  refine ⟨record', List.mem_of_getElem? hrecord', ProcessKey.ext hevolves.pid_eq ?_⟩
  exact hevolves.creationTime_eq hknown

lemma Recorded.addEvents {store : EventStore} {key : ProcessKey} (h : Recorded store key)
    (hknown : key.creationTime ≠ 0) (events : List TraceGlassEvent) :
    Recorded (addEvents store events) key :=
  List.foldlRecOn (motive := fun s => Recorded s key) events addEvent h
    fun _ hs event _ => hs.add hknown .succeed event

lemma Recorded.ingest {store : EventStore} {key : ProcessKey} (h : Recorded store key)
    (hknown : key.creationTime ≠ 0) (event : TraceGlassEvent) :
    Recorded (ingest w store event) key := by
  have hadd := h.add hknown .succeed event
  simp only [TraceGlass.ingest]
  split
  · exact hadd.addEvents hknown _
  · exact hadd

lemma Recorded.session {store : EventStore} {key : ProcessKey} (h : Recorded store key)
    (hknown : key.creationTime ≠ 0) (events : List TraceGlassEvent) :
    Recorded (session w store events) key :=
  List.foldlRecOn (motive := fun s => Recorded s key) events (TraceGlass.ingest w) h
    fun _ hs event _ => hs.ingest hknown event

/-- A START that can be added leaves a record with its key. -/
lemma recorded_of_start {store : EventStore} {event : TraceGlassEvent}
    (hreserve : ReservationsSucceed store) (hstart : event.type = .processStart)
    (hknown : event.process.creationTime ≠ 0) :
    Recorded (eventStoreAdd .succeed store event).store event.process := by
  have htable := (eventStoreAdd_succeed hreserve event).2.1
  have hslot : ∃ s ∈ (eventStoreAdd .succeed store event).store.table, s.key = event.process := by
    simp only [htable, Table.add, reportOf_start hstart]
    have happlied := store.table.applied ⟨.start, event.process⟩
    generalize store.table.apply ⟨.start, event.process⟩ = result at happlied
    cases happlied with
    | @coalesced l r s _ hsplit hs =>
      refine ⟨s.learn event.process, by simp, ?_⟩
      exact Slot.learn_key hs.pid hknown
    | opened => exact ⟨⟨event.process, true⟩, by simp, rfl⟩
  obtain ⟨s, hs, hkey⟩ := hslot
  obtain ⟨record, hrecord, rfl⟩ := List.mem_map.mp hs
  exact ⟨record, hrecord, hkey⟩

/-- **After a START of a known key** every report of that key finds a record. -/
theorem find_ne_none_of_start {store : EventStore} {before : List TraceGlassEvent}
    {key : ProcessKey} (hpid : key.pid ≠ 0) (hknown : key.creationTime ≠ 0)
    (hsucceeds : SessionSucceeds w store before) (hstart : ∃ e ∈ before, StartsProcess key e) :
    eventStoreFindProcess (session w store before) key ≠ none := by
  obtain ⟨e, he, htype, rfl⟩ := hstart
  obtain ⟨early, late, rfl⟩ := List.append_of_mem he
  obtain ⟨-, hreserve, -⟩ := (Machine.along_append store early (e :: late)).mp hsucceeds
  have hrecorded : Recorded (ingest w (session w store early) e) e.process := by
    have hadd := recorded_of_start hreserve.1 htype hknown
    simp only [ingest]
    split
    · exact hadd.addEvents hknown _
    · exact hadd
  have hlate := hrecorded.session (w := w) hknown late
  rw [session_append]
  intro hnone
  obtain ⟨record, hrecord, hkey⟩ := hlate
  exact key_ne_of_find_none hnone hpid hknown record hrecord hkey

/-! ## What a session raises -/

lemma exists_recorded {P : TraceGlassEvent → Prop}
    (hP : ∀ e sequence, P { e with sequence := sequence } ↔ P e) (sequence : ULONGLONG)
    (events : List TraceGlassEvent) :
    (∃ e ∈ recorded sequence events, P e) ↔ ∃ e ∈ events, P e := by
  induction events generalizing sequence with
  | nil => simp [recorded]
  | cons event events ih => simp [recorded, hP, ih]

lemma mem_acceptedEvents {store : EventStore} {events : List TraceGlassEvent}
    {e : TraceGlassEvent} :
    e ∈ acceptedEvents w store events ↔ ∃ before after, events = before ++ e :: after ∧
      (eventStoreAdd .succeed (session w store before) e).accepted = true := by
  induction events generalizing store with
  | nil => simp [acceptedEvents]
  | cons event events ih =>
    have hhead : e ∈ acceptedEvents w store (event :: events) ↔
        (e = event ∧ (eventStoreAdd .succeed store event).accepted = true) ∨
          e ∈ acceptedEvents w (ingest w store event) events := by
      simp only [acceptedEvents]
      split <;> simp_all
    rw [hhead, ih]
    constructor
    · rintro (⟨rfl, haccepted⟩ | ⟨before, after, rfl, haccepted⟩)
      · exact ⟨[], events, rfl, haccepted⟩
      · exact ⟨event :: before, after, rfl, haccepted⟩
    · rintro ⟨before, after, hsplit, haccepted⟩
      cases before with
      | nil =>
        obtain ⟨rfl, rfl⟩ := List.cons.inj hsplit
        exact .inl ⟨rfl, haccepted⟩
      | cons first before =>
        obtain ⟨rfl, rfl⟩ := List.cons.inj hsplit
        exact .inr ⟨before, after, rfl, haccepted⟩

/-- The alerts an accepted event puts into the history. -/
lemma exists_withAlerts {key : ProcessKey} {rule : WString ruleLength} {event : TraceGlassEvent} :
    (∃ e ∈ withAlerts w event, e.type = .alert ∧ e.process = key ∧ e.ruleName = rule) ↔
      event.process = key ∧
        (rule ∈ rulesOf w event ∨ (event.type = .alert ∧ event.ruleName = rule)) := by
  rw [withAlerts, List.exists_mem_cons_iff, rulesOf, List.mem_map]
  constructor
  · rintro (⟨htype, hkey, hrule⟩ | ⟨a, ha, -, hkey, hrule⟩)
    · exact ⟨hkey, .inr ⟨htype, hrule⟩⟩
    · exact ⟨process_of_mem_detectionEvaluate ha ▸ hkey, .inl ⟨a, ha, hrule⟩⟩
  · rintro ⟨hkey, ⟨a, ha, hrule⟩ | ⟨htype, hrule⟩⟩
    · refine .inr ⟨a, ha, type_of_mem_detectionEvaluate ha, ?_, hrule⟩
      rw [process_of_mem_detectionEvaluate ha, hkey]
    · exact .inl ⟨htype, hkey, hrule⟩

/-- **What a session raises for one process**: the rules of its accepted events. -/
theorem raised_session {store : EventStore} {events : List TraceGlassEvent}
    (hsucceeds : SessionSucceeds w store events) (key : ProcessKey) (rule : WString ruleLength) :
    Raised (session w store events) key rule ↔ Raised store key rule ∨
      ∃ before e after, events = before ++ e :: after ∧
        (eventStoreAdd .succeed (session w store before) e).accepted = true ∧
        e.process = key ∧ (rule ∈ rulesOf w e ∨ (e.type = .alert ∧ e.ruleName = rule)) := by
  have hhistory := session_events hsucceeds
  simp only [Raised, hhistory, List.mem_append, or_and_right, exists_or]
  refine or_congr_right ?_
  rw [exists_recorded (P := fun e => e.type = .alert ∧ e.process = key ∧ e.ruleName = rule)
    fun _ _ => Iff.rfl]
  constructor
  · rintro ⟨x, hx, hraised⟩
    obtain ⟨e, he, hxe⟩ := List.mem_flatMap.mp hx
    obtain ⟨before, after, hsplit, haccepted⟩ := mem_acceptedEvents.mp he
    exact ⟨before, e, after, hsplit, haccepted, exists_withAlerts.mp ⟨x, hxe, hraised⟩⟩
  · rintro ⟨before, e, after, hsplit, haccepted, hrules⟩
    obtain ⟨x, hx, hraised⟩ := exists_withAlerts.mpr hrules
    have he := mem_acceptedEvents.mpr ⟨before, after, hsplit, haccepted⟩
    exact ⟨x, List.mem_flatMap.mpr ⟨e, he, hx⟩, hraised⟩

/-- A START is accepted where its key finds no record. -/
lemma accepted_start_iff {store : EventStore} {event : TraceGlassEvent}
    (hreserve : ReservationsSucceed store) (hstart : event.type = .processStart) :
    (eventStoreAdd .succeed store event).accepted = true ↔
      eventStoreFindProcess store event.process = none := by
  rw [(eventStoreAdd_succeed hreserve event).2.2.1, Table.add, reportOf_start hstart,
    eventStoreFindProcess_eq_find]
  simp only [Table.apply]
  cases store.table.find event.process <;> simp

/-- No rule looks at a STOP. -/
lemma rulesOf_stop {event : TraceGlassEvent} (h : event.type = .processStop) :
    rulesOf w event = [] := by
  rw [rulesOf, detectionEvaluate_stop h, List.map_nil]

/-- An event that fires a rule or is an alert is a START, or is accepted wherever it is drained. -/
lemma accepted_of_rules {store : EventStore} {event : TraceGlassEvent} {rule : WString ruleLength}
    (hreserve : ReservationsSucceed store) (htype : event.type ≠ .processStart)
    (hrules : rule ∈ rulesOf w event ∨ (event.type = .alert ∧ event.ruleName = rule)) :
    (eventStoreAdd .succeed store event).accepted = true := by
  have hstop : event.type ≠ .processStop := by
    intro hstop
    rcases hrules with hrule | ⟨halert, -⟩
    · simp [rulesOf_stop hstop] at hrule
    · rw [hstop] at halert
      cases halert
  refine accepted_of_reportOf_none hreserve ?_
  cases h : event.type <;> simp_all [reportOf]

/-! ## The first START of a process -/

/-- The events are drained in this order, and the rule fires on the first START of the process
among them, which finds no record. -/
def FirstStartFires (w : Win32) (store : EventStore) (events : List TraceGlassEvent)
    (key : ProcessKey) (rule : WString ruleLength) : Prop :=
  ∃ before first after, events = before ++ first :: after ∧ StartsProcess key first ∧
    (∀ e ∈ before, ¬ StartsProcess key e) ∧
    eventStoreFindProcess (session w store before) key = none ∧ rule ∈ rulesOf w first

/-- An event that is no START of the process raises the rule for it. -/
def OtherEventFires (w : Win32) (events : List TraceGlassEvent) (key : ProcessKey)
    (rule : WString ruleLength) : Prop :=
  ∃ e ∈ events, e.process = key ∧ e.type ≠ .processStart ∧
    (rule ∈ rulesOf w e ∨ (e.type = .alert ∧ e.ruleName = rule))

/-- A session raises for a process what its first START fires, if that finds no record, and what
its other events fire. -/
theorem raised_session_iff {store : EventStore} {events : List TraceGlassEvent} {key : ProcessKey}
    (hpid : key.pid ≠ 0) (hknown : key.creationTime ≠ 0)
    (hsucceeds : SessionSucceeds w store events) (rule : WString ruleLength) :
    Raised (session w store events) key rule ↔ Raised store key rule ∨
      FirstStartFires w store events key rule ∨ OtherEventFires w events key rule := by
  rw [raised_session hsucceeds]
  refine or_congr_right ?_
  have hreserve : ∀ before e after, events = before ++ e :: after →
      ReservationsSucceed (session w store before) := by
    rintro before e after rfl
    exact ((Machine.along_append store before (e :: after)).mp hsucceeds).2.1.1
  constructor
  · rintro ⟨before, e, after, hsplit, haccepted, hkey, hrules⟩
    by_cases hstart : e.type = .processStart
    · left
      rw [accepted_start_iff (hreserve before e after hsplit) hstart, hkey] at haccepted
      have hrule : rule ∈ rulesOf w e := by
        rcases hrules with hrule | ⟨halert, -⟩
        · exact hrule
        · rw [hstart] at halert
          cases halert
      have hbefore : SessionSucceeds w store before := by
        subst hsplit
        exact ((Machine.along_append store before (e :: after)).mp hsucceeds).1
      refine ⟨before, e, after, hsplit, ⟨hstart, hkey⟩, ?_, haccepted, hrule⟩
      intro e' he' hstarts
      exact find_ne_none_of_start hpid hknown hbefore ⟨e', he', hstarts⟩ haccepted
    · exact .inr ⟨e, by simp [hsplit], hkey, hstart, hrules⟩
  · rintro (⟨before, first, after, hsplit, ⟨hstart, hkey⟩, -, hnone, hrule⟩ |
      ⟨e, he, hkey, hstart, hrules⟩)
    · refine ⟨before, first, after, hsplit, ?_, hkey, .inl hrule⟩
      rw [accepted_start_iff (hreserve before first after hsplit) hstart, hkey]
      exact hnone
    · obtain ⟨before, after, hsplit⟩ := List.append_of_mem he
      exact ⟨before, e, after, hsplit,
        accepted_of_rules (hreserve before e after hsplit) hstart hrules, hkey, hrules⟩

/-- The alerts in the history, in order. -/
def alertsOf (store : EventStore) : List TraceGlassEvent :=
  store.events.filter fun e => decide (e.type = .alert)

/-- A report that is merged leaves the list of the alerts as it was. -/
lemma alertsOf_ingest_merged {store : EventStore} {event : TraceGlassEvent}
    (hmerged : (eventStoreAdd .succeed store event).accepted = false) :
    alertsOf (ingest w store event) = alertsOf store := by
  have hhistory : (ingest w store event).events = store.events := by
    obtain ⟨-, -, hevents, -⟩ | ⟨haccepted, -⟩ := eventStoreAdd_history .succeed store event
    · simpa [ingest, hmerged] using hevents
    · simp [hmerged] at haccepted
  rw [alertsOf, hhistory, alertsOf]

/-- **A second START raises nothing more**, whatever rules it fires: once a START of a known key has
been drained, the next one is merged, and no alert is added. -/
theorem alertsOf_second_start {store : EventStore} {before : List TraceGlassEvent}
    {event : TraceGlassEvent} {key : ProcessKey} (hpid : key.pid ≠ 0)
    (hknown : key.creationTime ≠ 0)
    (hsucceeds : SessionSucceeds w store (before ++ [event]))
    (hfirst : ∃ e ∈ before, StartsProcess key e) (hsecond : StartsProcess key event) :
    alertsOf (session w store (before ++ [event])) = alertsOf (session w store before) := by
  obtain ⟨hbefore, hreserve, -⟩ := (Machine.along_append store before [event]).mp hsucceeds
  have hfound := find_ne_none_of_start hpid hknown hbefore hfirst
  have haccepted := accepted_start_iff hreserve.1 hsecond.1
  rw [← session, hsecond.2] at haccepted
  rw [session_append]
  exact alertsOf_ingest_merged (Bool.eq_false_iff.mpr fun h => hfound (haccepted.mp h))

/-- When all the events are STARTs of the process, the first START is the first event. -/
lemma firstStartFires_of_forall {store : EventStore} {first : TraceGlassEvent}
    {events : List TraceGlassEvent} {key : ProcessKey}
    (hall : ∀ e ∈ first :: events, StartsProcess key e) (rule : WString ruleLength) :
    FirstStartFires w store (first :: events) key rule ↔
      eventStoreFindProcess store key = none ∧ rule ∈ rulesOf w first := by
  constructor
  · rintro ⟨before, first', after, hsplit, -, hnone, hfind, hrule⟩
    cases before with
    | nil =>
      obtain ⟨rfl, rfl⟩ := List.cons.inj hsplit
      exact ⟨hfind, hrule⟩
    | cons e before =>
      obtain ⟨rfl, -⟩ := List.cons.inj hsplit
      exact absurd (hall first (by simp)) (hnone first (by simp))
  · rintro ⟨hfind, hrule⟩
    exact ⟨[], first, events, rfl, hall first (by simp), by simp, hfind, hrule⟩

/-- **The alerts of a start are those of its first report.**  From any state with an empty queue,
for any interleaving of pushes and drains after which the queue is empty again: the alerts about a
process of known creation time are those there were, those of the first START report of the process
among the pushes, if no record is found for it where it is drained, and those of other events.  A
report that is merged raises none, so where the pushes of two runs are START reports of the process
only, both runs end with the same alerts exactly if there was a record before, or the first reports
of both fire the same of the rules not raised yet. -/
theorem raised_iff_firstReport {app app' : App} {actions : List AppAction} {key : ProcessKey}
    (hpid : key.pid ≠ 0) (hknown : key.creationTime ≠ 0) (hqueue : app.queue.Holds [])
    (halloc : ∀ action ∈ actions, action.StoreAllocates)
    (hsucceeds : SessionSucceeds w app.gui.store (pushOrder actions))
    (hrun : Machine.run (appStep w sorter) app actions = some app')
    (hdrained : app'.queue.head = none) :
    (∀ rule, Raised app'.gui.store key rule ↔ Raised app.gui.store key rule ∨
      FirstStartFires w app.gui.store (pushOrder actions) key rule ∨
      OtherEventFires w (pushOrder actions) key rule) ∧
    ∀ (actions' : List AppAction) (app'' : App) (first first' : TraceGlassEvent)
      (reports reports' : List TraceGlassEvent),
      (∀ action ∈ actions', action.StoreAllocates) →
      SessionSucceeds w app.gui.store (pushOrder actions') →
      Machine.run (appStep w sorter) app actions' = some app'' → app''.queue.head = none →
      pushOrder actions = first :: reports → pushOrder actions' = first' :: reports' →
      (∀ e ∈ first :: reports, StartsProcess key e) →
      (∀ e ∈ first' :: reports', StartsProcess key e) →
      ((∀ rule, Raised app'.gui.store key rule ↔ Raised app''.gui.store key rule) ↔
        eventStoreFindProcess app.gui.store key ≠ none ∨
          ∀ rule, ¬ Raised app.gui.store key rule →
            (rule ∈ rulesOf w first ↔ rule ∈ rulesOf w first')) := by
  have hraised : ∀ {acts : List AppAction} {ended : App},
      (∀ action ∈ acts, action.StoreAllocates) →
      SessionSucceeds w app.gui.store (pushOrder acts) →
      Machine.run (appStep w sorter) app acts = some ended → ended.queue.head = none →
      ∀ rule, Raised ended.gui.store key rule ↔ Raised app.gui.store key rule ∨
        FirstStartFires w app.gui.store (pushOrder acts) key rule ∨
        OtherEventFires w (pushOrder acts) key rule := by
    intro acts ended halloc hsucceeds hrun hdrained rule
    rw [session_run halloc hrun hqueue hdrained, List.nil_append]
    exact raised_session_iff hpid hknown hsucceeds rule
  refine ⟨hraised halloc hsucceeds hrun hdrained, ?_⟩
  intro actions' app'' first first' reports reports' halloc' hsucceeds' hrun' hdrained' hpushed
    hpushed' hall hall'
  have hother : ∀ {es : List TraceGlassEvent} {rule}, (∀ e ∈ es, StartsProcess key e) →
      ¬ OtherEventFires w es key rule := by
    rintro es rule hes ⟨e, he, -, hstart, -⟩
    exact hstart (hes e he).1
  have hread := hraised halloc hsucceeds hrun hdrained
  have hread' := hraised halloc' hsucceeds' hrun' hdrained'
  simp only [hpushed, hpushed', firstStartFires_of_forall hall, firstStartFires_of_forall hall',
    hother hall, hother hall', or_false] at hread hread'
  simp only [hread, hread']
  by_cases hfind : eventStoreFindProcess app.gui.store key = none
  · simp only [hfind, true_and, ne_eq, not_true_eq_false, false_or]
    refine forall_congr' fun rule => ?_
    by_cases hbefore : Raised app.gui.store key rule <;> simp [hbefore]
  · simp [hfind]

/-- A START report whose producer could not read the path. -/
def pathlessStart : TraceGlassEvent := { TraceGlassEvent.zero with process := ⟨8, 5⟩ }

/-- One of the same process whose producer could. -/
def temporaryStart : TraceGlassEvent :=
  { pathlessStart with executablePath := copyWstring maxPath (wide "C:\\Windows\\Temp\\a.exe") }

/-- The name of the rule on temporary directories. -/
def temporaryRule : WString ruleLength :=
  copyWstring ruleLength executableInTemporaryDirectory.ruleName

/-- Two producers push a report each, and one drain takes both. -/
def drainBoth (first second : TraceGlassEvent) : List AppAction :=
  [.push 0 (some 0) first, .post 0 true, .push 1 (some 1) second, .post 1 true, .take,
    .pop .succeed, .pop .succeed, .pop .succeed, .finish .succeed]

/-- **The rule fires on one of the reports and raises no alert** when the other one is drained
first; in the other order it raises one. -/
theorem mergedReport_raises_nothing :
    temporaryRule ∈ rulesOf Win32.sample temporaryStart ∧
      (Machine.run (appStep Win32.sample (CompareSort.insertion ℕ)) (App.created (some 1) 2)
          (drainBoth pathlessStart temporaryStart)).map
        (fun app => (app.queue.head, decide (Raised app.gui.store ⟨8, 5⟩ temporaryRule))) =
          some (none, false) ∧
      (Machine.run (appStep Win32.sample (CompareSort.insertion ℕ)) (App.created (some 1) 2)
          (drainBoth temporaryStart pathlessStart)).map
        (fun app => (app.queue.head, decide (Raised app.gui.store ⟨8, 5⟩ temporaryRule))) =
          some (none, true) := by
  decide +kernel

/-- The report with the path, drained first, raises its rule. -/
theorem raised_iff_firstReport_temporaryStart :
    (Machine.run (appStep Win32.sample (CompareSort.insertion ℕ)) (App.created (some 1) 2)
        (drainBoth temporaryStart pathlessStart)).map
      (fun app => decide (Raised app.gui.store ⟨8, 5⟩ temporaryRule)) = some true := by
  have hsome : (Machine.run (appStep Win32.sample (CompareSort.insertion ℕ))
      (App.created (some 1) 2) (drainBoth temporaryStart pathlessStart)).map
        (fun app => app.queue.head) = some none := by
    decide +kernel
  obtain ⟨app, hrun, hhead⟩ := Option.map_eq_some_iff.mp hsome
  have halloc : ∀ action ∈ drainBoth temporaryStart pathlessStart, action.StoreAllocates := by
    simp [drainBoth, AppAction.StoreAllocates, DrainEnv.succeed]
  have hraised : Raised app.gui.store ⟨8, 5⟩ temporaryRule ↔ _ :=
    (raised_iff_firstReport (by decide) (by decide) (eventQueueInitialize_holds _ _) halloc
      (by decide +kernel) hrun hhead).1 temporaryRule
  have hfires : FirstStartFires Win32.sample eventStoreInitialize
      (pushOrder (drainBoth temporaryStart pathlessStart)) ⟨8, 5⟩ temporaryRule :=
    ⟨[], temporaryStart, [pathlessStart], rfl, by decide +kernel, by simp, by decide +kernel,
      by decide +kernel⟩
  rw [hrun, Option.map_some, decide_eq_true (hraised.mpr (.inr (.inl hfires)))]

end TraceGlass
