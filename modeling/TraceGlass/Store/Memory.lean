import TraceGlass.Store.Arrays

/-!
# `event_store_add` down to its two blocks

`StoreMemory` is the store with its arrays in their blocks and `StoreMemory.eventStoreAdd` the call
on it, with every element read and written through the block.  `StoreMemory.view` forgets the
blocks.

`StoreMemory.Refines` is that an operation does not fault and leaves sound arrays and the store that
the operation without blocks leaves.  Each operation has its lemma, `StoreMemory.Sound.run` is the
whole run, and `StoreMemory.run_growsSafely` what it means for the arrays.
-/

namespace TraceGlass

/-- `EventStore` with its two arrays in memory. -/
structure StoreMemory where
  events : GrowingArray TraceGlassEvent
  processes : GrowingArray ProcessRecord
  activeProcessCount : ℕ
  networkCount : ℕ
  alertCount : ℕ
  nextSequence : ULONGLONG

/-- What `realloc` answers to each of the two reservations. -/
structure ReallocAnswers where
  processes : Option (ℕ → ProcessRecord)
  events : Option (ℕ → TraceGlassEvent)

/-- Whether it answers a block. -/
def ReallocAnswers.outcome (answers : ReallocAnswers) : ReallocOutcome :=
  ⟨answers.processes.isSome, answers.events.isSome⟩

namespace StoreMemory

/-- `event_store_initialize`. -/
def eventStoreInitialize : StoreMemory where
  events := .empty
  processes := .empty
  activeProcessCount := 0
  networkCount := 0
  alertCount := 0
  nextSequence := 1

/-- The store without the blocks. -/
def view (memory : StoreMemory) : EventStore where
  events := memory.events.used
  eventCapacity := memory.events.capacity
  processes := memory.processes.used
  processCapacity := memory.processes.capacity
  activeProcessCount := memory.activeProcessCount
  networkCount := memory.networkCount
  alertCount := memory.alertCount
  nextSequence := memory.nextSequence

/-! ## The call -/

/-- `event_store_find_process`: the scan reads the records in use, which must lie in the block. -/
def findProcess (memory : StoreMemory) (key : ProcessKey) : Option (Option ℕ) :=
  if memory.processes.count ≤ memory.processes.block.length then
    some (eventStoreFindProcess memory.view key)
  else none

/-- `update_record_from_event` on the record at `index`. -/
def mergeRecord (memory : StoreMemory) (index : ℕ) (event : TraceGlassEvent) :
    Option StoreMemory := do
  let record ← memory.processes.read index
  let processes ← memory.processes.assign index (updateRecordFromEvent record event)
  some { memory with processes }

/-- The new record, at index `process_count`. -/
def appendRecord (memory : StoreMemory) (event : TraceGlassEvent) : Option StoreMemory := do
  let processes ← memory.processes.push (newRecord event)
  some { memory with processes }

/-- The end of the START branch, on the record at `index`. -/
def startRecord (memory : StoreMemory) (index : ℕ) (timestamp : SystemTime) :
    Option StoreMemory := do
  let record ← memory.processes.read index
  let processes ← memory.processes.assign index
    { record with active := true, startTime := timestamp }
  some { memory with processes, activeProcessCount := sizeAdd memory.activeProcessCount 1 }

/-- The end of the STOP branch, on the record at `index`. -/
def stopRecord (memory : StoreMemory) (index : ℕ) (timestamp : SystemTime) :
    Option StoreMemory := do
  let record ← memory.processes.read index
  let processes ← memory.processes.assign index
    { record with active := false, stopTime := timestamp }
  some { memory with
    processes
    activeProcessCount :=
      if record.active && decide (memory.activeProcessCount > 0) then
        memory.activeProcessCount - 1
      else memory.activeProcessCount }

/-- `reserve_processes(store, store->process_count + 1)`. -/
def reserveProcesses (answers : ReallocAnswers) (memory : StoreMemory) :
    Option (Bool × StoreMemory) := do
  let required ← checkedAdd memory.processes.count 1
  let (ok, processes) ←
    memory.processes.reserve sizeofProcessRecord 128 answers.processes required
  some (ok, { memory with processes })

/-- `reserve_events(store, store->event_count + 1)`. -/
def reserveEvents (answers : ReallocAnswers) (memory : StoreMemory) :
    Option (Bool × StoreMemory) := do
  let required ← checkedAdd memory.events.count 1
  let (ok, events) ← memory.events.reserve sizeofTraceGlassEvent 256 answers.events required
  some (ok, { memory with events })

/-- Where the chain over the event type leaves off. -/
inductive Staged
  | returned (ok : Bool) (memory : StoreMemory)
  | staged (memory : StoreMemory)

namespace Staged

/-- The same stage without the blocks. -/
def view : Staged → TraceGlass.Staged
  | .returned ok memory => .returned ok memory.view
  | .staged memory => .staged memory.view

/-- The memory the stage leaves. -/
def memory : Staged → StoreMemory
  | .returned _ memory => memory
  | .staged memory => memory

end Staged

/-- The START branch. -/
def stageStart (answers : ReallocAnswers) (memory : StoreMemory) (event : TraceGlassEvent) :
    Option Staged := do
  match ← memory.findProcess event.process with
  | some index =>
      let memory ← memory.mergeRecord index event
      some (.returned true memory)
  | none =>
      match ← memory.reserveProcesses answers with
      | (false, memory) => some (.returned false memory)
      | (true, memory) =>
          let appended ← memory.appendRecord event
          let started ← appended.startRecord memory.processes.count event.timestamp
          some (.staged started)

/-- The STOP branch. -/
def stageStop (answers : ReallocAnswers) (memory : StoreMemory) (event : TraceGlassEvent) :
    Option Staged := do
  match ← memory.findProcess event.process with
  | some index =>
      let record ← memory.processes.read index
      if !record.active then some (.returned true memory)
      else
        let merged ← memory.mergeRecord index event
        let stopped ← merged.stopRecord index event.timestamp
        some (.staged stopped)
  | none =>
      match ← memory.reserveProcesses answers with
      | (false, memory) => some (.returned false memory)
      | (true, memory) =>
          let appended ← memory.appendRecord event
          let stopped ← appended.stopRecord memory.processes.count event.timestamp
          some (.staged stopped)

/-- The chain over the event type. -/
def stageEvent (answers : ReallocAnswers) (memory : StoreMemory) (event : TraceGlassEvent) :
    Option Staged :=
  match event.type with
  | .processStart => memory.stageStart answers event
  | .processStop => memory.stageStop answers event
  | .network => some (.staged { memory with networkCount := sizeAdd memory.networkCount 1 })
  | .alert => some (.staged { memory with alertCount := sizeAdd memory.alertCount 1 })
  | .file => some (.staged memory)
  | .registry => some (.staged memory)

/-- What a call reports, as `TraceGlass.AddResult`. -/
structure AddResult where
  ok : Bool
  accepted : Bool
  event : TraceGlassEvent
  memory : StoreMemory

/-- The growth of the history. -/
def appendEvent (answers : ReallocAnswers) (memory : StoreMemory) (event : TraceGlassEvent) :
    Option AddResult := do
  match ← memory.reserveEvents answers with
  | (false, memory) => some ⟨false, false, event, memory⟩
  | (true, memory) =>
      let event := { event with sequence := memory.nextSequence }
      let events ← memory.events.push event
      some ⟨true, true, event, { memory with events, nextSequence := memory.nextSequence + 1 }⟩

/-- `event_store_add`. -/
def eventStoreAdd (answers : ReallocAnswers) (memory : StoreMemory) (event : TraceGlassEvent) :
    Option AddResult := do
  match ← memory.stageEvent answers event with
  | .returned ok memory => some ⟨ok, false, event, memory⟩
  | .staged memory => memory.appendEvent answers event

/-- One call, with what the allocator answers. -/
def addCall (memory : StoreMemory) (call : ReallocAnswers × TraceGlassEvent) :
    Option StoreMemory :=
  (memory.eventStoreAdd call.1 call.2).map AddResult.memory

/-! ## In step with the store without blocks -/

/-- Both arrays keep to their blocks. -/
structure Sound (memory : StoreMemory) : Prop where
  events : memory.events.Fits sizeofTraceGlassEvent
  processes : memory.processes.Fits sizeofProcessRecord

/-- The operation does not fault, and leaves sound arrays and this store. -/
def Refines (result : Option StoreMemory) (store : EventStore) : Prop :=
  ∃ memory, result = some memory ∧ memory.Sound ∧ memory.view = store

variable {memory : StoreMemory} {answers : ReallocAnswers} {event : TraceGlassEvent}

/-- The view of a memory in which the records and the counter that goes with them have changed. -/
lemma view_update {processes : GrowingArray ProcessRecord} {records : List ProcessRecord}
    (hused : processes.used = records) (hcapacity : processes.capacity = memory.processes.capacity)
    (active : ℕ) :
    ({ memory with processes, activeProcessCount := active } : StoreMemory).view =
      { memory.view with processes := records, activeProcessCount := active } := by
  simp only [view, hused, hcapacity]

lemma sound_eventStoreInitialize : Sound eventStoreInitialize :=
  ⟨GrowingArray.fits_empty _, GrowingArray.fits_empty _⟩

namespace Sound

lemma processCount_view (h : Sound memory) :
    memory.view.processCount = memory.processes.count := h.processes.length_used

lemma eventCount_view (h : Sound memory) : memory.view.eventCount = memory.events.count :=
  h.events.length_used

lemma read_processes (h : Sound memory) {index : ℕ} (hlt : index < memory.processes.count) :
    memory.processes.read index = some (memory.view.record index) := by
  have hview : index < memory.view.processes.length := by
    rw [← EventStore.processCount, h.processCount_view]
    exact hlt
  rw [GrowingArray.read_eq_used hlt, EventStore.record_eq_getElem hview]
  exact List.getElem?_eq_getElem hview

lemma findProcess (h : Sound memory) (key : ProcessKey) :
    memory.findProcess key = some (eventStoreFindProcess memory.view key) := by
  apply if_pos
  rw [h.processes.length_block]
  exact h.processes.count_le

lemma lt_of_findProcess (h : Sound memory) {key : ProcessKey} {index : ℕ}
    (hfind : eventStoreFindProcess memory.view key = some index) :
    index < memory.processes.count := by
  have hlt := eventStoreFindProcess_lt hfind
  rwa [← EventStore.processCount, h.processCount_view] at hlt

/-- A record is read, and written back changed, with the counter moved by what it was. -/
lemma rewriteRecord (h : Sound memory) {index : ℕ} (hlt : index < memory.processes.count)
    (change : ProcessRecord → ProcessRecord) (active : ProcessRecord → ℕ) :
    Refines
      ((memory.processes.read index).bind fun record =>
        (memory.processes.assign index (change record)).bind fun processes =>
          some { memory with processes, activeProcessCount := active record })
      { memory.view with
        processes := memory.view.processes.set index (change (memory.view.record index))
        activeProcessCount := active (memory.view.record index) } := by
  obtain ⟨processes, hassign, hfits, hused, hcapacity⟩ :=
    h.processes.assign hlt (change (memory.view.record index))
  refine ⟨{ memory with
    processes, activeProcessCount := active (memory.view.record index) }, ?_, ⟨h.events, hfits⟩,
    view_update hused hcapacity _⟩
  rw [h.read_processes hlt, Option.bind_some, hassign, Option.bind_some]

lemma mergeRecord (h : Sound memory) {index : ℕ} (hlt : index < memory.processes.count)
    (event : TraceGlassEvent) :
    Refines (memory.mergeRecord index event) (TraceGlass.mergeRecord memory.view index event) :=
  h.rewriteRecord hlt (updateRecordFromEvent · event) fun _ => memory.activeProcessCount

lemma startRecord (h : Sound memory) {index : ℕ} (hlt : index < memory.processes.count)
    (timestamp : SystemTime) :
    Refines (memory.startRecord index timestamp)
      (TraceGlass.startRecord memory.view index timestamp) :=
  h.rewriteRecord hlt (fun record => { record with active := true, startTime := timestamp })
    fun _ => sizeAdd memory.activeProcessCount 1

lemma stopRecord (h : Sound memory) {index : ℕ} (hlt : index < memory.processes.count)
    (timestamp : SystemTime) :
    Refines (memory.stopRecord index timestamp)
      (TraceGlass.stopRecord memory.view index timestamp) :=
  h.rewriteRecord hlt (fun record => { record with active := false, stopTime := timestamp })
    fun record =>
      if record.active && decide (memory.activeProcessCount > 0) then
        memory.activeProcessCount - 1
      else memory.activeProcessCount

lemma reserveProcesses (h : Sound memory) (answers : ReallocAnswers) :
    (memory.reserveProcesses answers = some (false, memory) ∧
        TraceGlass.reserveProcesses answers.outcome.processes memory.view
          (sizeAdd memory.view.processCount 1) = none) ∨
      ∃ memory', memory.reserveProcesses answers = some (true, memory') ∧
        TraceGlass.reserveProcesses answers.outcome.processes memory.view
          (sizeAdd memory.view.processCount 1) = some memory'.view ∧
        memory'.Sound ∧ memory'.processes.count < memory'.processes.capacity := by
  have hnext := h.processes.checkedAdd_count (by decide)
  have hwrap : sizeAdd memory.view.processCount 1 = memory.processes.count + 1 := by
    rw [h.processCount_view]
    exact sizeAdd_of_checkedAdd hnext
  simp only [StoreMemory.reserveProcesses, TraceGlass.reserveProcesses, hwrap, hnext,
    Option.bind_eq_bind, Option.bind_some]
  rcases h.processes.reserve_next 128 (by decide) (by decide) (by decide)
      answers.processes with
    ⟨hreserve, hcapacity⟩ | ⟨processes, hreserve, hcapacity, hfits, hused, -, hroom⟩
  · left
    rw [hreserve]
    exact ⟨rfl, Option.map_eq_none_iff.mpr hcapacity⟩
  · right
    refine ⟨{ memory with processes }, ?_, ?_, ⟨h.events, hfits⟩, hroom⟩
    · rw [hreserve]
      rfl
    · refine Option.map_eq_some_iff.mpr ⟨processes.capacity, hcapacity, ?_⟩
      simp only [view, hused]

/-- With room for it, the new record goes behind the others. -/
lemma appendRecord (h : Sound memory)
    (hroom : memory.processes.count < memory.processes.capacity) (event : TraceGlassEvent) :
    ∃ memory', memory.appendRecord event = some memory' ∧ memory'.Sound ∧
      memory'.view = TraceGlass.appendRecord memory.view event ∧
      memory.view.processCount < memory'.processes.count := by
  obtain ⟨processes, hpush, hfits, hused, hcapacity⟩ :=
    h.processes.push (by decide) hroom (newRecord event)
  refine ⟨{ memory with processes }, ?_, ⟨h.events, hfits⟩, view_update hused hcapacity _, ?_⟩
  · simp only [StoreMemory.appendRecord, hpush, Option.bind_eq_bind, Option.bind_some]
  · rw [← hfits.length_used, hused, List.length_append, h.processCount_view,
      h.processes.length_used]
    exact Nat.lt_succ_self _

lemma reserveEvents (h : Sound memory) (answers : ReallocAnswers) :
    (memory.reserveEvents answers = some (false, memory) ∧
        TraceGlass.reserveEvents answers.outcome.events memory.view
          (sizeAdd memory.view.eventCount 1) = none) ∨
      ∃ memory', memory.reserveEvents answers = some (true, memory') ∧
        TraceGlass.reserveEvents answers.outcome.events memory.view
          (sizeAdd memory.view.eventCount 1) = some memory'.view ∧
        memory'.Sound ∧ memory'.events.count < memory'.events.capacity := by
  have hnext := h.events.checkedAdd_count (by decide)
  have hwrap : sizeAdd memory.view.eventCount 1 = memory.events.count + 1 := by
    rw [h.eventCount_view]
    exact sizeAdd_of_checkedAdd hnext
  simp only [StoreMemory.reserveEvents, TraceGlass.reserveEvents, hwrap, hnext,
    Option.bind_eq_bind, Option.bind_some]
  rcases h.events.reserve_next 256 (by decide) (by decide) (by decide)
      answers.events with
    ⟨hreserve, hcapacity⟩ | ⟨events, hreserve, hcapacity, hfits, hused, -, hroom⟩
  · left
    rw [hreserve]
    exact ⟨rfl, Option.map_eq_none_iff.mpr hcapacity⟩
  · right
    refine ⟨{ memory with events }, ?_, ?_, ⟨hfits, h.processes⟩, hroom⟩
    · rw [hreserve]
      rfl
    · refine Option.map_eq_some_iff.mpr ⟨events.capacity, hcapacity, ?_⟩
      simp only [view, hused]

end Sound

/-! ## One call -/

lemma Sound.stageStart (h : Sound memory) (answers : ReallocAnswers) (event : TraceGlassEvent) :
    ∃ stage, memory.stageStart answers event = some stage ∧ stage.memory.Sound ∧
      stage.view = TraceGlass.stageStart answers.outcome memory.view event := by
  unfold StoreMemory.stageStart TraceGlass.stageStart
  rw [h.findProcess, Option.bind_eq_bind, Option.bind_some]
  cases hfind : eventStoreFindProcess memory.view event.process with
  | some index =>
    obtain ⟨merged, hmerge, hsound, hview⟩ := h.mergeRecord (h.lt_of_findProcess hfind) event
    refine ⟨.returned true merged, ?_, hsound, ?_⟩
    · simp only [hmerge, Option.bind_eq_bind, Option.bind_some]
    · simp only [Staged.view, hview]
  | none =>
    rcases h.reserveProcesses answers with ⟨hno, hno'⟩ | ⟨grown, hgrow, hgrow', hsound, hroom⟩
    · refine ⟨.returned false memory, ?_, h, ?_⟩
      · simp only [hno, Option.bind_eq_bind, Option.bind_some]
      · simp only [hno', Staged.view]
    · obtain ⟨appended, happend, hsound', hview', hlt⟩ := hsound.appendRecord hroom event
      obtain ⟨started, hstart, hsound'', hview''⟩ := hsound'.startRecord hlt event.timestamp
      refine ⟨.staged started, ?_, hsound'', ?_⟩
      · simp only [hgrow, happend, ← hsound.processCount_view, hstart, Option.bind_eq_bind,
          Option.bind_some]
      · simp only [hgrow', Staged.view, hview'', hview']

lemma Sound.stageStop (h : Sound memory) (answers : ReallocAnswers) (event : TraceGlassEvent) :
    ∃ stage, memory.stageStop answers event = some stage ∧ stage.memory.Sound ∧
      stage.view = TraceGlass.stageStop answers.outcome memory.view event := by
  unfold StoreMemory.stageStop TraceGlass.stageStop
  rw [h.findProcess, Option.bind_eq_bind, Option.bind_some]
  cases hfind : eventStoreFindProcess memory.view event.process with
  | some index =>
    have hlt := h.lt_of_findProcess hfind
    simp only [h.read_processes hlt, Option.bind_eq_bind, Option.bind_some]
    by_cases hactive : (!(memory.view.record index).active) = true
    · rw [if_pos hactive, if_pos hactive]
      exact ⟨.returned true memory, rfl, h, rfl⟩
    · obtain ⟨merged, hmerge, hsound, hview⟩ := h.mergeRecord hlt event
      have hlt' : index < merged.processes.count := by
        rw [← hsound.processCount_view, hview, EventStore.processCount, TraceGlass.mergeRecord,
          List.length_set, ← EventStore.processCount, h.processCount_view]
        exact hlt
      obtain ⟨stopped, hstop, hsound', hview'⟩ := hsound.stopRecord hlt' event.timestamp
      rw [if_neg hactive, if_neg hactive]
      refine ⟨.staged stopped, ?_, hsound', ?_⟩
      · simp only [hmerge, hstop, Option.bind_some]
      · simp only [Staged.view, hview', hview]
  | none =>
    rcases h.reserveProcesses answers with ⟨hno, hno'⟩ | ⟨grown, hgrow, hgrow', hsound, hroom⟩
    · refine ⟨.returned false memory, ?_, h, ?_⟩
      · simp only [hno, Option.bind_eq_bind, Option.bind_some]
      · simp only [hno', Staged.view]
    · obtain ⟨appended, happend, hsound', hview', hlt⟩ := hsound.appendRecord hroom event
      obtain ⟨stopped, hstop, hsound'', hview''⟩ := hsound'.stopRecord hlt event.timestamp
      refine ⟨.staged stopped, ?_, hsound'', ?_⟩
      · simp only [hgrow, happend, ← hsound.processCount_view, hstop, Option.bind_eq_bind,
          Option.bind_some]
      · simp only [hgrow', Staged.view, hview'', hview']

lemma Sound.stageEvent (h : Sound memory) (answers : ReallocAnswers) (event : TraceGlassEvent) :
    ∃ stage, memory.stageEvent answers event = some stage ∧ stage.memory.Sound ∧
      stage.view = TraceGlass.stageEvent answers.outcome memory.view event := by
  unfold StoreMemory.stageEvent TraceGlass.stageEvent
  cases event.type with
  | processStart => exact h.stageStart answers event
  | processStop => exact h.stageStop answers event
  | network => exact ⟨_, rfl, ⟨h.events, h.processes⟩, rfl⟩
  | alert => exact ⟨_, rfl, ⟨h.events, h.processes⟩, rfl⟩
  | file => exact ⟨_, rfl, h, rfl⟩
  | registry => exact ⟨_, rfl, h, rfl⟩

/-- What the call reports without the blocks. -/
def AddResult.view (result : AddResult) : TraceGlass.AddResult where
  ok := result.ok
  accepted := result.accepted
  event := result.event
  store := result.memory.view

lemma Sound.appendEvent (h : Sound memory) (answers : ReallocAnswers) (event : TraceGlassEvent) :
    ∃ result, memory.appendEvent answers event = some result ∧ result.memory.Sound ∧
      result.view = TraceGlass.appendEvent answers.outcome memory.view event := by
  unfold StoreMemory.appendEvent TraceGlass.appendEvent
  rcases h.reserveEvents answers with ⟨hno, hno'⟩ | ⟨grown, hgrow, hgrow', hsound, hroom⟩
  · refine ⟨⟨false, false, event, memory⟩, ?_, h, ?_⟩
    · simp only [hno, Option.bind_eq_bind, Option.bind_some]
    · simp only [hno', AddResult.view]
  · obtain ⟨events, hpush, hfits, hused, hcapacity⟩ :=
      hsound.events.push (by decide) hroom { event with sequence := grown.nextSequence }
    refine ⟨⟨true, true, { event with sequence := grown.nextSequence },
      { grown with events, nextSequence := grown.nextSequence + 1 }⟩, ?_,
      ⟨hfits, hsound.processes⟩, ?_⟩
    · simp only [hgrow, hpush, Option.bind_eq_bind, Option.bind_some]
    · rw [hgrow']
      simp only [AddResult.view, view, hused, hcapacity]

/-- **One call**, from arrays that keep to their blocks: it does not fault, they still do, and the
call without the blocks does the same. -/
theorem Sound.eventStoreAdd (h : Sound memory) (answers : ReallocAnswers)
    (event : TraceGlassEvent) :
    ∃ result, memory.eventStoreAdd answers event = some result ∧ result.memory.Sound ∧
      result.view = TraceGlass.eventStoreAdd answers.outcome memory.view event := by
  obtain ⟨stage, hstage, hsound, hview⟩ := h.stageEvent answers event
  unfold StoreMemory.eventStoreAdd TraceGlass.eventStoreAdd
  rw [hstage, ← hview, Option.bind_eq_bind, Option.bind_some]
  cases stage with
  | returned ok memory' => exact ⟨_, rfl, hsound, rfl⟩
  | staged memory' => exact hsound.appendEvent answers event

/-! ## Runs -/

lemma Sound.addCall (h : Sound memory) (call : ReallocAnswers × TraceGlassEvent) :
    Refines (memory.addCall call) (TraceGlass.addCall memory.view (call.1.outcome, call.2)) := by
  obtain ⟨result, hresult, hsound, hview⟩ := h.eventStoreAdd call.1 call.2
  refine ⟨result.memory, ?_, hsound, ?_⟩
  · rw [StoreMemory.addCall, hresult, Option.map_some]
  · exact congrArg TraceGlass.AddResult.store hview

/-- The run of the store without blocks that has the same outcomes. -/
def forget (calls : List (ReallocAnswers × TraceGlassEvent)) :
    List (ReallocOutcome × TraceGlassEvent) :=
  calls.map fun call => (call.1.outcome, call.2)

/-- **A whole run.** -/
theorem Sound.run (h : Sound memory) (calls : List (ReallocAnswers × TraceGlassEvent)) :
    Refines (Machine.run StoreMemory.addCall memory calls)
      ((forget calls).foldl TraceGlass.addCall memory.view) := by
  induction calls generalizing memory with
  | nil => exact ⟨memory, rfl, h, rfl⟩
  | cons call calls ih =>
    obtain ⟨memory', hcall, hsound, hview⟩ := h.addCall call
    rw [Machine.run, hcall, Option.bind_some, forget, List.map_cons, List.foldl_cons, ← hview]
    exact ih hsound

/-- The stores that calls can lead to are the views of such runs. -/
theorem reachable_iff_run {store : EventStore} :
    Reachable store ↔ ∃ calls, Refines (Machine.run StoreMemory.addCall eventStoreInitialize calls)
      store := by
  constructor
  · rintro ⟨outcomes, rfl⟩
    let answer : ReallocOutcome → ReallocAnswers := fun outcome =>
      ⟨if outcome.processes then some fun _ => .zero else none,
        if outcome.events then some fun _ => .zero else none⟩
    have hanswer : ∀ outcome, (answer outcome).outcome = outcome := by
      rintro ⟨_ | _, _ | _⟩ <;> rfl
    refine ⟨outcomes.map fun call => (answer call.1, call.2), ?_⟩
    have hforget : forget (outcomes.map fun call => (answer call.1, call.2)) = outcomes := by
      rw [forget, List.map_map]
      conv_rhs => rw [← List.map_id outcomes]
      exact List.map_congr_left fun call _ => Prod.ext (hanswer call.1) rfl
    have hrun := sound_eventStoreInitialize.run (outcomes.map fun call => (answer call.1, call.2))
    rwa [hforget] at hrun
  · rintro ⟨calls, memory, hrun, -, rfl⟩
    obtain ⟨memory', hrun', -, hview⟩ := sound_eventStoreInitialize.run calls
    rw [hrun] at hrun'
    obtain rfl := Option.some.inj hrun'
    exact ⟨forget calls, hview.symm⟩

/-- **Both arrays, after any calls.**  None of the calls has faulted, whatever the allocator
answered, the store is the one of the run without blocks, and both arrays grow safely from there. -/
theorem run_growsSafely (calls : List (ReallocAnswers × TraceGlassEvent)) :
    ∃ memory, Machine.run StoreMemory.addCall eventStoreInitialize calls = some memory ∧
      memory.view = (forget calls).foldl TraceGlass.addCall TraceGlass.eventStoreInitialize ∧
      memory.events.GrowsSafely sizeofTraceGlassEvent 256 ∧
      memory.processes.GrowsSafely sizeofProcessRecord 128 := by
  obtain ⟨memory, hrun, hsound, hview⟩ := sound_eventStoreInitialize.run calls
  exact ⟨memory, hrun, hview, hsound.events.growsSafely (by decide) (by decide) (by decide),
    hsound.processes.growsSafely (by decide) (by decide) (by decide)⟩

end StoreMemory

end TraceGlass
