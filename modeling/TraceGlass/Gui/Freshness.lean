import TraceGlass.Gui.Run
import TraceGlass.Gui.Forest
import TraceGlass.Store.Records

/-!
# How old the process tree is

`drain_events` rebuilds the tree only where it accepted a START or a STOP, and `toggle_pause` only
where something was accepted since the pause.  A START that is merged into a record is not accepted,
so the names, the creation time and the parent it brings show when the tree is rebuilt next.

`guiStep_tree` says what an action does to the tree, and `TreeFrom` what a run makes of that: the
tree is of the store at some point of the run, and no START or STOP was accepted since.
-/

namespace TraceGlass

open SortedArray

variable {w : Win32} {sorter : CompareSort ℕ}

/-! ## What the tree depends on -/

/-- What `rebuild_process_tree` reads of a record. -/
def ProcessRecord.treeInput (record : ProcessRecord) :
    ProcessKey × ProcessKey × Bool × WString maxPath :=
  (record.key, record.parent, record.active, record.name)

/-- What it reads of the store. -/
def treeInputs (store : EventStore) : List (ProcessKey × ProcessKey × Bool × WString maxPath) :=
  store.processes.map ProcessRecord.treeInput

section
variable {store after : EventStore}

lemma record_of_treeInputs (h : treeInputs after = treeInputs store) (index : ℕ) :
    (after.record index).treeInput = (store.record index).treeInput := by
  have hget : ∀ s : EventStore,
      (s.record index).treeInput = (treeInputs s).getD index ProcessRecord.zero.treeInput := by
    intro s
    rw [treeInputs, EventStore.record, List.getD_eq_getElem?_getD, List.getD_eq_getElem?_getD,
      List.getElem?_map]
    cases s.processes[index]? <;> rfl
  rw [hget, hget, h]

lemma findParentIndex_of_treeInputs (h : treeInputs after = treeInputs store) (index : ℕ) :
    findParentIndex after index = findParentIndex store index := by
  have hrecord := record_of_treeInputs h index
  simp only [ProcessRecord.treeInput, Prod.mk.injEq] at hrecord
  have htable : after.table = store.table := by
    have hslot : ∀ s : EventStore, s.table = (treeInputs s).map fun input =>
        ⟨input.1, input.2.2.1⟩ := by
      intro s
      rw [treeInputs, List.map_map]
      rfl
    rw [hslot, hslot, h]
  rw [findParentIndex, findParentIndex, hrecord.1, hrecord.2.1, eventStoreFindProcess_eq_find,
    eventStoreFindProcess_eq_find, htable]

/-- **The tree is a function of these.** -/
theorem rebuiltProcessTree_of_treeInputs (h : treeInputs after = treeInputs store) (calloc : Bool)
    (insertNode : ℕ → Bool) :
    rebuiltProcessTree calloc insertNode after = rebuiltProcessTree calloc insertNode store := by
  have hlabel : ∀ index, processLabel (after.record index) = processLabel (store.record index) := by
    intro index
    have hrecord := record_of_treeInputs h index
    simp only [ProcessRecord.treeInput, Prod.mk.injEq] at hrecord
    simp only [processLabel, hrecord.1, hrecord.2.2.1, hrecord.2.2.2]
  have hnode : ∀ fuel build index, insertProcessNode insertNode after fuel build index =
      insertProcessNode insertNode store fuel build index := by
    intro fuel
    induction fuel with
    | zero => exact fun _ _ => rfl
    | succ fuel ih =>
      intro build index
      simp only [insertProcessNode, findParentIndex_of_treeInputs h, hlabel, ih]
  have hcount : after.processCount = store.processCount := by
    have hlength := congrArg List.length h
    simpa [treeInputs, EventStore.processCount] using hlength
  simp only [rebuiltProcessTree, hcount, hnode]

end

/-! ## What a turn of the drain does to that -/

/-- A START that is merged into a record brings nothing the tree shows. -/
def NothingNew (store : EventStore) (event : TraceGlassEvent) : Prop :=
  ∀ index < store.processCount, event.type = .processStart →
    eventStoreFindProcess store event.process = some index →
      (updateRecordFromEvent (store.record index) event).treeInput =
        (store.record index).treeInput

instance (store : EventStore) (event : TraceGlassEvent) : Decidable (NothingNew store event) :=
  Nat.decidableBallLT _ _

section
variable {store : EventStore} {event : TraceGlassEvent}

lemma processes_of_not_changesTree (alloc : ReallocOutcome) (h : ¬ ChangesTree event) :
    (eventStoreAdd alloc store event).store.processes = store.processes := by
  obtain ⟨hstart, hstop⟩ := not_or.mp h
  have hafter := recordsAfter alloc store event
  generalize (eventStoreAdd alloc store event).store.processes = after at hafter
  cases hafter with
  | kept => rfl
  | merged hmerges => exact absurd hmerges (not_mergesAt_of_type hstart hstop _)
  | added htype => exact absurd htype h

/-- What is not accepted changes at most the record it is merged into. -/
lemma treeInputs_of_rejected (hreserve : ReservationsSucceed store)
    (hrejected : (eventStoreAdd .succeed store event).accepted = false)
    (hnew : NothingNew store event) :
    treeInputs (eventStoreAdd .succeed store event).store = treeInputs store := by
  have hok := (eventStoreAdd_succeed hreserve event).1
  have hcase := eventStoreAdd_case .succeed store event
  generalize eventStoreAdd .succeed store event = result at hcase hok hrejected
  cases hcase with
  | returned hstage =>
    cases hstage with
    | startUnreserved | stopUnreserved => cases hok
    | stopIgnored => rfl
    | @startCoalesced index htype hfind =>
      have hlt := eventStoreFindProcess_lt hfind
      have hsame := hnew index hlt htype hfind
      have hat : treeInputs store = (treeInputs store).set index
          (store.record index).treeInput := by
        refine (List.set_getElem_self (by simpa [treeInputs] using hlt)).symm.trans ?_
        simp [treeInputs, EventStore.record, hlt]
      rw [hat, treeInputs, mergeRecord, List.map_set, hsame]
      rfl
  | appended _ happend =>
    cases happend with
    | unreserved => cases hok
    | appended => cases hrejected

/-- A turn of the drain that accepts no START and no STOP. -/
lemma treeInputs_ingest (hsucceeds : IngestSucceeds w store event) (hnew : NothingNew store event)
    (hquiet : (eventStoreAdd .succeed store event).accepted = true → ¬ ChangesTree event) :
    treeInputs (ingest w store event) = treeInputs store := by
  have halerts : ∀ (alerts : List TraceGlassEvent) (s : EventStore),
      (∀ a ∈ alerts, a.type = .alert) → treeInputs (addEvents s alerts) = treeInputs s := by
    intro alerts
    induction alerts with
    | nil => exact fun _ _ => rfl
    | cons alert alerts ih =>
      intro s htype
      have hother : ¬ ChangesTree alert := by
        rw [ChangesTree, htype alert (by simp)]
        decide
      have hcons : addEvents s (alert :: alerts) = addEvents (addEvent s alert) alerts := rfl
      rw [hcons, ih _ fun a ha => htype a (List.mem_cons_of_mem _ ha), treeInputs, addEvent,
        processes_of_not_changesTree _ hother]
      rfl
  rw [ingest]
  cases haccepted : (eventStoreAdd .succeed store event).accepted with
  | false => exact treeInputs_of_rejected hsucceeds.1 haccepted hnew
  | true =>
    simp only [if_true]
    rw [halerts _ _ fun _ => type_of_mem_detectionEvaluate, treeInputs,
      processes_of_not_changesTree _ (hquiet haccepted)]
    rfl

/-- A session that accepts no START and no STOP. -/
lemma treeInputs_session {events : List TraceGlassEvent}
    (hsucceeds : SessionSucceeds w store events)
    (hnew : Machine.Along (ingest w) NothingNew store events)
    (hquiet : ∀ e ∈ acceptedEvents w store events, ¬ ChangesTree e) :
    treeInputs (session w store events) = treeInputs store := by
  induction events generalizing store with
  | nil => rfl
  | cons event events ih =>
    have hcons : session w store (event :: events) = session w (ingest w store event) events := rfl
    simp only [acceptedEvents] at hquiet
    have hfirst : (eventStoreAdd .succeed store event).accepted = true → ¬ ChangesTree event := by
      intro haccepted
      rw [if_pos haccepted] at hquiet
      exact hquiet event (by simp)
    have hrest : ∀ e ∈ acceptedEvents w (ingest w store event) events, ¬ ChangesTree e := by
      intro e he
      split at hquiet
      · exact hquiet e (List.mem_cons_of_mem _ he)
      · exact hquiet e he
    rw [hcons, ih hsucceeds.2 hnew.2 hrest, treeInputs_ingest hsucceeds.1 hnew.1 hfirst]

end

/-! ## Runs -/

/-- The `realloc`s of the store and the calls that build the tree succeed in this action. -/
def GuiAction.TreeSucceeds : GuiAction → Prop
  | .drain batch env =>
      (∀ popped ∈ batch, ∀ turn, popped.1.alloc turn = .succeed) ∧
        env.calloc = true ∧ env.insertNode = insertAll
  | .input env _ => env.calloc = true ∧ env.insertNode = insertAll

/-- The tree of the store. -/
abbrev treeOfStore (store : EventStore) : List TreeItem := rebuiltProcessTree true insertAll store

/-- What an action can do to the tree, where a dirty view is always a paused one. -/
structure TreeStep (w : Win32) (gui after : GuiState) (drained : List TraceGlassEvent) : Prop where
  store_eq : after.store = session w gui.store drained
  paused : after.renderDirty = true → after.renderingPaused = true
  tree : after.renderDirty = false →
    after.processTree = treeOfStore after.store ∨
      gui.renderDirty = false ∧ after.processTree = gui.processTree ∧
        ∀ e ∈ acceptedEvents w gui.store drained, ¬ ChangesTree e

section
variable {gui after : GuiState} {env : UiEnv}

/-- Rows are nothing to it. -/
lemma TreeStep.of_rows {last : GuiState} {drained : List TraceGlassEvent}
    (h : TreeStep w gui after drained) (hlast : SameButRows after last) :
    TreeStep w gui last drained where
  store_eq := hlast.store.trans h.store_eq
  paused := by
    rw [hlast.renderDirty, hlast.renderingPaused]
    exact h.paused
  tree := by
    rw [hlast.renderDirty, hlast.processTree, hlast.store]
    exact h.tree

/-- An action that drains nothing and leaves the tree alone. -/
lemma TreeStep.of_kept (hpaused : after.renderDirty = true → after.renderingPaused = true)
    (hstore : after.store = gui.store)
    (hdirty : after.renderDirty = false → gui.renderDirty = false)
    (htree : after.processTree = gui.processTree) : TreeStep w gui after [] where
  store_eq := hstore
  paused := hpaused
  tree hclean := .inr ⟨hdirty hclean, htree, by simp [acceptedEvents]⟩

lemma processTree_rebuildProcessTree (hcalloc : env.calloc = true)
    (hinsert : env.insertNode = insertAll) :
    (rebuildProcessTree env gui).processTree = treeOfStore gui.store := by
  rw [rebuildProcessTree, hcalloc, hinsert]

lemma treeStep_drainEvents (hpaused : gui.renderDirty = true → gui.renderingPaused = true)
    {batch : List (DrainEnv × TraceGlassEvent)}
    (hsucceeds : (GuiAction.drain batch env).TreeSucceeds) :
    TreeStep w gui (drainEvents w sorter env gui batch) (batch.map Prod.snd) := by
  obtain ⟨halloc, hcalloc, hinsert⟩ := hsucceeds
  have hframe := @sameButStoreAndRows_drainLoop w (gui, beginDrain gui) batch
  obtain ⟨hstore, htree, hany⟩ := @drainLoop_locals w batch halloc (gui, beginDrain gui)
  rw [drainEvents]
  generalize drainLoop w (gui, beginDrain gui) batch = drained at hframe hstore htree hany
  have hpaused' : drained.1.renderDirty = true → drained.1.renderingPaused = true := by
    rw [hframe.renderDirty, hframe.renderingPaused]
    exact hpaused
  have hkept : (∀ e ∈ acceptedEvents w gui.store (batch.map Prod.snd), ¬ ChangesTree e) →
      TreeStep w gui drained.1 (batch.map Prod.snd) := fun hquiet =>
    ⟨hstore, hpaused', fun hclean =>
      .inr ⟨hframe.renderDirty ▸ hclean, hframe.processTree, hquiet⟩⟩
  cases haccepted : drained.2.anyAccepted with
  | false =>
    rw [finishDrain_idle haccepted]
    exact hkept (by simp [(hany haccepted).2])
  | true =>
    cases hpause : drained.1.renderingPaused with
    | true =>
      rw [finishDrain_paused haccepted hpause]
      exact ⟨hstore, fun _ => hpause, fun hclean => by cases hclean⟩
    | false =>
      rw [finishDrain_live haccepted hpause]
      have htree' : TreeStep w gui
          (if drained.2.treeChanged then rebuildProcessTree env drained.1 else drained.1)
          (batch.map Prod.snd) := by
        split
        · exact ⟨hstore, hpaused', fun _ => .inl (processTree_rebuildProcessTree hcalloc hinsert)⟩
        · next hchanged => exact hkept (htree (Bool.eq_false_iff.mpr hchanged)).2
      exact htree'.of_rows
        ((sameButRows_rebuildOverviewLists _).trans (sameButRows_sortTables _ _))

/-- What a message changes besides rows. -/
lemma treeStep_entered (hpaused : gui.renderDirty = true → gui.renderingPaused = true)
    (hcalloc : env.calloc = true) (hinsert : env.insertNode = insertAll) (input : UiInput) :
    TreeStep w gui (gui.entered env input) [] := by
  have hdeferred :
      (gui.renderDirty || gui.renderingPaused) = true → gui.renderingPaused = true := by
    rw [Bool.or_eq_true]
    exact fun h => h.elim hpaused id
  cases input with
  | filterTimer | filterSelected =>
    exact .of_kept hdeferred rfl (fun hclean => (Bool.or_eq_false_iff.mp hclean).1) rfl
  | searchChanged | tabSelected => exact .of_kept hpaused rfl id rfl
  | pauseClicked =>
    simp only [GuiState.entered]
    split
    · exact ⟨rfl, fun hdirty => (by cases hdirty),
        fun _ => .inl (processTree_rebuildProcessTree hcalloc hinsert)⟩
    · next hother =>
      refine .of_kept (fun hdirty => ?_) rfl id rfl
      simp only at hdirty
      exact absurd (Bool.and_eq_true_iff.mpr ⟨hpaused hdirty, hdirty⟩) hother
  | clearClicked =>
    simp only [GuiState.entered]
    split <;> exact .of_kept hpaused rfl id rfl
  | columnClicked list column =>
    simp only [GuiState.entered]
    cases list.view <;> exact .of_kept hpaused rfl id rfl

/-- **One action.** -/
theorem guiStep_tree (hpaused : gui.renderDirty = true → gui.renderingPaused = true)
    {action : GuiAction} (hsucceeds : action.TreeSucceeds) :
    TreeStep w gui (guiStep w sorter gui action) action.drained := by
  cases action with
  | drain batch env => exact treeStep_drainEvents hpaused hsucceeds
  | input env input =>
    exact (treeStep_entered hpaused hsucceeds.1 hsucceeds.2 input).of_rows
      (sameButRows_uiStep gui input)

end

/-- The tree is of the store at some point of the run after which no START and no STOP was
accepted. -/
def TreeFrom (w : Win32) (sorter : CompareSort ℕ) (actions : List GuiAction) : Prop :=
  ∃ earlier later, actions = earlier ++ later ∧
    (guiRun w sorter actions).processTree = treeOfStore (guiRun w sorter earlier).store ∧
    ∀ e ∈ acceptedEvents w (guiRun w sorter earlier).store (drainedBy later), ¬ ChangesTree e

section
variable {actions : List GuiAction}

/-- The flags, the store and the tree along a run. -/
lemma tree_of_run (hsucceeds : ∀ action ∈ actions, action.TreeSucceeds) :
    ((guiRun w sorter actions).renderDirty = true →
      (guiRun w sorter actions).renderingPaused = true) ∧
    (∀ earlier later, actions = earlier ++ later → (guiRun w sorter actions).store =
      session w (guiRun w sorter earlier).store (drainedBy later)) ∧
    ((guiRun w sorter actions).renderDirty = false → TreeFrom w sorter actions) := by
  induction actions using List.reverseRecOn with
  | nil =>
    refine ⟨fun h => (by cases h), ?_, fun _ => ⟨[], [], rfl, rfl, ?_⟩⟩
    · intro earlier later hsplit
      obtain ⟨rfl, rfl⟩ := List.append_eq_nil_iff.mp hsplit.symm
      rfl
    · simp [drainedBy, acceptedEvents]
  | append_singleton actions action ih =>
    obtain ⟨hpaused, hstore, htree⟩ := ih fun a ha => hsucceeds a (by simp [ha])
    have hstep := @guiStep_tree w sorter _ hpaused action (hsucceeds action (by simp))
    rw [← guiRun_snoc] at hstep
    refine ⟨hstep.paused, ?_, fun hclean => ?_⟩
    · intro earlier later hsplit
      rcases List.eq_nil_or_concat later with rfl | ⟨rest, last, rfl⟩
      · rw [List.append_nil] at hsplit
        rw [hsplit]
        rfl
      · rw [List.concat_eq_append, ← List.append_assoc] at hsplit
        obtain ⟨hsplit', hlast⟩ := List.append_inj' hsplit rfl
        obtain rfl : action = last := List.head_eq_of_cons_eq hlast
        rw [hstep.store_eq, hstore earlier rest hsplit', ← session_append]
        simp [drainedBy]
    · rcases hstep.tree hclean with hfresh | ⟨hwas, hsame, hquiet⟩
      · exact ⟨actions ++ [action], [], by simp, hfresh, by simp [drainedBy, acceptedEvents]⟩
      · obtain ⟨earlier, later, hsplit, hof, hbefore⟩ := htree hwas
        refine ⟨earlier, later ++ [action], by simp [hsplit], hsame.trans hof, ?_⟩
        have hdrained : drainedBy (later ++ [action]) = drainedBy later ++ action.drained := by
          simp [drainedBy]
        rw [hdrained, acceptedEvents_append, ← hstore earlier later hsplit]
        intro e he
        rcases List.mem_append.mp he with he | he
        · exact hbefore e he
        · exact hquiet e he

/-- **The process tree is a view of the store of its last rebuild.**  In a run whose allocations and
insertions succeed, while rendering is not paused, the tree is the one of the store at some point
after which no START and no STOP was accepted, and it is the one of the store as it is now, if no
START merged since then brought a name, a creation time or a parent that the record did not have. -/
theorem processTree_of_lastRebuild (hsucceeds : ∀ action ∈ actions, action.TreeSucceeds)
    (hreserve : SessionSucceeds w eventStoreInitialize (drainedBy actions))
    (hlive : (guiRun w sorter actions).renderingPaused = false) :
    ∃ earlier later, actions = earlier ++ later ∧
      (guiRun w sorter actions).processTree = treeOfStore (guiRun w sorter earlier).store ∧
      (∀ e ∈ acceptedEvents w (guiRun w sorter earlier).store (drainedBy later),
        ¬ ChangesTree e) ∧
      (Machine.Along (ingest w) NothingNew (guiRun w sorter earlier).store (drainedBy later) →
        (guiRun w sorter actions).processTree = treeOfStore (guiRun w sorter actions).store) := by
  obtain ⟨hpaused, hstore, htree⟩ := @tree_of_run w sorter actions hsucceeds
  have hclean : (guiRun w sorter actions).renderDirty = false := by
    rw [← Bool.not_eq_true]
    intro hdirty
    rw [hpaused hdirty] at hlive
    cases hlive
  obtain ⟨earlier, later, hsplit, hof, hquiet⟩ := htree hclean
  refine ⟨earlier, later, hsplit, hof, hquiet, fun hnew => ?_⟩
  rw [hof, hstore earlier later hsplit]
  have hearlier : (guiRun w sorter earlier).store =
      session w eventStoreInitialize (drainedBy earlier) :=
    (@tree_of_run w sorter earlier fun a ha => hsucceeds a (by simp [hsplit, ha])).2.1
      [] earlier rfl
  have hlater : SessionSucceeds w (guiRun w sorter earlier).store (drainedBy later) := by
    have hsplit' : drainedBy actions = drainedBy earlier ++ drainedBy later := by
      simp [hsplit, drainedBy]
    rw [hsplit', SessionSucceeds, Machine.along_append] at hreserve
    rw [hearlier]
    exact hreserve.2
  exact (rebuiltProcessTree_of_treeInputs (treeInputs_session hlater hnew hquiet) _ _).symm

end

/-! ## A merge in a drain of its own -/

/-- The START of a process whose name could not be read. -/
def namelessStart : TraceGlassEvent := { TraceGlassEvent.zero with process := ⟨8, 5⟩ }

/-- The START of the same process with its name. -/
def namedStart : TraceGlassEvent :=
  { namelessStart with processName := copyWstring maxPath (wide "a.exe") }

/-- Their two drains. -/
def mergedStartRun : List GuiAction := [drainOne namelessStart, drainOne namedStart]

lemma succeeds_mergedStartRun : ∀ action ∈ mergedStartRun, action.TreeSucceeds := by
  intro action haction
  simp only [mergedStartRun, List.mem_cons, List.not_mem_nil, or_false] at haction
  rcases haction with rfl | rfl <;> exact ⟨by simp [DrainEnv.succeed], rfl, rfl⟩

/-- The second report names the record, is not accepted, and leaves the tree as it was. -/
theorem processTree_of_mergedStart :
    (∀ action ∈ mergedStartRun, action.TreeSucceeds) ∧
    SessionSucceeds .sample eventStoreInitialize (drainedBy mergedStartRun) ∧
    (guiRun .sample (.insertion ℕ) mergedStartRun).renderingPaused = false ∧
    (guiRun .sample (.insertion ℕ) mergedStartRun).processTree ≠
      treeOfStore (guiRun .sample (.insertion ℕ) mergedStartRun).store :=
  ⟨succeeds_mergedStartRun, by decide +kernel, by decide +kernel, by decide +kernel⟩

/-- It is the tree of an earlier store. -/
theorem processTree_of_lastRebuild_mergedStart :
    ∃ earlier later, mergedStartRun = earlier ++ later ∧
      (guiRun .sample (.insertion ℕ) mergedStartRun).processTree =
        treeOfStore (guiRun .sample (.insertion ℕ) earlier).store := by
  obtain ⟨earlier, later, hsplit, hof, -⟩ :=
    @processTree_of_lastRebuild .sample (.insertion ℕ) mergedStartRun succeeds_mergedStartRun
      (by decide +kernel) (by decide +kernel)
  exact ⟨earlier, later, hsplit, hof⟩

end TraceGlass
