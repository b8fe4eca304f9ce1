import TraceGlass.Store.Records
import TraceGlass.Gui.Forest
import TraceGlass.Monitor.Fallback

/-!
# What a merge keeps

`update_record_from_event` takes names, paths and creation times over only where the event knows
them, but the parent key as soon as its PID is known.  So a report that knows less of the parent
than the record does takes the parent's creation time away, and with it the child's place in the
tree once the parent is gone.  `ParentKept` is the condition under which that does not happen;
`exactParent` is the attachment it protects, by a known key.
-/

namespace TraceGlass

/-! ## What is known of a process -/

/-- The first key says of the parent's creation time what the second one knows better. -/
def Poorer (key known : ProcessKey) : Prop :=
  key.pid = known.pid ∧ key.creationTime = 0 ∧ known.creationTime ≠ 0

instance (key known : ProcessKey) : Decidable (Poorer key known) :=
  inferInstanceAs (Decidable (_ ∧ _))

/-- Every attribute the record had, it still has. -/
structure Keeps (before after : ProcessRecord) : Prop where
  name : before.name.chars ≠ [] → after.name.chars ≠ []
  parentName : before.parentName.chars ≠ [] → after.parentName.chars ≠ []
  path : before.path.chars ≠ [] → after.path.chars ≠ []
  creationTime : before.key.creationTime ≠ 0 → after.key.creationTime ≠ 0
  parent : ¬ Poorer after.parent before.parent

lemma Keeps.refl (record : ProcessRecord) : Keeps record record where
  name := id
  parentName := id
  path := id
  creationTime := id
  parent := fun ⟨_, hzero, hknown⟩ => hknown hzero

/-- The parent of a record in the tree, where the record's parent key is known and that record
carries it. -/
def exactParent (store : EventStore) (child : ℕ) : Option ℕ :=
  (findParentIndex store child).filter fun parent =>
    (store.record child).parent.creationTime ≠ 0 ∧
      (store.record parent).key = (store.record child).parent

lemma exactParent_eq_some {store : EventStore} {child parent : ℕ} :
    exactParent store child = some parent ↔ findParentIndex store child = some parent ∧
      (store.record child).parent.creationTime ≠ 0 ∧
        (store.record parent).key = (store.record child).parent := by
  simp [exactParent, Option.filter_eq_some_iff]

lemma lt_of_exactParent {store : EventStore} {child parent : ℕ}
    (h : exactParent store child = some parent) : child < store.processCount :=
  lt_of_findParentIndex (exactParent_eq_some.mp h).1

/-- Nothing the first store knows of its processes is lost in the second. -/
def KeepsKnowledge (store after : EventStore) : Prop :=
  (∀ index < store.processCount, Keeps (store.record index) (after.record index)) ∧
    ∀ child parent, exactParent store child = some parent →
      findParentIndex after child = some parent

/-- Where the report is merged into a record with another parent key, its own knows no less, and
the record was not attached to its parent by a known key. -/
def ParentKept (store : EventStore) (event : TraceGlassEvent) : Prop :=
  ∀ index < store.processCount, MergesAt store event index →
    event.parent.pid = 0 ∨ event.parent = (store.record index).parent ∨
      exactParent store index = none ∧ ¬ Poorer event.parent (store.record index).parent

instance (store : EventStore) (event : TraceGlassEvent) : Decidable (ParentKept store event) :=
  inferInstanceAs (Decidable (∀ index < store.processCount, _ → _))

/-! ## One merge -/

section
variable {store : EventStore} {event : TraceGlassEvent} {index : ℕ}

lemma updateRecordFromEvent_parent (record : ProcessRecord) (event : TraceGlassEvent) :
    (updateRecordFromEvent record event).parent =
      if event.parent.pid ≠ 0 then event.parent else record.parent := rfl

/-- A text is overwritten only by one that is not empty. -/
lemma chars_ne_nil_of_merge {before text : WString maxPath} (h : before.chars ≠ []) :
    (if text.chars ≠ [] then copyWstring maxPath text.chars else before).chars ≠ [] := by
  split
  · next htext => rwa [copyWstring_chars]
  · exact h

/-- A merge loses the parent's creation time or nothing. -/
lemma keeps_mergedRecord_iff (h : MergesAt store event index) :
    Keeps (store.record index) (mergedRecord store index event) ↔
      ¬ Poorer (mergedRecord store index event).parent (store.record index).parent := by
  refine ⟨Keeps.parent, fun hparent => ?_⟩
  obtain ⟨hname, hparentName, hpath⟩ := mergedRecord_names store index event
  constructor
  · rw [hname]
    exact chars_ne_nil_of_merge
  · rw [hparentName]
    exact chars_ne_nil_of_merge
  · rw [hpath]
    exact chars_ne_nil_of_merge
  · intro hknown
    rwa [h.key_eq.2 hknown]
  · exact hparent

end

/-! ## One call -/

section
variable {store : EventStore} {event : TraceGlassEvent} (alloc : ReallocOutcome)

/-- Under the condition a record that is attached by a known key keeps its parent key, and no record
gets a poorer one. -/
lemma ParentKept.parent_cases (h : ParentKept store event) {index : ℕ}
    (hlt : index < store.processCount) :
    ((eventStoreAdd alloc store event).store.record index).parent = (store.record index).parent ∨
      exactParent store index = none ∧
        ¬ Poorer ((eventStoreAdd alloc store event).store.record index).parent
          (store.record index).parent := by
  by_cases hmerges : MergesAt store event index
  · rw [record_of_mergesAt alloc hmerges, mergedRecord_parent, updateRecordFromEvent_parent]
    by_cases hpid : event.parent.pid = 0
    · rw [if_neg (not_not_intro hpid)]
      exact .inl rfl
    · rw [if_pos hpid]
      rcases h index hlt hmerges with hzero | hsame | hother
      · exact absurd hzero hpid
      · exact .inl hsame
      · exact .inr hother
  · rw [record_of_not_mergesAt alloc hlt hmerges]
    exact .inl rfl

/-- An attachment by a known key lasts as long as the child's parent key does. -/
lemma exactParent_eventStoreAdd (h : Reachable store) {child parent : ℕ}
    (hexact : exactParent store child = some parent)
    (hparent : ((eventStoreAdd alloc store event).store.record child).parent =
      (store.record child).parent) :
    exactParent (eventStoreAdd alloc store event).store child = some parent := by
  obtain ⟨hfind, hknown, hkey⟩ := exactParent_eq_some.mp hexact
  rw [findParentIndex] at hfind
  split at hfind
  · cases hfind
  · next hown =>
    obtain ⟨hpid, hself⟩ := not_or.mp hown
    have hparentLt : parent < store.processCount := eventStoreFindProcess_lt hfind
    have hchildLt := lt_of_exactParent hexact
    have hkeyAfter : ((eventStoreAdd alloc store event).store.record parent).key =
        (store.record child).parent := by
      rw [key_eventStoreAdd alloc hparentLt (hkey ▸ hknown), hkey]
    have hat : (eventStoreAdd alloc store event).store.processes[parent]? =
        some ((eventStoreAdd alloc store event).store.record parent) := by
      have hlt : parent < (eventStoreAdd alloc store event).store.processCount :=
        hparentLt.trans_le (processCount_le_eventStoreAdd alloc)
      simp only [EventStore.processCount] at hlt
      simp [EventStore.record, hlt]
    refine exactParent_eq_some.mpr ⟨?_, hparent ▸ hknown, hkeyAfter.trans hparent.symm⟩
    rw [findParentIndex, hparent, pid_eventStoreAdd alloc hchildLt, if_neg hown, ← hkeyAfter]
    exact (h.add alloc event).find_exact hat (hkeyAfter ▸ hpid) (hkeyAfter ▸ hknown)

/-- A call that meets the condition loses nothing. -/
lemma ParentKept.keepsKnowledge (hkept : ParentKept store event) (h : Reachable store) :
    KeepsKnowledge store (eventStoreAdd alloc store event).store := by
  constructor
  · intro index hlt
    by_cases hmerges : MergesAt store event index
    · rw [record_of_mergesAt alloc hmerges, keeps_mergedRecord_iff hmerges,
        ← record_of_mergesAt alloc hmerges]
      rcases hkept.parent_cases alloc hlt with hsame | ⟨-, hother⟩
      · rw [hsame]
        exact (Keeps.refl _).parent
      · exact hother
    · rw [record_of_not_mergesAt alloc hlt hmerges]
      exact Keeps.refl _
  · intro child parent hexact
    refine (exactParent_eq_some.mp (exactParent_eventStoreAdd alloc h hexact ?_)).1
    rcases hkept.parent_cases alloc (lt_of_exactParent hexact) with hsame | ⟨hnone, -⟩
    · exact hsame
    · rw [hnone] at hexact
      cases hexact

/-- A call that does not meet it loses a creation time, or takes a child from its parent. -/
lemma parentKept_of_keepsKnowledge (hkeeps : KeepsKnowledge store
    (eventStoreAdd alloc store event).store) : ParentKept store event := by
  intro index hlt hmerges
  by_contra hbroken
  obtain ⟨hpid, hother, hlost⟩ : event.parent.pid ≠ 0 ∧
      event.parent ≠ (store.record index).parent ∧
        (exactParent store index = none → Poorer event.parent (store.record index).parent) := by
    simpa only [not_or, not_and, not_not] using hbroken
  have hparent : ((eventStoreAdd alloc store event).store.record index).parent = event.parent := by
    rw [record_of_mergesAt alloc hmerges, mergedRecord_parent, updateRecordFromEvent_parent,
      if_pos hpid]
  have hricher : ¬ Poorer event.parent (store.record index).parent :=
    hparent ▸ (hkeeps.1 index hlt).parent
  cases hexact : exactParent store index with
  | none => exact hricher (hlost hexact)
  | some parent =>
    obtain ⟨hfind, hknown, hkey⟩ := exactParent_eq_some.mp hexact
    have hattached := hkeeps.2 index parent hexact
    rw [findParentIndex, hparent] at hattached
    split at hattached
    · cases hattached
    · -- the parent's record still has its key, which the report's parent key must match
      have hparentLt := findParentIndex_lt hfind
      obtain ⟨-, hmatch, -⟩ := find_matches hattached
      rw [key_eventStoreAdd alloc hparentLt (hkey ▸ hknown), hkey, processKeysMatch_iff] at hmatch
      obtain ⟨hsame, htime⟩ := hmatch
      rcases htime with htime | hzero | hzero
      · exact hother (ProcessKey.ext hsame.symm htime.symm)
      · exact hknown hzero
      · exact hricher ⟨hsame.symm, hzero, hknown⟩

end

/-! ## Runs -/

/-- The store after these calls. -/
abbrev storeAfter (calls : List (ReallocOutcome × TraceGlassEvent)) : EventStore :=
  calls.foldl addCall eventStoreInitialize

lemma reachable_storeAfter (calls : List (ReallocOutcome × TraceGlassEvent)) :
    Reachable (storeAfter calls) := ⟨calls, rfl⟩

/-- Along a run that meets the condition an attachment by a known key stays. -/
lemma exactParent_of_along {calls : List (ReallocOutcome × TraceGlassEvent)} {store : EventStore}
    (h : Reachable store)
    (hkept : Machine.Along addCall (fun s call => ParentKept s call.2) store calls)
    {child parent : ℕ} (hexact : exactParent store child = some parent) :
    exactParent (calls.foldl addCall store) child = some parent := by
  refine (hkept.invariant (I := fun s => Reachable s ∧ exactParent s child = some parent) ?_
    ⟨h, hexact⟩).2
  rintro s call ⟨hs, hsexact⟩ hcall
  refine ⟨hs.add call.1 call.2, exactParent_eventStoreAdd call.1 hs hsexact ?_⟩
  rcases hcall.parent_cases call.1 (lt_of_exactParent hsexact) with hsame | ⟨hnone, -⟩
  · exact hsame
  · rw [hnone] at hsexact
    cases hsexact

/-- **What merging keeps.**  A call loses nothing that is known of a process exactly when the report
does not know less of the parent than the record it is merged into, nor takes an attached child
elsewhere.  Along a run of calls that meet this, no call loses anything, and a child that was once
attached by a known key is attached to that record ever after. -/
theorem merge_keepsKnowledge_iff_and_runs (calls : List (ReallocOutcome × TraceGlassEvent)) :
    (∀ alloc event,
      KeepsKnowledge (storeAfter calls) (eventStoreAdd alloc (storeAfter calls) event).store ↔
        ParentKept (storeAfter calls) event) ∧
    (Machine.Along addCall (fun s call => ParentKept s call.2) eventStoreInitialize calls →
      ∀ earlier later, calls = earlier ++ later →
        (∀ call ∈ later.head?,
          KeepsKnowledge (storeAfter earlier) (addCall (storeAfter earlier) call)) ∧
        ∀ child parent, exactParent (storeAfter earlier) child = some parent →
          findParentIndex (storeAfter calls) child = some parent) := by
  have hreach := reachable_storeAfter calls
  refine ⟨fun alloc event => ⟨parentKept_of_keepsKnowledge alloc, fun hkept =>
    hkept.keepsKnowledge alloc hreach⟩, ?_⟩
  rintro hkept earlier later rfl
  have hearlier := reachable_storeAfter earlier
  obtain ⟨-, hlater⟩ := (Machine.along_append _ _ _).mp hkept
  constructor
  · intro call hcall
    cases later with
    | nil => cases hcall
    | cons head rest =>
      obtain rfl := Option.some.inj hcall
      exact hlater.1.keepsKnowledge head.1 hearlier
  · intro child parent hexact
    have hattached := exactParent_of_along hearlier hlater hexact
    rw [← List.foldl_append] at hattached
    exact (exactParent_eq_some.mp hattached).1

/-! ## A child whose parent has left the snapshot -/

/-- Processes 4, 8 and 12, of which 4 is the parent of 8 and ends first, and then 8 ends. -/
def partingPolls : List PollInput :=
  [samplePoll [sampleRow 4 (some 1), sampleRow 8 (some 5), sampleRow 12 (some 9)],
    samplePoll [sampleRow 8 (some 5), sampleRow 12 (some 9)], samplePoll [sampleRow 12 (some 9)]]

/-- The events of the first polls of that run. -/
def partingCalls (polls : ℕ) : List (ReallocOutcome × TraceGlassEvent) :=
  (pollRun .sample snapshotInsertion (partingPolls.take polls)).2.map fun event => (.succeed, event)

/-- The third poll pushes one event, the STOP of 8, whose snapshot no longer lists 4: the record of
8 loses the creation time of its parent, and its place under it. -/
theorem merge_loses_parent :
    ∃ event, partingCalls 3 = partingCalls 2 ++ [(.succeed, event)] ∧
      event.process = ⟨8, 5⟩ ∧ event.type = .processStop ∧
      ((storeAfter (partingCalls 2)).record 1).parent = ⟨4, 1⟩ ∧
      ((storeAfter (partingCalls 3)).record 1).parent = ⟨4, 0⟩ ∧
      exactParent (storeAfter (partingCalls 2)) 1 = some 0 ∧
      findParentIndex (storeAfter (partingCalls 3)) 1 = none ∧
      ¬ KeepsKnowledge (storeAfter (partingCalls 2))
        (eventStoreAdd .succeed (storeAfter (partingCalls 2)) event).store := by
  refine ⟨((partingCalls 3).getD 4 (.succeed, .zero)).2, by decide +kernel, by decide +kernel,
    by decide +kernel, by decide +kernel, by decide +kernel, by decide +kernel, by decide +kernel,
    ?_⟩
  intro hkeeps
  refine (hkeeps.1 1 (by decide +kernel)).parent ?_
  decide +kernel

/-- After the first two polls 4 is gone and 8 still hangs under it. -/
theorem merge_keepsKnowledge_partingCalls :
    findParentIndex (storeAfter (partingCalls 2)) 1 = some 0 :=
  ((merge_keepsKnowledge_iff_and_runs (partingCalls 2)).2 (by decide +kernel) (partingCalls 1)
    ((partingCalls 2).drop 3) (by decide +kernel)).2 1 0 (by decide +kernel)

end TraceGlass
