import TraceGlass.Gui.Forest
import TraceGlass.Gui.Attachment

/-!
# Ages in the process tree

A parent PID is looked up again each time the tree is built, with the creation time the child's
record has for it, which both producers leave at zero where the process they found under the PID is
too young.  The lookup takes an unknown time for any, so it can find that very process.

`MayParent` is the relation between a child and the records the lookup can answer for it, now or
after others have stopped.  `PlacedAt` says of one record that it is not younger than a child it may
be found for, and that no circle through it holds a known parent key.  A report that writes only
records so placed keeps every record so (`PlacedAt.of_written`), and then the tree shows no process
under a younger one and every known parent key as it is.
-/

namespace TraceGlass

open Forest Relation

/-! ## Children and the records found for them -/

/-- `find_parent_index` looks the parent of this record up. -/
def LooksUp (child : ProcessRecord) : Prop :=
  child.parent.pid ≠ 0 ∧ child.parent.pid ≠ child.key.pid

/-- The child's parent key is the record's, and it is known. -/
def Names (child record : ProcessRecord) : Prop :=
  child.parent.creationTime ≠ 0 ∧ record.key = child.parent

/-- The lookup can answer the record for the child. -/
def MayParent (child record : ProcessRecord) : Prop :=
  LooksUp child ∧
    (Names child record ∨
      processKeysMatch record.key child.parent = true ∧ record.active = true)

/-- The record is of a process that was created after the child, as far as is known. -/
def Younger (record child : ProcessRecord) : Prop :=
  child.key.creationTime ≠ 0 ∧ child.key.creationTime < record.key.creationTime

/-- Where the lookup can answer the record for the child it is not younger, and where the child
names the record the child is looked up at all. -/
structure Fits (child record : ProcessRecord) : Prop where
  not_younger : MayParent child record → ¬ Younger record child
  looksUp : Names child record → LooksUp child

section
variable (child record : ProcessRecord)

instance : Decidable (LooksUp child) := inferInstanceAs (Decidable (_ ∧ _))

instance : Decidable (Names child record) := inferInstanceAs (Decidable (_ ∧ _))

instance : Decidable (MayParent child record) := inferInstanceAs (Decidable (_ ∧ _))

instance : Decidable (Younger record child) := inferInstanceAs (Decidable (_ ∧ _))

instance : Decidable (Fits child record) :=
  decidable_of_iff ((MayParent child record → ¬ Younger record child) ∧
      (Names child record → LooksUp child))
    ⟨fun h => ⟨h.1, h.2⟩, fun h => ⟨h.1, h.2⟩⟩

end

/-! ## The table -/

section
variable (processes : List ProcessRecord)

/-- The lookup can answer the second record of the table for the first. -/
def Above (child parent : ℕ) : Prop :=
  child < processes.length ∧ parent < processes.length ∧
    MayParent (processes.getD child .zero) (processes.getD parent .zero)

/-- The first record of the table names the second. -/
def NamesAt (child parent : ℕ) : Prop :=
  child < processes.length ∧ parent < processes.length ∧
    Names (processes.getD child .zero) (processes.getD parent .zero)

instance (child parent : ℕ) : Decidable (Above processes child parent) :=
  inferInstanceAs (Decidable (_ ∧ _))

/-- The record at `index` fits with every record, and no circle of possible parents through it has a
child with its named parent on it. -/
structure PlacedAt (index : ℕ) : Prop where
  fits : ∀ other < processes.length,
    Fits (processes.getD index .zero) (processes.getD other .zero) ∧
      Fits (processes.getD other .zero) (processes.getD index .zero)
  no_circle : ∀ child parent, NamesAt processes child parent →
    ReflTransGen (Above processes) parent index → ¬ ReflTransGen (Above processes) index child

/-- Every record of the table is placed so. -/
def Placed : Prop := ∀ index < processes.length, PlacedAt processes index

end

/-- The report places the record it writes. -/
structure PlacesRecord (store : EventStore) (event : TraceGlassEvent) : Prop where
  merged : ∀ index, MergesAt store event index →
    PlacedAt (store.processes.set index (mergedRecord store index event)) index
  added : event.type = .processStart ∨ event.type = .processStop →
    eventStoreFindProcess store event.process = none →
      PlacedAt (store.processes ++ [addedRecord event]) store.processCount

/-- A table in which one record was written and placed. -/
lemma PlacedAt.of_written {before after : List ProcessRecord} {index : ℕ}
    (hbefore : Placed before) (hwritten : PlacedAt after index)
    (hkept : ∀ other < after.length, other ≠ index →
      other < before.length ∧ after.getD other .zero = before.getD other .zero) :
    Placed after := by
  have habove : ∀ a b, a ≠ index → b ≠ index → Above after a b → Above before a b := by
    rintro a b ha hb ⟨hat, hbt, hmay⟩
    obtain ⟨hatb, hasame⟩ := hkept a hat ha
    obtain ⟨hbtb, hbsame⟩ := hkept b hbt hb
    exact ⟨hatb, hbtb, hasame ▸ hbsame ▸ hmay⟩
  intro i hi
  constructor
  · intro other hother
    by_cases hiw : i = index
    · exact hiw ▸ hwritten.fits other hother
    · by_cases how : other = index
      · exact how ▸ (hwritten.fits i hi).symm
      · obtain ⟨hib, hisame⟩ := hkept i hi hiw
        obtain ⟨hob, hosame⟩ := hkept other hother how
        rw [hisame, hosame]
        exact (hbefore i hib).fits other hob
  · -- a circle passes through the written record or was there before
    intro child parent hnames hto hback
    rcases path_through_or_kept habove (hto.trans hback) with ⟨hpw, hwc⟩ | ⟨hp, hc, hold⟩
    · exact hwritten.no_circle child parent hnames hpw hwc
    · obtain ⟨hct, hpt, hnamed⟩ := hnames
      obtain ⟨hcb, hcsame⟩ := hkept child hct hc
      obtain ⟨hpb, hpsame⟩ := hkept parent hpt hp
      rw [hcsame, hpsame] at hnamed
      exact (hbefore child hcb).no_circle child parent ⟨hcb, hpb, hnamed⟩ hold .refl

/-- **A report that places the record it writes keeps every record placed.** -/
theorem PlacesRecord.placed_eventStoreAdd {store : EventStore} {event : TraceGlassEvent}
    (h : PlacesRecord store event) (alloc : ReallocOutcome) (hplaced : Placed store.processes) :
    Placed (eventStoreAdd alloc store event).store.processes := by
  have hafter := recordsAfter alloc store event
  generalize (eventStoreAdd alloc store event).store.processes = after at hafter
  cases hafter with
  | kept => exact hplaced
  | @merged index hmerges =>
    refine .of_written hplaced (h.merged index hmerges) ?_
    intro other hother hne
    rw [List.length_set] at hother
    refine ⟨hother, ?_⟩
    rw [List.getD_eq_getElem?_getD, List.getElem?_set_ne hne.symm, ← List.getD_eq_getElem?_getD]
  | added htype hfind =>
    refine .of_written hplaced (h.added htype hfind) ?_
    intro other hother hne
    have hlt : other < store.processes.length := by
      simp only [List.length_append, List.length_singleton, EventStore.processCount] at hother hne
      omega
    simp [hlt, List.getElem?_append_left hlt]

/-! ## The tree -/

section
variable {store : EventStore}

/-- What the lookup answers is a possible parent. -/
lemma above_of_findParentIndex {child parent : ℕ}
    (hfind : findParentIndex store child = some parent) : Above store.processes child parent := by
  have hchildLt := lt_of_findParentIndex hfind
  have hparentLt := findParentIndex_lt hfind
  rw [findParentIndex] at hfind
  split at hfind
  · cases hfind
  · next hown =>
    obtain ⟨-, hmatch, hcarries⟩ := find_matches hfind
    refine ⟨hchildLt, hparentLt, not_or.mp hown, ?_⟩
    rcases hcarries with hactive | ⟨hkey, hknown⟩
    · exact .inr ⟨hmatch, hactive⟩
    · exact .inl ⟨hknown, hkey⟩

/-- A parent in the tree is not younger than the child. -/
lemma Placed.not_younger (h : Placed store.processes) {child parent : ℕ}
    (hfind : findParentIndex store child = some parent) :
    ¬ Younger (store.record parent) (store.record child) := by
  obtain ⟨hchildLt, hparentLt, hmay⟩ := above_of_findParentIndex hfind
  exact ((h child hchildLt).fits parent hparentLt).1.not_younger hmay

/-- A named parent is the parent in the tree, and it is not cut off. -/
lemma Placed.shownUnder (h : Placed store.processes) (hreach : Reachable store)
    {child parent : ℕ} (hnames : NamesAt store.processes child parent) :
    shownUnder (rebuiltProcessTree true insertAll store) child = some parent := by
  obtain ⟨hchildLt, hparentLt, hknown, hkey⟩ := hnames
  have hlooks : LooksUp (store.record child) :=
    ((h child hchildLt).fits parent hparentLt).1.looksUp ⟨hknown, hkey⟩
  have hat : store.processes[parent]? = some (store.record parent) := by
    simp [EventStore.record, hparentLt]
  have hfind : findParentIndex store child = some parent := by
    rw [findParentIndex, if_neg (not_or.mpr hlooks), ← hreach.find_exact hat]
    · exact congrArg _ hkey.symm
    · exact hkey ▸ hlooks.1
    · exact hkey ▸ hknown
  have hne : parent ≠ child := by
    rintro rfl
    exact hlooks.2 (congrArg ProcessKey.pid hkey.symm)
  rcases shownUnder_rebuiltProcessTree (treeParent_eq_some.mpr ⟨hfind, hne⟩) with
    hshown | ⟨-, hcycle⟩
  · exact hshown
  · -- the way round the cycle leads from the parent back to the child
    obtain ⟨p, hp, hback⟩ := TransGen.head'_iff.mp hcycle
    obtain rfl : parent = p := Option.some.inj
      ((treeParent_eq_some.mpr ⟨hfind, hne⟩).symm.trans hp)
    have hcircle : ReflTransGen (Above store.processes) parent child :=
      hback.lift id fun a b hab => above_of_findParentIndex (treeParent_eq_some.mp hab).1
    exact absurd .refl ((h child hchildLt).no_circle child parent
      ⟨hchildLt, hparentLt, hknown, hkey⟩ hcircle)

end

/-- **Ages in the tree.**  In a run of reports that each place the record they write, no record is
looked up a parent that was created after it, and the tree shows each record under the one that
carries its parent key, where that key is known. -/
theorem tree_keepsAges_of_placed {calls : List (ReallocOutcome × TraceGlassEvent)}
    (h : Machine.Along addCall (fun store call => PlacesRecord store call.2) eventStoreInitialize
      calls)
    {earlier later : List (ReallocOutcome × TraceGlassEvent)} (hsplit : calls = earlier ++ later) :
    (∀ child parent, findParentIndex (storeAfter earlier) child = some parent →
      ((storeAfter earlier).record child).key.creationTime ≠ 0 →
      ((storeAfter earlier).record parent).key.creationTime ≠ 0 →
      ((storeAfter earlier).record parent).key.creationTime ≤
        ((storeAfter earlier).record child).key.creationTime) ∧
    ∀ child < (storeAfter earlier).processCount, ∀ parent < (storeAfter earlier).processCount,
      ((storeAfter earlier).record child).parent.creationTime ≠ 0 →
      ((storeAfter earlier).record parent).key = ((storeAfter earlier).record child).parent →
      shownUnder (rebuiltProcessTree true insertAll (storeAfter earlier)) child = some parent := by
  subst hsplit
  obtain ⟨hearlier, -⟩ := (Machine.along_append _ _ _).mp h
  have hplaced : Placed (storeAfter earlier).processes := by
    refine hearlier.invariant (I := fun store => Placed store.processes) ?_ ?_
    · exact fun store call hstore hcall => hcall.placed_eventStoreAdd call.1 hstore
    · exact fun index hlt => absurd hlt (Nat.not_lt_zero index)
  constructor
  · intro child parent hfind hchild _
    by_contra hyounger
    exact hplaced.not_younger hfind ⟨hchild, UInt64.not_le.mp hyounger⟩
  · intro child hchildLt parent hparentLt hknown hkey
    exact hplaced.shownUnder (reachable_storeAfter earlier) ⟨hchildLt, hparentLt, hknown, hkey⟩

/-! ## A parent PID in other hands -/

/-- The row of a process with its parent's PID and its creation time. -/
def childRow (pid parentPid : DWORD) (creationTime : ULONGLONG) :
    ProcessEntry32 × Option ProcessHandle :=
  (⟨pid, parentPid, wide "a.exe"⟩, some ⟨some creationTime, none⟩)

/-- The parent of 8 has ended before the first poll, and then 8 starts a process that gets its
PID. -/
def orphanPolls : List PollInput :=
  [samplePoll [childRow 8 12 3], samplePoll [childRow 8 12 3, childRow 12 8 7]]

/-- The new process is found for the parent of the one that started it.  It is younger, and as each
is now the parent of the other the tree shows it at the root, although its own parent is known. -/
theorem tree_of_orphanPolls :
    findParentIndex (pollStore .sample snapshotInsertion orphanPolls) 0 = some 1 ∧
      ((pollStore .sample snapshotInsertion orphanPolls).record 0).key = ⟨8, 3⟩ ∧
      ((pollStore .sample snapshotInsertion orphanPolls).record 1).key = ⟨12, 7⟩ ∧
      ((pollStore .sample snapshotInsertion orphanPolls).record 1).parent = ⟨8, 3⟩ ∧
      shownUnder (rebuiltProcessTree true insertAll
        (pollStore .sample snapshotInsertion orphanPolls)) 1 = none ∧
      ¬ (∀ child parent,
        findParentIndex (pollStore .sample snapshotInsertion orphanPolls) child = some parent →
        ((pollStore .sample snapshotInsertion orphanPolls).record child).key.creationTime ≠ 0 →
        ((pollStore .sample snapshotInsertion orphanPolls).record parent).key.creationTime ≠ 0 →
        ((pollStore .sample snapshotInsertion orphanPolls).record parent).key.creationTime ≤
          ((pollStore .sample snapshotInsertion orphanPolls).record child).key.creationTime) := by
  refine ⟨by decide +kernel, by decide +kernel, by decide +kernel, by decide +kernel,
    by decide +kernel, fun h => ?_⟩
  have hyounger := h 0 1 (by decide +kernel) (by decide +kernel) (by decide +kernel)
  revert hyounger
  decide +kernel

/-- Where every possible parent was recorded before the child there is no circle. -/
lemma PlacedAt.of_descending {processes : List ProcessRecord} {index : ℕ}
    (hfits : ∀ other < processes.length,
      Fits (processes.getD index .zero) (processes.getD other .zero) ∧
        Fits (processes.getD other .zero) (processes.getD index .zero))
    (hdescending : ∀ child < processes.length, ∀ parent < processes.length,
      Names (processes.getD child .zero) (processes.getD parent .zero) ∨
        Above processes child parent → parent < child) : PlacedAt processes index := by
  have hpath : ∀ {a b}, ReflTransGen (Above processes) a b → b ≤ a := by
    intro a b hab
    induction hab with
    | refl => exact Nat.le_refl _
    | tail _ hbc ih => exact (hdescending _ hbc.1 _ hbc.2.1 (.inr hbc)).le.trans ih
  refine ⟨hfits, fun child parent hnames hto hback => ?_⟩
  have hlt := hdescending child hnames.1 parent hnames.2.1 (.inl hnames.2.2)
  exact absurd ((hpath hback).trans (hpath hto)) (Nat.not_le.mpr hlt)

/-- The STARTs of a process and of its child. -/
def familyCalls : List (ReallocOutcome × TraceGlassEvent) :=
  [(.succeed, { TraceGlassEvent.zero with process := ⟨4, 1⟩ }),
    (.succeed, { TraceGlassEvent.zero with process := ⟨8, 5⟩, parent := ⟨4, 1⟩ })]

/-- Each of them places its record, and the child is shown under its parent. -/
theorem tree_keepsAges_of_familyCalls :
    shownUnder (rebuiltProcessTree true insertAll (storeAfter familyCalls)) 1 = some 0 := by
  have hfirst : eventStoreFindProcess eventStoreInitialize ⟨4, 1⟩ = none := by decide +kernel
  have hsecond : eventStoreFindProcess (storeAfter (familyCalls.take 1)) ⟨8, 5⟩ = none := by
    decide +kernel
  have hplaces : Machine.Along addCall (fun store call => PlacesRecord store call.2)
      eventStoreInitialize familyCalls := by
    refine ⟨⟨fun index h => absurd h (not_mergesAt_of_find hfirst index), fun _ _ => ?_⟩,
      ⟨fun index h => absurd h (not_mergesAt_of_find hsecond index), fun _ _ => ?_⟩, trivial⟩ <;>
    exact .of_descending (by decide +kernel) (by decide +kernel)
  exact (tree_keepsAges_of_placed hplaces (List.append_nil _).symm).2 1 (by decide +kernel) 0
    (by decide +kernel) (by decide +kernel) (by decide +kernel)

end TraceGlass
