import TraceGlass.Gui.Tree
import TraceGlass.Store.Cases
import TraceGlass.Lib.Forest
import Mathlib.Data.List.Perm.Subperm

/-!
# The process tree as a forest

`InsertsNode` is `insert_process_node` without a bound on its depth: a derivation is a call that
returns.  `Built` relates the control and the two arrays to a `Listing` of the records and to the
stack of calls under way: state 2 is listed, state 1 is exactly the stack.  With it
`insertProcessNode_spec` shows by induction on the records that are neither that every call returns
and does what the listing says, so the forest is the one of `find_parent_index`, cut once on each of
its cycles.
-/

namespace TraceGlass

open Forest

/-! ## What the tree is of -/

/-- `find_parent_index` where it is defined and not the record itself. -/
def treeParent (store : EventStore) (index : ℕ) : Option ℕ :=
  (findParentIndex store index).filter (· ≠ index)

/-- The record whose node the node of this record hangs under. -/
def shownUnder (tree : List TreeItem) (index : ℕ) : Option ℕ :=
  (tree.find? fun item => item.param = index).bind fun item =>
    item.parent.bind fun handle => tree[handle]?.map TreeItem.param

lemma treeParent_eq_some {store : EventStore} {index parentIndex : ℕ} :
    treeParent store index = some parentIndex ↔
      findParentIndex store index = some parentIndex ∧ parentIndex ≠ index := by
  simp [treeParent, Option.filter_eq_some_iff]

lemma findParentIndex_lt {store : EventStore} {index parentIndex : ℕ}
    (h : findParentIndex store index = some parentIndex) : parentIndex < store.processCount := by
  simp only [findParentIndex] at h
  split at h
  · cases h
  · exact eventStoreFindProcess_lt h

lemma lt_of_findParentIndex {store : EventStore} {index parentIndex : ℕ}
    (h : findParentIndex store index = some parentIndex) : index < store.processCount := by
  by_contra hge
  have hzero : store.record index = .zero := by
    simp only [EventStore.processCount, Nat.not_lt] at hge
    simp [EventStore.record, hge]
  simp [findParentIndex, hzero, ProcessRecord.zero] at h

lemma lt_of_treeParent {store : EventStore} {index parentIndex : ℕ}
    (h : treeParent store index = some parentIndex) : index < store.processCount :=
  lt_of_findParentIndex (treeParent_eq_some.mp h).1

/-! ## A call of `insert_process_node` -/

/-- The record is being worked on. -/
def markBusy (build : TreeBuild) (index : ℕ) : TreeBuild :=
  { build with states := build.states.set index 1 }

/-- The end of `insert_process_node`: insert the node and mark the record. -/
def placeNode (insertNode : ℕ → Bool) (store : EventStore) (index : ℕ) (build : TreeBuild)
    (parentItem : HTREEITEM) : TreeBuild × HTREEITEM :=
  let item := if insertNode index then some build.tree.length else none
  let tree :=
    if insertNode index then
      build.tree ++ [⟨parentItem, processLabel (store.record index), index⟩]
    else build.tree
  ({ tree := tree, items := build.items.set index item, states := build.states.set index 2 }, item)

/-- The calls of `insert_process_node` that return, with what they leave and return. -/
inductive InsertsNode (insertNode : ℕ → Bool) (store : EventStore) :
    TreeBuild → ℕ → TreeBuild × HTREEITEM → Prop
  | done {build : TreeBuild} {index : ℕ} (hstate : build.states.getD index 0 = 2) :
      InsertsNode insertNode store build index (build, build.items.getD index none)
  | busy {build : TreeBuild} {index : ℕ} (hstate : build.states.getD index 0 = 1) :
      InsertsNode insertNode store build index (build, none)
  | root {build : TreeBuild} {index : ℕ} (hdone : build.states.getD index 0 ≠ 2)
      (hbusy : build.states.getD index 0 ≠ 1) (hparent : treeParent store index = none) :
      InsertsNode insertNode store build index
        (placeNode insertNode store index (markBusy build index) none)
  | child {build : TreeBuild} {index parentIndex : ℕ} {result : TreeBuild × HTREEITEM}
      (hdone : build.states.getD index 0 ≠ 2) (hbusy : build.states.getD index 0 ≠ 1)
      (hparent : treeParent store index = some parentIndex)
      (h : InsertsNode insertNode store (markBusy build index) parentIndex result) :
      InsertsNode insertNode store build index
        (placeNode insertNode store index result.1 result.2)

/-- The loop of `rebuild_process_tree` over these indices, with what it leaves. -/
inductive InsertsNodes (insertNode : ℕ → Bool) (store : EventStore) :
    TreeBuild → List ℕ → TreeBuild → Prop
  | nil (build : TreeBuild) : InsertsNodes insertNode store build [] build
  | cons {build final : TreeBuild} {index : ℕ} {indices : List ℕ} {result : TreeBuild × HTREEITEM}
      (h : InsertsNode insertNode store build index result)
      (hrest : InsertsNodes insertNode store result.1 indices final) :
      InsertsNodes insertNode store build (index :: indices) final

lemma insertProcessNode_of_done {insertNode : ℕ → Bool} {store : EventStore} {fuel : ℕ}
    {build : TreeBuild} {index : ℕ} (h : build.states.getD index 0 = 2) :
    insertProcessNode insertNode store (fuel + 1) build index =
      (build, build.items.getD index none) := by
  rw [insertProcessNode, if_pos h]

lemma insertProcessNode_of_busy {insertNode : ℕ → Bool} {store : EventStore} {fuel : ℕ}
    {build : TreeBuild} {index : ℕ} (h : build.states.getD index 0 = 1) :
    insertProcessNode insertNode store (fuel + 1) build index = (build, none) := by
  rw [insertProcessNode, if_neg (by rw [h]; decide), if_pos h]

lemma insertProcessNode_of_root {insertNode : ℕ → Bool} {store : EventStore} {fuel : ℕ}
    {build : TreeBuild} {index : ℕ} (hdone : build.states.getD index 0 ≠ 2)
    (hbusy : build.states.getD index 0 ≠ 1) (hparent : treeParent store index = none) :
    insertProcessNode insertNode store (fuel + 1) build index =
      placeNode insertNode store index (markBusy build index) none := by
  rw [insertProcessNode, if_neg hdone, if_neg hbusy]
  cases hfind : findParentIndex store index with
  | none => rfl
  | some parentIndex =>
    have hself : ¬ parentIndex ≠ index := by simpa [treeParent, hfind] using hparent
    simp only [if_neg hself]
    rfl

lemma insertProcessNode_of_child {insertNode : ℕ → Bool} {store : EventStore} {fuel : ℕ}
    {build : TreeBuild} {index parentIndex : ℕ} (hdone : build.states.getD index 0 ≠ 2)
    (hbusy : build.states.getD index 0 ≠ 1) (hparent : treeParent store index = some parentIndex) :
    insertProcessNode insertNode store (fuel + 1) build index =
      placeNode insertNode store index
        (insertProcessNode insertNode store fuel (markBusy build index) parentIndex).1
        (insertProcessNode insertNode store fuel (markBusy build index) parentIndex).2 := by
  obtain ⟨hfind, hne⟩ := treeParent_eq_some.mp hparent
  rw [insertProcessNode, if_neg hdone, if_neg hbusy]
  simp only [hfind, if_pos hne]
  rfl

/-! ## The tree of a listing -/

section
variable (insertNode : ℕ → Bool) (store : EventStore)

/-- The records whose nodes the control holds. -/
def shownNodes (order : List (ℕ × Option ℕ)) : List ℕ := (order.map Prod.fst).filter insertNode

/-- The handle of a listed record. -/
def handleOf (order : List (ℕ × Option ℕ)) (index : ℕ) : HTREEITEM :=
  if insertNode index then some ((shownNodes insertNode order).idxOf index) else none

/-- The items of a listing. -/
def treeOf (order : List (ℕ × Option ℕ)) : List TreeItem :=
  (order.filter fun node => insertNode node.1).map fun node =>
    ⟨node.2.bind (handleOf insertNode order), processLabel (store.record node.1), node.1⟩

end

section
variable {insertNode : ℕ → Bool} {store : EventStore} {order : List (ℕ × Option ℕ)}

lemma shownNodes_append (order order' : List (ℕ × Option ℕ)) :
    shownNodes insertNode (order ++ order') =
      shownNodes insertNode order ++ shownNodes insertNode order' := by
  rw [shownNodes, List.map_append, List.filter_append]
  rfl

lemma treeOf_params (order : List (ℕ × Option ℕ)) :
    (treeOf insertNode store order).map TreeItem.param = shownNodes insertNode order := by
  rw [treeOf, List.map_map, shownNodes, List.filter_map]
  rfl

lemma length_treeOf (order : List (ℕ × Option ℕ)) :
    (treeOf insertNode store order).length = (shownNodes insertNode order).length := by
  rw [← @treeOf_params insertNode store, List.length_map]

/-- A handle does not move when more nodes are inserted. -/
lemma handleOf_append {index : ℕ} (hlisted : index ∈ order.map Prod.fst)
    (order' : List (ℕ × Option ℕ)) :
    handleOf insertNode (order ++ order') index = handleOf insertNode order index := by
  unfold handleOf
  by_cases hinsert : insertNode index = true
  · have hmem : index ∈ shownNodes insertNode order := List.mem_filter.mpr ⟨hlisted, hinsert⟩
    rw [if_pos hinsert, if_pos hinsert, shownNodes_append, List.idxOf_append_of_mem hmem]
  · rw [if_neg hinsert, if_neg hinsert]

/-- The node inserted last. -/
lemma treeOf_snoc {f : ℕ → Option ℕ} (h : Listing f order) {index : ℕ} {parent : Option ℕ}
    (hparent : ∀ p ∈ parent, p ∈ order.map Prod.fst) :
    treeOf insertNode store (order ++ [(index, parent)]) =
      if insertNode index then
        treeOf insertNode store order ++
          [⟨parent.bind (handleOf insertNode order), processLabel (store.record index), index⟩]
      else treeOf insertNode store order := by
  have hold : ∀ node ∈ order, node.2.bind (handleOf insertNode (order ++ [(index, parent)])) =
      node.2.bind (handleOf insertNode order) := by
    rintro ⟨a, _ | b⟩ hnode
    · rfl
    · obtain ⟨before, after, hsplit⟩ := List.append_of_mem hnode
      have hmem : b ∈ order.map Prod.fst := by
        have hbefore := h.parent_before hsplit
        rw [hsplit, List.map_append]
        exact List.mem_append_left _ hbefore
      exact handleOf_append hmem _
  have hnew : parent.bind (handleOf insertNode (order ++ [(index, parent)])) =
      parent.bind (handleOf insertNode order) := by
    cases parent with
    | none => rfl
    | some p => exact handleOf_append (hparent p rfl) _
  have hitems : (order.filter fun node => insertNode node.1).map (fun node =>
      (⟨node.2.bind (handleOf insertNode (order ++ [(index, parent)])),
        processLabel (store.record node.1), node.1⟩ : TreeItem)) =
      treeOf insertNode store order := by
    refine List.map_congr_left fun node hnode => ?_
    rw [hold node (List.mem_filter.mp hnode).1]
  rw [treeOf, List.filter_append, List.map_append, hitems]
  by_cases hinsert : insertNode index = true
  · simp [hinsert, hnew]
  · simp [hinsert]

end

/-! ## The invariant of the traversal -/

lemma getD_set {α : Type} {l : List α} {index : ℕ} (h : index < l.length) (value default : α)
    (i : ℕ) :
    (l.set index value).getD i default = if index = i then value else l.getD i default := by
  rw [List.getD_eq_getElem?_getD, List.getD_eq_getElem?_getD, List.getElem?_set]
  split
  · next hi =>
    subst hi
    rfl
  · rfl

/-- The control and the arrays after the nodes of `order` are inserted, while the calls for the
records of `stack` are under way. -/
structure Built (insertNode : ℕ → Bool) (store : EventStore) (build : TreeBuild)
    (order : List (ℕ × Option ℕ)) (stack : List ℕ) : Prop where
  listing : Listing (treeParent store) order
  tree : build.tree = treeOf insertNode store order
  items_length : build.items.length = store.processCount
  states_length : build.states.length = store.processCount
  items : ∀ index ∈ order.map Prod.fst,
    build.items.getD index none = handleOf insertNode order index
  done : ∀ index, build.states.getD index 0 = 2 ↔ index ∈ order.map Prod.fst
  busy : ∀ index, build.states.getD index 0 = 1 ↔ index ∈ stack
  stack_nodup : stack.Nodup

namespace Built

variable {insertNode : ℕ → Bool} {store : EventStore} {build : TreeBuild}
  {order : List (ℕ × Option ℕ)} {stack : List ℕ} {index : ℕ}

lemma lt_of_state_ne (h : Built insertNode store build order stack)
    (hstate : build.states.getD index 0 ≠ 0) : index < store.processCount := by
  by_contra hge
  refine hstate ?_
  rw [List.getD_eq_getElem?_getD, List.getElem?_eq_none (by rw [h.states_length]; omega)]
  rfl

/-- A record that is under way is not listed yet. -/
lemma notMem_of_stack (h : Built insertNode store build order stack) (hstack : index ∈ stack) :
    index ∉ order.map Prod.fst := by
  intro hlisted
  have hdone := (h.done index).mpr hlisted
  rw [(h.busy index).mpr hstack] at hdone
  exact absurd hdone (by decide)

/-- No record is both, so there are no more of these than records. -/
lemma length_le (h : Built insertNode store build order stack) :
    order.length + stack.length ≤ store.processCount := by
  have hdisjoint : List.Disjoint (order.map Prod.fst) stack := fun _ hlisted hstack =>
    h.notMem_of_stack hstack hlisted
  have hnodup := List.Nodup.append h.listing.nodup h.stack_nodup hdisjoint
  have hsubset : order.map Prod.fst ++ stack ⊆ List.range store.processCount := by
    intro index hindex
    rw [List.mem_range]
    rcases List.mem_append.mp hindex with hlisted | hstack
    · exact h.lt_of_state_ne (by rw [(h.done index).mpr hlisted]; decide)
    · exact h.lt_of_state_ne (by rw [(h.busy index).mpr hstack]; decide)
  simpa using (List.subperm_of_subset hnodup hsubset).length_le

/-- The call for a record that is neither listed nor under way begins. -/
lemma markBusy (h : Built insertNode store build order stack)
    (hlt : index < store.processCount) (hdone : build.states.getD index 0 ≠ 2)
    (hbusy : build.states.getD index 0 ≠ 1) :
    Built insertNode store (markBusy build index) order (index :: stack) where
  listing := h.listing
  tree := h.tree
  items_length := h.items_length
  states_length := by simpa [TraceGlass.markBusy] using h.states_length
  items := h.items
  done i := by
    have hindex : index ∉ order.map Prod.fst := fun hmem => hdone ((h.done index).mpr hmem)
    have hstate : (TraceGlass.markBusy build index).states.getD i 0 =
        if index = i then 1 else build.states.getD i 0 :=
      getD_set (by rw [h.states_length]; exact hlt) _ _ _
    rw [hstate]
    split
    · next hi =>
      subst hi
      simpa using hindex
    · exact h.done i
  busy i := by
    have hstate : (TraceGlass.markBusy build index).states.getD i 0 =
        if index = i then 1 else build.states.getD i 0 :=
      getD_set (by rw [h.states_length]; exact hlt) _ _ _
    rw [hstate, List.mem_cons]
    split
    · next hi => simp [hi]
    · next hi => rw [h.busy i, or_iff_right (Ne.symm hi)]
  stack_nodup := List.nodup_cons.mpr ⟨fun hmem => hbusy ((h.busy index).mpr hmem), h.stack_nodup⟩

/-- The call for the record on top of the stack ends. -/
lemma placeNode (h : Built insertNode store build order (index :: stack))
    (hlt : index < store.processCount) {parent : Option ℕ}
    (hlisting : Listing (treeParent store) (order ++ [(index, parent)]))
    (hparent : ∀ p ∈ parent, p ∈ order.map Prod.fst) :
    Built insertNode store
        (TraceGlass.placeNode insertNode store index build
          (parent.bind (handleOf insertNode order))).1
        (order ++ [(index, parent)]) stack ∧
      (TraceGlass.placeNode insertNode store index build
          (parent.bind (handleOf insertNode order))).2 =
        handleOf insertNode (order ++ [(index, parent)]) index := by
  have hnew : index ∉ order.map Prod.fst := by
    have hnodup := hlisting.nodup
    rw [List.map_append, List.nodup_append] at hnodup
    intro hmem
    exact hnodup.2.2 index hmem index (by simp) rfl
  have hhandle : handleOf insertNode (order ++ [(index, parent)]) index =
      if insertNode index then some build.tree.length else none := by
    unfold handleOf
    by_cases hinsert : insertNode index = true
    · have hnotShown : index ∉ shownNodes insertNode order := fun hmem =>
        hnew (List.mem_filter.mp hmem).1
      rw [if_pos hinsert, if_pos hinsert, shownNodes_append, List.idxOf_append_of_notMem hnotShown,
        h.tree, length_treeOf]
      simp [shownNodes, hinsert]
    · rw [if_neg hinsert, if_neg hinsert]
  have hstate : ∀ i, (TraceGlass.placeNode insertNode store index build
      (parent.bind (handleOf insertNode order))).1.states.getD i 0 =
        if index = i then 2 else build.states.getD i 0 :=
    getD_set (by rw [h.states_length]; exact hlt) _ _
  refine ⟨⟨hlisting, ?_, ?_, ?_, ?_, ?_, ?_, (List.nodup_cons.mp h.stack_nodup).2⟩, hhandle.symm⟩
  · rw [treeOf_snoc h.listing hparent, ← h.tree]
    rfl
  · simpa [TraceGlass.placeNode] using h.items_length
  · simpa [TraceGlass.placeNode] using h.states_length
  · intro i hi
    have hitem : (build.items.set index
        (if insertNode index then some build.tree.length else none)).getD i none =
          if index = i then (if insertNode index then some build.tree.length else none)
          else build.items.getD i none :=
      getD_set (by rw [h.items_length]; exact hlt) _ _ i
    refine hitem.trans ?_
    split
    · next heq =>
      subst heq
      exact hhandle.symm
    · next hne =>
      have hold : i ∈ order.map Prod.fst := by
        rw [List.map_append, List.mem_append] at hi
        rcases hi with hi | hi
        · exact hi
        · exact absurd (by simpa using hi) (Ne.symm hne)
      rw [h.items i hold, handleOf_append hold]
  · intro i
    rw [hstate i, List.map_append, List.mem_append]
    split
    · next heq => simp [heq]
    · next hne =>
      rw [h.done i]
      simp [Ne.symm hne]
  · intro i
    rw [hstate i]
    split
    · next heq =>
      subst heq
      have hnotStack : index ∉ stack := (List.nodup_cons.mp h.stack_nodup).1
      simp [hnotStack]
    · next hne =>
      rw [h.busy i, List.mem_cons]
      simp [Ne.symm hne]

end Built

/-- **One call.**  It returns, with the nodes it inserted added to the listing.  Either the record
is listed now and its handle is returned, or it is one of those under way and `NULL` is returned. -/
lemma insertProcessNode_spec {insertNode : ℕ → Bool} {store : EventStore} (fuel : ℕ) :
    ∀ {build : TreeBuild} {order : List (ℕ × Option ℕ)} {stack : List ℕ} {index : ℕ},
      Built insertNode store build order stack → Pending (treeParent store) index stack →
      index < store.processCount → store.processCount < order.length + stack.length + fuel →
      ∃ result order', InsertsNode insertNode store build index result ∧
        insertProcessNode insertNode store fuel build index = result ∧
        Built insertNode store result.1 (order ++ order') stack ∧
        ((index ∈ (order ++ order').map Prod.fst ∧
            result.2 = handleOf insertNode (order ++ order') index) ∨
          (index ∈ stack ∧ order' = [] ∧ result.2 = none)) := by
  induction fuel with
  | zero =>
    intro build order stack index h _ _ hfuel
    have hle := h.length_le
    omega
  | succ fuel ih =>
    intro build order stack index h hpending hlt hfuel
    by_cases hdone : build.states.getD index 0 = 2
    · have hlisted := (h.done index).mp hdone
      refine ⟨_, [], .done hdone, insertProcessNode_of_done hdone, by simpa using h, .inl ?_⟩
      simpa using ⟨by simpa using hlisted, h.items index hlisted⟩
    by_cases hbusy : build.states.getD index 0 = 1
    · exact ⟨_, [], .busy hbusy, insertProcessNode_of_busy hbusy, by simpa using h,
        .inr ⟨(h.busy index).mp hbusy, rfl, rfl⟩⟩
    have hmarked := h.markBusy hlt hdone hbusy
    have hnew := hmarked.notMem_of_stack List.mem_cons_self
    cases hparent : treeParent store index with
    | none =>
      obtain ⟨hbuilt, hhandle⟩ :=
        hmarked.placeNode hlt (.root h.listing hnew hparent) (fun _ hp => by cases hp)
      exact ⟨_, _, .root hdone hbusy hparent, insertProcessNode_of_root hdone hbusy hparent, hbuilt,
        .inl ⟨by simp, hhandle⟩⟩
    | some parentIndex =>
      have hpendingParent : Pending (treeParent store) parentIndex (index :: stack) :=
        .cons hparent hpending
      obtain ⟨result, order', hcall, hrun, hbuilt, hcase⟩ := ih hmarked hpendingParent
        (findParentIndex_lt (treeParent_eq_some.mp hparent).1)
        (by simp only [List.length_cons]; omega)
      have hrunIndex : insertProcessNode insertNode store (fuel + 1) build index =
          TraceGlass.placeNode insertNode store index result.1 result.2 := by
        rw [insertProcessNode_of_child hdone hbusy hparent, hrun]
      have hnewNow := hbuilt.notMem_of_stack List.mem_cons_self
      rcases hcase with ⟨hlisted, hitem⟩ | ⟨hwaiting, rfl, hitem⟩
      · obtain ⟨hplaced, hhandle⟩ := hbuilt.placeNode hlt
          (.attached hbuilt.listing hnewNow hparent hlisted) (by rintro p ⟨⟩; exact hlisted)
        have hparentItem : result.2 = (some parentIndex).bind
            (handleOf insertNode (order ++ order')) := hitem
        rw [← hparentItem] at hplaced hhandle
        rw [List.append_assoc] at hplaced hhandle
        exact ⟨_, _, .child hdone hbusy hparent hcall, hrunIndex, hplaced,
          .inl ⟨by simp, hhandle⟩⟩
      · -- the parent is under way: this is the deepest node of a cycle, which is all on the stack
        rw [List.append_nil] at hbuilt
        have hcut : Listing (treeParent store) (order ++ [(index, none)]) :=
          .cut hbuilt.listing (hpendingParent.onCycle hwaiting) fun b hb =>
            hbuilt.notMem_of_stack (hpendingParent.leads_mem hwaiting hb)
        obtain ⟨hplaced, hhandle⟩ := hbuilt.placeNode hlt hcut (fun _ hp => by cases hp)
        rw [Option.bind_none, ← hitem] at hplaced hhandle
        exact ⟨_, _, .child hdone hbusy hparent hcall, hrunIndex, hplaced,
          .inl ⟨by simp, hhandle⟩⟩

/-! ## The loop -/

/-- The arrays as `calloc` answers them, and the empty control. -/
def blankBuild (store : EventStore) : TreeBuild :=
  ⟨[], List.replicate store.processCount none, List.replicate store.processCount 0⟩

lemma blankBuild_state (store : EventStore) (index : ℕ) :
    (blankBuild store).states.getD index 0 = 0 := by
  simp only [blankBuild, List.getD_eq_getElem?_getD, List.getElem?_replicate]
  split <;> rfl

lemma built_blankBuild (insertNode : ℕ → Bool) (store : EventStore) :
    Built insertNode store (blankBuild store) [] [] where
  listing := .nil
  tree := rfl
  items_length := by simp [blankBuild]
  states_length := by simp [blankBuild]
  items _ hindex := by simp at hindex
  done index := by
    rw [blankBuild_state]
    simp
  busy index := by
    rw [blankBuild_state]
    simp
  stack_nodup := List.nodup_nil

/-- The body of the loop. -/
def insertStep (insertNode : ℕ → Bool) (store : EventStore) (build : TreeBuild) (index : ℕ) :
    TreeBuild :=
  (insertProcessNode insertNode store (store.processCount + 1) build index).1

lemma insertNodes_spec {insertNode : ℕ → Bool} {store : EventStore} (indices : List ℕ) :
    ∀ {build : TreeBuild} {order : List (ℕ × Option ℕ)}, Built insertNode store build order [] →
      (∀ index ∈ indices, index < store.processCount) →
      ∃ order', InsertsNodes insertNode store build indices
          (indices.foldl (insertStep insertNode store) build) ∧
        Built insertNode store (indices.foldl (insertStep insertNode store) build)
          (order ++ order') [] ∧
        ∀ index ∈ indices, index ∈ (order ++ order').map Prod.fst := by
  induction indices with
  | nil => exact fun h _ => ⟨[], .nil _, by simpa using h, by simp⟩
  | cons index indices ih =>
    intro build order h hlt
    obtain ⟨result, order', hcall, hrun, hbuilt, hcase⟩ := insertProcessNode_spec
      (store.processCount + 1) h (.nil index) (hlt index List.mem_cons_self) (by
        have := h.length_le
        simp only [List.length_nil] at this ⊢
        omega)
    have hlisted : index ∈ (order ++ order').map Prod.fst := by
      rcases hcase with ⟨hlisted, -⟩ | ⟨hstack, -⟩
      · exact hlisted
      · simp at hstack
    obtain ⟨order'', hcalls, hfinal, hrest⟩ := ih hbuilt fun i hi =>
      hlt i (List.mem_cons_of_mem _ hi)
    have hstep : insertStep insertNode store build index = result.1 := by rw [insertStep, hrun]
    rw [List.foldl_cons, hstep]
    rw [List.append_assoc] at hfinal hrest
    refine ⟨_, .cons hcall hcalls, hfinal, ?_⟩
    rintro i (_ | ⟨_, hi⟩)
    · rw [← List.append_assoc, List.map_append]
      exact List.mem_append_left _ hlisted
    · exact hrest i hi

/-- What the loop leaves: a listing of all records. -/
lemma rebuiltProcessTree_listing (insertNode : ℕ → Bool) (store : EventStore) :
    ∃ order final, InsertsNodes insertNode store (blankBuild store)
        (List.range store.processCount) final ∧
      rebuiltProcessTree true insertNode store = final.tree ∧
      final.tree = treeOf insertNode store order ∧ Listing (treeParent store) order ∧
      (order.map Prod.fst).Perm (List.range store.processCount) := by
  obtain ⟨order, hcalls, hbuilt, hlisted⟩ := insertNodes_spec (List.range store.processCount)
    (built_blankBuild insertNode store) fun _ hindex => List.mem_range.mp hindex
  refine ⟨order, _, hcalls, ?_, hbuilt.tree, hbuilt.listing, ?_⟩
  · unfold rebuiltProcessTree
    split
    · next hzero =>
      rw [hzero]
      rfl
    · rfl
  · refine (List.perm_ext_iff_of_nodup hbuilt.listing.nodup List.nodup_range).mpr fun index => ?_
    refine ⟨fun hmem => List.mem_range.mpr (hbuilt.lt_of_state_ne ?_), hlisted index⟩
    rw [(hbuilt.done index).mpr hmem]
    decide

/-! ## Reading the forest off -/

section
variable {store : EventStore} {order : List (ℕ × Option ℕ)}

/-- A predicate that lets every insertion succeed. -/
abbrev insertAll : ℕ → Bool := fun _ => true

lemma shownNodes_insertAll (order : List (ℕ × Option ℕ)) :
    shownNodes insertAll order = order.map Prod.fst := by
  simp [shownNodes]

lemma treeOf_insertAll (order : List (ℕ × Option ℕ)) :
    treeOf insertAll store order = order.map fun node =>
      ⟨node.2.bind (handleOf insertAll order), processLabel (store.record node.1), node.1⟩ := by
  simp [treeOf]

/-- The handle of a listed record is the place of its node. -/
lemma treeOf_handle {index : ℕ} (hlisted : index ∈ order.map Prod.fst) :
    (handleOf insertAll order index).bind
        (fun handle => (treeOf insertAll store order)[handle]?.map TreeItem.param) =
      some index := by
  have hparams := @treeOf_params insertAll store order
  rw [shownNodes_insertAll] at hparams
  rw [handleOf, if_pos rfl, Option.bind_some, shownNodes_insertAll, ← List.getElem?_map, hparams]
  exact List.getElem?_idxOf hlisted

/-- A listed node is shown under the one it is attached to. -/
lemma shownUnder_treeOf (h : Listing (treeParent store) order) {index : ℕ} {parent : Option ℕ}
    (hmem : (index, parent) ∈ order) :
    shownUnder (treeOf insertAll store order) index = parent := by
  obtain ⟨before, after, hsplit⟩ := List.append_of_mem hmem
  have hfirst : ∀ node ∈ before, node.1 ≠ index := by
    have hnodup := h.nodup
    rw [hsplit, List.map_append, List.nodup_append] at hnodup
    intro node hnode heq
    exact hnodup.2.2 index (heq ▸ List.mem_map_of_mem hnode) index (by simp) rfl
  have hfind : (treeOf insertAll store order).find? (fun item => item.param = index) =
      some ⟨parent.bind (handleOf insertAll order), processLabel (store.record index), index⟩ := by
    rw [treeOf_insertAll, List.find?_map, hsplit, List.find?_append]
    have hnone : before.find? ((fun item : TreeItem => decide (item.param = index)) ∘ fun node =>
        ⟨node.2.bind (handleOf insertAll (before ++ (index, parent) :: after)),
          processLabel (store.record node.1), node.1⟩) = none := by
      rw [List.find?_eq_none]
      intro node hnode
      simpa using hfirst node hnode
    rw [hnone]
    simp
  rw [shownUnder, hfind, Option.bind_some]
  cases parent with
  | none => rfl
  | some p =>
    have hbefore := h.parent_before hsplit
    have hlisted : p ∈ order.map Prod.fst := by
      rw [hsplit, List.map_append]
      exact List.mem_append_left _ hbefore
    exact treeOf_handle hlisted

/-- Every record is listed. -/
lemma exists_listed {n index : ℕ} (hperm : (order.map Prod.fst).Perm (List.range n))
    (hlt : index < n) : ∃ parent, (index, parent) ∈ order := by
  obtain ⟨node, hnode, rfl⟩ := List.mem_map.mp (hperm.mem_iff.mpr (List.mem_range.mpr hlt))
  exact ⟨node.2, hnode⟩

/-- A record with a parent hangs under it, or is at the root and on a cycle. -/
lemma shownUnder_rebuiltProcessTree {index parentIndex : ℕ}
    (hparent : treeParent store index = some parentIndex) :
    shownUnder (rebuiltProcessTree true insertAll store) index = some parentIndex ∨
      shownUnder (rebuiltProcessTree true insertAll store) index = none ∧
        OnCycle (treeParent store) index := by
  obtain ⟨order, final, -, hrebuilt, htree, hlisting, hperm⟩ :=
    rebuiltProcessTree_listing insertAll store
  obtain ⟨parent, hmem⟩ := exists_listed hperm (lt_of_treeParent hparent)
  rw [hrebuilt, htree, shownUnder_treeOf hlisting hmem]
  cases parent with
  | none =>
    rcases hlisting.of_mem_none hmem with hnone | hcycle
    · rw [hnone] at hparent
      cases hparent
    · exact .inr ⟨rfl, hcycle⟩
  | some p => exact .inl (hlisting.parent_of_mem hmem ▸ hparent)

end

/-- **The process tree is the forest of `find_parent_index`, whatever the process table.**  The loop
ends, also where insertions fail.  With every insertion succeeding, each record has exactly one
node, inserted after the one it is attached to; a record without a parent is at the root, and one
with a parent is attached under it, except for exactly one record on each cycle, which is at the
root. -/
theorem rebuildProcessTree_forest (store : EventStore) :
    (∀ insertNode, ∃ final, InsertsNodes insertNode store (blankBuild store)
        (List.range store.processCount) final ∧
      rebuiltProcessTree true insertNode store = final.tree) ∧
    ((rebuiltProcessTree true insertAll store).map TreeItem.param).Perm
      (List.range store.processCount) ∧
    (∀ (place : ℕ) (item : TreeItem) (handle : ℕ),
      (rebuiltProcessTree true insertAll store)[place]? = some item →
      item.parent = some handle → handle < place) ∧
    (∀ index < store.processCount, treeParent store index = none →
      shownUnder (rebuiltProcessTree true insertAll store) index = none) ∧
    (∀ index parentIndex, treeParent store index = some parentIndex →
      shownUnder (rebuiltProcessTree true insertAll store) index = some parentIndex ∨
        shownUnder (rebuiltProcessTree true insertAll store) index = none ∧
          OnCycle (treeParent store) index) ∧
    ∀ index, OnCycle (treeParent store) index →
      ∃! cut, Leads (treeParent store) index cut ∧
        shownUnder (rebuiltProcessTree true insertAll store) cut = none := by
  obtain ⟨order, final, -, hrebuilt, htree, hlisting, hperm⟩ :=
    rebuiltProcessTree_listing insertAll store
  have hshown : ∀ index parentIndex, treeParent store index = some parentIndex →
      shownUnder (rebuiltProcessTree true insertAll store) index = some parentIndex ∨
        shownUnder (rebuiltProcessTree true insertAll store) index = none ∧
          OnCycle (treeParent store) index :=
    fun _ _ hparent => shownUnder_rebuiltProcessTree hparent
  rw [hrebuilt, htree] at hshown ⊢
  refine ⟨fun insertNode => ?_, ?_, ?_, ?_, hshown, ?_⟩
  · obtain ⟨-, final, hcalls, hrebuilt, -⟩ := rebuiltProcessTree_listing insertNode store
    exact ⟨final, hcalls, hrebuilt⟩
  · rw [treeOf_params, shownNodes_insertAll]
    exact hperm
  · intro place item handle hitem hhandle
    rw [treeOf_insertAll, List.getElem?_map] at hitem
    obtain ⟨⟨index, parent⟩, hnode, rfl⟩ := Option.map_eq_some_iff.mp hitem
    cases parent with
    | none => cases hhandle
    | some parentIndex =>
      have hidx : (order.map Prod.fst).idxOf parentIndex = handle := by
        simpa [handleOf, shownNodes_insertAll] using hhandle
      rw [← hidx]
      exact hlisting.idxOf_parent_lt hnode
  · intro index hindex hparent
    obtain ⟨parent, hmem⟩ := exists_listed hperm hindex
    rw [shownUnder_treeOf hlisting hmem]
    cases parent with
    | none => rfl
    | some parentIndex =>
      rw [hlisting.parent_of_mem hmem] at hparent
      cases hparent
  · intro index hcycle
    have hmemOf : ∀ {i}, Leads (treeParent store) index i → ∃ parent, (i, parent) ∈ order := by
      intro i hi
      obtain ⟨p, hp, -⟩ := (hcycle.of_leads hi).exists_parent
      exact exists_listed hperm (lt_of_treeParent hp)
    obtain ⟨parent, hindex⟩ := hmemOf .refl
    obtain ⟨cut, ⟨hcut, hnone⟩, hunique⟩ := hlisting.existsUnique_cut hcycle
      ⟨index, .refl, List.mem_map_of_mem hindex⟩
    refine ⟨cut, ⟨hcut, shownUnder_treeOf hlisting hnone⟩, ?_⟩
    rintro other ⟨hother, hroot⟩
    obtain ⟨parent, hmem⟩ := hmemOf hother
    rw [shownUnder_treeOf hlisting hmem] at hroot
    exact hunique other ⟨hother, hroot ▸ hmem⟩

end TraceGlass
