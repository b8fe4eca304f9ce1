import TraceGlass.Store.Model

/-!
# The process tree (`gui.c`, `rebuild_process_tree`)

The tree control is the list of its items in the order they were inserted; an item's handle is its
place in that list.  `insertProcessNode` recurses to the parent before it inserts, and marks the
records it is working on so that a circle of parents ends.
-/

namespace TraceGlass

/-- An `HTREEITEM`; `none` is `NULL` and `TVI_ROOT`, under both of which an item is a root. -/
abbrev HTREEITEM := Option ℕ

/-- `ARRAYSIZE(label)`, which is `MAX_PATH + 80`. -/
abbrev labelLength : ℕ := 340

/-- What `insert_process_node` hands to the tree control. -/
structure TreeItem where
  parent : HTREEITEM
  label : WString labelLength
  param : ℕ
  deriving DecidableEq

/-- The control and the two arrays `rebuild_process_tree` allocates. -/
structure TreeBuild where
  tree : List TreeItem
  items : List HTREEITEM
  states : List BYTE

/-- `find_parent_index`; `none` is `-1`. -/
def findParentIndex (store : EventStore) (childIndex : ℕ) : Option ℕ :=
  let child := store.record childIndex
  if child.parent.pid = 0 ∨ child.parent.pid = child.key.pid then none
  else eventStoreFindProcess store child.parent

/-- The text of a node. -/
def processLabel (record : ProcessRecord) : WString labelLength :=
  let name := if record.name.chars ≠ [] then record.name.chars else wide "<unknown>"
  let pid := wide " (PID " ++ formatUnsigned record.key.pid.toNat
  stringCchPrintf labelLength
    (if record.active then name ++ pid ++ wide ")" else name ++ pid ++ wide ") [stopped]")

/-- `insert_process_node`, where `insertNode` says for which record `TreeView_InsertItem` succeeds.
Each call marks one more record, so the number of records bounds the depth. -/
def insertProcessNode (insertNode : ℕ → Bool) (store : EventStore) :
    ℕ → TreeBuild → ℕ → TreeBuild × HTREEITEM
  | 0, build, _ => (build, none)
  | fuel + 1, build, index =>
      if build.states.getD index 0 = 2 then (build, build.items.getD index none)
      else if build.states.getD index 0 = 1 then (build, none)
      else
        let build := { build with states := build.states.set index 1 }
        let (build, parentItem) :=
          match findParentIndex store index with
          | some parentIndex =>
              if parentIndex ≠ index then insertProcessNode insertNode store fuel build parentIndex
              else (build, none)
          | none => (build, none)
        let label := processLabel (store.record index)
        let item := if insertNode index then some build.tree.length else none
        let tree :=
          if insertNode index then build.tree ++ [⟨parentItem, label, index⟩] else build.tree
        ({ tree := tree, items := build.items.set index item, states := build.states.set index 2 },
          item)

/-- `rebuild_process_tree`, where `calloc` says whether both arrays are allocated. -/
def rebuiltProcessTree (calloc : Bool) (insertNode : ℕ → Bool) (store : EventStore) :
    List TreeItem :=
  if store.processCount = 0 then []
  else if !calloc then []
  else
    ((List.range store.processCount).foldl
      (fun build index =>
        (insertProcessNode insertNode store (store.processCount + 1) build index).1)
      ⟨[], List.replicate store.processCount none, List.replicate store.processCount 0⟩).tree

end TraceGlass
