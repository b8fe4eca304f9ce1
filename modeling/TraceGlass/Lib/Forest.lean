import Mathlib.Data.List.Basic
import Mathlib.Data.List.Nodup
import Mathlib.Data.Nat.Notation
import Mathlib.Logic.Relation
import Mathlib.Tactic.Cases

/-!
# Forests from parent functions

A partial function `f` gives every node at most one parent; following it from a node either ends or
runs into a cycle.  A `Listing` puts the nodes in an order in which each comes after the one it is
attached to.  Nodes on a cycle cannot all be attached: a listing cuts the cycle at the node it lists
first, and `Listing.existsUnique_cut` says that it cuts there and nowhere else.

`Pending` is the stack of a traversal that goes to the parent first: each node on it waits for the
one it was left for.  Coming back to a node on the stack is how a cycle shows
(`Pending.onCycle`), and then the whole cycle is on the stack (`Pending.leads_mem`).
-/

namespace Forest

open Relation

variable {α : Type*} {f : α → Option α} {a b c : α}

/-- The second node is the parent of the first. -/
def Parent (f : α → Option α) (a b : α) : Prop := f a = some b

/-- Following the parents leads from the first node to the second. -/
abbrev Leads (f : α → Option α) : α → α → Prop := ReflTransGen (Parent f)

/-- Following the parents leads back. -/
def OnCycle (f : α → Option α) (a : α) : Prop := TransGen (Parent f) a a

/-- From anywhere on a cycle the way leads on around it. -/
lemma OnCycle.leads_back (h : OnCycle f a) (hab : Leads f a b) : Leads f b a := by
  induction hab with
  | refl => exact .refl
  | @tail b c _ hbc ih =>
    have hback : TransGen (Parent f) b a := by
      rcases reflTransGen_iff_eq_or_transGen.mp ih with rfl | hback
      · exact h
      · exact hback
    obtain ⟨d, hbd, hda⟩ := TransGen.head'_iff.mp hback
    obtain rfl : c = d := Option.some.inj (hbc.symm.trans hbd)
    exact hda

lemma OnCycle.of_leads (h : OnCycle f a) (hab : Leads f a b) : OnCycle f b := by
  rcases reflTransGen_iff_eq_or_transGen.mp (h.leads_back hab) with rfl | hback
  · exact h
  · exact hback.trans_left hab

lemma OnCycle.exists_parent (h : OnCycle f a) : ∃ b, f a = some b ∧ Leads f a b := by
  obtain ⟨b, hab, -⟩ := TransGen.head'_iff.mp h
  exact ⟨b, hab, .single hab⟩

/-- Where a relation was changed at one node only, a path passes through that node or was a path
before. -/
lemma path_through_or_kept {R S : α → α → Prop} {k : α}
    (hkept : ∀ a b, a ≠ k → b ≠ k → R a b → S a b) (h : ReflTransGen R a b) :
    ReflTransGen R a k ∧ ReflTransGen R k b ∨ a ≠ k ∧ b ≠ k ∧ ReflTransGen S a b := by
  induction h with
  | refl =>
    by_cases ha : a = k
    · exact .inl ⟨ha ▸ .refl, ha ▸ .refl⟩
    · exact .inr ⟨ha, ha, .refl⟩
  | @tail c d hac hcd ih =>
    rcases ih with ⟨hak, hkc⟩ | ⟨ha, hc, hold⟩
    · exact .inl ⟨hak, hkc.tail hcd⟩
    · by_cases hd : d = k
      · exact .inl ⟨hd ▸ hac.tail hcd, hd ▸ .refl⟩
      · exact .inr ⟨ha, hd, hold.tail (hkept c d hc hd hcd)⟩

/-! ## The stack of a traversal -/

/-- The node the traversal goes to, and the nodes that wait for it, the last one first. -/
inductive Pending (f : α → Option α) : α → List α → Prop
  | nil (a : α) : Pending f a []
  | cons {a b : α} {stack : List α} (hparent : f b = some a) (h : Pending f b stack) :
      Pending f a (b :: stack)

namespace Pending

variable {stack : List α}

/-- What waits for a node leads to it. -/
lemma leads (h : Pending f a stack) (hb : b ∈ stack) : Leads f b a := by
  induction h with
  | nil => simp at hb
  | @cons a c stack hparent _ ih =>
    rcases List.mem_cons.mp hb with rfl | hb
    · exact .single hparent
    · exact (ih hb).tail hparent

/-- The parent of a waiting node is the node it waits for, which waits itself or is where the
traversal goes. -/
lemma parent_mem (h : Pending f a stack) (hb : b ∈ stack) (hbc : f b = some c) :
    c = a ∨ c ∈ stack := by
  induction h with
  | nil => simp at hb
  | @cons a d stack hparent _ ih =>
    rcases List.mem_cons.mp hb with rfl | hb
    · exact .inl (Option.some.inj (hbc.symm.trans hparent))
    · rcases ih hb with rfl | hmem
      · exact .inr List.mem_cons_self
      · exact .inr (List.mem_cons_of_mem _ hmem)

/-- Coming back to a waiting node closes a cycle. -/
lemma onCycle (h : Pending f b (a :: stack)) (hb : b ∈ a :: stack) : OnCycle f a := by
  cases h with
  | cons hparent h =>
    rcases List.mem_cons.mp hb with rfl | hb
    · exact .single hparent
    · exact TransGen.head' hparent (h.leads hb)

/-- The whole cycle is waiting then. -/
lemma leads_mem (h : Pending f b (a :: stack)) (hb : b ∈ a :: stack) (hac : Leads f a c) :
    c ∈ a :: stack := by
  induction hac with
  | refl => exact List.mem_cons_self
  | tail _ hcd ih =>
    rcases h.parent_mem ih hcd with rfl | hmem
    · exact hb
    · exact hmem

end Pending

/-! ## Listings -/

/-- Nodes in an order in which each comes after the one it is attached to.  A node that has a parent
is left unattached only where it is the first of its cycle. -/
inductive Listing (f : α → Option α) : List (α × Option α) → Prop
  | nil : Listing f []
  | attached {order : List (α × Option α)} {a b : α} (h : Listing f order)
      (hnew : a ∉ order.map Prod.fst) (hparent : f a = some b) (hlisted : b ∈ order.map Prod.fst) :
      Listing f (order ++ [(a, some b)])
  | root {order : List (α × Option α)} {a : α} (h : Listing f order)
      (hnew : a ∉ order.map Prod.fst) (hparent : f a = none) : Listing f (order ++ [(a, none)])
  | cut {order : List (α × Option α)} {a : α} (h : Listing f order)
      (hcycle : OnCycle f a) (hfirst : ∀ b, Leads f a b → b ∉ order.map Prod.fst) :
      Listing f (order ++ [(a, none)])

namespace Listing

variable {order : List (α × Option α)}

/-- Every node is listed once. -/
lemma nodup (h : Listing f order) : (order.map Prod.fst).Nodup := by
  induction h with
  | nil => exact List.nodup_nil
  | attached _ hnew _ _ ih | root _ hnew _ ih =>
    rw [List.map_append]
    exact List.Nodup.append ih (List.nodup_singleton _)
      (by simpa [List.disjoint_singleton] using hnew)
  | cut _ _ hfirst ih =>
    rw [List.map_append]
    exact List.Nodup.append ih (List.nodup_singleton _)
      (by simpa [List.disjoint_singleton] using hfirst _ .refl)

/-- Nodes are attached to their parents. -/
lemma parent_of_mem (h : Listing f order) (hmem : (a, some b) ∈ order) : f a = some b := by
  induction h with
  | nil => simp at hmem
  | attached _ _ hparent _ ih =>
    rcases List.mem_append.mp hmem with hmem | hmem
    · exact ih hmem
    · obtain ⟨rfl, rfl⟩ : a = _ ∧ b = _ := by simpa using hmem
      exact hparent
  | root _ _ _ ih | cut _ _ _ ih =>
    rcases List.mem_append.mp hmem with hmem | hmem
    · exact ih hmem
    · simp at hmem

/-- An unattached node has no parent or is on a cycle. -/
lemma of_mem_none (h : Listing f order) (hmem : (a, none) ∈ order) : f a = none ∨ OnCycle f a := by
  induction h with
  | nil => simp at hmem
  | attached _ _ _ _ ih =>
    rcases List.mem_append.mp hmem with hmem | hmem
    · exact ih hmem
    · simp at hmem
  | root _ _ hparent ih =>
    rcases List.mem_append.mp hmem with hmem | hmem
    · exact ih hmem
    · obtain rfl : a = _ := by simpa using hmem
      exact .inl hparent
  | cut _ hcycle _ ih =>
    rcases List.mem_append.mp hmem with hmem | hmem
    · exact ih hmem
    · obtain rfl : a = _ := by simpa using hmem
      exact .inr hcycle

/-- A node is listed after the one it is attached to. -/
lemma parent_before (h : Listing f order) {before after : List (α × Option α)}
    (horder : order = before ++ (a, some b) :: after) : b ∈ before.map Prod.fst := by
  induction h generalizing after with
  | nil => simp at horder
  | @attached order c d _ _ _ hlisted ih =>
    rcases List.eq_nil_or_concat after with rfl | ⟨after, last, rfl⟩
    · obtain ⟨rfl, hlast⟩ := List.append_inj' horder rfl
      obtain ⟨rfl, rfl⟩ : c = a ∧ d = b := by simpa using hlast
      exact hlisted
    · rw [List.concat_eq_append, ← List.cons_append, ← List.append_assoc] at horder
      exact ih (List.append_inj' horder rfl).1
  | @root order c _ _ _ ih | @cut order c _ _ _ ih =>
    rcases List.eq_nil_or_concat after with rfl | ⟨after, last, rfl⟩
    · have hlast := (List.append_inj' horder rfl).2
      simp at hlast
    · rw [List.concat_eq_append, ← List.cons_append, ← List.append_assoc] at horder
      exact ih (List.append_inj' horder rfl).1

/-- The place of the node it is attached to comes first. -/
lemma idxOf_parent_lt [DecidableEq α] (h : Listing f order) {place : ℕ}
    (hplace : order[place]? = some (a, some b)) : (order.map Prod.fst).idxOf b < place := by
  obtain ⟨hlt, hget⟩ := List.getElem?_eq_some_iff.mp hplace
  have hsplit : order = order.take place ++ (a, some b) :: order.drop (place + 1) := by
    rw [← hget, ← List.drop_eq_getElem_cons hlt, List.take_append_drop]
  have hbefore := h.parent_before hsplit
  have hidx : (order.map Prod.fst).idxOf b = ((order.take place).map Prod.fst).idxOf b := by
    conv_lhs => rw [hsplit, List.map_append]
    exact List.idxOf_append_of_mem hbefore
  have hidxLt := List.idxOf_lt_length_of_mem hbefore
  rw [List.length_map, List.length_take] at hidxLt
  omega

/-- The node listed last is the only one an extension says something new about. -/
private lemma existsUnique_append {p : α → Prop} {x : α} {parent : Option α}
    (h : ∃! c, p c ∧ (c, (none : Option α)) ∈ order) (hx : p x → parent ≠ none) :
    ∃! c, p c ∧ (c, none) ∈ order ++ [(x, parent)] := by
  obtain ⟨c, ⟨hpc, hc⟩, hunique⟩ := h
  refine ⟨c, ⟨hpc, List.mem_append_left _ hc⟩, ?_⟩
  rintro d ⟨hpd, hd⟩
  rcases List.mem_append.mp hd with hd | hd
  · exact hunique d ⟨hpd, hd⟩
  · obtain ⟨rfl, rfl⟩ : d = x ∧ none = parent := by simpa using hd
    exact absurd rfl (hx hpd)

/-- A node listed last counts only where another is listed already. -/
private lemma exists_listed_of_append {p : α → Prop} {x : α} {parent : Option α}
    (h : ∃ b, p b ∧ b ∈ (order ++ [(x, parent)]).map Prod.fst)
    (hx : p x → ∃ b, p b ∧ b ∈ order.map Prod.fst) : ∃ b, p b ∧ b ∈ order.map Prod.fst := by
  obtain ⟨b, hpb, hb⟩ := h
  rw [List.map_append, List.mem_append] at hb
  rcases hb with hb | hb
  · exact ⟨b, hpb, hb⟩
  · obtain rfl : b = x := by simpa using hb
    exact hx hpb

/-- **A listed cycle is cut at exactly one node.** -/
theorem existsUnique_cut (h : Listing f order) (hcycle : OnCycle f a)
    (hlisted : ∃ b, Leads f a b ∧ b ∈ order.map Prod.fst) :
    ∃! c, Leads f a c ∧ (c, none) ∈ order := by
  induction h with
  | nil => simp at hlisted
  | @attached order x y h _ hparent hy ih =>
    -- if the new node is on the cycle, so is its parent, which is there already
    exact existsUnique_append
      (ih (exists_listed_of_append hlisted fun hax => ⟨y, hax.tail hparent, hy⟩)) (fun _ => by simp)
  | @root order x h _ hparent ih =>
    have hx : ¬ Leads f a x := by
      intro hax
      obtain ⟨y, hy, -⟩ := (hcycle.of_leads hax).exists_parent
      rw [hparent] at hy
      cases hy
    exact existsUnique_append (ih (exists_listed_of_append hlisted fun hax => absurd hax hx))
      (fun hax => absurd hax hx)
  | @cut order x h _ hfirst ih =>
    by_cases hax : Leads f a x
    · -- the first of this cycle: none of the cycle is in the list before
      have hnone : ∀ d, Leads f a d → d ∉ order.map Prod.fst := fun d had =>
        hfirst d ((hcycle.leads_back hax).trans had)
      refine ⟨x, ⟨hax, by simp⟩, ?_⟩
      rintro d ⟨had, hd⟩
      rcases List.mem_append.mp hd with hd | hd
      · exact absurd (List.mem_map_of_mem hd) (hnone d had)
      · simpa using hd
    · exact existsUnique_append (ih (exists_listed_of_append hlisted fun h => absurd h hax))
        (fun h => absurd h hax)

end Listing

end Forest
