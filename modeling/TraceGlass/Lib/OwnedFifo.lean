import TraceGlass.Lib.LinkedFifo

/-!
# Queues that own their heap

`Owned heap head tail xs` is `Linked` with nothing else in the heap: every allocated block is one of
the queue's.  Linking a block and unlinking the first one keep that, so that freeing the blocks from
the head on leaves the heap empty.
-/

namespace LinkedFifo

variable {α : Type*}

/-- The queue between `head` and `tail` holds `xs`, and the heap holds its blocks only. -/
def Owned (heap : Heap α) (head tail : Option ℕ) (xs : List α) : Prop :=
  ∃ as, Chain heap head as xs ∧ as.Nodup ∧ as.getLast? = tail ∧ ∀ a, heap a ≠ none → a ∈ as

namespace Owned

variable {heap : Heap α} {head tail : Option ℕ} {xs : List α}

lemma linked (h : Owned heap head tail xs) : Linked heap head tail xs := by
  obtain ⟨as, hchain, hnodup, hlast, -⟩ := h
  exact ⟨as, hchain, hnodup, hlast⟩

lemma empty : Owned (fun _ => none : Heap α) none none [] :=
  ⟨[], .nil, List.nodup_nil, rfl, fun _ ha => absurd rfl ha⟩

/-- Without a tail the heap is empty. -/
lemma push_nil {a : ℕ} (x : α) (h : Owned heap head none xs) :
    Owned (Function.update heap a (some ⟨x, none⟩)) (some a) (some a) [x] := by
  obtain ⟨as, -, -, hlast, hall⟩ := h
  obtain rfl := List.getLast?_eq_none_iff.mp hlast
  refine ⟨[a], .cons (by simp) .nil, List.nodup_singleton a, rfl, fun b hb => ?_⟩
  rcases eq_or_ne b a with rfl | hne
  · simp
  · rw [Function.update_of_ne hne] at hb
    exact absurd (hall b hb) List.not_mem_nil

lemma push_cons {t a : ℕ} (x : α) (h : Owned heap head (some t) xs) (hfree : heap a = none) :
    Owned (setNext (Function.update heap a (some ⟨x, none⟩)) t (some a)) head (some a)
      (xs ++ [x]) := by
  obtain ⟨as, hchain, hnodup, hlast, hall⟩ := h
  have hnew : ∀ b ∈ as, b ≠ a := fun b hb => hchain.ne_of_free hfree hb
  refine ⟨as ++ [a], hchain.snoc x hnodup hlast hfree, ?_, by simp, fun b hb => ?_⟩
  · exact List.nodup_append.mpr ⟨hnodup, List.nodup_singleton a,
      fun b hb c hc => List.mem_singleton.mp hc ▸ hnew b hb⟩
  · rcases eq_or_ne b a with rfl | hne
    · simp
    · have hold : heap b ≠ none := by
        intro hnone
        refine hb ?_
        rcases eq_or_ne b t with rfl | hbt
        · simp [setNext, Function.update_of_ne hne, hnone]
        · simp [setNext, Function.update_of_ne hbt, Function.update_of_ne hne, hnone]
      exact List.mem_append_left _ (hall b hold)

/-- Unlinking the first block, which is freed or kept by whoever unlinked it. -/
lemma pop {a : ℕ} (h : Owned heap (some a) tail xs) :
    ∃ x next rest, heap a = some ⟨x, next⟩ ∧ xs = x :: rest ∧
      Owned (Function.update heap a none) next (if next = none then none else tail) rest := by
  obtain ⟨as, hchain, hnodup, hlast, hall⟩ := h
  cases hchain with
  | @cons _ next as x rest hnode hrest =>
    obtain ⟨hhead, hnodup'⟩ := List.nodup_cons.mp hnodup
    refine ⟨x, next, rest, hnode, rfl, as, ?_, hnodup', ?_, fun b hb => ?_⟩
    · exact hrest.congr fun b hb => Function.update_of_ne (ne_of_mem_of_not_mem hb hhead) _ _
    · cases hrest with
      | nil => rfl
      | cons => simpa [List.getLast?_cons_cons] using hlast
    · rcases eq_or_ne b a with rfl | hne
      · simp at hb
      · rw [Function.update_of_ne hne] at hb
        exact (List.mem_cons.mp (hall b hb)).resolve_left hne

/-- Without a head the heap is empty. -/
lemma heap_eq (h : Owned heap none tail xs) : heap = fun _ => none := by
  obtain ⟨as, hchain, -, -, hall⟩ := h
  cases hchain
  funext a
  by_contra ha
  exact List.not_mem_nil (hall a ha)

end Owned

end LinkedFifo
