import TraceGlass.Events
import TraceGlass.Lib.LinkedFifo

/-!
# The event queue (`event_queue.c`)

Producers push copies of events, the window's thread pops them, and both hold the queue's critical
section while they touch it.  A push that finds no notification pending marks one as pending and
posts the window message after it has left the section; the pop that finds the queue empty clears
the mark.

The nodes are blocks of a heap linked by `next`, as the code has them.  `Holds` relates the linked
queue to the list of its events, and `pushEvent_holds`, `popEvent_nil` and `popEvent_cons` are what
the two operations do to that list.
-/

namespace TraceGlass

open LinkedFifo

abbrev UINT := UInt32

/-- A window handle; `none` is `NULL`. -/
abbrev HWND := Option ℕ

/-- `EventQueue`; `nodes` holds the blocks its pointers refer to. -/
structure EventQueue where
  nodes : Heap TraceGlassEvent
  head : Option ℕ
  tail : Option ℕ
  notificationWindow : HWND
  notificationMessage : UINT
  notificationPending : Bool
  initialized : Bool

/-- `event_queue_initialize`. -/
def eventQueueInitialize (window : HWND) (message : UINT) : EventQueue where
  nodes := fun _ => none
  head := none
  tail := none
  notificationWindow := window
  notificationMessage := message
  notificationPending := false
  initialized := true

/-- `event_queue_set_window`. -/
def eventQueueSetWindow (queue : EventQueue) (window : HWND) : EventQueue :=
  if !queue.initialized then queue else { queue with notificationWindow := window }

/-! ## Pushing -/

/-- The locals `push_event` leaves its critical section with. -/
structure PushLocals where
  notificationWindow : HWND
  notificationMessage : UINT
  shouldNotify : Bool
  deriving DecidableEq

/-- Fill the new node in and put it behind the tail. -/
def linkNode (queue : EventQueue) (node : ℕ) (event : TraceGlassEvent) : EventQueue :=
  let nodes := Function.update queue.nodes node (some ⟨event, none⟩)
  match queue.tail with
  | none => { queue with nodes := nodes, head := some node, tail := some node }
  | some tail => { queue with nodes := setNext nodes tail (some node), tail := some node }

/-- `push_event` up to the end of its critical section, where `node` is the answer of `malloc`;
`none` is the `FALSE` return. -/
def pushEvent (queue : EventQueue) (node : Option ℕ) (event : TraceGlassEvent) :
    Option (EventQueue × PushLocals) :=
  if !queue.initialized then none
  else
    match node with
    | none => none
    | some node =>
        let queue := linkNode queue node event
        if !queue.notificationPending then
          some ({ queue with notificationPending := true },
            ⟨queue.notificationWindow, queue.notificationMessage, true⟩)
        else some (queue, ⟨queue.notificationWindow, queue.notificationMessage, false⟩)

/-- The message `push_event` posts once it has left the critical section, if it posts one. -/
def PushLocals.message (locals : PushLocals) : Option UINT :=
  if locals.shouldNotify && locals.notificationWindow.isSome then some locals.notificationMessage
  else none

/-! ## Popping -/

/-- `pop_event`: the event, or `none` for the `FALSE` return, and the queue.  The whole answer is
`none` if the head points to no block. -/
def popEvent (queue : EventQueue) : Option (Option TraceGlassEvent × EventQueue) :=
  if !queue.initialized then some (none, queue)
  else
    match queue.head with
    | none =>
        -- The next producer owns posting a fresh notification.
        some (none, { queue with notificationPending := false })
    | some head =>
        match queue.nodes head with
        | none => none
        | some node =>
            some (some node.value,
              { queue with
                nodes := Function.update queue.nodes head none
                head := node.next
                tail := if node.next = none then none else queue.tail })

/-! ## The queue as a list -/

/-- The queue is initialized and holds these events, oldest first. -/
structure EventQueue.Holds (queue : EventQueue) (events : List TraceGlassEvent) : Prop where
  initialized : queue.initialized = true
  linked : Linked queue.nodes queue.head queue.tail events

lemma eventQueueInitialize_holds (window : HWND) (message : UINT) :
    (eventQueueInitialize window message).Holds [] :=
  ⟨rfl, Linked.empty _⟩

/-- Detaching or attaching the window leaves the events. -/
lemma EventQueue.Holds.setWindow {queue : EventQueue} {events : List TraceGlassEvent}
    (h : queue.Holds events) (window : HWND) : (eventQueueSetWindow queue window).Holds events := by
  rw [eventQueueSetWindow, if_neg (by simp [h.initialized])]
  exact ⟨h.initialized, h.linked⟩

variable {queue queue' : EventQueue} {node : Option ℕ} {event : TraceGlassEvent}
  {events : List TraceGlassEvent} {locals : PushLocals}

@[simp] lemma linkNode_notificationWindow (queue : EventQueue) (node : ℕ)
    (event : TraceGlassEvent) :
    (linkNode queue node event).notificationWindow = queue.notificationWindow := by
  unfold linkNode
  cases queue.tail <;> rfl

@[simp] lemma linkNode_notificationMessage (queue : EventQueue) (node : ℕ)
    (event : TraceGlassEvent) :
    (linkNode queue node event).notificationMessage = queue.notificationMessage := by
  unfold linkNode
  cases queue.tail <;> rfl

@[simp] lemma linkNode_notificationPending (queue : EventQueue) (node : ℕ)
    (event : TraceGlassEvent) :
    (linkNode queue node event).notificationPending = queue.notificationPending := by
  unfold linkNode
  cases queue.tail <;> rfl

@[simp] lemma linkNode_initialized (queue : EventQueue) (node : ℕ) (event : TraceGlassEvent) :
    (linkNode queue node event).initialized = queue.initialized := by
  unfold linkNode
  cases queue.tail <;> rfl

lemma linkNode_linked {address : ℕ} (h : Linked queue.nodes queue.head queue.tail events)
    (hfree : queue.nodes address = none) :
    Linked (linkNode queue address event).nodes (linkNode queue address event).head
      (linkNode queue address event).tail (events ++ [event]) := by
  unfold linkNode
  cases htail : queue.tail with
  | none =>
    obtain ⟨rfl, hlinked⟩ := (htail ▸ h).push_nil (a := address) event
    exact hlinked
  | some tail => exact (htail ▸ h).push_cons event hfree

/-- What a push that returns `TRUE` has done when it leaves the critical section. -/
lemma pushEvent_eq_some (h : pushEvent queue node event = some (queue', locals)) :
    ∃ address, node = some address ∧
      queue' = { linkNode queue address event with notificationPending := true } ∧
      locals = ⟨queue.notificationWindow, queue.notificationMessage,
        !queue.notificationPending⟩ := by
  unfold pushEvent at h
  split at h
  · cases h
  · cases node with
    | none => cases h
    | some address =>
      refine ⟨address, rfl, ?_⟩
      cases hpending : queue.notificationPending with
      | false =>
        simp only [linkNode_notificationPending, hpending, Bool.not_false, if_true,
          Option.some.injEq, Prod.mk.injEq] at h
        exact ⟨h.1.symm, by rw [← h.2]; simp⟩
      | true =>
        simp only [linkNode_notificationPending, hpending, Bool.not_true, Bool.false_eq_true,
          if_false, Option.some.injEq, Prod.mk.injEq] at h
        have hsame : (linkNode queue address event).notificationPending = true := by simp [hpending]
        refine ⟨?_, by rw [← h.2]; simp⟩
        rw [← h.1, ← hsame]

/-- An initialized queue takes every event a node was allocated for. -/
lemma pushEvent_isSome (h : queue.Holds events) (address : ℕ) (event : TraceGlassEvent) :
    (pushEvent queue (some address) event).isSome = true := by
  unfold pushEvent
  rw [h.initialized]
  cases hpending : queue.notificationPending <;> simp [hpending]

/-- A push puts its event last. -/
lemma pushEvent_holds (h : queue.Holds events) {address : ℕ}
    (hfree : queue.nodes address = none)
    (hpush : pushEvent queue (some address) event = some (queue', locals)) :
    queue'.Holds (events ++ [event]) := by
  obtain ⟨address', haddress, rfl, -⟩ := pushEvent_eq_some hpush
  obtain rfl := Option.some.inj haddress
  exact ⟨by simpa using h.initialized, linkNode_linked h.linked hfree⟩

/-- On an empty queue a pop clears the mark. -/
lemma popEvent_nil (h : queue.Holds []) :
    popEvent queue = some (none, { queue with notificationPending := false }) := by
  obtain ⟨hinit, as, hchain, -, -⟩ := h
  have hhead : queue.head = none := by
    generalize queue.head = head at hchain
    cases hchain
    rfl
  simp [popEvent, hinit, hhead]

/-- On any other a pop takes the oldest event and leaves the mark. -/
lemma popEvent_cons (h : queue.Holds (event :: events)) :
    ∃ queue', popEvent queue = some (some event, queue') ∧ queue'.Holds events ∧
      queue'.notificationWindow = queue.notificationWindow ∧
      queue'.notificationMessage = queue.notificationMessage ∧
      queue'.notificationPending = queue.notificationPending := by
  obtain ⟨hinit, hlinked⟩ := h
  cases hhead : queue.head with
  | none => cases (hhead ▸ hlinked).eq_nil
  | some head =>
    obtain ⟨x, next, rest, hnode, hlist, hrest⟩ := (hhead ▸ hlinked).pop
    obtain ⟨rfl, rfl⟩ := List.cons.inj hlist
    refine ⟨{ queue with
        nodes := Function.update queue.nodes head none
        head := next
        tail := if next = none then none else queue.tail },
      ?_, ⟨hinit, hrest⟩, rfl, rfl, rfl⟩
    simp [popEvent, hinit, hhead, hnode]

/-- A pop that returned an event took the oldest one. -/
lemma popEvent_of_some (h : queue.Holds events)
    (hpop : popEvent queue = some (some event, queue')) :
    ∃ rest, events = event :: rest ∧ queue'.Holds rest ∧
      queue'.notificationWindow = queue.notificationWindow ∧
      queue'.notificationMessage = queue.notificationMessage ∧
      queue'.notificationPending = queue.notificationPending := by
  cases events with
  | nil => simp [popEvent_nil h] at hpop
  | cons first rest =>
    obtain ⟨popped, hpop', hrest⟩ := popEvent_cons h
    rw [hpop', Option.some.injEq, Prod.mk.injEq, Option.some.injEq] at hpop
    obtain ⟨rfl, rfl⟩ := hpop
    exact ⟨rest, rfl, hrest⟩

/-- A pop that returned `FALSE` found the queue empty. -/
lemma popEvent_of_none (h : queue.Holds events) (hpop : popEvent queue = some (none, queue')) :
    events = [] ∧ queue' = { queue with notificationPending := false } := by
  cases events with
  | nil =>
    rw [popEvent_nil h, Option.some.injEq, Prod.mk.injEq] at hpop
    exact ⟨rfl, hpop.2.symm⟩
  | cons first rest =>
    obtain ⟨popped, hpop', -⟩ := popEvent_cons h
    rw [hpop', Option.some.injEq, Prod.mk.injEq] at hpop
    cases hpop.1

/-- A pop never follows a dangling head. -/
lemma popEvent_isSome (h : queue.Holds events) : (popEvent queue).isSome = true := by
  cases events with
  | nil => rw [popEvent_nil h, Option.isSome_some]
  | cons first rest =>
    obtain ⟨popped, hpop, -⟩ := popEvent_cons h
    rw [hpop, Option.isSome_some]

/-- Only an empty queue has no head. -/
lemma EventQueue.Holds.head_eq_none_iff (h : queue.Holds events) :
    queue.head = none ↔ events = [] := by
  constructor
  · intro hhead
    exact (hhead ▸ h.linked).eq_nil
  · rintro rfl
    obtain ⟨as, hchain, -, -⟩ := h.linked
    generalize queue.head = head at hchain
    cases hchain
    rfl

end TraceGlass
