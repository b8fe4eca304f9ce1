import TraceGlass.App.Model
import TraceGlass.Lib.Lists

/-!
# The notification as a token

The mark `notification_pending` is a token.  A push that finds it missing creates it, the post
carries it into the message queue, taking the message carries it into a drain, and the pop that
finds the queue empty destroys it.  `Tokened` says that there is exactly one place where the token
is, or none, and that a queue with events in it has one.

Two steps lose it: a push that creates it while no window is attached, and a post of it that fails.
Every other step keeps it, which is `Tokened.step`.
-/

namespace TraceGlass

open SortedArray

namespace App

/-- The producers past their critical section that are going to post. -/
def notifying (app : App) : ℕ :=
  app.producers.countP fun locals => locals.any fun l => l.shouldNotify

/-- The drains that have not found the queue empty yet. -/
def drains (app : App) : ℕ :=
  match app.thread with
  | .draining _ => 1
  | .idle => 0
  | .finishing _ => 0

end App

/-- The step does not lose the token: a push that finds no notification pending has a window to
notify, and the post of such a push is delivered. -/
def KeepsToken (app : App) : AppAction → Prop
  | .push _ node _ =>
      node = none ∨ app.queue.notificationPending = true ∨ app.queue.notificationWindow ≠ none
  | .post producer delivered =>
      match app.producers[producer]? with
      | some (some locals) => locals.shouldNotify = true → delivered = true
      | _ => True
  | _ => True

instance (app : App) : ∀ action, Decidable (KeepsToken app action)
  | .push _ _ _ => inferInstanceAs (Decidable (_ ∨ _ ∨ _))
  | .post producer delivered => by
      simp only [KeepsToken]
      split <;> infer_instance
  | .setWindow _ | .take | .pop _ | .finish _ | .ui _ _ => inferInstanceAs (Decidable True)

/-- The token has exactly one place, and a queue with events has the token. -/
structure Tokened (app : App) : Prop where
  queue : ∃ queued, app.queue.Holds queued ∧
    (queued ≠ [] → app.queue.notificationPending = true)
  ready : app.queue.notificationMessage = eventsReadyMessage
  locals : ∀ l, some l ∈ app.producers → l.notificationMessage = eventsReadyMessage ∧
    (l.shouldNotify = true → l.notificationWindow.isSome = true)
  posted : ∀ m ∈ app.posted, m = eventsReadyMessage
  count : app.posted.length + app.notifying + app.drains = app.queue.notificationPending.toNat

namespace Tokened

variable {w : Win32} {sorter : CompareSort ℕ} {app app' : App} {action : AppAction}

lemma created (window : HWND) (producerCount : ℕ) : Tokened (App.created window producerCount) where
  queue := ⟨[], eventQueueInitialize_holds _ _, fun h => absurd rfl h⟩
  ready := rfl
  locals := by simp [App.created]
  posted := by simp [App.created]
  count := by
    simp [App.created, App.notifying, App.drains, eventQueueInitialize]

/-- The producers' locals after one of them has moved. -/
lemma locals_set (h : Tokened app) {producer : ℕ} {moved : Option PushLocals}
    (hmoved : ∀ l, moved = some l → l.notificationMessage = eventsReadyMessage ∧
      (l.shouldNotify = true → l.notificationWindow.isSome = true)) :
    ∀ l, some l ∈ app.producers.set producer moved →
      l.notificationMessage = eventsReadyMessage ∧
        (l.shouldNotify = true → l.notificationWindow.isSome = true) := by
  intro l hl
  rcases List.mem_or_eq_of_mem_set hl with hl | hl
  · exact h.locals l hl
  · exact hmoved l hl.symm

/-- A push creates the token where it is missing. -/
lemma pushed (h : Tokened app) {producer address : ℕ} {event : TraceGlassEvent}
    {queue : EventQueue} {locals : PushLocals}
    (hkeeps : app.queue.notificationPending = true ∨ app.queue.notificationWindow ≠ none)
    (houtside : app.producers[producer]? = some none) (hfree : app.queue.nodes address = none)
    (hpush : pushEvent app.queue (some address) event = some (queue, locals)) :
    Tokened { app with queue := queue, producers := app.producers.set producer (some locals) } := by
  obtain ⟨queued, hholds, -⟩ := h.queue
  have hholds' := pushEvent_holds hholds hfree hpush
  have hnotifying := ListLib.countP_set_add
    (p := fun l : Option PushLocals => l.any fun l => l.shouldNotify) (some locals) houtside
  obtain ⟨address', -, rfl, rfl⟩ := pushEvent_eq_some hpush
  have hcount := h.count
  refine ⟨⟨_, hholds', fun _ => rfl⟩, by simpa using h.ready, h.locals_set ?_, h.posted, ?_⟩
  · rintro l ⟨⟩
    refine ⟨h.ready, fun hshould => Option.isSome_iff_ne_none.mpr ?_⟩
    rcases hkeeps with hpending | hwindow
    · simp [hpending] at hshould
    · exact hwindow
  · simp only [App.notifying, App.drains] at hcount hnotifying ⊢
    cases hpending : app.queue.notificationPending <;> simp_all

/-- A post carries it into the message queue. -/
lemma posts (h : Tokened app) {producer : ℕ} {delivered : Bool} {locals : PushLocals}
    (hkeeps : locals.shouldNotify = true → delivered = true)
    (hbetween : app.producers[producer]? = some (some locals)) :
    Tokened
      { app with
        producers := app.producers.set producer none
        posted := app.posted ++ if delivered then locals.message.toList else [] } := by
  obtain ⟨hmessage, hsome⟩ := h.locals locals (List.mem_of_getElem? hbetween)
  have hnotifying := ListLib.countP_set_add
    (p := fun l : Option PushLocals => l.any fun l => l.shouldNotify) none hbetween
  have hcount := h.count
  -- what is posted: the ready message if the producer had the token
  have hsent : (if delivered then locals.message.toList else []) =
      if locals.shouldNotify then [eventsReadyMessage] else [] := by
    cases hnotify : locals.shouldNotify with
    | false => simp [PushLocals.message, hnotify]
    | true => simp [PushLocals.message, hnotify, hkeeps hnotify, hsome hnotify, hmessage]
  refine ⟨h.queue, h.ready, h.locals_set (by simp), ?_, ?_⟩
  · intro m hm
    rcases List.mem_append.mp hm with hm | hm
    · exact h.posted m hm
    · rw [hsent] at hm
      split at hm <;> simp_all
  · rw [hsent]
    simp only [App.notifying, App.drains, List.length_append] at hcount hnotifying ⊢
    cases hnotify : locals.shouldNotify with
    | false => simp_all
    | true =>
      simp only [Option.any_some, Option.any_none, hnotify, Bool.toNat_true, Bool.toNat_false,
        Nat.add_zero, if_true, List.length_singleton] at hnotifying ⊢
      omega

/-- Taking the message carries it into a drain. -/
lemma taken (h : Tokened app) {message : UINT} {posted : List UINT}
    (hidle : app.thread = .idle) (hposted : app.posted = message :: posted) :
    Tokened
      { app with
        posted := posted
        thread := if message = eventsReadyMessage then .draining (beginDrain app.gui)
          else .idle } := by
  have hready : message = eventsReadyMessage := h.posted message (by simp [hposted])
  have hcount := h.count
  refine ⟨h.queue, h.ready, h.locals, fun m hm => ?_, ?_⟩
  · exact h.posted m (hposted ▸ List.mem_cons_of_mem _ hm)
  · simp only [App.notifying, App.drains, hidle, hposted, hready, if_true,
      List.length_cons] at hcount ⊢
    omega

/-- The pop that finds the queue empty destroys it. -/
lemma exhausted (h : Tokened app) {locals : DrainLocals} {queue : EventQueue}
    (hdraining : app.thread = .draining locals) (hpop : popEvent app.queue = some (none, queue)) :
    Tokened { app with queue := queue, thread := .finishing locals } := by
  obtain ⟨queued, hholds, hpending⟩ := h.queue
  obtain ⟨rfl, rfl⟩ := popEvent_of_none hholds hpop
  have hcount := h.count
  refine ⟨⟨[], ⟨hholds.initialized, hholds.linked⟩, fun hne => absurd rfl hne⟩, h.ready, h.locals,
    h.posted, ?_⟩
  simp only [App.notifying, App.drains, hdraining] at hcount ⊢
  have hone : app.queue.notificationPending.toNat ≤ 1 := Bool.toNat_le _
  simp only [Bool.toNat_false]
  omega

/-- Any other pop leaves it with the drain. -/
lemma popped (h : Tokened app) {locals : DrainLocals} {event : TraceGlassEvent}
    {queue : EventQueue} (locals' : DrainLocals) (gui : GuiState)
    (hdraining : app.thread = .draining locals)
    (hpop : popEvent app.queue = some (some event, queue)) :
    Tokened { app with queue := queue, thread := .draining locals', gui := gui } := by
  obtain ⟨queued, hholds, hpending⟩ := h.queue
  obtain ⟨rest, rfl, hrest, -, hmessage, hpending'⟩ := popEvent_of_some hholds hpop
  have hcount := h.count
  refine ⟨⟨rest, hrest, fun _ => ?_⟩, hmessage.trans h.ready, h.locals, h.posted, ?_⟩
  · rw [hpending']
    exact hpending (List.cons_ne_nil _ _)
  · simp only [App.notifying, App.drains, hdraining, hpending'] at hcount ⊢
    exact hcount

/-- **One step** that does not lose the token keeps the account of it. -/
theorem step (h : Tokened app) (hkeeps : KeepsToken app action)
    (hstep : appStep w sorter app action = some app') : Tokened app' := by
  cases stepped hstep with
  | pushed houtside hfree hpush =>
    exact h.pushed (hkeeps.resolve_left (Option.some_ne_none _)) houtside hfree hpush
  | refused => exact h
  | @posted producer delivered locals hbetween =>
    simp only [KeepsToken, hbetween] at hkeeps
    exact h.posts hkeeps hbetween
  | @windowSet window =>
    obtain ⟨queued, hholds, hpending⟩ := h.queue
    have hset : eventQueueSetWindow app.queue window =
        { app.queue with notificationWindow := window } := by
      rw [eventQueueSetWindow, if_neg (by simp [hholds.initialized])]
    rw [hset]
    exact ⟨⟨queued, ⟨hholds.initialized, hholds.linked⟩, hpending⟩, h.ready, h.locals, h.posted,
      h.count⟩
  | taken hidle hposted => exact h.taken hidle hposted
  | popped hdraining hpop => exact h.popped _ _ hdraining hpop
  | exhausted hdraining hpop => exact h.exhausted hdraining hpop
  | finished hfinishing =>
    have hcount := h.count
    refine ⟨h.queue, h.ready, h.locals, h.posted, ?_⟩
    simpa [App.notifying, App.drains, hfinishing] using hcount
  | handled => exact ⟨h.queue, h.ready, h.locals, h.posted, h.count⟩

end Tokened

end TraceGlass
