import TraceGlass.App.Token

/-!
# Recovering from a missed notification

A push that finds the mark set does not notify, and only a drain clears the mark.  So a notification
that was not delivered is not made up for by a later push: the token is lost and every thread waits
for another one to bring it back.  `Stranded` is that state.  No step leaves it, and exactly the
steps that are not `KeepsToken` lead into it.
-/

namespace TraceGlass

open SortedArray

variable {w : Win32} {sorter : CompareSort ℕ} {app app' : App} {action : AppAction}

/-- A notification is in flight whenever events are queued, no drain is running and no producer is
between the end of its critical section and its post. -/
def Recovered (app : App) : Prop :=
  app.queue.head ≠ none → (∀ locals, app.thread ≠ .draining locals) →
    (∀ producer ∈ app.producers, producer = none) → app.posted ≠ []

/-! ## The token is there -/

lemma Tokened.recovered (h : Tokened app) : Recovered app := by
  intro hhead hthread hproducers hposted
  obtain ⟨queued, hholds, hpending⟩ := h.queue
  have hmark := hpending fun hnil => hhead (hholds.head_eq_none_iff.mpr hnil)
  have hnotifying : app.notifying = 0 := by
    refine List.countP_eq_zero.mpr fun producer hmem => ?_
    rw [hproducers producer hmem]
    decide
  have hdrains : app.drains = 0 := by
    unfold App.drains
    split
    · next locals hdraining => exact absurd hdraining (hthread locals)
    · rfl
    · rfl
  have hcount := h.count
  rw [hposted, hnotifying, hdrains, hmark] at hcount
  cases hcount

/-! ## The token is lost -/

/-- A notification is marked as pending, and there is none: not in the message queue, not in a
drain, and no producer is going to post one. -/
structure Stranded (app : App) : Prop where
  initialized : app.queue.initialized = true
  pending : app.queue.notificationPending = true
  posted : app.posted = []
  thread : ∀ locals, app.thread ≠ .draining locals
  locals : ∀ l, some l ∈ app.producers → l.message = none

namespace Stranded

/-- **No step leads out of it.** -/
lemma step (h : Stranded app) (hstep : appStep w sorter app action = some app') :
    Stranded app' := by
  have hmoved : ∀ {producer : ℕ} {moved : Option PushLocals},
      (∀ l, moved = some l → l.message = none) →
      ∀ l, some l ∈ app.producers.set producer moved → l.message = none := by
    intro producer moved hmoved l hl
    rcases List.mem_or_eq_of_mem_set hl with hl | hl
    · exact h.locals l hl
    · exact hmoved l hl.symm
  cases stepped hstep with
  | pushed houtside hfree hpush =>
    obtain ⟨address, -, rfl, rfl⟩ := pushEvent_eq_some hpush
    refine ⟨by simpa using h.initialized, rfl, h.posted, h.thread, hmoved ?_⟩
    rintro l ⟨⟩
    simp [PushLocals.message, h.pending]
  | refused => exact h
  | @posted producer delivered locals hbetween =>
    have hnone := h.locals locals (List.mem_of_getElem? hbetween)
    refine ⟨h.initialized, h.pending, ?_, h.thread, hmoved (by simp)⟩
    simp [h.posted, hnone]
  | windowSet =>
    have hset : ∀ window, eventQueueSetWindow app.queue window =
        { app.queue with notificationWindow := window } := fun window => by
      rw [eventQueueSetWindow, if_neg (by simp [h.initialized])]
    rw [hset]
    exact ⟨h.initialized, h.pending, h.posted, h.thread, h.locals⟩
  | taken hidle hposted => exact absurd (h.posted.symm.trans hposted) (by simp)
  | popped hdraining => exact absurd hdraining (h.thread _)
  | exhausted hdraining => exact absurd hdraining (h.thread _)
  | finished hfinishing =>
    refine ⟨h.initialized, h.pending, h.posted, ?_, h.locals⟩
    rintro locals ⟨⟩
  | handled => exact ⟨h.initialized, h.pending, h.posted, h.thread, h.locals⟩

lemma run (h : Stranded app) {actions : List AppAction}
    (hrun : Machine.run (appStep w sorter) app actions = some app') : Stranded app' :=
  Machine.run_kept hrun h fun _ _ _ h hstep => h.step hstep

end Stranded

/-- Where no producer has to notify, none has a message to post. -/
lemma message_of_notifying {producers : List (Option PushLocals)}
    (h : producers.countP (fun l => l.any fun l => l.shouldNotify) = 0) :
    ∀ l, some l ∈ producers → l.message = none := by
  intro l hl
  have hnotify : l.shouldNotify = false :=
    Bool.eq_false_iff.mpr fun hnotify => List.countP_eq_zero.mp h (some l) hl hnotify
  simp [PushLocals.message, hnotify]

/-- The token is in one place, so who loses it loses the only one. -/
lemma Tokened.stranded (h : Tokened app) (hloses : ¬ KeepsToken app action)
    (hstep : appStep w sorter app action = some app') : Stranded app' := by
  obtain ⟨queued, hholds, -⟩ := h.queue
  have hcount := h.count
  have hnotDraining : app.drains = 0 → ∀ locals, app.thread ≠ .draining locals := by
    intro hdrains locals hdraining
    simp [App.drains, hdraining] at hdrains
  cases stepped hstep with
  | pushed houtside hfree hpush =>
    simp only [KeepsToken, not_or, ne_eq, not_not, Bool.not_eq_true] at hloses
    obtain ⟨-, hpending, hwindow⟩ := hloses
    obtain ⟨address, -, rfl, rfl⟩ := pushEvent_eq_some hpush
    rw [hpending, Bool.toNat_false] at hcount
    have hposted : app.posted = [] := List.eq_nil_of_length_eq_zero (by omega)
    refine ⟨by simpa using hholds.initialized, rfl, hposted, hnotDraining (by omega),
      fun l hl => ?_⟩
    rcases List.mem_or_eq_of_mem_set hl with hl | hl
    · have hnone : app.notifying = 0 := by omega
      exact message_of_notifying hnone l hl
    · obtain rfl := Option.some.inj hl
      simp [PushLocals.message, hwindow]
  | @posted producer delivered locals hbetween =>
    simp only [KeepsToken, hbetween, Classical.not_imp, Bool.not_eq_true] at hloses
    obtain ⟨hnotify, rfl⟩ := hloses
    have hnotifying := ListLib.countP_set_add
      (p := fun l : Option PushLocals => l.any fun l => l.shouldNotify) none hbetween
    have hone : app.queue.notificationPending.toNat ≤ 1 := Bool.toNat_le _
    simp only [App.notifying, Option.any_some, Option.any_none, hnotify, Bool.toNat_true,
      Bool.toNat_false, Nat.add_zero] at hcount hnotifying
    have hpending : app.queue.notificationPending = true := by
      cases hmark : app.queue.notificationPending with
      | true => rfl
      | false =>
        rw [hmark, Bool.toNat_false] at hcount
        omega
    have hnone : (app.producers.set producer none).countP
        (fun l : Option PushLocals => l.any fun l => l.shouldNotify) = 0 := by omega
    refine ⟨hholds.initialized, hpending, ?_, hnotDraining (by omega), message_of_notifying hnone⟩
    rw [List.eq_nil_of_length_eq_zero (by omega : app.posted.length = 0)]
    rfl
  | @refused producer node event hpush =>
    simp only [KeepsToken, not_or] at hloses
    obtain ⟨address, rfl⟩ := Option.ne_none_iff_exists'.mp hloses.1
    have hsome := pushEvent_isSome hholds address event
    simp [hpush] at hsome
  | windowSet | taken | popped | exhausted | finished | handled => exact absurd trivial hloses

/-! ## Runs -/

/-- **When a missed notification is made up for.**  In a run no step of which loses the token,
queued events always have a notification in flight, a drain or a producer that is going to post.  A
step that loses it is never recovered from: from then on no notification is in flight, whatever is
pushed and whichever window is attached, and no drain runs. -/
theorem notification_recovered {window : HWND} {producerCount : ℕ} {actions : List AppAction}
    {app : App}
    (hrun : Machine.run (Machine.restrict KeepsToken (appStep w sorter))
      (App.created window producerCount) actions = some app) :
    Recovered app ∧
      ∀ (action : AppAction) (app' : App), ¬ KeepsToken app action →
        appStep w sorter app action = some app' →
        ∀ (later : List AppAction) (app'' : App),
          Machine.run (appStep w sorter) app' later = some app'' →
            app''.posted = [] ∧ ∀ locals, app''.thread ≠ .draining locals := by
  have h : Tokened app := by
    refine Machine.run_kept hrun (Tokened.created window producerCount) fun _ _ _ h hstep => ?_
    obtain ⟨hkeeps, hstep⟩ := Machine.restrict_eq_some.mp hstep
    exact h.step hkeeps hstep
  refine ⟨h.recovered, fun action app' hloses hstep later app'' hlater => ?_⟩
  have hstranded := (h.stranded hloses hstep).run hlater
  exact ⟨hstranded.posted, hstranded.thread⟩

/-- A producer pushes an event and posts the notification. -/
def notifyingRun (delivered : Bool) : List AppAction :=
  [.push 0 (some 0) .zero, .post 0 delivered]

/-- A delivered notification is in flight. -/
theorem notification_recovered_delivered :
    (Machine.run (Machine.restrict KeepsToken (appStep .sample (CompareSort.insertion ℕ)))
      (App.created (some 1) 1) (notifyingRun true)).map (fun app => app.posted.isEmpty) =
        some false := by
  have hsome : (Machine.run
      (Machine.restrict KeepsToken (appStep .sample (CompareSort.insertion ℕ)))
      (App.created (some 1) 1) (notifyingRun true)).map
        (fun app => (app.queue.head, app.thread, app.producers)) =
          some (some 0, .idle, [none]) := by
    decide +kernel
  obtain ⟨app, hrun, heq⟩ := Option.map_eq_some_iff.mp hsome
  simp only [Prod.mk.injEq] at heq
  obtain ⟨hhead, hidle, hproducers⟩ := heq
  have hposted := (notification_recovered hrun).1 (by simp [hhead]) (by simp [hidle])
    (by simp [hproducers])
  rw [hrun, Option.map_some, List.isEmpty_eq_false_iff.mpr hposted]

/-- `PostMessageW` fails once.  The producer pushes again, the window is there and `PostMessageW`
would succeed, and the two events stay in the queue without a notification. -/
theorem notification_missed :
    ∃ app, Machine.run (appStep .sample (CompareSort.insertion ℕ)) (App.created (some 1) 1)
        (notifyingRun false ++ [.push 0 (some 1) .zero, .post 0 true]) = some app ∧
      app.queue.notificationWindow ≠ none ∧ ¬ Recovered app := by
  have hsome : (Machine.run (appStep .sample (CompareSort.insertion ℕ)) (App.created (some 1) 1)
      (notifyingRun false ++ [.push 0 (some 1) .zero, .post 0 true])).map
        (fun app => ((app.queue.head, app.queue.notificationWindow),
          (app.thread, app.producers, app.posted))) =
        some ((some 0, some 1), (.idle, [none], [])) := by
    decide +kernel
  obtain ⟨app, hrun, heq⟩ := Option.map_eq_some_iff.mp hsome
  simp only [Prod.mk.injEq] at heq
  obtain ⟨⟨hhead, hwindow⟩, hidle, hproducers, hposted⟩ := heq
  refine ⟨app, hrun, by simp [hwindow], fun hrecovered => ?_⟩
  exact hrecovered (by simp [hhead]) (by simp [hidle]) (by simp [hproducers]) hposted

end TraceGlass
