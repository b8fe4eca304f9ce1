import TraceGlass.App.Token

/-!
# No lost wake-up

While the window stays attached and its message queue takes every notification, no step loses the
token.  `Accounted` adds the window to what `Tokened` says: it is the one every producer is going to
notify.
-/

namespace TraceGlass

open SortedArray

/-- The window stays attached and `PostMessageW` succeeds. -/
def AppAction.Notifies : AppAction → Prop
  | .setWindow _ => False
  | .post _ delivered => delivered = true
  | _ => True

instance (action : AppAction) : Decidable action.Notifies := by
  cases action <;> simp only [AppAction.Notifies] <;> infer_instance

/-- The token has exactly one place, and a queue with events has the token. -/
structure Accounted (window : HWND) (app : App) : Prop where
  queue : ∃ queued, app.queue.Holds queued ∧
    (queued ≠ [] → app.queue.notificationPending = true)
  attached : app.queue.notificationWindow = window
  ready : app.queue.notificationMessage = eventsReadyMessage
  locals : ∀ l, some l ∈ app.producers →
    l.notificationWindow = window ∧ l.notificationMessage = eventsReadyMessage
  posted : ∀ m ∈ app.posted, m = eventsReadyMessage
  count : app.posted.length + app.notifying + app.drains = app.queue.notificationPending.toNat

namespace Accounted

variable {w : Win32} {sorter : CompareSort ℕ} {window : HWND} {app app' : App}
  {action : AppAction}

lemma created (window : HWND) (producerCount : ℕ) :
    Accounted window (App.created window producerCount) :=
  have h := Tokened.created window producerCount
  ⟨h.queue, rfl, h.ready, by simp [App.created], h.posted, h.count⟩

lemma tokened (h : Accounted window app) (hwindow : window ≠ none) : Tokened app where
  queue := h.queue
  ready := h.ready
  locals l hl := by
    obtain ⟨hattached, hmessage⟩ := h.locals l hl
    refine ⟨hmessage, fun _ => ?_⟩
    rw [hattached]
    exact Option.isSome_iff_ne_none.mpr hwindow
  posted := h.posted
  count := h.count

lemma keepsToken (h : Accounted window app) (hwindow : window ≠ none)
    (hnotifies : action.Notifies) : KeepsToken app action := by
  cases action with
  | push producer node event => exact .inr (.inr (h.attached ▸ hwindow))
  | post producer delivered =>
    simp only [KeepsToken]
    split
    · exact fun _ => hnotifies
    · trivial
  | setWindow | take | pop | finish | ui => trivial

/-- The window stays the one that was attached, for the queue and for every producer. -/
lemma attached_step (h : Accounted window app) (hnotifies : action.Notifies)
    (hstep : appStep w sorter app action = some app') :
    app'.queue.notificationWindow = window ∧
      ∀ l, some l ∈ app'.producers → l.notificationWindow = window := by
  have hlocals := fun l hl => (h.locals l hl).1
  obtain ⟨queued, hholds, -⟩ := h.queue
  cases stepped hstep with
  | pushed houtside hfree hpush =>
    obtain ⟨address, -, rfl, rfl⟩ := pushEvent_eq_some hpush
    refine ⟨by simpa using h.attached, fun l hl => ?_⟩
    rcases List.mem_or_eq_of_mem_set hl with hl | hl
    · exact hlocals l hl
    · obtain rfl := Option.some.inj hl
      exact h.attached
  | posted hbetween =>
    refine ⟨h.attached, fun l hl => ?_⟩
    rcases List.mem_or_eq_of_mem_set hl with hl | hl
    · exact hlocals l hl
    · cases hl
  | windowSet => exact absurd hnotifies id
  | popped hdraining hpop =>
    obtain ⟨rest, -, -, hwindow, -⟩ := popEvent_of_some hholds hpop
    exact ⟨hwindow.trans h.attached, hlocals⟩
  | exhausted hdraining hpop =>
    obtain ⟨-, rfl⟩ := popEvent_of_none hholds hpop
    exact ⟨h.attached, hlocals⟩
  | refused | taken | finished | handled => exact ⟨h.attached, hlocals⟩

/-- **One step** keeps the account. -/
theorem step (h : Accounted window app) (hwindow : window ≠ none) (hnotifies : action.Notifies)
    (hstep : appStep w sorter app action = some app') : Accounted window app' := by
  have htokened := (h.tokened hwindow).step (h.keepsToken hwindow hnotifies) hstep
  obtain ⟨hattached, hlocals⟩ := h.attached_step hnotifies hstep
  exact ⟨htokened.queue, hattached, htokened.ready,
    fun l hl => ⟨hlocals l hl, (htokened.locals l hl).1⟩, htokened.posted, htokened.count⟩

end Accounted

/-- **No lost wake-up.**  For any number of producers and any interleaving of the threads' steps,
with a window attached throughout and every post delivered: the notifications posted and not taken,
the producers about to post one and the drain in progress add up to one while a notification is
marked as pending and to none otherwise; a queue with events has the mark, and so a drain of it is
running, its message is posted, or a producer is about to post it; never more than one message is
outstanding; and a drain can always take its next pop. -/
theorem wakeup_accounted {w : Win32} {sorter : CompareSort ℕ} {window : HWND}
    (hwindow : window ≠ none) {producerCount : ℕ} {actions : List AppAction} {app : App}
    (hnotifies : ∀ action ∈ actions, action.Notifies)
    (hrun : Machine.run (appStep w sorter) (App.created window producerCount) actions = some app) :
    app.posted.length + app.notifying + app.drains =
        (if app.queue.notificationPending then 1 else 0) ∧
      (app.queue.head ≠ none → app.queue.notificationPending = true) ∧
      (app.queue.head ≠ none →
        (∃ locals, app.thread = .draining locals) ∨ app.posted = [eventsReadyMessage] ∨
          ∃ locals, some locals ∈ app.producers ∧ locals.message = some eventsReadyMessage) ∧
      app.posted.length ≤ 1 ∧
      ∀ locals env, app.thread = .draining locals →
        (appStep w sorter app (.pop env)).isSome = true := by
  have h : Accounted window app := Machine.run_invariant hrun hnotifies
    (Accounted.created window producerCount) fun _ _ _ hI hok hstep => hI.step hwindow hok hstep
  have hcount := h.count
  obtain ⟨queued, hholds, hpending⟩ := h.queue
  have hmark : app.queue.head ≠ none → app.queue.notificationPending = true :=
    fun hhead => hpending fun hnil => hhead (hholds.head_eq_none_iff.mpr hnil)
  have hone : app.queue.notificationPending.toNat ≤ 1 := Bool.toNat_le _
  refine ⟨?_, hmark, fun hhead => ?_, by omega, fun locals env hdraining => ?_⟩
  · rw [hcount]
    cases app.queue.notificationPending <;> rfl
  · -- the token is somewhere, and each of its three places is one of the alternatives
    rw [hmark hhead, Bool.toNat_true] at hcount
    cases hthread : app.thread with
    | draining locals => exact .inl ⟨locals, rfl⟩
    | idle | finishing =>
      right
      simp only [App.drains, hthread, Nat.add_zero] at hcount
      rcases Nat.eq_zero_or_pos app.notifying with hzero | hpos
      · left
        obtain ⟨m, hm⟩ := List.length_eq_one_iff.mp (by omega : app.posted.length = 1)
        rw [hm, h.posted m (by simp [hm])]
      · right
        obtain ⟨moved, hmem, hnotify⟩ := List.countP_pos_iff.mp hpos
        obtain ⟨locals, rfl, hshould⟩ := Option.any_eq_true _ _ |>.mp hnotify
        obtain ⟨hattached, hmessage⟩ := h.locals locals hmem
        refine ⟨locals, hmem, ?_⟩
        simp [PushLocals.message, hshould, hattached, hmessage,
          Option.isSome_iff_ne_none.mpr hwindow]
  · have hpop := popEvent_isSome hholds
    simp only [appStep, hdraining]
    split
    · next hnone => simp [hnone] at hpop
    · rfl
    · rfl

/-- Two producers; the first pushes and is pre-empted before it posts, the second pushes meanwhile,
and the second event is still queued when the message has been taken and one event popped. -/
def preemptedRun : List AppAction :=
  [.push 0 (some 0) .zero, .push 1 (some 1) .zero, .post 1 true, .post 0 true, .take,
    .pop .succeed]

/-- There the queued event has the mark. -/
theorem wakeup_accounted_preemptedRun :
    (Machine.run (appStep Win32.sample (CompareSort.insertion ℕ)) (App.created (some 1) 2)
      preemptedRun).map (fun app => app.queue.notificationPending) = some true := by
  have hsome : (Machine.run (appStep Win32.sample (CompareSort.insertion ℕ))
      (App.created (some 1) 2) preemptedRun).map (fun app => app.queue.head) = some (some 1) := by
    decide +kernel
  obtain ⟨app, hrun, hhead⟩ := Option.map_eq_some_iff.mp hsome
  rw [hrun, Option.map_some,
    (wakeup_accounted (by decide) (by decide) hrun).2.1 (by simp [hhead])]

end TraceGlass
