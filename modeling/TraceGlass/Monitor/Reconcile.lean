import TraceGlass.Monitor.Fallback

/-!
# Reconciliation with creation times that cannot be read

The poller compares a snapshot with the one before and takes an unread creation time for a match;
the store compares a report with every record it has.  Both remember one creation time per PID: the
poller the one it read last, the store the one the record was opened under.  The poller's memory is
overwritten by an unread time and filled again by the next instance, so the two can drift apart, and
then the STOP the poller reports finds no record to close.

`Alive` is the invariant of the slots of one PID, relative to the true snapshots: as many active
slots as the PID is listed, and no inactive slot carries the key of a process that may still be
listed.  A poll keeps it exactly when the key it reports as stopped is that of the active slot, or
one of the two is unknown (`CleanStop`); `alive_turn` and `not_alive_turn` are the two directions.
-/

namespace TraceGlass

/-! ## One PID -/

/-- The history of the true snapshots seen from between two of them: `seen` are the processes listed
so far, `last` the ones listed last, `next` the ones listed next. -/
structure Turn (seen : ProcessKey → Prop) (last next : List ProcessKey) : Prop where
  seen_last : ∀ key ∈ last, seen key
  back : ∀ key ∈ next, seen key → key ∈ last
  unique_last : ∀ k ∈ last, ∀ k' ∈ last, k.pid = k'.pid → k = k'
  unique_next : ∀ k ∈ next, ∀ k' ∈ next, k.pid = k'.pid → k = k'

/-- The slots of one PID, `count` of them active: what is known was listed, and what is inactive and
known is listed no longer. -/
structure Alive (pid : DWORD) (seen : ProcessKey → Prop) (last : List ProcessKey) (count : ℕ)
    (slots : Table) : Prop where
  pid_eq : ∀ s ∈ slots, s.key.pid = pid
  seen : ∀ s ∈ slots, s.key.creationTime ≠ 0 → seen s.key
  dead : ∀ s ∈ slots, s.active = false → s.key.creationTime ≠ 0 → s.key ∉ last
  count_eq : slots.countP Slot.active = count

/-- The key reported as stopped is that of the active slot, or one of the two is unknown. -/
def CleanStop (slots : Table) (key : ProcessKey) : Prop :=
  key.creationTime ≠ 0 → ∀ s ∈ slots, s.active = true →
    s.key.creationTime = 0 ∨ s.key.creationTime = key.creationTime

/-- Where one slot is active, it is the only one. -/
lemma exists_active_split {slots : Table} (h : slots.countP Slot.active = 1) :
    ∃ l a r, slots = l ++ a :: r ∧ a.active = true ∧ ∀ y ∈ l ++ r, y.active = false := by
  obtain ⟨a, ha, hactive⟩ := List.countP_pos_iff.mp (h ▸ Nat.one_pos)
  obtain ⟨l, r, rfl⟩ := List.append_of_mem ha
  rw [List.countP_append, List.countP_cons, if_pos hactive] at h
  refine ⟨l, a, r, rfl, hactive, fun y hy => ?_⟩
  have hnone : (l ++ r).countP Slot.active = 0 := by
    rw [List.countP_append]
    omega
  simpa using List.countP_eq_zero.mp hnone y hy

/-- Where the others are inactive, an active slot is the one between them. -/
lemma eq_of_active {l r : Table} {a s : Slot} (hothers : ∀ y ∈ l ++ r, y.active = false)
    (hs : s ∈ l ++ a :: r) (hactive : s.active = true) : s = a := by
  rcases ListLib.mem_middle.mp hs with rfl | hs
  · rfl
  · rw [hothers s hs] at hactive
    cases hactive

section OnePid

variable {pid : DWORD} {seen : ProcessKey → Prop} {last next : List ProcessKey} {slots : Table}

/-- Nothing dead comes back with the next snapshot. -/
lemma Alive.dead_next {count : ℕ} (h : Alive pid seen last count slots)
    (hturn : Turn seen last next) {s : Slot} (hs : s ∈ slots) (hinactive : s.active = false)
    (hknown : s.key.creationTime ≠ 0) : s.key ∉ next := fun hmem =>
  h.dead s hs hinactive hknown (hturn.back _ hmem (h.seen s hs hknown))

/-- An inactive slot is not what the key of a listed process refers to. -/
private lemma not_exact_of_dead {s : Slot} {key : ProcessKey} {listed : List ProcessKey}
    (hdead : s.key.creationTime ≠ 0 → s.key ∉ listed)
    (hkey : key.creationTime ≠ 0 → key ∈ listed) : s.exact key = false := by
  by_contra hexact
  obtain ⟨-, hknown, heq⟩ := Slot.exact_iff.mp (by simpa using hexact)
  rw [← heq] at hknown hkey
  exact hdead hknown (hkey hknown)

private lemma not_fallback_of_inactive {s : Slot} {key : ProcessKey} (h : s.active = false) :
    s.fallback key = false := by
  simp [Slot.fallback, h]

private lemma not_fallback_of_ne {s : Slot} {key : ProcessKey} (hs : s.key.creationTime ≠ 0)
    (hkey : key.creationTime ≠ 0) (hne : s.key ≠ key) : s.fallback key = false := by
  by_contra hfall
  obtain ⟨-, hpid, htime, -⟩ := Slot.fallback_iff.mp (by simpa using hfall)
  rcases htime with heq | hzero | hzero
  · exact hne (ProcessKey.ext hpid heq)
  · exact hs hzero
  · exact hkey hzero

private lemma not_exact_of_ne {s : Slot} {key : ProcessKey} (hne : s.key ≠ key) :
    s.exact key = false := by
  by_contra hexact
  exact hne (Slot.exact_iff.mp (by simpa using hexact)).2.2

/-- The PID is not listed before and after. -/
lemma Alive.idle {count : ℕ} (h : Alive pid seen last count slots)
    (hturn : Turn seen last next) :
    Alive pid (fun key => seen key ∨ key ∈ next) next count slots :=
  ⟨h.pid_eq, fun s hs hknown => .inl (h.seen s hs hknown),
    fun _ hs hinactive hknown => h.dead_next hturn hs hinactive hknown, h.count_eq⟩

/-- A START of a listed process that refers to nothing opens a slot. -/
lemma Alive.start_unmatched {count : ℕ} {key : ProcessKey}
    (h : Alive pid seen last count slots) (hturn : Turn seen last next) (hpid : key.pid = pid)
    (hkey : key.creationTime ≠ 0 → key ∈ next) :
    Alive pid (fun key => seen key ∨ key ∈ next) next (count + 1) (slots ++ [⟨key, true⟩]) := by
  have hidle := h.idle hturn
  refine ⟨?_, ?_, ?_, ?_⟩
  · intro s hs
    rcases List.mem_append.mp hs with hs | hs
    · exact h.pid_eq s hs
    · rw [List.mem_singleton.mp hs]
      exact hpid
  · intro s hs hknown
    rcases List.mem_append.mp hs with hs | hs
    · exact hidle.seen s hs hknown
    · rw [List.mem_singleton.mp hs] at hknown ⊢
      exact .inr (hkey hknown)
  · intro s hs hinactive hknown
    rcases List.mem_append.mp hs with hs | hs
    · exact hidle.dead s hs hinactive hknown
    · rw [List.mem_singleton.mp hs] at hinactive
      cases hinactive
  · rw [List.countP_append, h.count_eq]
    rfl

/-- The slots around the one a STOP closes: the closed slot carries the reported key, or its own
where that is unknown, and neither is listed next. -/
lemma alive_closed {l r : Table} {a : Slot} {key : ProcessKey} {count : ℕ}
    (h : Alive pid (fun key => seen key ∨ key ∈ next) next (count + 1) (l ++ a :: r))
    (hactive : a.active = true) (hkey : key.creationTime ≠ 0 → seen key ∧ key ∉ next)
    (hpid : key.pid = pid) (ha : key.creationTime = 0 → a.key.creationTime ≠ 0 → a.key ∉ next) :
    Alive pid (fun key => seen key ∨ key ∈ next) next count
      (l ++ { a.learn key with active := false } :: r) := by
  have hapid : a.key.pid = pid := h.pid_eq a (by simp)
  have hother : ∀ s ∈ l ++ { a.learn key with active := false } :: r,
      s = { a.learn key with active := false } ∨ s ∈ l ++ a :: r := fun s hs =>
    ListLib.mem_replace _ hs
  -- what the closed slot is called, whether or not the key was known
  have hclosed : (a.learn key).key.creationTime ≠ 0 →
      (seen (a.learn key).key ∨ (a.learn key).key ∈ next) ∧ (a.learn key).key ∉ next := by
    intro hknown
    by_cases hzero : key.creationTime = 0
    · rw [Slot.learn_of_unknown hzero] at hknown ⊢
      exact ⟨h.seen a (by simp) hknown, ha hzero hknown⟩
    · rw [Slot.learn_key (hapid.trans hpid.symm) hzero]
      exact ⟨.inl (hkey hzero).1, (hkey hzero).2⟩
  refine ⟨?_, ?_, ?_, ?_⟩
  · intro s hs
    rcases hother s hs with rfl | hs
    · exact Slot.learn_pid.trans hapid
    · exact h.pid_eq s hs
  · intro s hs hknown
    rcases hother s hs with rfl | hs
    · exact (hclosed hknown).1
    · exact h.seen s hs hknown
  · intro s hs hinactive hknown
    rcases hother s hs with rfl | hs
    · exact (hclosed hknown).2
    · exact h.dead s hs hinactive hknown
  · have hcount := h.count_eq
    rw [List.countP_append, List.countP_cons, if_pos hactive] at hcount
    rw [List.countP_append, List.countP_cons, if_neg (by simp)]
    omega

/-- A STOP that refers to nothing leaves an inactive slot behind. -/
lemma Alive.stop_unmatched {key : ProcessKey} {count : ℕ}
    (h : Alive pid (fun key => seen key ∨ key ∈ next) next count slots)
    (hkey : key.creationTime ≠ 0 → seen key ∧ key ∉ next) (hpid : key.pid = pid) :
    Alive pid (fun key => seen key ∨ key ∈ next) next count (slots ++ [⟨key, false⟩]) := by
  refine ⟨?_, ?_, ?_, ?_⟩
  · intro s hs
    rcases List.mem_append.mp hs with hs | hs
    · exact h.pid_eq s hs
    · rw [List.mem_singleton.mp hs]
      exact hpid
  · intro s hs hknown
    rcases List.mem_append.mp hs with hs | hs
    · exact h.seen s hs hknown
    · rw [List.mem_singleton.mp hs] at hknown ⊢
      exact .inl (hkey hknown).1
  · intro s hs hinactive hknown
    rcases List.mem_append.mp hs with hs | hs
    · exact h.dead s hs hinactive hknown
    · rw [List.mem_singleton.mp hs] at hknown ⊢
      exact (hkey hknown).2
  · rw [List.countP_append, h.count_eq]
    rfl

/-- What one poll reads of the PID: its entry or none, with the true creation time or none. -/
structure Reading (pid : DWORD) (truth read : List ProcessKey) : Prop where
  single : read = [] ∨ ∃ key, read = [key] ∧ key.pid = pid
  known : ∀ key ∈ read, key.creationTime ≠ 0 → key ∈ truth
  absent : read = [] → ∀ key ∈ truth, key.pid ≠ pid

lemma processKeysMatch_comm (a b : ProcessKey) : processKeysMatch a b = processKeysMatch b a := by
  rw [Bool.eq_iff_iff, processKeysMatch_iff, processKeysMatch_iff]
  constructor <;>
  · rintro ⟨hpid, htime⟩
    exact ⟨hpid.symm, by tauto⟩

/-- Two keys of a PID that do not match are known and different. -/
lemma known_of_not_match {a b : ProcessKey} (hpid : a.pid = b.pid)
    (h : processKeysMatch a b = false) :
    a.creationTime ≠ 0 ∧ b.creationTime ≠ 0 ∧ a ≠ b := by
  have hno : ¬ (a.creationTime = b.creationTime ∨ a.creationTime = 0 ∨ b.creationTime = 0) :=
    fun htime => by
      rw [processKeysMatch_iff.mpr ⟨hpid, htime⟩] at h
      cases h
  push Not at hno
  refine ⟨hno.2.1, hno.2.2, ?_⟩
  rintro rfl
  exact hno.1 rfl

lemma snapshotDiff_single (k b : ProcessKey) :
    snapshotDiff [k] [b] = if processKeysMatch k b then [] else [⟨.start, b⟩, ⟨.stop, k⟩] := by
  have hcomm := processKeysMatch_comm b k
  cases h : processKeysMatch k b <;> simp [snapshotDiff, h, hcomm]

/-- The key of the STOP refers to the active slot, when it is the slot's or one of the two is
unknown. -/
private lemma refers_of_cleanStop {l r : Table} {a : Slot} {k : ProcessKey} {count : ℕ}
    (h : Alive pid seen last count (l ++ a :: r)) (hpid : pid ≠ 0) (hk : k.pid = pid)
    (hactive : a.active = true) (hothers : ∀ y ∈ l ++ r, y.active = false)
    (hknown : k.creationTime ≠ 0 → k ∈ last) (hclean : CleanStop (l ++ a :: r) k) :
    Table.Refers (l ++ a :: r) k a r := by
  have hapid : a.key.pid = pid := h.pid_eq a (by simp)
  have hdead : ∀ y ∈ l ++ r, y.exact k = false := fun y hy =>
    not_exact_of_dead (h.dead y (ListLib.mem_middle.mpr (.inr hy)) (hothers y hy)) hknown
  by_cases hexact : a.exact k = true
  · exact .inl ⟨hexact, fun y hy => hdead y (List.mem_append_right _ hy)⟩
  · have htime : a.key.creationTime = k.creationTime ∨ a.key.creationTime = 0 ∨
        k.creationTime = 0 := by
      by_cases hzero : k.creationTime = 0
      · exact .inr (.inr hzero)
      · rcases hclean hzero a (by simp) hactive with ha | ha
        · exact .inr (.inl ha)
        · exact .inl ha
    refine .inr ⟨?_, Slot.fallback_iff.mpr ⟨hk ▸ hpid, hapid.trans hk.symm, htime, hactive⟩,
      fun y hy => not_fallback_of_inactive (hothers y (List.mem_append_right _ hy))⟩
    intro y hy
    rcases ListLib.mem_middle.mp hy with rfl | hy
    · simpa using hexact
    · exact hdead y hy

/-- A key refers to nothing, where the active slots are of other known keys and no inactive one has
it. -/
private lemma unmatched_of_ne {key : ProcessKey}
    (hdead : ∀ s ∈ slots, s.active = false → s.exact key = false)
    (hothers : ∀ s ∈ slots, s.active = true →
      s.key.creationTime ≠ 0 ∧ key.creationTime ≠ 0 ∧ s.key ≠ key) :
    Table.Unmatched slots key := by
  constructor <;> intro s hs <;> cases hactive : s.active
  · exact hdead s hs hactive
  · exact not_exact_of_ne (hothers s hs hactive).2.2
  · exact not_fallback_of_inactive hactive
  · obtain ⟨hs, hk, hne⟩ := hothers s hs hactive
    exact not_fallback_of_ne hs hk hne

/-- A process listed anew refers to nothing, where the active slots are of other known keys. -/
private lemma unmatched_start {key : ProcessKey} {count : ℕ}
    (h : Alive pid seen last count slots) (hturn : Turn seen last next)
    (hkey : key.creationTime ≠ 0 → key ∈ next)
    (hothers : ∀ s ∈ slots, s.active = true →
      s.key.creationTime ≠ 0 ∧ key.creationTime ≠ 0 ∧ s.key ≠ key) :
    Table.Unmatched slots key :=
  unmatched_of_ne (fun _ hs hactive => not_exact_of_dead (h.dead_next hturn hs hactive) hkey)
    hothers

/-- The key of a process no longer listed refers to nothing, where the active slots are of other
known keys. -/
private lemma unmatched_stop {key : ProcessKey} {count : ℕ}
    (h : Alive pid seen last count slots) (hkey : key ∈ last)
    (hothers : ∀ s ∈ slots, s.active = true →
      s.key.creationTime ≠ 0 ∧ key.creationTime ≠ 0 ∧ s.key ≠ key) :
    Table.Unmatched slots key :=
  unmatched_of_ne (fun s hs hactive => not_exact_of_dead (h.dead s hs hactive) fun _ => hkey)
    hothers

lemma Table.Unmatched.snoc {key : ProcessKey} {s : Slot} (h : Table.Unmatched slots key)
    (hexact : s.exact key = false) (hfall : s.fallback key = false) :
    Table.Unmatched (slots ++ [s]) key := by
  constructor <;> intro y hy <;> rcases List.mem_append.mp hy with hy | hy
  · exact h.1 y hy
  · rwa [List.mem_singleton.mp hy]
  · exact h.2 y hy
  · rwa [List.mem_singleton.mp hy]

/-- The PID's process ended and no other has it. -/
private lemma alive_stopped {k : ProcessKey} (h : Alive pid seen last 1 slots)
    (hturn : Turn seen last next) (hpid : pid ≠ 0) (hk : k.pid = pid)
    (hknown : k.creationTime ≠ 0 → k ∈ last) (habsent : ∀ key ∈ next, key.pid ≠ pid)
    (hclean : CleanStop slots k) :
    Alive pid (fun key => seen key ∨ key ∈ next) next 0 (slots.apply ⟨.stop, k⟩).1 := by
  obtain ⟨l, a, r, rfl, hactive, hothers⟩ := exists_active_split h.count_eq
  have hrefers := refers_of_cleanStop h hpid hk hactive hothers hknown hclean
  rw [(Table.Applied.closed rfl hrefers hactive).eq_apply]
  refine alive_closed (h.idle hturn) hactive ?_ hk ?_
  · exact fun hne => ⟨hturn.seen_last k (hknown hne), fun hmem => habsent k hmem hk⟩
  · exact fun _ _ hmem => habsent a.key hmem (h.pid_eq a (by simp))

/-- Replacing the active slot by an open one of another key in the snapshot keeps the invariant. -/
private lemma alive_upgraded {l r : Table} {a : Slot} {b : ProcessKey}
    (h : Alive pid seen last 1 (l ++ a :: r)) (hturn : Turn seen last next) (hb : b.pid = pid)
    (hbnext : b ∈ next) (hactive : a.active = true) :
    Alive pid (fun key => seen key ∨ key ∈ next) next 1 (l ++ (⟨b, true⟩ : Slot) :: r) := by
  have hidle := h.idle hturn
  have hcase : ∀ y ∈ l ++ (⟨b, true⟩ : Slot) :: r, y = ⟨b, true⟩ ∨ y ∈ l ++ a :: r := fun y hy =>
    ListLib.mem_replace _ hy
  refine ⟨?_, ?_, ?_, ?_⟩
  · intro s hs
    rcases hcase s hs with rfl | hs
    · exact hb
    · exact h.pid_eq s hs
  · intro s hs hs'
    rcases hcase s hs with rfl | hs
    · exact .inr hbnext
    · exact hidle.seen s hs hs'
  · intro s hs hinactive hs'
    rcases hcase s hs with rfl | hs
    · cases hinactive
    · exact hidle.dead s hs hinactive hs'
  · have hcount := h.count_eq
    rw [List.countP_append, List.countP_cons, if_pos hactive] at hcount
    rw [List.countP_append, List.countP_cons, if_pos rfl]
    exact hcount

/-- The PID passed to another process between two polls, and the store had the old one under no
creation time: the START upgrades the slot, and the STOP is recorded beside it. -/
private lemma alive_replaced_unknown {l r : Table} {a : Slot} {k b : ProcessKey}
    (h : Alive pid seen last 1 (l ++ a :: r)) (hturn : Turn seen last next) (hpid : pid ≠ 0)
    (hk : k.pid = pid) (hb : b.pid = pid) (hmatch : processKeysMatch k b = false)
    (hklast : k ∈ last) (hbnext : b ∈ next) (hkgone : k ∉ next) (hactive : a.active = true)
    (hothers : ∀ y ∈ l ++ r, y.active = false) (hzero : a.key.creationTime = 0) :
    Alive pid (fun key => seen key ∨ key ∈ next) next 1
      (Table.applyAll (l ++ a :: r) [⟨.start, b⟩, ⟨.stop, k⟩]) := by
  obtain ⟨hknown, hbknown, hne⟩ := known_of_not_match (hk.trans hb.symm) hmatch
  have hapid : a.key.pid = pid := h.pid_eq a (by simp)
  have hmem : ∀ y ∈ l ++ r, y ∈ l ++ a :: r := fun y hy => ListLib.mem_middle.mpr (.inr hy)
  rw [Table.applyAll_cons, Table.applyAll_cons, Table.applyAll_nil]
  have hrefers : Table.Refers (l ++ a :: r) b a r := by
    refine .inr ⟨?_, Slot.fallback_iff.mpr ⟨hb ▸ hpid, hapid.trans hb.symm, .inr (.inl hzero),
      hactive⟩, fun y hy => not_fallback_of_inactive (hothers y (List.mem_append_right _ hy))⟩
    intro y hy
    rcases ListLib.mem_middle.mp hy with rfl | hy
    · refine not_exact_of_ne fun heq => hbknown ?_
      rw [← heq, hzero]
    · exact not_exact_of_dead (h.dead_next hturn (hmem y hy) (hothers y hy)) fun _ => hbnext
  have hlearn : a.learn b = ⟨b, true⟩ := by
    have hkey := Slot.learn_key (hapid.trans hb.symm) hbknown
    have hact : (a.learn b).active = true := Slot.learn_active.trans hactive
    cases hslot : a.learn b
    simp_all
  rw [(Table.Applied.coalesced rfl hrefers).eq_apply, hlearn]
  have hunmatched : Table.Unmatched (l ++ (⟨b, true⟩ : Slot) :: r) k := by
    constructor
    · intro y hy
      rcases ListLib.mem_middle.mp hy with rfl | hy
      · exact not_exact_of_ne hne.symm
      · exact not_exact_of_dead (h.dead y (hmem y hy) (hothers y hy)) fun _ => hklast
    · intro y hy
      rcases ListLib.mem_middle.mp hy with rfl | hy
      · exact not_fallback_of_ne hbknown hknown hne.symm
      · exact not_fallback_of_inactive (hothers y hy)
  rw [(Table.Applied.stopped hunmatched).eq_apply]
  exact (alive_upgraded h hturn hb hbnext hactive).stop_unmatched
    (fun _ => ⟨hturn.seen_last k hklast, hkgone⟩) hk

/-- The same where the store had the old process under the key the poller read last: the START opens
a second slot, and the STOP closes the first. -/
private lemma alive_replaced_known {l r : Table} {a : Slot} {k b : ProcessKey}
    (h : Alive pid seen last 1 (l ++ a :: r)) (hturn : Turn seen last next) (hpid : pid ≠ 0)
    (hk : k.pid = pid) (hb : b.pid = pid) (hmatch : processKeysMatch k b = false)
    (hklast : k ∈ last) (hbnext : b ∈ next) (hkgone : k ∉ next) (hactive : a.active = true)
    (hothers : ∀ y ∈ l ++ r, y.active = false) (hakey : a.key = k) :
    Alive pid (fun key => seen key ∨ key ∈ next) next 1
      (Table.applyAll (l ++ a :: r) [⟨.start, b⟩, ⟨.stop, k⟩]) := by
  obtain ⟨hknown, hbknown, hne⟩ := known_of_not_match (hk.trans hb.symm) hmatch
  have hactives : ∀ s ∈ l ++ a :: r, s.active = true →
      s.key.creationTime ≠ 0 ∧ b.creationTime ≠ 0 ∧ s.key ≠ b := by
    intro s hs hact
    rw [eq_of_active hothers hs hact]
    exact ⟨hakey ▸ hknown, hbknown, hakey ▸ hne⟩
  rw [Table.applyAll_cons, Table.applyAll_cons, Table.applyAll_nil]
  have hopen := h.start_unmatched hturn hb fun _ => hbnext
  rw [(Table.Applied.opened (unmatched_start h hturn (fun _ => hbnext) hactives)).eq_apply]
  have hsplit : (l ++ a :: r) ++ [(⟨b, true⟩ : Slot)] = l ++ a :: (r ++ [⟨b, true⟩]) := by simp
  simp only [hsplit] at hopen ⊢
  have hrefers : Table.Refers (l ++ a :: (r ++ [⟨b, true⟩])) k a (r ++ [⟨b, true⟩]) := by
    refine .inl ⟨Slot.exact_iff.mpr ⟨hk ▸ hpid, hknown, hakey⟩, fun y hy => ?_⟩
    rcases List.mem_append.mp hy with hy | hy
    · exact not_exact_of_dead
        (h.dead y (by simp [hy]) (hothers y (List.mem_append_right _ hy))) fun _ => hklast
    · rw [List.mem_singleton.mp hy]
      exact not_exact_of_ne hne.symm
  rw [(Table.Applied.closed rfl hrefers hactive).eq_apply]
  exact alive_closed hopen hactive (fun _ => ⟨hturn.seen_last k hklast, hkgone⟩) hk
    fun hzero => absurd hzero hknown

/-- The PID passed to another process between two polls, and the store had the old one under the
key the poller read last or under none. -/
private lemma alive_replaced {k b : ProcessKey} (h : Alive pid seen last 1 slots)
    (hturn : Turn seen last next) (hpid : pid ≠ 0) (hk : k.pid = pid) (hb : b.pid = pid)
    (hmatch : processKeysMatch k b = false) (hklast : k ∈ last) (hbnext : b ∈ next)
    (hclean : CleanStop slots k) :
    Alive pid (fun key => seen key ∨ key ∈ next) next 1
      (slots.applyAll [⟨.start, b⟩, ⟨.stop, k⟩]) := by
  obtain ⟨hknown, -, hne⟩ := known_of_not_match (hk.trans hb.symm) hmatch
  have hkgone : k ∉ next := fun hmem => hne (hturn.unique_next k hmem b hbnext (hk.trans hb.symm))
  obtain ⟨l, a, r, rfl, hactive, hothers⟩ := exists_active_split h.count_eq
  rcases hclean hknown a (by simp) hactive with hzero | htime
  · exact alive_replaced_unknown h hturn hpid hk hb hmatch hklast hbnext hkgone hactive hothers
      hzero
  · have hakey : a.key = k := ProcessKey.ext ((h.pid_eq a (by simp)).trans hk.symm) htime
    exact alive_replaced_known h hturn hpid hk hb hmatch hklast hbnext hkgone hactive hothers hakey

/-- **One poll keeps the invariant of a PID, when the stop it reports is clean.** -/
theorem alive_turn {previous current : List ProcessKey}
    (h : Alive pid seen last previous.length slots) (hturn : Turn seen last next) (hpid : pid ≠ 0)
    (hlast : Reading pid last previous) (hnext : Reading pid next current)
    (hclean : ∀ k ∈ previous, (current.any fun b => processKeysMatch b k) = false →
      CleanStop slots k) :
    Alive pid (fun key => seen key ∨ key ∈ next) next current.length
      (slots.applyAll (snapshotDiff previous current)) := by
  rcases hlast.single with rfl | ⟨k, rfl, hk⟩ <;> rcases hnext.single with rfl | ⟨b, rfl, hb⟩
  · exact h.idle hturn
  · have hnone : ∀ s ∈ slots, s.active = true →
        s.key.creationTime ≠ 0 ∧ b.creationTime ≠ 0 ∧ s.key ≠ b := fun s hs hactive =>
      absurd hactive (List.countP_eq_zero.mp h.count_eq s hs)
    have hunmatched := unmatched_start h hturn (hnext.known b (by simp)) hnone
    have hdiff : snapshotDiff [] [b] = [⟨.start, b⟩] := rfl
    rw [hdiff, Table.applyAll_cons, (Table.Applied.opened hunmatched).eq_apply]
    exact h.start_unmatched hturn hb (hnext.known b (by simp))
  · have hdiff : snapshotDiff [k] [] = [⟨.stop, k⟩] := rfl
    rw [hdiff]
    exact alive_stopped h hturn hpid hk (hlast.known k (by simp)) (hnext.absent rfl)
      (hclean k (by simp) rfl)
  · rw [snapshotDiff_single]
    cases hmatch : processKeysMatch k b with
    | true => exact h.idle hturn
    | false =>
      obtain ⟨hknown, hbknown, -⟩ := known_of_not_match (hk.trans hb.symm) hmatch
      refine alive_replaced h hturn hpid hk hb hmatch (hlast.known k (by simp) hknown)
        (hnext.known b (by simp) hbknown) (hclean k (by simp) ?_)
      simp [processKeysMatch_comm b k, hmatch]

/-- **And only then**: after a stop that is not clean the PID has an active slot too many. -/
theorem not_alive_turn {previous current : List ProcessKey}
    (h : Alive pid seen last previous.length slots) (hturn : Turn seen last next)
    (hlast : Reading pid last previous) (hnext : Reading pid next current)
    {k : ProcessKey} (hmem : k ∈ previous)
    (hgone : (current.any fun b => processKeysMatch b k) = false) (hdirty : ¬ CleanStop slots k) :
    (slots.applyAll (snapshotDiff previous current)).countP Slot.active ≠ current.length := by
  rcases hlast.single with rfl | ⟨k', rfl, hk⟩
  · cases hmem
  obtain rfl : k = k' := List.mem_singleton.mp hmem
  -- every active slot is the one the poller has lost track of
  have hknown : k.creationTime ≠ 0 := fun hzero => hdirty fun hne => absurd hzero hne
  have hklast := hlast.known k (by simp) hknown
  obtain ⟨l, a, r, rfl, hactive, hothers⟩ := exists_active_split h.count_eq
  have hlost : a.key.creationTime ≠ 0 ∧ a.key.creationTime ≠ k.creationTime := by
    by_contra hno
    refine hdirty fun _ s hs hact => ?_
    rw [eq_of_active hothers hs hact]
    tauto
  have hkne : a.key ≠ k := fun heq => hlost.2 (congrArg ProcessKey.creationTime heq)
  have hstop := unmatched_stop h hklast fun s hs hact => by
    rw [eq_of_active hothers hs hact]
    exact ⟨hlost.1, hknown, hkne⟩
  rcases hnext.single with rfl | ⟨b, rfl, hb⟩
  · have hdiff : snapshotDiff [k] [] = [⟨.stop, k⟩] := rfl
    rw [hdiff, Table.applyAll_cons, (Table.Applied.stopped hstop).eq_apply, Table.applyAll_nil]
    have hcount := h.count_eq
    rw [List.countP_append, hcount]
    simp
  · have hmatch : processKeysMatch k b = false := by
      rw [processKeysMatch_comm]
      simpa using hgone
    obtain ⟨-, hbknown, hne⟩ := known_of_not_match (hk.trans hb.symm) hmatch
    have hbnext := hnext.known b (by simp) hbknown
    have hbne : a.key ≠ b := by
      intro heq
      have hseen := h.seen a (by simp) hlost.1
      rw [heq] at hseen
      have hblast := hturn.back b hbnext hseen
      exact hne (hturn.unique_last k hklast b hblast (hk.trans hb.symm))
    have hstart := unmatched_start h hturn (fun _ => hbnext) fun s hs hact => by
      rw [eq_of_active hothers hs hact]
      exact ⟨hlost.1, hbknown, hbne⟩
    have hstop' : Table.Unmatched ((l ++ a :: r) ++ [⟨b, true⟩]) k :=
      hstop.snoc (not_exact_of_ne hne.symm) (not_fallback_of_ne hbknown hknown hne.symm)
    rw [snapshotDiff_single, hmatch, if_neg (by simp), Table.applyAll_cons,
      (Table.Applied.opened hstart).eq_apply, Table.applyAll_cons,
      (Table.Applied.stopped hstop').eq_apply, Table.applyAll_nil, List.countP_append,
      List.countP_append, h.count_eq]
    simp

end OnePid

/-! ## All PIDs -/

/-- The keys of one PID. -/
def keysOfPid (keys : List ProcessKey) (pid : DWORD) : List ProcessKey :=
  keys.filter fun key => key.pid == pid

lemma mem_keysOfPid {keys : List ProcessKey} {pid : DWORD} {key : ProcessKey} :
    key ∈ keysOfPid keys pid ↔ key ∈ keys ∧ key.pid = pid := by
  simp [keysOfPid]

/-- A match is within one PID. -/
lemma any_keysOfPid (keys : List ProcessKey) (key : ProcessKey) :
    ((keysOfPid keys key.pid).any fun k => processKeysMatch k key) =
      keys.any fun k => processKeysMatch k key := by
  rw [Bool.eq_iff_iff, List.any_eq_true, List.any_eq_true]
  constructor
  · rintro ⟨k, hk, hmatch⟩
    exact ⟨k, (mem_keysOfPid.mp hk).1, hmatch⟩
  · rintro ⟨k, hk, hmatch⟩
    exact ⟨k, mem_keysOfPid.mpr ⟨hk, (processKeysMatch_iff.mp hmatch).1⟩, hmatch⟩

lemma filter_pid_reports (kind : ReportKind) (keys others : List ProcessKey) (pid : DWORD) :
    (((keys.filter fun key => !others.any fun k => processKeysMatch k key).map
        (⟨kind, ·⟩)).filter fun r : Report => r.key.pid == pid) =
      ((keysOfPid keys pid).filter fun key =>
        !(keysOfPid others pid).any fun k => processKeysMatch k key).map (⟨kind, ·⟩) := by
  have hkeys : keysOfPid keys pid = keys.filter fun key => key.pid == pid := rfl
  rw [List.filter_map, List.filter_filter, hkeys, List.filter_filter]
  congr 1
  refine List.filter_congr fun key _ => ?_
  by_cases hpid : key.pid = pid
  · subst hpid
    simp [← any_keysOfPid others key]
  · have hne : (key.pid == pid) = false := by simpa using hpid
    simp [hne]

/-- The difference of two snapshots is taken one PID at a time. -/
lemma filter_pid_snapshotDiff (previous current : List ProcessKey) (pid : DWORD) :
    ((snapshotDiff previous current).filter fun r => r.key.pid == pid) =
      snapshotDiff (keysOfPid previous pid) (keysOfPid current pid) := by
  rw [snapshotDiff, List.filter_append, filter_pid_reports, filter_pid_reports, snapshotDiff]

/-- What the queries answer about the processes running: every PID, and each creation time or
none. -/
structure Reads (running read : List ProcessKey) : Prop where
  pids : read.map ProcessKey.pid = running.map ProcessKey.pid
  known : ∀ key ∈ read, key.creationTime ≠ 0 → key ∈ running

instance (running read : List ProcessKey) : Decidable (Reads running read) :=
  decidable_of_iff (read.map ProcessKey.pid = running.map ProcessKey.pid ∧
      ∀ key ∈ read, key.creationTime ≠ 0 → key ∈ running)
    ⟨fun h => ⟨h.1, h.2⟩, fun h => ⟨h.pids, h.known⟩⟩

/-- A list without a PID twice has one entry of a PID or none. -/
lemma keysOfPid_cases {keys : List ProcessKey} (h : (keys.map ProcessKey.pid).Nodup)
    (pid : DWORD) :
    keysOfPid keys pid = [] ∨ ∃ key, keysOfPid keys pid = [key] ∧ key.pid = pid := by
  have hlength : ((keysOfPid keys pid).map ProcessKey.pid) =
      (keys.map ProcessKey.pid).filter (· == pid) := by
    rw [List.filter_map]
    rfl
  rw [ListLib.filter_beq_of_nodup h] at hlength
  split at hlength
  · obtain ⟨key, hkey, hpid⟩ := List.map_eq_singleton_iff.mp hlength
    exact .inr ⟨key, hkey, hpid⟩
  · exact .inl (List.map_eq_nil_iff.mp hlength)

lemma Reads.reading {running read : List ProcessKey} (h : Reads running read)
    (hrunning : Identified running) (pid : DWORD) : Reading pid running (keysOfPid read pid) := by
  refine ⟨keysOfPid_cases (h.pids ▸ hrunning.nodup) pid, ?_, ?_⟩
  · exact fun key hkey hknown => h.known key (mem_keysOfPid.mp hkey).1 hknown
  · intro hnone key hkey hpid
    have hmem : pid ∈ read.map ProcessKey.pid := h.pids ▸ hpid ▸ List.mem_map_of_mem hkey
    obtain ⟨k, hk, hkpid⟩ := List.mem_map.mp hmem
    have hin := mem_keysOfPid.mpr ⟨hk, hkpid⟩
    rw [hnone] at hin
    cases hin

lemma Identified.eq_of_pid {keys : List ProcessKey} (h : Identified keys) :
    ∀ k ∈ keys, ∀ k' ∈ keys, k.pid = k'.pid → k = k' := fun _ hk _ hk' hpid =>
  List.inj_on_of_nodup_map h.nodup hk hk' hpid

/-- The turn from the last of the true snapshots to the next. -/
lemma turn_of_contiguous {past : List (List ProcessKey)} {next : List ProcessKey}
    (hid : ∀ s ∈ past ++ [next], Identified s) (hcont : ListLib.Contiguous (past ++ [next])) :
    Turn (fun key => ∃ s ∈ past, key ∈ s) (past.getLast?.getD []) next := by
  refine ⟨?_, ?_, ?_, (hid next (by simp)).eq_of_pid⟩
  · intro key hkey
    cases hlast : past.getLast? with
    | none => simp [hlast] at hkey
    | some last => exact ⟨last, List.mem_of_getLast? hlast, by simpa [hlast] using hkey⟩
  · rintro key hkey ⟨s, hs, hmem⟩
    exact hcont.mem_last hkey hs hmem
  · exact (identified_last fun s hs => hid s (by simp [hs])).eq_of_pid

/-- The invariant of a run: the slots of every PID are alive with respect to the true snapshots so
far, as many active as the last snapshot read lists the PID. -/
def Ledger (past : List (List ProcessKey)) (previous : List ProcessKey) (table : Table) : Prop :=
  ∀ pid, Alive pid (fun key => ∃ s ∈ past, key ∈ s) (past.getLast?.getD [])
    (keysOfPid previous pid).length (table.ofPid pid)

/-- Every stop the difference reports is clean. -/
def CleanTurn (table : Table) (previous current : List ProcessKey) : Prop :=
  ∀ k ∈ previous, (current.any fun b => processKeysMatch b k) = false →
    CleanStop (table.ofPid k.pid) k

/-- As many active slots of each PID as the snapshot lists. -/
def Mirror (table : Table) (current : List ProcessKey) : Prop :=
  ∀ pid, (table.ofPid pid).countP Slot.active = (keysOfPid current pid).length

lemma ledger_nil : Ledger [] [] [] := fun _ =>
  ⟨by simp [Table.ofPid], by simp [Table.ofPid], by simp [Table.ofPid], rfl⟩

section Run

variable {past : List (List ProcessKey)} {previous current next : List ProcessKey} {table : Table}

/-- **A poll whose stops are clean keeps the ledger.** -/
theorem Ledger.turn (h : Ledger past previous table) (hid : ∀ s ∈ past ++ [next], Identified s)
    (hcont : ListLib.Contiguous (past ++ [next])) (hlast : Reads (past.getLast?.getD []) previous)
    (hnext : Reads next current) (hclean : CleanTurn table previous current) :
    Ledger (past ++ [next]) current (table.applyAll (snapshotDiff previous current)) := by
  intro pid
  have hturn := turn_of_contiguous hid hcont
  have hidnext : Identified next := hid next (by simp)
  have hidlast := identified_last fun s hs => hid s (List.mem_append_left [next] hs)
  have hreadlast := hlast.reading hidlast pid
  have hreadnext := hnext.reading hidnext pid
  have hseen : (fun key => ∃ s ∈ past ++ [next], key ∈ s) =
      fun key => (∃ s ∈ past, key ∈ s) ∨ key ∈ next := by
    funext key
    simp [or_and_right, exists_or]
  rw [Table.ofPid_applyAll, filter_pid_snapshotDiff, hseen, List.getLast?_append,
    List.getLast?_singleton]
  by_cases hpid : pid = 0
  · -- no process has PID 0, so nothing is reported of it
    have hnone : ∀ {running read : List ProcessKey}, Identified running → Reads running read →
        keysOfPid read 0 = [] := by
      intro running read hrunning hread
      refine List.filter_eq_nil_iff.mpr fun key hkey hzero => ?_
      have hmem : key.pid ∈ running.map ProcessKey.pid := hread.pids ▸ List.mem_map_of_mem hkey
      obtain ⟨k, hk, hkpid⟩ := List.mem_map.mp hmem
      exact (hrunning.known k hk).1 (hkpid.trans (by simpa using hzero))
    have halive := h pid
    subst hpid
    rw [hnone hidlast hlast] at halive ⊢
    rw [hnone hidnext hnext]
    exact halive.idle hturn
  · refine alive_turn (h pid) hturn hpid hreadlast hreadnext fun k hk hgone => ?_
    obtain ⟨hmem, rfl⟩ := mem_keysOfPid.mp hk
    exact hclean k hmem (by rwa [any_keysOfPid] at hgone)

/-- **A poll with a stop that is not clean breaks the mirror.** -/
theorem Ledger.not_mirror (h : Ledger past previous table)
    (hid : ∀ s ∈ past ++ [next], Identified s) (hcont : ListLib.Contiguous (past ++ [next]))
    (hlast : Reads (past.getLast?.getD []) previous) (hnext : Reads next current)
    (hdirty : ¬ CleanTurn table previous current) :
    ¬ Mirror (table.applyAll (snapshotDiff previous current)) current := by
  intro hmirror
  unfold CleanTurn at hdirty
  push Not at hdirty
  obtain ⟨k, hk, hgone, hstop⟩ := hdirty
  have hidlast := identified_last fun s hs => hid s (List.mem_append_left [next] hs)
  have hbroken := not_alive_turn (h k.pid) (turn_of_contiguous hid hcont)
    (hlast.reading hidlast k.pid) (hnext.reading (hid next (by simp)) k.pid)
    (mem_keysOfPid.mpr ⟨hk, rfl⟩) (by rwa [any_keysOfPid]) hstop
  rw [← filter_pid_snapshotDiff, ← Table.ofPid_applyAll] at hbroken
  exact hbroken (hmirror k.pid)

lemma Ledger.mirror (h : Ledger past current table) : Mirror table current := fun pid =>
  (h pid).count_eq

end Run

/-! ## The store -/

/-- A poll and the processes that were running when it was made. -/
structure Moment where
  input : PollInput
  running : List ProcessKey

/-- The polls of a list of moments. -/
def pollsOf (moments : List Moment) : List PollInput := moments.map Moment.input

/-- What was running at the polls that captured a snapshot. -/
def runningAt (qsort : SortedArray.QSort snapshotLe) (moments : List Moment) :
    List (List ProcessKey) :=
  moments.filterMap fun m => (captureProcesses qsort m.input).map fun _ => m.running

/-- A history of the system under the polls: processes with their creation times, no PID twice at a
time and no process back after it was gone, each creation time read truly or not at all. -/
structure OsHistory (qsort : SortedArray.QSort snapshotLe) (moments : List Moment) : Prop where
  identified : ∀ running ∈ runningAt qsort moments, Identified running
  contiguous : ListLib.Contiguous (runningAt qsort moments)
  reads : ∀ m ∈ moments, ∀ current ∈ captureProcesses qsort m.input,
    Reads m.running (snapshotKeys current)

instance (qsort : SortedArray.QSort snapshotLe) (moments : List Moment) :
    Decidable (OsHistory qsort moments) :=
  decidable_of_iff ((∀ running ∈ runningAt qsort moments, Identified running) ∧
      ListLib.Contiguous (runningAt qsort moments) ∧
      ∀ m ∈ moments, ∀ current ∈ captureProcesses qsort m.input,
        Reads m.running (snapshotKeys current))
    ⟨fun h => ⟨h.1, h.2.1, h.2.2⟩, fun h => ⟨h.identified, h.contiguous, h.reads⟩⟩

/-- The PIDs of the active records are those of the snapshot, each once, and counted. -/
def Mirrors (store : EventStore) (current : List ProcessSnapshotEntry) : Prop :=
  ((store.processes.filter fun record => record.active).map fun record => record.key.pid).Perm
      (current.map fun entry => entry.key.pid) ∧
    store.activeProcessCount = current.length

/-- Whenever this poll reports the end of an entry whose creation time was read last, the active
record of its PID has that creation time or none. -/
def CleanPoll (qsort : SortedArray.QSort snapshotLe)
    (state : ProcessMonitor × List TraceGlassEvent) (input : PollInput) : Prop :=
  ∀ current ∈ captureProcesses qsort input,
    ∀ entry ∈ state.1.previous, findEntry current entry.key = none →
      entry.key.creationTime ≠ 0 →
        ∀ record ∈ (addEvents eventStoreInitialize state.2).processes, record.active = true →
          record.key.pid = entry.key.pid →
            record.key.creationTime = 0 ∨ record.key.creationTime = entry.key.creationTime

instance (qsort : SortedArray.QSort snapshotLe) (state : ProcessMonitor × List TraceGlassEvent)
    (input : PollInput) : Decidable (CleanPoll qsort state input) :=
  inferInstanceAs (Decidable (∀ current ∈ captureProcesses qsort input, _))

lemma cleanPoll_iff {qsort : SortedArray.QSort snapshotLe}
    {state : ProcessMonitor × List TraceGlassEvent} {input : PollInput}
    {current : List ProcessSnapshotEntry} (hcapture : captureProcesses qsort input = some current) :
    CleanPoll qsort state input ↔ CleanTurn (addEvents eventStoreInitialize state.2).table
      (snapshotKeys state.1.previous) (snapshotKeys current) := by
  have hfind : ∀ key, findEntry current key = none ↔
      ((snapshotKeys current).any fun b => processKeysMatch b key) = false := by
    intro key
    have h := findEntry_isNone (sortedByPid_captureProcesses hcapture) key
    rw [← Option.isNone_iff_eq_none, h]
    simp [snapshotKeys]
  have hslots : ∀ key : ProcessKey, CleanStop
      ((addEvents eventStoreInitialize state.2).table.ofPid key.pid) key ↔
        (key.creationTime ≠ 0 → ∀ record ∈ (addEvents eventStoreInitialize state.2).processes,
          record.active = true → record.key.pid = key.pid →
            record.key.creationTime = 0 ∨ record.key.creationTime = key.creationTime) := by
    intro key
    simp only [CleanStop, Table.mem_ofPid, EventStore.table, List.mem_map]
    constructor
    · exact fun h hknown record hrecord hactive hpid =>
        h hknown record.slot ⟨⟨record, hrecord, rfl⟩, hpid⟩ hactive
    · rintro h hknown s ⟨⟨record, hrecord, rfl⟩, hpid⟩ hactive
      exact h hknown record hrecord hactive hpid
  unfold CleanPoll CleanTurn
  simp only [hcapture, Option.mem_def, Option.some.injEq, forall_eq', hslots, hfind, snapshotKeys,
    List.forall_mem_map]

/-- Mirroring is a count for each PID. -/
lemma mirrors_iff {store : EventStore} (hcounted : Counted store)
    (current : List ProcessSnapshotEntry) :
    Mirrors store current ↔ Mirror store.table (snapshotKeys current) := by
  have hperm : ((store.processes.filter fun record => record.active).map fun record =>
      record.key.pid).Perm (current.map fun entry => entry.key.pid) ↔
        Mirror store.table (snapshotKeys current) := by
    rw [List.perm_iff_count]
    refine forall_congr' fun pid => ?_
    have hactive : ((store.processes.filter fun record => record.active).map fun record =>
        record.key.pid).count pid = (store.table.ofPid pid).countP Slot.active := by
      rw [List.count, List.countP_map, List.countP_filter, Table.ofPid, EventStore.table,
        List.countP_filter, List.countP_map]
      refine List.countP_congr fun record _ => ?_
      simp [ProcessRecord.slot, and_comm]
    have hlisted : (current.map fun entry => entry.key.pid).count pid =
        (keysOfPid (snapshotKeys current) pid).length := by
      rw [List.count, List.countP_map, keysOfPid, snapshotKeys, ← List.countP_eq_length_filter,
        List.countP_map]
      rfl
    rw [hactive, hlisted]
  refine ⟨fun h => hperm.mp h.1, fun h => ⟨hperm.mpr h, ?_⟩⟩
  have hlength := (hperm.mpr h).length_eq
  rw [List.length_map, List.length_map, ← List.countP_eq_length_filter] at hlength
  rw [hcounted.active_eq]
  exact hlength

section Polls

variable {w : Win32} {qsort : SortedArray.QSort snapshotLe} {moments : List Moment}

lemma runningAt_snoc_some {m : Moment} {current : List ProcessSnapshotEntry}
    (h : captureProcesses qsort m.input = some current) :
    runningAt qsort (moments ++ [m]) = runningAt qsort moments ++ [m.running] := by
  simp [runningAt, h]

lemma runningAt_snoc_none {m : Moment} (h : captureProcesses qsort m.input = none) :
    runningAt qsort (moments ++ [m]) = runningAt qsort moments := by
  simp [runningAt, h]

lemma OsHistory.left {m : Moment} (h : OsHistory qsort (moments ++ [m])) :
    OsHistory qsort moments := by
  have happend : runningAt qsort (moments ++ [m]) =
      runningAt qsort moments ++ runningAt qsort [m] :=
    List.filterMap_append
  obtain ⟨hid, hcont, hreads⟩ := h
  rw [happend] at hid hcont
  exact ⟨fun s hs => hid s (List.mem_append_left _ hs), hcont.left,
    fun m hm => hreads m (List.mem_append_left _ hm)⟩

/-- What a run of polls keeps, on top of what `pollRun_tracks` says of its reports. -/
structure Reconciled (qsort : SortedArray.QSort snapshotLe) (moments : List Moment)
    (state : ProcessMonitor × List TraceGlassEvent) : Prop where
  reads : Reads ((runningAt qsort moments).getLast?.getD []) (snapshotKeys state.1.previous)
  ledger : Ledger (runningAt qsort moments) (snapshotKeys state.1.previous)
    (addEvents eventStoreInitialize state.2).table

/-- The table of a run of polls after one that captured a snapshot. -/
lemma table_pollStep {polls : List PollInput} {input : PollInput}
    (halloc : AllocationsSucceed eventStoreInitialize (pollRun w qsort (polls ++ [input])).2)
    {current : List ProcessSnapshotEntry} (hcapture : captureProcesses qsort input = some current) :
    (pollStore w qsort (polls ++ [input])).table =
      (pollStore w qsort polls).table.applyAll
        (snapshotDiff (snapshotKeys (pollRun w qsort polls).1.previous)
          (snapshotKeys current)) := by
  have htracks := pollRun_tracks w qsort polls
  have hreports := reportsOf_processMonitorPoll (w := w) htracks.orderly hcapture
  rw [pollRun_snoc, pollStep] at halloc
  rw [pollStore, pollRun_snoc, pollStep, addEvents_append,
    table_addEvents (allocationsSucceed_append.mp halloc).2, hreports]
  rfl

lemma allocationsSucceed_pollRun {polls more : List PollInput}
    (h : AllocationsSucceed eventStoreInitialize (pollRun w qsort (polls ++ more)).2) :
    AllocationsSucceed eventStoreInitialize (pollRun w qsort polls).2 := by
  obtain ⟨pushed, hpushed⟩ := pollRun_append w qsort polls more
  rw [hpushed] at h
  exact (allocationsSucceed_append.mp h).1

/-- A failed poll leaves the monitor and the store alone. -/
lemma pollRun_snoc_none {polls : List PollInput} {input : PollInput}
    (hcapture : captureProcesses qsort input = none) :
    pollRun w qsort (polls ++ [input]) = pollRun w qsort polls := by
  rw [pollRun_snoc]
  simp [pollStep, processMonitorPoll, hcapture]

/-- The snapshot the monitor keeps after a poll that captured one. -/
lemma previous_pollRun_snoc (w : Win32) (polls : List PollInput) {input : PollInput}
    {current : List ProcessSnapshotEntry} (hcapture : captureProcesses qsort input = some current) :
    (pollRun w qsort (polls ++ [input])).1.previous = current := by
  rw [pollRun_snoc]
  simp [pollStep, processMonitorPoll, hcapture]

/-- A run of clean polls keeps the ledger. -/
theorem reconciled_of_clean (h : OsHistory qsort moments)
    (halloc : AllocationsSucceed eventStoreInitialize (pollRun w qsort (pollsOf moments)).2)
    (hclean : Machine.Along (pollStep w qsort) (CleanPoll qsort) (processMonitorInitialize, [])
      (pollsOf moments)) : Reconciled qsort moments (pollRun w qsort (pollsOf moments)) := by
  induction moments using List.reverseRecOn with
  | nil => exact ⟨⟨rfl, by simp [pollsOf, pollRun, processMonitorInitialize, snapshotKeys]⟩,
      ledger_nil⟩
  | append_singleton moments m ih =>
    have hpolls : pollsOf (moments ++ [m]) = pollsOf moments ++ [m.input] := by simp [pollsOf]
    rw [hpolls] at halloc hclean ⊢
    obtain ⟨hpre, hlast⟩ := (Machine.along_snoc _ _ _).mp hclean
    have hrec := ih h.left (allocationsSucceed_pollRun halloc) hpre
    cases hcapture : captureProcesses qsort m.input with
    | none =>
      rw [pollRun_snoc_none hcapture]
      constructor
      · rw [runningAt_snoc_none hcapture]
        exact hrec.reads
      · rw [runningAt_snoc_none hcapture]
        exact hrec.ledger
    | some current =>
      have hid := h.identified
      have hcont := h.contiguous
      rw [runningAt_snoc_some hcapture] at hid hcont
      have hnext := h.reads m (by simp) current hcapture
      have hturn := (cleanPoll_iff hcapture).mp hlast
      have htable := table_pollStep halloc hcapture
      have hprevious := previous_pollRun_snoc w (pollsOf moments) hcapture
      constructor
      · rw [runningAt_snoc_some hcapture, hprevious]
        simpa using hnext
      · rw [runningAt_snoc_some hcapture, hprevious]
        rw [pollStore] at htable
        rw [htable]
        exact hrec.ledger.turn hid hcont hrec.reads hnext hturn

/-- The store of a run of polls counts its active records. -/
lemma counted_pollStore (w : Win32) (qsort : SortedArray.QSort snapshotLe)
    (polls : List PollInput) : Counted (pollStore w qsort polls) :=
  (reachable_eventStoreInitialize.addEvents _).counted

/-- **Reconciliation under unread creation times.**  Take any history of the system and any run of
polls on it, where each creation time is read truly or not at all.  The active records mirror the
snapshot after every poll that captured one, if and only if every stop the polls report is clean. -/
theorem mirrors_iff_cleanPolls (h : OsHistory qsort moments)
    (halloc : AllocationsSucceed eventStoreInitialize (pollRun w qsort (pollsOf moments)).2) :
    (∀ (before : List Moment) (m : Moment) (after : List Moment),
      moments = before ++ m :: after → ∀ current, captureProcesses qsort m.input = some current →
        Mirrors (pollStore w qsort (pollsOf (before ++ [m]))) current) ↔
      Machine.Along (pollStep w qsort) (CleanPoll qsort) (processMonitorInitialize, [])
        (pollsOf moments) := by
  induction moments using List.reverseRecOn with
  | nil => simp [pollsOf, Machine.Along]
  | append_singleton moments m ih =>
    have hpolls : pollsOf (moments ++ [m]) = pollsOf moments ++ [m.input] := by simp [pollsOf]
    rw [hpolls] at halloc ⊢
    have hpre := allocationsSucceed_pollRun halloc
    rw [Machine.along_snoc, ← ih h.left hpre]
    -- the last poll is mirrored exactly when its stops are clean, the ones before being so
    have hstep : Machine.Along (pollStep w qsort) (CleanPoll qsort) (processMonitorInitialize, [])
        (pollsOf moments) → ∀ current, captureProcesses qsort m.input = some current →
          (Mirrors (pollStore w qsort (pollsOf moments ++ [m.input])) current ↔
            CleanPoll qsort (pollRun w qsort (pollsOf moments)) m.input) := by
      intro hclean current hcapture
      have hrec := reconciled_of_clean h.left hpre hclean
      have hid := h.identified
      have hcont := h.contiguous
      rw [runningAt_snoc_some hcapture] at hid hcont
      have hnext := h.reads m (by simp) current hcapture
      rw [cleanPoll_iff hcapture, mirrors_iff (counted_pollStore w qsort _),
        table_pollStep halloc hcapture]
      constructor
      · intro hmirror
        by_contra hdirty
        exact hrec.ledger.not_mirror hid hcont hrec.reads hnext hdirty hmirror
      · exact fun hturn => (hrec.ledger.turn hid hcont hrec.reads hnext hturn).mirror
    constructor
    · intro hall
      have hbefore : ∀ (before : List Moment) (m' : Moment) (after : List Moment),
          moments = before ++ m' :: after →
            ∀ current, captureProcesses qsort m'.input = some current →
              Mirrors (pollStore w qsort (pollsOf (before ++ [m']))) current := by
        intro before m' after hsplit
        exact hall before m' (after ++ [m]) (by simp [hsplit])
      refine ⟨hbefore, ?_⟩
      intro current hcapture
      have hclean := (ih h.left hpre).mp hbefore
      have hlast := hall moments m [] rfl current hcapture
      rw [hpolls] at hlast
      exact (hstep hclean current hcapture).mp hlast current hcapture
    · rintro ⟨hbefore, hlast⟩ before m' after hsplit current hcapture
      have hclean := (ih h.left hpre).mp hbefore
      rcases List.eq_nil_or_concat after with rfl | ⟨rest, m'', rfl⟩
      · obtain ⟨rfl, hm⟩ := List.append_inj' hsplit rfl
        obtain rfl : m = m' := List.head_eq_of_cons_eq hm
        rw [hpolls]
        exact (hstep hclean current hcapture).mpr hlast
      · rw [List.concat_eq_append, ← List.cons_append, ← List.append_assoc] at hsplit
        obtain ⟨hsplit', -⟩ := List.append_inj' hsplit rfl
        exact hbefore before m' rest hsplit' current hcapture

end Polls

/-! ## Where the poller loses track -/

/-- PID 8 passes to another process while its creation time cannot be read, is read again, and
ends. -/
def driftMoments : List Moment :=
  [⟨samplePoll [sampleRow 8 (some 5)], [⟨8, 5⟩]⟩, ⟨samplePoll [sampleRow 8 none], [⟨8, 6⟩]⟩,
    ⟨samplePoll [sampleRow 8 (some 6)], [⟨8, 6⟩]⟩, ⟨samplePoll [sampleRow 4 (some 1)], [⟨4, 1⟩]⟩]

/-- PID 8 ends while its creation time cannot be read. -/
def unreadMoments : List Moment :=
  [⟨samplePoll [sampleRow 8 (some 5)], [⟨8, 5⟩]⟩, ⟨samplePoll [sampleRow 8 none], [⟨8, 5⟩]⟩,
    ⟨samplePoll [sampleRow 4 (some 1)], [⟨4, 1⟩]⟩]

/-- In the first run the poller's STOP carries a key the store's record never had: the record stays
active, and counted, after its process is gone. -/
theorem not_mirrors_of_driftMoments :
    OsHistory snapshotInsertion driftMoments ∧
    AllocationsSucceed eventStoreInitialize
      (pollRun .sample snapshotInsertion (pollsOf driftMoments)).2 ∧
    captureProcesses snapshotInsertion (samplePoll [sampleRow 4 (some 1)]) =
      some [snapshotEntry (sampleRow 4 (some 1))] ∧
    (pollStore .sample snapshotInsertion (pollsOf driftMoments)).activeProcessCount = 2 ∧
    ¬ Mirrors (pollStore .sample snapshotInsertion (pollsOf driftMoments))
      [snapshotEntry (sampleRow 4 (some 1))] := by
  have hcount : (pollStore .sample snapshotInsertion (pollsOf driftMoments)).activeProcessCount =
      2 := by decide +kernel
  refine ⟨by decide +kernel, by decide +kernel, by decide +kernel, hcount, fun h => ?_⟩
  rw [Mirrors, hcount] at h
  exact absurd h.2 (by decide)

/-- In the second every stop is clean: the PID alone is enough to close the record. -/
theorem mirrors_of_unreadMoments :
    Mirrors (pollStore .sample snapshotInsertion (pollsOf unreadMoments))
      [snapshotEntry (sampleRow 4 (some 1))] :=
  (@mirrors_iff_cleanPolls .sample snapshotInsertion unreadMoments (by decide +kernel)
    (by decide +kernel)).mpr (by decide +kernel) (unreadMoments.take 2)
      ⟨samplePoll [sampleRow 4 (some 1)], [⟨4, 1⟩]⟩ [] rfl _ (by decide +kernel)

end TraceGlass
