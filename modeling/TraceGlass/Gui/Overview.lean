import TraceGlass.Detection.Exact
import TraceGlass.Gui.Views

/-!
# The overview shows the most recent matching events

One loop walks the history backwards and fills two lists, each up to its limit.
`overviewLoop_completes` says what it adds to whatever the lists hold already: to each the newest
indices of its own kind that still fit.  A list that is full takes nothing more, and the walk goes
on for the other.
-/

namespace TraceGlass

variable {w : Win32} {env : UiEnv} {gui : GuiState}

/-! ## What a match is -/

/-- The PIDs and the ports of an event, as a search sees them. -/
def searchedNumbers (event : TraceGlassEvent) : List WCHAR :=
  formatUnsigned event.process.pid.toNat ++ wide " " ++ formatUnsigned event.parent.pid.toNat ++
    wide " " ++ formatUnsigned event.localPort.toNat ++ wide " " ++
    formatUnsigned event.remotePort.toNat

/-- The texts of an event a search looks through. -/
def searchedTexts (event : TraceGlassEvent) : List (List WCHAR) :=
  [event.processName.chars, event.parentName.chars, event.executablePath.chars,
    event.details.chars, event.remoteAddress.chars, event.localAddress.chars,
    event.protocol.chars, event.networkState.chars, event.ruleName.chars,
    eventTypeName event.type, eventCategoryName event.type, searchedNumbers event]

/-- The numbers fit their buffer. -/
lemma searchedNumbers_fits (event : TraceGlassEvent) :
    (stringCchPrintf 96 (searchedNumbers event)).chars = searchedNumbers event := by
  have hspace : NoNul (wide " ") := by decide
  have hpid : ∀ pid : DWORD, (formatUnsigned pid.toNat).length ≤ 10 := fun pid =>
    length_formatUnsigned_le (by decide) (Nat.lt_trans pid.toNat_lt (by decide))
  have hport : ∀ port : USHORT, (formatUnsigned port.toNat).length ≤ 5 := fun port =>
    length_formatUnsigned_le (by decide) (Nat.lt_trans port.toNat_lt (by decide))
  have hprocess := hpid event.process.pid
  have hparent := hpid event.parent.pid
  have hlocal := hport event.localPort
  have hremote := hport event.remotePort
  refine copyWstring_of_length_lt ?_ ?_
  · simp only [searchedNumbers, noNul_append, noNul_formatUnsigned, hspace, and_self]
  · have hlength : (wide " ").length = 1 := rfl
    simp only [searchedNumbers, List.length_append, hlength]
    omega

/-- The text is empty, or in one of the texts of the event, up to the case of each unit. -/
def FoundBy (w : Win32) (searched : List WCHAR) (event : TraceGlassEvent) : Prop :=
  searched = [] ∨
    ∃ text ∈ searchedTexts event, searched.map w.towlower <:+: text.map w.towlower

/-- The event is of the type selected, if one is. -/
@[mk_iff]
structure SelectedBy (selected : ℤ) (event : TraceGlassEvent) : Prop where
  process : selected = 1 → event.type = .processStart ∨ event.type = .processStop
  network : selected = 2 → event.type = .network
  alert : selected = 3 → event.type = .alert

lemma eventMatchesSearch_iff (event : TraceGlassEvent) :
    eventMatchesSearch w gui event = true ↔
      FoundBy w (copyWstring 256 gui.searchText).chars event := by
  have hnumbers := searchedNumbers_fits event
  rw [searchedNumbers] at hnumbers
  simp only [eventMatchesSearch, hnumbers, FoundBy]
  by_cases hempty : (copyWstring 256 gui.searchText).chars = []
  · simp [hempty]
  · simp only [hempty, if_false, false_or, Bool.or_eq_true, stringContainsInsensitive_iff,
      searchedTexts, List.exists_mem_cons_iff, searchedNumbers, List.not_mem_nil, false_and,
      exists_false, or_false, or_assoc]

lemma eventMatchesTypeFilter_iff (event : TraceGlassEvent) :
    eventMatchesTypeFilter gui event = true ↔ SelectedBy gui.eventFilter event := by
  rw [selectedBy_iff]
  unfold eventMatchesTypeFilter
  split_ifs with hnone h1 h2 h3
  · simp only [true_iff]
    omega
  · simp [h1]
  · simp [h2]
  · simp [h3]
  · simp [h1, h2, h3]

/-- The event matches the search and the event selector. -/
def matchesFilters (w : Win32) (gui : GuiState) (index : ℕ) : Bool :=
  eventMatchesSearch w gui (gui.event index) && eventMatchesTypeFilter gui (gui.event index)

/-- **What a match is**: the text of the search field is found, and the selected type is met. -/
theorem matchesFilters_iff (index : ℕ) :
    matchesFilters w gui index = true ↔
      FoundBy w (copyWstring 256 gui.searchText).chars (gui.event index) ∧
        SelectedBy gui.eventFilter (gui.event index) := by
  rw [matchesFilters, Bool.and_eq_true, eventMatchesSearch_iff, eventMatchesTypeFilter_iff]

/-! ## The lists -/

/-- The indices from the floor on, newest first. -/
def newestFirst (floor count : ℕ) : List ℕ := (List.range' floor (count - floor)).reverse

lemma newestFirst_succ {floor count : ℕ} (h : floor ≤ count) :
    newestFirst floor (count + 1) = count :: newestFirst floor count := by
  rw [newestFirst, Nat.succ_sub h, List.range'_1_concat, List.reverse_append,
    List.reverse_singleton, List.singleton_append, Nat.add_sub_cancel' h, newestFirst]

lemma newestFirst_of_le {floor count : ℕ} (h : count ≤ floor) : newestFirst floor count = [] := by
  rw [newestFirst, Nat.sub_eq_zero_of_le h]
  rfl

lemma nodup_newestFirst (floor count : ℕ) : (newestFirst floor count).Nodup :=
  List.nodup_reverse.mpr List.nodup_range'

/-- The matching events that are no alerts, newest first, of the first `count` events. -/
def matchingActivity (w : Win32) (gui : GuiState) (count : ℕ) : List ℕ :=
  (newestFirst (gui.viewFloor .overview) count).filter fun index =>
    matchesFilters w gui index && decide ((gui.event index).type ≠ .alert)

/-- The matching alerts. -/
def matchingAlerts (w : Win32) (gui : GuiState) (count : ℕ) : List ℕ :=
  (newestFirst (gui.viewFloor .overview) count).filter fun index =>
    matchesFilters w gui index && decide ((gui.event index).type = .alert)

/-- The counters count the rows. -/
structure OverviewLists.Counted (lists : OverviewLists) : Prop where
  activityCount : lists.activityCount = lists.recent.length
  alertCount : lists.alertCount = lists.recentAlerts.length

/-- A list below its limit takes the next index and then what fits of the others. -/
lemma append_take_cons {xs rest : List ℕ} {index limit : ℕ} (h : xs.length < limit) :
    xs ++ (index :: rest).take (limit - xs.length) =
      (xs ++ [index]) ++ rest.take (limit - (xs ++ [index]).length) := by
  obtain ⟨room, hroom⟩ : ∃ room, limit - xs.length = room + 1 := ⟨limit - xs.length - 1, by omega⟩
  have hrest : limit - (xs ++ [index]).length = room := by
    rw [List.length_append, List.length_singleton]
    omega
  rw [hroom, hrest, List.take_succ_cons, List.append_assoc, List.singleton_append]

/-- A full list takes nothing. -/
lemma append_take_of_full {xs rest : List ℕ} {limit : ℕ} (h : limit ≤ xs.length) :
    xs ++ rest.take (limit - xs.length) = xs := by
  rw [Nat.sub_eq_zero_of_le h, List.take_zero, List.append_nil]

/-- What the loop has added to the lists when it is done with the first `count` events. -/
def Completes (w : Win32) (gui : GuiState) (count : ℕ) (lists result : OverviewLists) : Prop :=
  result.recent =
      lists.recent ++ (matchingActivity w gui count).take (recentEventLimit - lists.recent.length) ∧
    result.recentAlerts =
      lists.recentAlerts ++
        (matchingAlerts w gui count).take (recentAlertLimit - lists.recentAlerts.length)

/-- Two full lists are what they become. -/
lemma completes_of_full {count : ℕ} {lists : OverviewLists} (h : lists.Counted)
    (hfull : lists.full = true) : Completes w gui count lists lists := by
  simp only [OverviewLists.full, Bool.and_eq_true, decide_eq_true_eq, h.activityCount,
    h.alertCount] at hfull
  exact ⟨(append_take_of_full hfull.1).symm, (append_take_of_full hfull.2).symm⟩

section
variable {index : ℕ} {lists result : OverviewLists} (hfloor : gui.viewFloor .overview ≤ index)
include hfloor

/-- An event that does not match is in neither sequence. -/
lemma Completes.skip (hmatches : ¬ matchesFilters w gui index = true)
    (h : Completes w gui index lists result) : Completes w gui (index + 1) lists result := by
  have hactivity : matchingActivity w gui (index + 1) = matchingActivity w gui index := by
    rw [matchingActivity, newestFirst_succ hfloor, List.filter_cons_of_neg (by simp [hmatches])]
    rfl
  have halerts : matchingAlerts w gui (index + 1) = matchingAlerts w gui index := by
    rw [matchingAlerts, newestFirst_succ hfloor, List.filter_cons_of_neg (by simp [hmatches])]
    rfl
  rw [Completes, hactivity, halerts]
  exact h

lemma matchingActivity_succ (hmatches : matchesFilters w gui index = true) :
    matchingActivity w gui (index + 1) =
      if (gui.event index).type = .alert then matchingActivity w gui index
      else index :: matchingActivity w gui index := by
  rw [matchingActivity, newestFirst_succ hfloor, matchingActivity]
  by_cases halert : (gui.event index).type = .alert
  · rw [if_pos halert, List.filter_cons_of_neg (by simp [halert])]
  · rw [if_neg halert, List.filter_cons_of_pos (by simp [halert, hmatches])]

lemma matchingAlerts_succ (hmatches : matchesFilters w gui index = true) :
    matchingAlerts w gui (index + 1) =
      if (gui.event index).type = .alert then index :: matchingAlerts w gui index
      else matchingAlerts w gui index := by
  rw [matchingAlerts, newestFirst_succ hfloor, matchingAlerts]
  by_cases halert : (gui.event index).type = .alert
  · rw [if_pos halert, List.filter_cons_of_pos (by simp [halert, hmatches])]
  · rw [if_neg halert, List.filter_cons_of_neg (by simp [halert])]

/-- An alert the list of alerts has no room for. -/
lemma Completes.alertFull (hmatches : matchesFilters w gui index = true)
    (halert : (gui.event index).type = .alert)
    (hroom : recentAlertLimit ≤ lists.recentAlerts.length)
    (h : Completes w gui index lists result) : Completes w gui (index + 1) lists result := by
  rw [Completes, matchingActivity_succ hfloor hmatches, if_pos halert, append_take_of_full hroom]
  exact ⟨h.1, h.2.trans (append_take_of_full hroom)⟩

/-- An alert that is put at the end of the list of alerts. -/
lemma Completes.alert (hmatches : matchesFilters w gui index = true)
    (halert : (gui.event index).type = .alert)
    (hroom : lists.recentAlerts.length < recentAlertLimit)
    {alertCount : ℕ}
    (h : Completes w gui index
      { lists with recentAlerts := lists.recentAlerts ++ [index], alertCount := alertCount }
      result) :
    Completes w gui (index + 1) lists result := by
  rw [Completes, matchingActivity_succ hfloor hmatches, if_pos halert,
    matchingAlerts_succ hfloor hmatches, if_pos halert, append_take_cons hroom]
  exact h

/-- Any other event, where the list of activity is full. -/
lemma Completes.activityFull (hmatches : matchesFilters w gui index = true)
    (halert : (gui.event index).type ≠ .alert) (hroom : recentEventLimit ≤ lists.recent.length)
    (h : Completes w gui index lists result) : Completes w gui (index + 1) lists result := by
  rw [Completes, matchingAlerts_succ hfloor hmatches, if_neg halert, append_take_of_full hroom]
  exact ⟨h.1.trans (append_take_of_full hroom), h.2⟩

/-- Any other event that is put at the end of the list of activity. -/
lemma Completes.activity (hmatches : matchesFilters w gui index = true)
    (halert : (gui.event index).type ≠ .alert) (hroom : lists.recent.length < recentEventLimit)
    {activityCount : ℕ}
    (h : Completes w gui index
      { lists with recent := lists.recent ++ [index], activityCount := activityCount } result) :
    Completes w gui (index + 1) lists result := by
  rw [Completes, matchingActivity_succ hfloor hmatches, if_neg halert,
    matchingAlerts_succ hfloor hmatches, if_neg halert, append_take_cons hroom]
  exact h

end

/-- **What the loop adds**, from any index down and to any lists. -/
lemma overviewLoop_completes (hinsert : InsertsRows env) (count : ℕ) {lists : OverviewLists}
    (h : lists.Counted) :
    Completes w gui count lists (overviewLoop w env gui count lists) := by
  induction count generalizing lists with
  | zero =>
    have hempty := newestFirst_of_le (Nat.zero_le (gui.viewFloor .overview))
    simp [Completes, overviewLoop, matchingActivity, matchingAlerts, hempty]
  | succ index ih =>
    -- after an insertion the loop goes on unless both lists are full
    have hcontinue : ∀ {lists : OverviewLists}, lists.Counted →
        Completes w gui index lists
          (if lists.full then lists else overviewLoop w env gui index lists) := by
      intro lists h
      by_cases hfull : lists.full = true
      · rw [if_pos hfull]
        exact completes_of_full h hfull
      · rw [if_neg hfull]
        exact ih h
    rw [overviewLoop]
    by_cases hfloor : index + 1 > gui.viewFloor .overview
    · rw [if_pos hfloor]
      replace hfloor := Nat.le_of_lt_succ hfloor
      by_cases hmatches : matchesFilters w gui index = true
      · have htaken : ¬ (!eventMatchesSearch w gui (gui.event index) ||
            !eventMatchesTypeFilter gui (gui.event index)) = true := by
          rw [← Bool.not_and, ← matchesFilters, hmatches]
          decide
        simp only [if_neg htaken, hinsert .recentAlerts index, hinsert .recent index, if_true]
        by_cases halert : (gui.event index).type = .alert
        · rw [if_pos halert, h.alertCount]
          by_cases hroom : lists.recentAlerts.length ≥ recentAlertLimit
          · rw [if_pos hroom]
            exact (ih h).alertFull hfloor hmatches halert hroom
          · rw [if_neg hroom]
            have hnext : OverviewLists.Counted
                { lists with
                  recentAlerts := lists.recentAlerts ++ [index]
                  alertCount := lists.recentAlerts.length + 1 } :=
              ⟨h.activityCount, by rw [List.length_append, List.length_singleton]⟩
            exact (hcontinue hnext).alert hfloor hmatches halert (Nat.lt_of_not_le hroom)
        · rw [if_neg halert, h.activityCount]
          by_cases hroom : lists.recent.length ≥ recentEventLimit
          · rw [if_pos hroom]
            exact (ih h).activityFull hfloor hmatches halert hroom
          · rw [if_neg hroom]
            have hnext : OverviewLists.Counted
                { lists with
                  recent := lists.recent ++ [index]
                  activityCount := lists.recent.length + 1 } :=
              ⟨by rw [List.length_append, List.length_singleton], h.alertCount⟩
            exact (hcontinue hnext).activity hfloor hmatches halert (Nat.lt_of_not_le hroom)
      · have hskipped : (!eventMatchesSearch w gui (gui.event index) ||
            !eventMatchesTypeFilter gui (gui.event index)) = true := by
          rw [← Bool.not_and, ← matchesFilters]
          simp [hmatches]
        simp only [if_pos hskipped]
        exact (ih h).skip hfloor hmatches
    · rw [if_neg hfloor]
      have hempty := newestFirst_of_le (Nat.le_of_not_lt hfloor)
      simp [Completes, matchingActivity, matchingAlerts, hempty]

/-- **The overview shows the most recent matching events.**  Each of its two lists holds the first
elements of its own sequence, as many as its limit allows, and no event twice. -/
theorem rebuildOverviewLists_mostRecent (w : Win32) (env : UiEnv) (gui : GuiState)
    (hinsert : InsertsRows env) :
    (rebuildOverviewLists w env gui).rows .recent =
        (matchingActivity w gui gui.store.eventCount).take recentEventLimit ∧
      (rebuildOverviewLists w env gui).rows .recentAlerts =
        (matchingAlerts w gui gui.store.eventCount).take recentAlertLimit ∧
      ((rebuildOverviewLists w env gui).rows .recent).Nodup ∧
      ((rebuildOverviewLists w env gui).rows .recentAlerts).Nodup := by
  have hempty : OverviewLists.Counted ⟨[], [], 0, 0⟩ := ⟨rfl, rfl⟩
  obtain ⟨hactivity, halerts⟩ : Completes w gui gui.store.eventCount ⟨[], [], 0, 0⟩ _ :=
    overviewLoop_completes hinsert gui.store.eventCount hempty
  have hrecent : (rebuildOverviewLists w env gui).rows .recent =
      (matchingActivity w gui gui.store.eventCount).take recentEventLimit := hactivity
  have hrecentAlerts : (rebuildOverviewLists w env gui).rows .recentAlerts =
      (matchingAlerts w gui gui.store.eventCount).take recentAlertLimit := halerts
  refine ⟨hrecent, hrecentAlerts, ?_, ?_⟩
  · rw [hrecent]
    exact ((nodup_newestFirst _ _).filter _).sublist (List.take_sublist _ _)
  · rw [hrecentAlerts]
    exact ((nodup_newestFirst _ _).filter _).sublist (List.take_sublist _ _)

/-- Three connections in a fresh window, an alert between the second and the third. -/
def alertAmongConnections : GuiState :=
  { GuiState.created with
    store := addEvents eventStoreInitialize
      [{ TraceGlassEvent.zero with type := .network },
        { TraceGlassEvent.zero with type := .network },
        { TraceGlassEvent.zero with type := .alert },
        { TraceGlassEvent.zero with type := .network }] }

theorem rebuildOverviewLists_mostRecent_alertAmongConnections :
    (rebuildOverviewLists .sample .succeed alertAmongConnections).rows .recent = [3, 1, 0] ∧
      (rebuildOverviewLists .sample .succeed alertAmongConnections).rows .recentAlerts = [2] := by
  obtain ⟨hrecent, halerts, -, -⟩ :=
    rebuildOverviewLists_mostRecent .sample .succeed alertAmongConnections (fun _ _ => rfl)
  exact ⟨hrecent.trans (by decide), halerts.trans (by decide)⟩

end TraceGlass
