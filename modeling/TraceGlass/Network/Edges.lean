import TraceGlass.Lib.Comparator
import TraceGlass.Lib.Lists
import TraceGlass.Network.Model

/-!
# A poll reports the rising edges

Seen through their keys, the established rows come and go from table to table, and a poll reports
those that were not there in the last table that could be read.

The lookup is right because the array it searches is sorted by the comparator it searches with.
`KeepsKeys` is that invariant of the monitor: its array is sorted and holds the keys of the
established rows of the last readable table.  A poll that fails leaves it as it is.
-/

namespace TraceGlass

open Comparator SortedArray

/-! ## The comparator -/

section
variable {α κ : Type*} [LT κ] [DecidableLT κ] {p : α → Prop} {rest : α → α → ℤ} {number : κ → ℕ}

/-- One field of the comparator, in front of the others. -/
lemma lawful_compareField (hlt : ∀ a b, a < b ↔ number a < number b) (key : α → κ)
    (h : Lawful p rest) :
    Lawful p fun left right => compareField (key left) (key right) (rest left right) := by
  have hfield : Lawful (fun _ : α => True) fun left right =>
      compareField (key left) (key right) 0 := by
    refine lawful_of_key (fun a => number (key a)) (fun a b => ?_) fun a b => ?_
    · simp only [compareField, hlt]
      split
      · omega
      · split <;> omega
    · simp only [compareField, hlt]
      split
      · rw [if_neg (by omega)]
      · split <;> rfl
  have hp : Lawful p fun left right => compareField (key left) (key right) 0 :=
    hfield.congr (fun _ _ => trivial) fun _ _ _ _ => rfl
  refine (hp.lexicographic h).congr (fun _ ha => ha) fun a b _ _ => ?_
  simp only [compareField, Comparator.lexicographic]
  split
  · rfl
  · split <;> rfl

/-- It answers `0` only where the field is equal and the others answer `0`. -/
lemma compareField_eq_zero_iff (hlt : ∀ a b, a < b ↔ number a < number b)
    (hinjective : ∀ a b, number a = number b → a = b) {left right : κ} {rest : ℤ} :
    compareField left right rest = 0 ↔ left = right ∧ rest = 0 := by
  simp only [compareField, hlt]
  constructor
  · intro h
    split at h
    · cases h
    · split at h
      · cases h
      · exact ⟨hinjective _ _ (by omega), h⟩
  · rintro ⟨rfl, rfl⟩
    rw [if_neg (Nat.lt_irrefl _), if_neg (Nat.lt_irrefl _)]

end

/-- **The comparator is a total order.** -/
theorem lawful_compareConnectionKeys : Lawful (fun _ => True) compareConnectionKeys := by
  have hzero : Lawful (fun _ : NetworkConnectionKey => True) fun _ _ => 0 :=
    ⟨fun _ _ _ _ => rfl, fun _ _ _ _ _ _ _ _ => le_rfl⟩
  unfold compareConnectionKeys
  exact lawful_compareField (fun _ _ => UInt32.lt_iff_toNat_lt) NetworkConnectionKey.pid <|
    lawful_compareField (fun _ _ => UInt32.lt_iff_toNat_lt) NetworkConnectionKey.localAddress <|
    lawful_compareField (fun _ _ => UInt16.lt_iff_toNat_lt) NetworkConnectionKey.localPort <|
    lawful_compareField (fun _ _ => UInt32.lt_iff_toNat_lt) NetworkConnectionKey.remoteAddress <|
    lawful_compareField (fun _ _ => UInt16.lt_iff_toNat_lt) NetworkConnectionKey.remotePort hzero

/-- Only a key itself compares equal to it. -/
theorem compareConnectionKeys_eq_zero_iff {left right : NetworkConnectionKey} :
    compareConnectionKeys left right = 0 ↔ left = right := by
  have hdword : ∀ {a b : DWORD} {rest : ℤ}, compareField a b rest = 0 ↔ a = b ∧ rest = 0 :=
    compareField_eq_zero_iff (fun _ _ => UInt32.lt_iff_toNat_lt) fun _ _ => UInt32.toNat_inj.mp
  have hword : ∀ {a b : USHORT} {rest : ℤ}, compareField a b rest = 0 ↔ a = b ∧ rest = 0 :=
    compareField_eq_zero_iff (fun _ _ => UInt16.lt_iff_toNat_lt) fun _ _ => UInt16.toNat_inj.mp
  rw [compareConnectionKeys, hdword, hdword, hword, hdword, hword]
  cases left
  cases right
  simp only [NetworkConnectionKey.mk.injEq]
  constructor
  · rintro ⟨hpid, hlocal, hport, hremote, hremotePort, -⟩
    exact ⟨hpid, hlocal, hremote, hport, hremotePort⟩
  · rintro ⟨hpid, hlocal, hremote, hport, hremotePort⟩
    exact ⟨hpid, hlocal, hport, hremote, hremotePort, trivial⟩

/-- The lookup in a sorted array finds what is in it. -/
theorem connectionExists_iff (bsearch : CompareSearch NetworkConnectionKey)
    {entries : List NetworkConnectionKey}
    (hsorted : entries.Pairwise fun a b => compareConnectionKeys a b ≤ 0)
    (key : NetworkConnectionKey) : connectionExists bsearch entries key = true ↔ key ∈ entries := by
  have hsearch : (bsearch.search compareConnectionKeys key entries).isSome = true ↔ key ∈ entries :=
    isSome_search_iff lawful_compareConnectionKeys bsearch (fun _ _ => trivial) trivial
      (fun _ _ => compareConnectionKeys_eq_zero_iff) hsorted
  rw [connectionExists, Bool.and_eq_true, decide_eq_true_iff, hsearch]
  exact and_iff_right_of_imp List.length_pos_of_mem

/-! ## One event -/

/-- A port in network order, as a number. -/
def portNumber (port : DWORD) : ℕ := port.toNat % 256 * 256 + port.toNat / 256 % 256

lemma toNat_ntohs (port : DWORD) : (ntohs port.toUInt16).toNat = portNumber port := by
  have hword : port.toUInt16.toNat = port.toNat % 2 ^ 16 := UInt32.toNat_toUInt16 port
  have hshift : port.toUInt16.toNat <<< 8 % 2 ^ 16 = (port.toNat % 256) <<< 8 := by
    rw [hword, Nat.shiftLeft_eq, Nat.shiftLeft_eq]
    omega
  have hhigh : port.toUInt16.toNat >>> 8 = port.toNat / 256 % 256 := by
    rw [hword, Nat.shiftRight_eq_div_pow]
    omega
  calc (ntohs port.toUInt16).toNat
      = port.toUInt16.toNat <<< 8 % 2 ^ 16 ||| port.toUInt16.toNat >>> 8 := by
        rw [ntohs, UInt16.toNat_or, UInt16.toNat_shiftLeft, UInt16.toNat_shiftRight]
        rfl
    _ = (port.toNat % 256) <<< 8 + port.toNat / 256 % 256 := by
        rw [hshift, hhigh, Nat.shiftLeft_add_eq_or_of_lt (Nat.mod_lt _ (by decide))]
    _ = portNumber port := by rw [Nat.shiftLeft_eq, portNumber]

lemma noNul_dottedQuad (address : DWORD) : NoNul (dottedQuad address) := by
  have hdot : NoNul (wide ".") := by decide
  simp only [dottedQuad, noNul_append, noNul_formatUnsigned, hdot, and_self]

/-- At most three digits to a number. -/
lemma length_dottedQuad_le (address : DWORD) : (dottedQuad address).length ≤ 15 := by
  have hdigits : ∀ n < 256, (formatUnsigned n).length ≤ 3 := fun n hn =>
    length_formatUnsigned_le (by decide) (Nat.lt_trans hn (by decide))
  have haddress := address.toNat_lt
  have h0 := hdigits (address.toNat % 256) (Nat.mod_lt _ (by decide))
  have h1 := hdigits (address.toNat / 256 % 256) (Nat.mod_lt _ (by decide))
  have h2 := hdigits (address.toNat / 65536 % 256) (Nat.mod_lt _ (by decide))
  have h3 := hdigits (address.toNat / 16777216) (by omega)
  have hdot : (wide ".").length = 1 := rfl
  simp only [dottedQuad, List.length_append, hdot]
  omega

/-- The buffers of an event are large enough for any address. -/
lemma addressToString_chars (address : DWORD) :
    (addressToString address addressLength).chars = dottedQuad address := by
  have hfits : (dottedQuad address).length < addressLength :=
    Nat.lt_of_le_of_lt (length_dottedQuad_le address) (by decide)
  rw [addressToString, inetNtop, if_pos hfits, Option.getD_some]
  exact copyWstring_of_length_lt (noNul_dottedQuad address) hfits

/-- The event tells of the row: its owner and its two endpoints, with the ports as numbers. -/
structure CarriesEndpoints (row : TcpRow) (event : TraceGlassEvent) : Prop where
  type : event.type = .network
  pid : event.process.pid = row.dwOwningPid
  localAddress : event.localAddress.chars = dottedQuad row.dwLocalAddr
  remoteAddress : event.remoteAddress.chars = dottedQuad row.dwRemoteAddr
  localPort : event.localPort.toNat = portNumber row.dwLocalPort
  remotePort : event.remotePort.toNat = portNumber row.dwRemotePort

lemma queryProcessIdentity_pid (handle : Option ProcessHandle) (pid : DWORD) :
    (queryProcessIdentity handle pid).key.pid = pid := by
  unfold queryProcessIdentity
  split
  · rfl
  · cases handle <;> rfl

lemma carriesEndpoints_emitNetworkEvent (env : ConnectionEnv) (row : TcpRow) :
    CarriesEndpoints row (emitNetworkEvent env (connectionKey row)) where
  type := rfl
  pid := queryProcessIdentity_pid env.handle row.dwOwningPid
  localAddress := addressToString_chars row.dwLocalAddr
  remoteAddress := addressToString_chars row.dwRemoteAddr
  localPort := toNat_ntohs row.dwLocalPort
  remotePort := toNat_ntohs row.dwRemotePort

/-! ## One poll -/

/-- The established rows of a table. -/
def establishedRows (table : List TcpRow) : List TcpRow :=
  table.filter fun row => row.dwState = mibTcpStateEstab

/-- The established rows whose keys are not among these. -/
def risingEdges (previous : List NetworkConnectionKey) (table : List TcpRow) : List TcpRow :=
  (establishedRows table).filter fun row => connectionKey row ∉ previous

/-- The events of these rows, the first of which is the `count`-th of the poll. -/
def edgeEvents (answers : ℕ → ConnectionEnv) (count : ℕ) (rows : List TcpRow) :
    List TraceGlassEvent :=
  rows.mapIdx fun i row => emitNetworkEvent (answers (count + i)) (connectionKey row)

lemma edgeEvents_cons (answers : ℕ → ConnectionEnv) (count : ℕ) (row : TcpRow)
    (rows : List TcpRow) :
    edgeEvents answers count (row :: rows) =
      emitNetworkEvent (answers count) (connectionKey row) ::
        edgeEvents answers (count + 1) rows := by
  simp only [edgeEvents, List.mapIdx_cons, Nat.add_zero, Nat.add_assoc, Nat.add_comm 1]

/-- The loop keeps the key of every established row, and emits the event of every rising edge. -/
lemma pollRows_eq (bsearch : CompareSearch NetworkConnectionKey)
    {previous : List NetworkConnectionKey}
    (hsorted : previous.Pairwise fun a b => compareConnectionKeys a b ≤ 0)
    (answers : ℕ → ConnectionEnv) (rows : List TcpRow) (current : List NetworkConnectionKey)
    (pushed : List TraceGlassEvent) :
    pollRows bsearch previous answers rows current pushed =
      (current ++ (establishedRows rows).map connectionKey,
        pushed ++ edgeEvents answers pushed.length (risingEdges previous rows)) := by
  induction rows generalizing current pushed with
  | nil => simp [pollRows, establishedRows, risingEdges, edgeEvents]
  | cons row rows ih =>
    unfold pollRows
    by_cases hestab : row.dwState = mibTcpStateEstab
    · have hrows : establishedRows (row :: rows) = row :: establishedRows rows :=
        List.filter_cons_of_pos (by simpa using hestab)
      rw [if_neg (not_not.mpr hestab), hrows]
      simp only [ih, List.map_cons, List.append_assoc, List.singleton_append, Prod.mk.injEq,
        true_and]
      by_cases hmem : connectionKey row ∈ previous
      · have hedges : risingEdges previous (row :: rows) = risingEdges previous rows := by
          rw [risingEdges, hrows, List.filter_cons_of_neg (by simpa using hmem), risingEdges]
        have hexists := (connectionExists_iff bsearch hsorted _).mpr hmem
        simp [hexists, hedges]
      · have hedges : risingEdges previous (row :: rows) = row :: risingEdges previous rows := by
          rw [risingEdges, hrows, List.filter_cons_of_pos (by simpa using hmem), risingEdges]
        have hexists : connectionExists bsearch previous (connectionKey row) = false := by
          rw [← Bool.not_eq_true, connectionExists_iff bsearch hsorted]
          exact hmem
        simp [hexists, hedges, edgeEvents_cons]
    · have hrows : establishedRows (row :: rows) = establishedRows rows :=
        List.filter_cons_of_neg (by simpa using hestab)
      rw [if_pos hestab, ih, risingEdges, risingEdges, hrows]

/-- Neither call of the poll fails, and there is memory for what it needs. -/
def TcpPollInput.Succeeds (input : TcpPollInput) : Prop :=
  input.sizeStatus = errorInsufficientBuffer ∧ input.tableSize ≠ 0 ∧ input.malloc = true ∧
    input.tableStatus = noError ∧ (input.table ≠ [] → input.calloc = true)

instance (input : TcpPollInput) : Decidable input.Succeeds :=
  inferInstanceAs (Decidable (_ ∧ _ ∧ _ ∧ _ ∧ (_ → _)))

/-- The monitor keeps these keys, sorted. -/
structure KeepsKeys (monitor : NetworkMonitor) (keys : List NetworkConnectionKey) : Prop where
  perm : monitor.previous.Perm keys
  sorted : monitor.previous.Pairwise fun a b => compareConnectionKeys a b ≤ 0

section
variable {qsort : CompareSort NetworkConnectionKey} {bsearch : CompareSearch NetworkConnectionKey}
  {monitor : NetworkMonitor} {keys : List NetworkConnectionKey} {input : TcpPollInput}

/-- A poll that fails does nothing. -/
lemma networkMonitorPoll_of_not_succeeds (h : ¬ input.Succeeds) :
    networkMonitorPoll qsort bsearch monitor input = ⟨false, monitor, []⟩ := by
  unfold networkMonitorPoll
  split_ifs with hsize hmalloc hstatus hcalloc
  · rfl
  · rfl
  · rfl
  · rfl
  · refine absurd ⟨?_, ?_, ?_, ?_, ?_⟩ h
    · tauto
    · tauto
    · simpa using hmalloc
    · tauto
    · simpa [List.length_pos_iff] using hcalloc

/-- A poll that succeeds pushes the events of the rising edges, and keeps the keys of the table. -/
lemma networkMonitorPoll_of_succeeds (hkeeps : KeepsKeys monitor keys) (h : input.Succeeds) :
    (networkMonitorPoll qsort bsearch monitor input).ok = true ∧
      (networkMonitorPoll qsort bsearch monitor input).pushed =
        edgeEvents input.answers 0 (risingEdges keys input.table) ∧
      KeepsKeys (networkMonitorPoll qsort bsearch monitor input).monitor
        ((establishedRows input.table).map connectionKey) := by
  obtain ⟨hsize, htable, hmalloc, hstatus, hcalloc⟩ := h
  have hmemory : ¬ (decide (input.table.length > 0) && !input.calloc) = true := by
    simpa [List.length_pos_iff] using hcalloc
  have hedges : risingEdges monitor.previous input.table = risingEdges keys input.table :=
    List.filter_congr fun row _ => by simp only [hkeeps.perm.mem_iff]
  have hresult : networkMonitorPoll qsort bsearch monitor input =
      ⟨true,
        ⟨if ((establishedRows input.table).map connectionKey).length > 1 then
          qsort.sort compareConnectionKeys ((establishedRows input.table).map connectionKey)
        else (establishedRows input.table).map connectionKey⟩,
        edgeEvents input.answers 0 (risingEdges keys input.table)⟩ := by
    rw [networkMonitorPoll, if_neg (by simp [hsize, htable]), if_neg (by simp [hmalloc]),
      if_neg (by simp [hstatus]), if_neg hmemory, pollRows_eq bsearch hkeeps.sorted, hedges,
      List.nil_append, List.nil_append, List.length_nil]
  rw [hresult]
  refine ⟨rfl, rfl, ?_⟩
  generalize (establishedRows input.table).map connectionKey = current
  split
  · exact ⟨qsort.perm _ _, qsort.sorted _ _
      (lawful_compareConnectionKeys.consistentOn fun _ _ => trivial)⟩
  · next hlength =>
    -- an array of at most one element is sorted as it is
    refine ⟨List.Perm.refl _, ?_⟩
    rcases current with _ | ⟨key, _ | ⟨second, rest⟩⟩
    · exact List.Pairwise.nil
    · exact List.pairwise_singleton _ _
    · exact absurd (by simp) hlength

/-- The keys of the last table of a run of polls that could be read. -/
def lastEstablished (inputs : List TcpPollInput) : List NetworkConnectionKey :=
  match (inputs.filter fun input => input.Succeeds).getLast? with
  | none => []
  | some input => (establishedRows input.table).map connectionKey

/-- After any run of polls the monitor keeps them. -/
lemma keepsKeys_tcpPollRun (inputs : List TcpPollInput) :
    KeepsKeys (tcpPollRun qsort bsearch inputs).1 (lastEstablished inputs) := by
  induction inputs using List.reverseRecOn with
  | nil => exact ⟨List.Perm.nil, List.Pairwise.nil⟩
  | append_singleton inputs input ih =>
    rw [tcpPollRun_snoc, tcpPollStep, lastEstablished, List.filter_append]
    by_cases h : input.Succeeds
    · have hlast : [input].filter (fun input => decide input.Succeeds) = [input] :=
        List.filter_cons_of_pos (by simpa using h)
      rw [hlast, List.getLast?_concat]
      exact (networkMonitorPoll_of_succeeds ih h).2.2
    · have hlast : [input].filter (fun input => decide input.Succeeds) = [] :=
        List.filter_cons_of_neg (by simpa using h)
      rw [hlast, List.append_nil, networkMonitorPoll_of_not_succeeds h]
      exact ih

end

/-- **Network events are exactly the rising edges.**  After any earlier polls, a poll that succeeds
pushes, in the order of the table, one event for each established row whose key is not among those
of the established rows of the last table that could be read; the event carries the endpoints of its
row.  A poll that fails pushes nothing and leaves the monitor as it was. -/
theorem networkMonitorPoll_risingEdges (qsort : CompareSort NetworkConnectionKey)
    (bsearch : CompareSearch NetworkConnectionKey) (earlier : List TcpPollInput)
    (input : TcpPollInput) :
    let monitor := (tcpPollRun qsort bsearch earlier).1
    let result := networkMonitorPoll qsort bsearch monitor input
    (¬ input.Succeeds → result = ⟨false, monitor, []⟩) ∧
    (input.Succeeds → result.ok = true ∧
      List.Forall₂
        (fun row event => CarriesEndpoints row event ∧
          ∃ env, event = emitNetworkEvent env (connectionKey row))
        ((establishedRows input.table).filter fun row =>
          connectionKey row ∉ lastEstablished earlier)
        result.pushed) := by
  intro monitor result
  refine ⟨networkMonitorPoll_of_not_succeeds, fun h => ?_⟩
  obtain ⟨hok, hpushed, -⟩ := networkMonitorPoll_of_succeeds (keepsKeys_tcpPollRun earlier) h
  refine ⟨hok, ?_⟩
  rw [hpushed]
  exact ListLib.forall₂_mapIdx
    (fun i row => ⟨carriesEndpoints_emitNetworkEvent _ row, _, rfl⟩) _

/-- The events of the rising edges from each table to the next one that can be read, the first of
which follows a table with these keys. -/
def edgesOf (keys : List NetworkConnectionKey) : List TcpPollInput → List TraceGlassEvent
  | [] => []
  | input :: inputs =>
      if input.Succeeds then
        edgeEvents input.answers 0 (risingEdges keys input.table) ++
          edgesOf ((establishedRows input.table).map connectionKey) inputs
      else edgesOf keys inputs

lemma tcpPollRun_from (qsort : CompareSort NetworkConnectionKey)
    (bsearch : CompareSearch NetworkConnectionKey) {keys : List NetworkConnectionKey}
    {monitor : NetworkMonitor} (hkeeps : KeepsKeys monitor keys) (events : List TraceGlassEvent)
    (inputs : List TcpPollInput) :
    (inputs.foldl (tcpPollStep qsort bsearch) (monitor, events)).2 =
      events ++ edgesOf keys inputs := by
  induction inputs generalizing monitor keys events with
  | nil => simp [edgesOf]
  | cons input inputs ih =>
    rw [List.foldl_cons, tcpPollStep, edgesOf]
    split
    · next h =>
      obtain ⟨-, hpushed, hkept⟩ := @networkMonitorPoll_of_succeeds qsort bsearch
        _ _ _ hkeeps h
      rw [ih hkept, hpushed, List.append_assoc]
    · next h =>
      rw [networkMonitorPoll_of_not_succeeds h, ih hkeeps, List.append_nil]

/-- A run of polls reports the rising edges of its tables. -/
lemma tcpPollRun_edges (qsort : CompareSort NetworkConnectionKey)
    (bsearch : CompareSearch NetworkConnectionKey) (inputs : List TcpPollInput) :
    (tcpPollRun qsort bsearch inputs).2 = edgesOf [] inputs :=
  tcpPollRun_from qsort bsearch ⟨List.Perm.nil, List.Pairwise.nil⟩ [] inputs

/-- A poll that reads this table. -/
def TcpPollInput.reading (table : List TcpRow) : TcpPollInput where
  sizeStatus := errorInsufficientBuffer
  tableSize := 1024
  malloc := true
  tableStatus := noError
  table := table
  calloc := true
  answers := fun _ => ⟨none, none, .zero⟩

/-- A connection that outlives a poll without memory is reported once. -/
example :
    let row : TcpRow := ⟨mibTcpStateEstab, 16777343, 47873, 16777343, 20480, 8⟩
    (tcpPollRun (.insertion _) (.halving _)
      [.reading [row], { TcpPollInput.reading [] with malloc := false }, .reading [row]]).2.map
        (fun event => event.localPort) = [443] := by
  decide +kernel

end TraceGlass
