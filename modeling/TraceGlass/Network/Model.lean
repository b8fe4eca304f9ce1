import TraceGlass.Monitor.Model

/-!
# The network monitor (`network_monitor.c`)

The poller asks IP Helper for the TCP table, keeps the keys of the established rows and pushes an
event for each row whose key the table of the poll before did not have.  The keys are kept sorted,
so that the next poll can look them up with `bsearch`.

What a poll reads from the system is a `TcpPollInput`: the answers of the two `GetExtendedTcpTable`
calls and of the allocations, and for each event it emits what the owning process answers.  `qsort`
and `bsearch` are any routines that keep the C library's promises.
-/

namespace TraceGlass

open SortedArray

/-! ## Rows and keys -/

/-- `MIB_TCPROW_OWNER_PID`; addresses and ports are in network order. -/
structure TcpRow where
  dwState : DWORD
  dwLocalAddr : DWORD
  dwLocalPort : DWORD
  dwRemoteAddr : DWORD
  dwRemotePort : DWORD
  dwOwningPid : DWORD
  deriving DecidableEq

/-- `MIB_TCP_STATE_ESTAB`. -/
def mibTcpStateEstab : DWORD := 5

/-- `NetworkConnectionKey`. -/
structure NetworkConnectionKey where
  pid : DWORD
  localAddress : DWORD
  remoteAddress : DWORD
  localPort : USHORT
  remotePort : USHORT
  deriving DecidableEq

/-- `ntohs` on a little-endian machine. -/
def ntohs (value : USHORT) : USHORT := value <<< 8 ||| value >>> 8

/-- The key the loop of `network_monitor_poll` makes of a row. -/
def connectionKey (row : TcpRow) : NetworkConnectionKey where
  pid := row.dwOwningPid
  localAddress := row.dwLocalAddr
  remoteAddress := row.dwRemoteAddr
  localPort := ntohs row.dwLocalPort.toUInt16
  remotePort := ntohs row.dwRemotePort.toUInt16

/-- The macro `COMPARE_FIELD`: return where the fields differ, and go on where they do not. -/
def compareField {α : Type*} [LT α] [DecidableLT α] (left right : α) (rest : ℤ) : ℤ :=
  if left < right then -1 else if left > right then 1 else rest

/-- `compare_connection_keys`. -/
def compareConnectionKeys (left right : NetworkConnectionKey) : ℤ :=
  compareField left.pid right.pid <|
    compareField left.localAddress right.localAddress <|
    compareField left.localPort right.localPort <|
    compareField left.remoteAddress right.remoteAddress <|
    compareField left.remotePort right.remotePort 0

/-- `connection_exists`. -/
def connectionExists (bsearch : CompareSearch NetworkConnectionKey)
    (entries : List NetworkConnectionKey) (key : NetworkConnectionKey) : Bool :=
  decide (entries.length > 0) && (bsearch.search compareConnectionKeys key entries).isSome

/-! ## Emitting an event -/

/-- An IPv4 address in network order, in dotted decimal. -/
def dottedQuad (address : DWORD) : List WCHAR :=
  formatUnsigned (address.toNat % 256) ++ wide "." ++
    formatUnsigned (address.toNat / 256 % 256) ++ wide "." ++
    formatUnsigned (address.toNat / 65536 % 256) ++ wide "." ++
    formatUnsigned (address.toNat / 16777216)

/-- `InetNtopW(AF_INET, ..)`: the address as text, or `none` where the buffer is too small. -/
def inetNtop (address : DWORD) (bufferCount : ℕ) : Option (List WCHAR) :=
  if (dottedQuad address).length < bufferCount then some (dottedQuad address) else none

/-- `address_to_string`. -/
def addressToString (address : DWORD) (bufferCount : ℕ) [NeZero bufferCount] :
    WString bufferCount :=
  copyWstring bufferCount ((inetNtop address bufferCount).getD (wide "0.0.0.0"))

/-- What the system answers while an event is emitted. -/
structure ConnectionEnv where
  /-- `OpenProcess` and the handle it opens. -/
  handle : Option ProcessHandle
  /-- The Toolhelp rows; `none` when no snapshot can be taken. -/
  toolhelp : Option (List ProcessEntry32)
  /-- The local time. -/
  now : SystemTime

/-- `emit_network_event`: the event it pushes. -/
def emitNetworkEvent (env : ConnectionEnv) (key : NetworkConnectionKey) : TraceGlassEvent :=
  let identity := queryProcessIdentity env.handle key.pid
  let queried := queryProcessName env.toolhelp key.pid
  let localAddress := addressToString key.localAddress addressLength
  let remoteAddress := addressToString key.remoteAddress addressLength
  { TraceGlassEvent.zero with
    type := .network
    process := identity.key
    executablePath := copyWstring maxPath identity.path.chars
    processName :=
      if identity.path.chars ≠ [] then copyWstring maxPath (pathBasename identity.path.chars)
      else if queried.1 then queried.2
      else copyWstring maxPath (wide "<unknown>")
    protocol := copyWstring protocolLength (wide "TCP")
    networkState := copyWstring stateLength (wide "ESTABLISHED")
    localAddress := localAddress
    remoteAddress := remoteAddress
    localPort := key.localPort
    remotePort := key.remotePort
    timestamp := env.now
    details := stringCchPrintf detailLength <|
      wide "Established TCP connection; local " ++ localAddress.chars ++ wide ":" ++
        formatUnsigned key.localPort.toNat ++ wide "; remote " ++ remoteAddress.chars ++
        wide ":" ++ formatUnsigned key.remotePort.toNat }

/-! ## Polling -/

/-- `NetworkMonitor`; `previous` is the used part of the array. -/
structure NetworkMonitor where
  previous : List NetworkConnectionKey

/-- `network_monitor_initialize`, where `WSAStartup` succeeds. -/
def networkMonitorInitialize : NetworkMonitor := ⟨[]⟩

/-- `NO_ERROR`. -/
def noError : DWORD := 0

/-- `ERROR_INSUFFICIENT_BUFFER`. -/
def errorInsufficientBuffer : DWORD := 122

/-- What one poll reads from the system. -/
structure TcpPollInput where
  /-- The status of the call that asks for the size, and the size. -/
  sizeStatus : DWORD
  tableSize : DWORD
  /-- Whether `malloc` answers a block for the table. -/
  malloc : Bool
  /-- The status of the call that asks for the table, and the table's rows. -/
  tableStatus : DWORD
  table : List TcpRow
  /-- Whether `calloc` answers a block for the keys. -/
  calloc : Bool
  /-- What is answered while the event at this position of the poll is emitted. -/
  answers : ℕ → ConnectionEnv

/-- What a poll reports: its return value, the monitor and the events pushed, in order. -/
structure TcpPollResult where
  ok : Bool
  monitor : NetworkMonitor
  pushed : List TraceGlassEvent

/-- The loop over the rows, with the keys kept and the events pushed so far. -/
def pollRows (bsearch : CompareSearch NetworkConnectionKey) (previous : List NetworkConnectionKey)
    (answers : ℕ → ConnectionEnv) :
    List TcpRow → List NetworkConnectionKey → List TraceGlassEvent →
      List NetworkConnectionKey × List TraceGlassEvent
  | [], current, pushed => (current, pushed)
  | row :: rows, current, pushed =>
      if row.dwState ≠ mibTcpStateEstab then pollRows bsearch previous answers rows current pushed
      else
        let key := connectionKey row
        let pushed :=
          if !connectionExists bsearch previous key then
            pushed ++ [emitNetworkEvent (answers pushed.length) key]
          else pushed
        pollRows bsearch previous answers rows (current ++ [key]) pushed

/-- `network_monitor_poll`. -/
def networkMonitorPoll (qsort : CompareSort NetworkConnectionKey)
    (bsearch : CompareSearch NetworkConnectionKey) (monitor : NetworkMonitor)
    (input : TcpPollInput) : TcpPollResult :=
  if input.sizeStatus ≠ errorInsufficientBuffer ∨ input.tableSize = 0 then ⟨false, monitor, []⟩
  else if !input.malloc then ⟨false, monitor, []⟩
  else if input.tableStatus ≠ noError then ⟨false, monitor, []⟩
  else if decide (input.table.length > 0) && !input.calloc then ⟨false, monitor, []⟩
  else
    let (current, pushed) := pollRows bsearch monitor.previous input.answers input.table [] []
    let current :=
      if current.length > 1 then qsort.sort compareConnectionKeys current else current
    ⟨true, ⟨current⟩, pushed⟩

lemma forall_pollRows {bsearch : CompareSearch NetworkConnectionKey}
    {previous current : List NetworkConnectionKey} {answers : ℕ → ConnectionEnv}
    {rows : List TcpRow} {pushed : List TraceGlassEvent} {P : TraceGlassEvent → Prop}
    (h : ∀ i key, P (emitNetworkEvent (answers i) key)) (hpushed : ∀ e ∈ pushed, P e) :
    ∀ e ∈ (pollRows bsearch previous answers rows current pushed).2, P e := by
  induction rows generalizing current pushed with
  | nil => exact hpushed
  | cons row rows ih =>
    unfold pollRows
    split
    · exact ih hpushed
    · refine ih ?_
      split
      · exact List.forall_mem_append.mpr ⟨hpushed, List.forall_mem_singleton.mpr (h _ _)⟩
      · exact hpushed

/-- What holds of the event of every connection holds of all events of a poll. -/
lemma forall_networkMonitorPoll {qsort : CompareSort NetworkConnectionKey}
    {bsearch : CompareSearch NetworkConnectionKey} {monitor : NetworkMonitor} {input : TcpPollInput}
    {P : TraceGlassEvent → Prop} (h : ∀ i key, P (emitNetworkEvent (input.answers i) key)) :
    ∀ e ∈ (networkMonitorPoll qsort bsearch monitor input).pushed, P e := by
  simp only [networkMonitorPoll]
  split_ifs
  all_goals first
    | exact List.forall_mem_nil _
    | exact forall_pollRows h (List.forall_mem_nil _)

/-- One poll of a run, with the events pushed so far. -/
def tcpPollStep (qsort : CompareSort NetworkConnectionKey)
    (bsearch : CompareSearch NetworkConnectionKey) (state : NetworkMonitor × List TraceGlassEvent)
    (input : TcpPollInput) : NetworkMonitor × List TraceGlassEvent :=
  let result := networkMonitorPoll qsort bsearch state.1 input
  (result.monitor, state.2 ++ result.pushed)

/-- A run of polls from `network_monitor_initialize`. -/
def tcpPollRun (qsort : CompareSort NetworkConnectionKey)
    (bsearch : CompareSearch NetworkConnectionKey) (inputs : List TcpPollInput) :
    NetworkMonitor × List TraceGlassEvent :=
  inputs.foldl (tcpPollStep qsort bsearch) (networkMonitorInitialize, [])

lemma tcpPollRun_snoc (qsort : CompareSort NetworkConnectionKey)
    (bsearch : CompareSearch NetworkConnectionKey) (inputs : List TcpPollInput)
    (input : TcpPollInput) :
    tcpPollRun qsort bsearch (inputs ++ [input]) =
      tcpPollStep qsort bsearch (tcpPollRun qsort bsearch inputs) input := by
  simp [tcpPollRun]

end TraceGlass
