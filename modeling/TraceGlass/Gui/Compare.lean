import TraceGlass.Store.Model
import Mathlib.Data.Int.Notation

/-!
# The order of the event tables (`gui.c`, `compare_event_items`)

The comparator of the three sortable tables: by the selected column, then by sequence number.
-/

namespace TraceGlass

/-- `GuiView`. -/
inductive GuiView
  | overview
  | processes
  | network
  | timeline
  | alerts
  deriving DecidableEq, Repr

/-- `SortState`. -/
structure SortState where
  column : ℤ
  ascending : Bool
  active : Bool
  view : GuiView
  deriving DecidableEq

/-- `compare_text`. -/
def compareText (w : Win32) (left right : List WCHAR) : ℤ :=
  match w.compareStringOrdinal left right with
  | .lt => -1
  | .gt => 1
  | .eq => 0

/-- `compare_numbers`. -/
def compareNumbers (left right : ULONGLONG) : ℤ :=
  if left < right then -1 else if left > right then 1 else 0

/-- `compare_event_times`. -/
def compareEventTimes (w : Win32) (left right : TraceGlassEvent) : ℤ :=
  let bySequence := compareNumbers left.sequence right.sequence
  match w.systemTimeToFileTime left.timestamp, w.systemTimeToFileTime right.timestamp with
  | some leftTime, some rightTime =>
      let result := compareNumbers leftTime rightTime
      if result ≠ 0 then result else bySequence
  | _, _ => bySequence

/-- `compare_endpoints`. -/
def compareEndpoints (w : Win32) (left right : TraceGlassEvent) (remote : Bool) : ℤ :=
  let result := compareText w
    (if remote then left.remoteAddress.chars else left.localAddress.chars)
    (if remote then right.remoteAddress.chars else right.localAddress.chars)
  if result ≠ 0 then result
  else
    compareNumbers
      (if remote then left.remotePort.toUInt64 else left.localPort.toUInt64)
      (if remote then right.remotePort.toUInt64 else right.localPort.toUInt64)

/-- The switch of the timeline. -/
def compareTimelineColumn (w : Win32) (column : ℤ) (left right : TraceGlassEvent) : ℤ :=
  match column with
  | 0 => compareEventTimes w left right
  | 1 => compareText w (eventCategoryName left.type) (eventCategoryName right.type)
  | 2 => compareText w left.processName.chars right.processName.chars
  | 3 => compareNumbers left.process.pid.toUInt64 right.process.pid.toUInt64
  | 4 => compareText w left.details.chars right.details.chars
  | _ => 0

/-- The switch of the network table. -/
def compareNetworkColumn (w : Win32) (column : ℤ) (left right : TraceGlassEvent) : ℤ :=
  match column with
  | 0 => compareEventTimes w left right
  | 1 => compareText w left.processName.chars right.processName.chars
  | 2 => compareNumbers left.process.pid.toUInt64 right.process.pid.toUInt64
  | 3 => compareText w left.protocol.chars right.protocol.chars
  | 4 => compareEndpoints w left right false
  | 5 => compareEndpoints w left right true
  | 6 => compareText w left.networkState.chars right.networkState.chars
  | _ => 0

/-- The switch of the alert table. -/
def compareAlertColumn (w : Win32) (column : ℤ) (left right : TraceGlassEvent) : ℤ :=
  match column with
  | 0 => compareEventTimes w left right
  | 1 => compareNumbers (.ofNat left.severity.toNat) (.ofNat right.severity.toNat)
  | 2 => compareText w left.ruleName.chars right.ruleName.chars
  | 3 => compareText w left.processName.chars right.processName.chars
  | 4 => compareText w left.details.chars right.details.chars
  | _ => 0

/-- `compare_event_items`. -/
def compareEventItems (w : Win32) (store : EventStore) (sort : SortState)
    (leftIndex rightIndex : ℕ) : ℤ :=
  if leftIndex ≥ store.eventCount ∨ rightIndex ≥ store.eventCount then 0
  else
    let left := store.events.getD leftIndex .zero
    let right := store.events.getD rightIndex .zero
    let result :=
      match sort.view with
      | .timeline => compareTimelineColumn w sort.column left right
      | .network => compareNetworkColumn w sort.column left right
      | .alerts => compareAlertColumn w sort.column left right
      | .overview => 0
      | .processes => 0
    let result :=
      if result = 0 then compareNumbers left.sequence right.sequence else result
    if sort.ascending then result else -result

end TraceGlass
