import TraceGlass.Lib.Run
import TraceGlass.Lib.BackScan
import TraceGlass.Lib.Lists
import TraceGlass.Lib.SortedArray
import TraceGlass.Lib.LinkedFifo
import TraceGlass.Lib.Comparator
import TraceGlass.Lib.Forest
import TraceGlass.Lib.Unicode
import TraceGlass.Lib.Json
import TraceGlass.Lib.Csv
import TraceGlass.Lib.Block
import TraceGlass.Lib.Threads
import TraceGlass.Lib.OwnedFifo
import TraceGlass.Lib.Solo
import TraceGlass.Lib.HeapLogic
import TraceGlass.Detection.Exact
import TraceGlass.Store.Identity
import TraceGlass.Store.OrderIndependence
import TraceGlass.Store.Instance
import TraceGlass.Store.Failure
import TraceGlass.Store.History
import TraceGlass.Store.Records
import TraceGlass.Store.Memory
import TraceGlass.Monitor.Fallback
import TraceGlass.Monitor.Reconcile
import TraceGlass.Monitor.Snapshot
import TraceGlass.Network.Edges
import TraceGlass.Etw.Delivery
import TraceGlass.Etw.Strings
import TraceGlass.App.Wakeup
import TraceGlass.App.Recovery
import TraceGlass.App.History
import TraceGlass.App.Alerts
import TraceGlass.Gui.Ages
import TraceGlass.Gui.Freshness
import TraceGlass.Gui.Pause
import TraceGlass.Gui.TableOrder
import TraceGlass.Gui.Menu
import TraceGlass.Gui.Overview
import TraceGlass.Export.Json
import TraceGlass.Export.Csv
import TraceGlass.Export.Overwrite
import TraceGlass.Export.Text
import TraceGlass.Export.Suffice
import TraceGlass.Telemetry.Shutdown
import TraceGlass.Telemetry.Refinement
import TraceGlass.Telemetry.Connections
import TraceGlass.Telemetry.Tracking
import TraceGlass.Telemetry.Memory
