import EventMonitor.Library.TransitionSystem
import EventMonitor.Library.Effect
import EventMonitor.Library.KeyedTable
import EventMonitor.Library.CompetingConsumers
import EventMonitor.Library.OwnedRows
import EventMonitor.Library.DecimalText
import EventMonitor.Library.SeparatedText
import EventMonitor.Library.DottedText
import EventMonitor.Library.ReadThroughCache
import EventMonitor.Dao.Event
import EventMonitor.Dao.Version
import EventMonitor.Service.EventServiceImpl
import EventMonitor.Service.ProcessEvent
import EventMonitor.Service.Publication
import EventMonitor.Service.Timestamp
import EventMonitor.Service.VersionServiceImpl
import EventMonitor.Service.VersionCache
import EventMonitor.Listener.IncomingEventListener
import EventMonitor.Listener.ProcessingTime
import EventMonitor.Listener.Notifications
import EventMonitor.Listener.NotificationText
import EventMonitor.Pipeline.System
import EventMonitor.Pipeline.Moves
import EventMonitor.Pipeline.ListenerCall
import EventMonitor.Pipeline.Ledger
import EventMonitor.Pipeline.Broadcasts
import EventMonitor.Pipeline.ExactlyOnce
import EventMonitor.Pipeline.Order
import EventMonitor.Pipeline.Errors
import EventMonitor.Pipeline.RowIsolation
import EventMonitor.Page.Script
import EventMonitor.Page.System
import EventMonitor.Page.Moves
import EventMonitor.Page.Line
import EventMonitor.Page.Shown
import EventMonitor.Page.OneLine
import EventMonitor.Page.Reconnects
import EventMonitor.Pipeline.Progress
import EventMonitor.Stomp.Transmit
import EventMonitor.Stomp.HeldSubscriptions
import EventMonitor.Stomp.Heartbeats
import EventMonitor.Stomp.Refinement
import EventMonitor.SockJs.BufferedSender
import EventMonitor.SockJs.Polling
import EventMonitor.SockJs.Refinement
import EventMonitor.Page.Recovery
import EventMonitor.Monitor.Delivery
