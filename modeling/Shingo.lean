import Shingo.Go.Int64
import Shingo.Go.Sql
import Shingo.Plc.Delta
import Shingo.Plc.Hourly
import Shingo.Plc.Counts
import Shingo.Production.Shifts
import Shingo.Outbox.Store
import Shingo.Outbox.Drainer
import Shingo.Outbox.Retries
import Shingo.Outbox.Fifo
import Shingo.Fleet.Poller
import Shingo.Fleet.Schedule
import Shingo.Fleet.Http
import Shingo.Lifecycle.Stop
import Shingo.Protocol.Envelope
import Shingo.Protocol.Ingestor
import Shingo.Core.Handler
import Shingo.Core.Dashboard
import Shingo.Lifecycle.Heartbeat
import Shingo.Edge.ManualMessage
import Shingo.Debuglog.Ring
import Shingo.Debuglog.File
