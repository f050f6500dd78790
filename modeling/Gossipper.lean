import Gossipper.Transport.Tcp
import Gossipper.Transport.SharedUdp
import Gossipper.Engine.HotReload
import Gossipper.Engine.DispatchOrder
import Gossipper.Engine.RecvFailure
import Gossipper.Engine.RouteSet
import Gossipper.Template.Parity
import Gossipper.Engine.ContentLength
import Gossipper.Engine.Client
import Gossipper.Engine.CallLimit
import Gossipper.Engine.Correlation
import Gossipper.Engine.Shutdown
import Gossipper.Engine.Pooled
import Gossipper.Engine.DigestConsistency
import Gossipper.Sip.ResponseCopy
import Gossipper.Media.Continuity
import Gossipper.Media.Accounting
import Gossipper.Loadtest.Run
import Gossipper.Api.Admins
import Gossipper.Api.Identity
import Gossipper.Supervisor.Lifecycle
import Gossipper.Supervisor.JobsList
import Gossipper.Engine.AuthTokens
import Gossipper.Cli.CompositeFlat
import Gossipper.Engine.Vars
import Gossipper.Hep.RoundTrip
import Gossipper.Engine.Branches
import Gossipper.Engine.AutoAck
import Gossipper.Media.ScaleOrder
import Gossipper.Transport.Reconnect
import Gossipper.Engine.DynSemaphore
import Gossipper.Eventlog.Buffer
import Gossipper.Launcher.LoadCoordinator
import Gossipper.Template.CsvIndex
import Gossipper.Scheduler.Rate
import Gossipper.Media.ReceiverReport
import Gossipper.Media.Dtmf
import Gossipper.Stats.Latency
import Gossipper.Engine.SampleValues
import Gossipper.Eventlog.Text
import Gossipper.Media.Sdp
import Gossipper.Pcap2scenario.Dialog
import Gossipper.Pcap2scenario.DialogOrder
