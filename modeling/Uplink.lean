import Uplink.Config.Document
import Uplink.Config.Remote
import Uplink.Connector.Run
import Uplink.Demo.Session
import Uplink.Frame.Runs
import Uplink.Frame.Stream
import Uplink.Main
import Uplink.Payload.Registry
import Uplink.Pool.Interleaving
import Uplink.Proofs.Config.Sections
import Uplink.Proofs.Config.WaterMarks
import Uplink.Proofs.Connector.Cancel
import Uplink.Proofs.Connector.Capacity
import Uplink.Proofs.Connector.Completion
import Uplink.Proofs.Connector.Exclusive
import Uplink.Proofs.Connector.Management
import Uplink.Proofs.Connector.Refusal
import Uplink.Proofs.Connector.Remains
import Uplink.Proofs.Fabric.Hearing
import Uplink.Proofs.Fabric.Register
import Uplink.Proofs.Fabric.Stopping
import Uplink.Proofs.Frame.Overlong
import Uplink.Proofs.Frame.RoundTrip
import Uplink.Proofs.Frame.Segmentation
import Uplink.Proofs.Frame.Stream
import Uplink.Proofs.Latch.Firing
import Uplink.Proofs.Payload.Reading
import Uplink.Proofs.Pool.Emptied
import Uplink.Proofs.Pool.Rotation
import Uplink.Proofs.Pool.Times
import Uplink.Proofs.Pool.Wakeup
import Uplink.Proofs.Tcp.Backlog
import Uplink.Proofs.Transport.Address
import Uplink.Proofs.Transport.AddressGrammar
import Uplink.Proofs.Watchdog.Jobs
import Uplink.Rehearsal.Pool
import Uplink.Rehearsal.Tcp
import Uplink.Report.Rehearsal
import Uplink.Time.Clock
import Uplink.Transport.SocketAddress
