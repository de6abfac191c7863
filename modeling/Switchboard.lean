import Switchboard.Main
import Switchboard.Module.Solo
import Switchboard.Proofs.Config.RoundTrip
import Switchboard.Proofs.Framing.Calls
import Switchboard.Proofs.Framing.Canonical
import Switchboard.Proofs.Framing.Reference
import Switchboard.Proofs.Framing.Resynchronisation
import Switchboard.Proofs.Framing.RoundTrip
import Switchboard.Proofs.Module.Release
import Switchboard.Proofs.Module.TcpClient.Isolation
import Switchboard.Proofs.Module.TcpClient.Output
import Switchboard.Proofs.Module.TcpServer.Isolation
import Switchboard.Proofs.Module.TcpServer.Output
import Switchboard.Proofs.Module.TcpServer.Table
import Switchboard.Proofs.Params.Extraction
import Switchboard.Proofs.Processor.Conversion
import Switchboard.Proofs.Processor.Document
import Switchboard.Proofs.Processor.Integer
import Switchboard.Proofs.Processor.Interchange
import Switchboard.Proofs.Registry.Builtin
import Switchboard.Proofs.Registry.Keys
import Switchboard.Proofs.Route.Running
import Switchboard.Proofs.Router.Concurrency
import Switchboard.Proofs.Router.Crash
import Switchboard.Proofs.Router.Deletion
import Switchboard.Proofs.Router.Lifecycle
import Switchboard.Proofs.Router.Shutdown
import Switchboard.Proofs.Transport.Link
