import Offload.Main
import Offload.Proofs.Descriptor.Scan
import Offload.Proofs.Bridge.Lifecycle
import Offload.Proofs.Bridge.Readiness
import Offload.Proofs.Run.References
import Offload.Proofs.Session.Executions
import Offload.Proofs.Session.Apart
import Offload.Proofs.Simulator.Kernels
import Offload.Proofs.Simulator.Histories
import Offload.Proofs.Bridge.Interleaving
import Offload.Proofs.Bridge.Stepwise
import Offload.Proofs.Bridge.Attempts
import Offload.Proofs.Command.Arguments
import Offload.Proofs.Command.Run
import Offload.Proofs.Settings.RoundTrip
import Offload.Proofs.Run.Registrations
import Offload.Proofs.Session.Heaps
import Offload.Proofs.Marshal.Handover
import Offload.Proofs.Session.Ownership
import Offload.Proofs.Session.Courses
import Offload.Proofs.Bridge.Cores
import Offload.Proofs.Marshal.Validation
import Offload.Proofs.Descriptor.Completion
import Offload.Proofs.Command.Spellings
import Offload.Proofs.Session.Loading
import Offload.Proofs.Settings.Precedence
import Offload.Proofs.Command.Lines
import Offload.Proofs.Command.Options
