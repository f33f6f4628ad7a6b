import Strided.Device.KernelSource
import Strided.ExecConfig.Environment
import Strided.Storage.Shelf
import Strided.Workspace.Command
import Strided.Proofs.Addressing
import Strided.Proofs.Broadcasting
import Strided.Proofs.Lowering
import Strided.Proofs.Coverage
import Strided.Proofs.Selection
import Strided.Proofs.Launching
import Strided.Proofs.Ownership
import Strided.Proofs.Assignment
import Strided.Device.Evaluation
import Strided.Proofs.DeviceArithmetic
import Strided.Proofs.Interleaving
import Strided.Proofs.Rendering
import Strided.Proofs.Upkeep
import Strided.Proofs.ValueModel
import Strided.Proofs.Renewal
import Strided.Proofs.Simulation
import Strided.Proofs.Tracking
import Strided.Proofs.Refinement
import Strided.Proofs.Transferring
import Strided.Proofs.Writing
import Strided.Device.Execution
import Strided.Proofs.IndexWalk
import Strided.Proofs.Rereading
import Strided.Proofs.IndexText
import Strided.Proofs.Declaring
import Strided.Proofs.Joining
import Strided.Proofs.MovedFrom
import Strided.Proofs.Shelving
import Strided.Proofs.Skeletons
import Strided.Proofs.Flattening
import Strided.Proofs.Equality
import Strided.Proofs.Updating
import Strided.Proofs.Restriction
import Strided.Proofs.Calculating
import Strided.Proofs.Faults
import Strided.Proofs.Overflow
import Strided.Proofs.Limits
import Strided.Proofs.Odometer
import Strided.Proofs.Contiguity
import Strided.Device.Reading
import Strided.Proofs.Subscripting
import Strided.Proofs.Nesting
import Strided.Proofs.Retaining
import Strided.Layout.Calculation
import Strided.Proofs.Assigning
import Strided.Proofs.Custody
import Strided.Proofs.ValueRuns
import Strided.Proofs.WindowWrites
