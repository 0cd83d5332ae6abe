import PlainShell.Main
import PlainShell.Proofs.Turns
import PlainShell.Proofs.Routing
import PlainShell.Proofs.Outcome
import PlainShell.Proofs.Command
import PlainShell.Proofs.ExecutedCommands
import PlainShell.Proofs.Complaint
import PlainShell.Proofs.Leaving
import PlainShell.Proofs.NormalForm
import PlainShell.Proofs.RelativeForm
import PlainShell.Proofs.SearchList
import PlainShell.Proofs.DirectoryEffect
import PlainShell.Proofs.Arrival
import PlainShell.Proofs.DirectoryHistory
import PlainShell.Proofs.Isolation
import PlainShell.Proofs.StartFailures
import PlainShell.Proofs.Delivery
import PlainShell.Proofs.Octets
import PlainShell.Proofs.Entrance
import PlainShell.Proofs.Spacing
import PlainShell.Proofs.Typed
import PlainShell.Proofs.Verbatim
import PlainShell.Proofs.Queue
import PlainShell.Proofs.OutputKinds
import PlainShell.Proofs.Repair
import PlainShell.Proofs.Frame
import PlainShell.Proofs.Given
import PlainShell.Proofs.Severity
import PlainShell.Proofs.Shortcut
import PlainShell.Proofs.Composition
import PlainShell.Proofs.Scanning
import PlainShell.Proofs.FirstFound
import PlainShell.Proofs.Cleaning
import PlainShell.Proofs.AbsoluteList
import PlainShell.Proofs.Reading
import PlainShell.Proofs.Registration
import PlainShell.Proofs.Containment
import PlainShell.Proofs.Interleaving
import PlainShell.Proofs.UserErrors
import PlainShell.Proofs.Placement
import PlainShell.Proofs.Capitals
import PlainShell.Proofs.Fallback
import PlainShell.Proofs.UnflushedOutput
import PlainShell.Proofs.Precedence
import PlainShell.Proofs.Variables
