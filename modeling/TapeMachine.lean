import TapeMachine.Main
import TapeMachine.Proofs.Machine.JumpTable
import TapeMachine.Proofs.Machine.Structured
import TapeMachine.Proofs.Machine.Comments
import TapeMachine.Proofs.Machine.Bounds
import TapeMachine.Proofs.Machine.Lockstep
import TapeMachine.Proofs.Machine.Ring
import TapeMachine.Proofs.Machine.LargerTape
import TapeMachine.Proofs.Machine.Sessions
import TapeMachine.Proofs.Machine.Exchange
import TapeMachine.Proofs.Machine.Arithmetic
import TapeMachine.Proofs.Machine.Wrapping
import TapeMachine.Proofs.Program.Append
import TapeMachine.Proofs.Machine.Sequence
import TapeMachine.Proofs.Machine.Header
import TapeMachine.Proofs.Machine.Reading
import TapeMachine.Proofs.Machine.Unread
import TapeMachine.Proofs.Machine.Frame
import TapeMachine.Proofs.Program.StackMatching
import TapeMachine.Proofs.Machine.Partners
import TapeMachine.Proofs.Machine.Faults
import TapeMachine.Proofs.Options.Parity
import TapeMachine.Proofs.Cli.CommandLine
import TapeMachine.Proofs.Cli.Layers
import TapeMachine.Proofs.Cli.Exits
import TapeMachine.Proofs.Options.UnknownNames
