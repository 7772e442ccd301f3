import StackMachine.Api
import StackMachine.FileTree
import StackMachine.Http.Message
import StackMachine.Main
import StackMachine.Proofs.AnsweredRequests
import StackMachine.Proofs.Arithmetic
import StackMachine.Proofs.BoundedRun
import StackMachine.Proofs.Checks
import StackMachine.Proofs.CommandOutcome
import StackMachine.Proofs.CommandWords
import StackMachine.Proofs.Composition
import StackMachine.Proofs.FirstError
import StackMachine.Proofs.ForwardJumps
import StackMachine.Proofs.HandleOpacity
import StackMachine.Proofs.IssuedHandles
import StackMachine.Proofs.LastWrite
import StackMachine.Proofs.LibraryAgreement
import StackMachine.Proofs.Listing
import StackMachine.Proofs.OneLine
import StackMachine.Proofs.OptionValues
import StackMachine.Proofs.PlainSteps
import StackMachine.Proofs.Precedence
import StackMachine.Proofs.Reformatting
import StackMachine.Proofs.StackBase
import StackMachine.Proofs.TemporalSafety
import StackMachine.Proofs.TrimmedSettings
import StackMachine.Proofs.WireForm
