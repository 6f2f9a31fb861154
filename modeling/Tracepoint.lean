import Tracepoint.Main
import Tracepoint.Session
import Tracepoint.Proofs.Ordinals
import Tracepoint.Proofs.Parameters
import Tracepoint.Proofs.Declaration
import Tracepoint.Proofs.Entries
import Tracepoint.Proofs.Names
import Tracepoint.Proofs.Priority
import Tracepoint.Proofs.Outcome
import Tracepoint.Proofs.Stepwise
import Tracepoint.Proofs.Disabling
import Tracepoint.Proofs.Probes
import Tracepoint.Proofs.Validation
import Tracepoint.Proofs.Registration
import Tracepoint.Proofs.ArgumentCount
import Tracepoint.Proofs.History
import Tracepoint.Proofs.DeclaredTypes
import Tracepoint.Proofs.Loading
import Tracepoint.Proofs.Overrides
import Tracepoint.Proofs.Selection
import Tracepoint.Proofs.Verbosity
import Tracepoint.Proofs.Tally
import Tracepoint.Proofs.ClosedForm
import Tracepoint.Proofs.Refusal
import Tracepoint.Proofs.Formats
import Tracepoint.Proofs.Concatenation
import Tracepoint.Proofs.ArgumentNames
import Tracepoint.Proofs.NormalForm
import Tracepoint.Proofs.Signatures
import Tracepoint.Proofs.Variables
import Tracepoint.Proofs.FinalContext
import Tracepoint.Proofs.Confinement
import Tracepoint.Proofs.Loggers
import Tracepoint.Proofs.OutputLines
