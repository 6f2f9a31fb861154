import Tracepoint.Proofs.Text.Words
import Tracepoint.Text.Console

namespace Tracepoint.Text

variable {c : Char} {cs : List Char}

end Tracepoint.Text
