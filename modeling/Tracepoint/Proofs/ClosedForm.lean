import Tracepoint.Proofs.Loading
import Tracepoint.Proofs.Overrides

namespace List

variable {α : Type} [BEq α] [LawfulBEq α]

end List

namespace Tracepoint

namespace Entries

variable {α : Type} {key : String} {value : α}

end Entries

namespace Settings

variable {key spelling : String} {value : Value} {sources : List (Entries Value)}

variable {env : Environment} {file : Option String} {project named : Entries Value}

end Settings

end Tracepoint
