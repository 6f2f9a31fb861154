namespace Tracepoint

inductive Kind
  | header
  | source
  | descriptor
  | tapset
  deriving DecidableEq

namespace Kind

def all : List Kind := [header, source, descriptor, tapset]

def label : Kind → String
  | header => "header"
  | source => "source"
  | descriptor => "descriptor"
  | tapset => "tapset"

/-- The name by which a kind is asked for. -/
def flag : Kind → String
  | header => "h"
  | source => "c"
  | descriptor => "d"
  | tapset => "stap"

def generator : Kind → String
  | header => "Header generator"
  | source => "Source generator"
  | descriptor => "DTrace probe generator"
  | tapset => "SystemTAP tapset generator"

def ofFlag? (flag : String) : Option Kind := all.find? (·.flag = flag)

theorem ofFlag?_flag (k : Kind) : ofFlag? k.flag = some k := by
  cases k <;> decide

end Kind

end Tracepoint
