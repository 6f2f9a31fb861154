namespace Tracepoint

inductive Backend
  | nop
  | simple
  | stderr
  | ust
  | dtrace
  deriving DecidableEq

namespace Backend

/-- In the order in which they are listed. -/
def all : List Backend := [nop, simple, stderr, ust, dtrace]

def name : Backend → String
  | nop => "nop"
  | simple => "simple"
  | stderr => "stderr"
  | ust => "ust"
  | dtrace => "dtrace"

def description : Backend → String
  | nop => "Tracing disabled."
  | simple => "Simple built-in backend."
  | stderr => "Stderr built-in backend."
  | ust => "LTTng User Space Tracing backend."
  | dtrace => "DTrace/SystemTAP backend."

def ofName? (name : String) : Option Backend := all.find? (·.name = name)

/-- The names of all backends in one line. -/
def names : String := " ".intercalate (all.map name)

theorem ofName?_name (b : Backend) : ofName? b.name = some b := by
  cases b <;> decide

end Backend

end Tracepoint
