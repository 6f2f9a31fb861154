namespace Tracepoint

inductive Level
  | debug
  | info
  | warning
  | error
  | critical
  deriving DecidableEq

namespace Level

def all : List Level := [debug, info, warning, error, critical]

def name : Level → String
  | debug => "DEBUG"
  | info => "INFO"
  | warning => "WARNING"
  | error => "ERROR"
  | critical => "CRITICAL"

def rank : Level → Nat
  | debug => 10
  | info => 20
  | warning => 30
  | error => 40
  | critical => 50

end Level

structure Record where
  logger : String
  level : Level
  message : String
  deriving DecidableEq

/-- The logger above all others of the program. -/
def rootLogger : String := "tracetool"

/-- A name that does not already begin like the root logger's is put below it. -/
def loggerName : Option String → String
  | none => rootLogger
  | some name => if rootLogger.isPrefixOf name then name else s!"{rootLogger}.{name}"

/-- The state of the root logger. -/
structure Logging where
  level : Level
  handlers : Nat
  propagates : Bool
  deriving DecidableEq

namespace Logging

/-- The level that the two switches select; quiet prevails. -/
def levelFor (verbose quiet : Bool) : Level :=
  if quiet then .error else if verbose then .debug else .warning

/-- As the logger is found, before it has been set up. -/
def initial : Logging := ⟨.warning, 0, true⟩

def clearHandlers (l : Logging) : Logging := { l with handlers := 0 }

def addHandler (l : Logging) : Logging := { l with handlers := l.handlers + 1 }

/-- The one handler replaces all earlier ones. -/
def setup (l : Logging) (verbose quiet : Bool) : Logging :=
  { l.clearHandlers.addHandler with level := levelFor verbose quiet, propagates := false }

def keeps (l : Logging) (level : Level) : Bool := l.level.rank ≤ level.rank

def filter (l : Logging) (records : List Record) : List Record :=
  records.filter fun r => l.keeps r.level

end Logging

end Tracepoint
