import Tracepoint.Backend
import Tracepoint.Kind
import Tracepoint.Signature
import Tracepoint.Text.Utf8

namespace Tracepoint

/-- Failures by what was being done, the last two groups in turn divided. -/
inductive Family
  | tool
  | configuration
  | invalidSetting
  | missingOption
  | generation
  | unknownBackend
  | unsupportedOutput
  deriving DecidableEq

namespace Family

/-- The name under which a failure is logged. -/
def label : Family → String
  | tool => "TracetoolError"
  | configuration => "ConfigurationError"
  | invalidSetting => "InvalidConfigError"
  | missingOption => "MissingOptionError"
  | generation => "GenerationError"
  | unknownBackend => "UnknownBackendError"
  | unsupportedOutput => "UnsupportedOutputError"

/-- A family and the wider ones around it, the widest last. -/
def lineage : Family → List Family
  | tool => [tool]
  | configuration => [configuration, tool]
  | invalidSetting => [invalidSetting, configuration, tool]
  | missingOption => [missingOption, configuration, tool]
  | generation => [generation, tool]
  | unknownBackend => [unknownBackend, generation, tool]
  | unsupportedOutput => [unsupportedOutput, generation, tool]

def all : List Family :=
  [tool, configuration, invalidSetting, missingOption, generation, unknownBackend,
    unsupportedOutput]

def ofLabel? (label : String) : Option Family := all.find? (·.label = label)

/-- What a failure of this family is made from. The wide families take any details. -/
def signature (f : Family) : Signature :=
  let own (parameters : List String) : Signature :=
    { operation := f.label ++ ".__init__", parameters }
  match f with
  | tool | configuration | generation =>
    { operation := tool.label ++ ".__init__", parameters := ["message"], isOpen := true }
  | invalidSetting => own ["key", "value", "reason"]
  | missingOption => own ["option", "reason"]
  | unknownBackend => own ["name", "known"]
  | unsupportedOutput => own ["generator", "backend"]

end Family

inductive FileFault
  | malformed
  | directory
  | notTable
  deriving DecidableEq

def FileFault.message (path : String) : FileFault → String
  | malformed => "<toml error>"
  | directory => "[Errno 21] Is a directory: " ++ Value.quotedString path
  | notTable => "[tracetool] must be a table"

inductive ConfigurationFault
  | fileMissing (path : String)
  | fileUnusable (path : String) (fault : FileFault)
  | rejected (cause : Misuse)
  | severalBackends (backends : List Backend)
  | noBackend
  | kindCount
  deriving DecidableEq

def ConfigurationFault.message : ConfigurationFault → String
  | fileMissing path => s!"Config file not found: {path}"
  | fileUnusable path fault =>
    let reason := fault.message path
    s!"Invalid config file '{path}': {reason}"
  | rejected cause => "Invalid configuration: " ++ cause.message
  | severalBackends backends =>
    let flags := ", ".intercalate (backends.map fun b => "--" ++ b.name)
    s!"Only one backend may be selected, got {flags}"
  | noBackend => "A backend is required (--nop, --simple, --stderr, --ust, --dtrace)"
  | kindCount => "Exactly one output kind is required (-h, -c, -d, --stap)"

/-- Where a failure belongs that states its message in full. -/
inductive Scope
  | tool
  | configuration
  | generation
  deriving DecidableEq

inductive Failure
  | stated (scope : Scope) (summary : Value) (details : Entries Value)
  | configuration (fault : ConfigurationFault)
  | invalidSetting (key value reason : Value)
  | missingOption (option reason : Value)
  | unknownBackend (name known : Value)
  | unsupportedOutput (generator backend : Value)

namespace Failure

def family : Failure → Family
  | stated .tool _ _ => .tool
  | stated .configuration _ _ => .configuration
  | stated .generation _ _ => .generation
  | configuration _ => .configuration
  | invalidSetting .. => .invalidSetting
  | missingOption .. => .missingOption
  | unknownBackend .. => .unknownBackend
  | unsupportedOutput .. => .unsupportedOutput

/-- The failure that these values make. -/
def make (f : Family) (positional : List Value) (named : Entries Value) :
    Except Misuse Failure := do
  let (own, other) ← f.signature.bind positional named
  let valueOf (key : String) := (own.get? key).getD .null
  return match f with
  | .tool => .stated .tool (valueOf "message") other
  | .configuration => .stated .configuration (valueOf "message") other
  | .generation => .stated .generation (valueOf "message") other
  | .invalidSetting => .invalidSetting (valueOf "key") (valueOf "value") (valueOf "reason")
  | .missingOption => .missingOption (valueOf "option") (valueOf "reason")
  | .unknownBackend => .unknownBackend (valueOf "name") (valueOf "known")
  | .unsupportedOutput => .unsupportedOutput (valueOf "generator") (valueOf "backend")

/-- The message proper; only a failure that states it can have one that is not a string. -/
def summary : Failure → Value
  | stated _ summary _ => summary
  | configuration fault => fault.message
  | invalidSetting key value _ =>
    let (key, value) := (key.text, value.text)
    s!"Invalid configuration for {key}: {value}"
  | missingOption option reason =>
    let (option, reason) := (option.text, reason.text)
    s!"{option} is required for {reason}"
  | unknownBackend name _ => "Unknown backend: " ++ name.literal
  | unsupportedOutput generator backend =>
    let (generator, backend) := (generator.text, backend.text)
    s!"{generator} not applicable to {backend} backend"

/-- Particulars for the reader of the message. -/
def details : Failure → Entries String
  | stated _ _ details => details.map fun (key, value) => (key, value.text)
  | invalidSetting key value reason =>
    [("key", key.text), ("value", value.text), ("reason", reason.text)]
  | unknownBackend _ known => [("known", known.text)]
  | _ => []

/-- What a failure keeps of the values that it was made from. -/
def attributes : Failure → Entries Value
  | invalidSetting key value reason => [("key", key), ("value", value), ("reason", reason)]
  | missingOption option reason => [("option", option), ("reason", reason)]
  | unknownBackend name _ => [("name", name)]
  | unsupportedOutput generator backend => [("generator", generator), ("backend", backend)]
  | _ => []

/-- The message with the particulars, if any, in parentheses. -/
def message (f : Failure) : String :=
  let summary := f.summary.text
  match f.details with
  | [] => summary
  | details =>
    let list := ", ".intercalate (details.map fun (key, value) => s!"{key}={value}")
    s!"{summary} ({list})"

/-- The message, if it can be shown: with no particulars it has to be a string by itself. -/
def shownMessage (f : Failure) : Except Misuse String :=
  match f.details, f.summary with
  | [], .str s => .ok s
  | [], summary => .error (.notText summary.typeName)
  | _, _ => .ok f.message

end Failure

/-- Whatever stops an operation. -/
inductive Fault
  | failure (f : Failure)
  | unknownKind (value : Value)
  | misuse (cause : Misuse)
  | undecodable (fault : Utf8.Fault)
  /-- A whole number to be read has more digits than are read. -/
  | longNumber (digits : Nat)
  | longFileName (path : String)
  /-- Values to be read stand too deep in one another. -/
  | tooDeep
  /-- A value that has been read cannot be written. -/
  | unwritable (obstacle : Value.Obstacle)
  | interrupted

def longNumberMessage (digits? : Option Nat) : String :=
  let limit := Value.digitLimit
  let found := match digits? with
    | some count => s!": value has {count} digits"
    | none => ""
  s!"Exceeds the limit ({limit} digits) for integer string conversion{found}; " ++
    "use sys.set_int_max_str_digits() to increase the limit"

def Fault.message : Fault → String
  | failure f => f.message
  | unknownKind value => value.literal ++ " is not a valid OutputKind"
  | misuse cause => cause.message
  | undecodable fault => fault.message
  | longNumber digits => longNumberMessage (some digits)
  | longFileName path => "[Errno 36] File name too long: " ++ Value.quotedString path
  | tooDeep => "maximum recursion depth exceeded"
  | unwritable .longNumber => longNumberMessage none
  | unwritable .tooDeep => "maximum recursion depth exceeded while getting the repr of an object"
  | interrupted => ""

def Value.checkWritable (v : Value) : Except Fault Unit :=
  match v.obstacle? with
  | none => .ok ()
  | some obstacle => .error (.unwritable obstacle)

theorem Value.checkWritable_eq_ok {v : Value} (h : v.obstacle? = none) :
    v.checkWritable = .ok () := by
  simp [Value.checkWritable, h]

def Backend.resolve (name : Value) : Except Failure Backend :=
  match name with
  | .str s => match Backend.ofName? s with
    | some b => .ok b
    | none => .error (.unknownBackend name Backend.names)
  | _ => .error (.unknownBackend name Backend.names)

/-- Only single values can be looked up among the names. -/
def Backend.exists (name : Value) : Except Misuse Bool :=
  match name with
  | .str s => .ok (Backend.ofName? s).isSome
  | .array _ | .table _ => .error (.unhashable name.typeName)
  | _ => .ok false

def Kind.resolve (flag : Value) : Except Fault Kind :=
  match flag with
  | .str s => match Kind.ofFlag? s with
    | some k => .ok k
    | none => .error (.unknownKind flag)
  | _ => .error (.unknownKind flag)

end Tracepoint
