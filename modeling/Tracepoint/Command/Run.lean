import Tracepoint.Command.Arguments
import Tracepoint.Settings.Sources
import Tracepoint.Text.Console

namespace Tracepoint.Command

/-- What a run leaves behind. -/
structure Outcome where
  exit : Nat
  stdout : String := ""
  stderr : String := ""
  log : List Record := []

/-- A file that is settled to be generated. -/
structure Job where
  backend : Backend
  kind : Kind
  options : Options
  logging : Logging
  log : List Record

inductive Plan
  | done (outcome : Outcome)
  | job (job : Job) (input : String)

def version : String := "0.2.0"

/-- Standard input goes by the name of a dash. -/
def standardInput : String := "-"

def usage : String := "Usage: tracetool [OPTIONS] [INPUT_FILE]\n"

def errorLine (label message : String) : String :=
  Text.shown s!"{label}: {message}" ++ "\n"

/-- How a run ends on a fault. Failures are expected and logged for debugging only. -/
def failed (logging : Logging) (log : List Record) (fault : Fault) : Outcome :=
  let kept (level : Level) (message : String) :=
    log ++ logging.filter [⟨rootLogger, level, message⟩]
  match fault with
  | .failure f =>
    { exit := 1
      stderr := errorLine "Error" f.message
      log := kept .debug s!"{f.family.label}: {f.message}" }
  | .interrupted => { exit := 130, stderr := "\nInterrupted\n", log }
  | fault =>
    { exit := 1
      stderr := errorLine "Unexpected error" fault.message
      log := kept .error "Unexpected error during generation" }

/-- The backend of the one switch, or else that of the settings. -/
def pickBackend (switched : List Backend) (set? : Option Backend) :
    Except ConfigurationFault Backend :=
  match switched, set? with
  | [b], _ => .ok b
  | [], some b => .ok b
  | [], none => .error .noBackend
  | several, _ => .error (.severalBackends several)

def pickKind : List Kind → Except ConfigurationFault Kind
  | [k] => .ok k
  | _ => .error .kindCount

/-- The settings that the arguments override. -/
def overrides (a : Arguments) : Entries Value :=
  let given (o : ValueOption) : Value :=
    match a.value? o with
    | some s => .str s
    | none => .null
  [("backend", given .backend), ("binary", given .binary), ("target_arch", given .targetArch),
    ("target_type", given .targetType), ("probe_prefix", given .probePrefix),
    ("verbose", .bool (a.has .verbose)), ("quiet", .bool (a.has .quiet))]

def loggingFor (l : Logging) (s : Settings) : Logging :=
  l.setup (s.verbosity = .verbose) (s.verbosity = .quiet)

def settingsRecord (s : Settings) : Record :=
  ⟨rootLogger, .debug, "Loaded settings: " ++ s.literal⟩

/-- Loads the settings and picks what is to be generated. -/
def prepare (env : Environment) (a : Arguments) : Except Outcome Job := do
  let logging := Logging.initial.setup (a.has .verbose) (a.has .quiet)
  let s ← (Settings.load env (a.value? .config) (overrides a)).mapError (failed logging [])
  let logging := loggingFor logging s
  if logging.keeps .debug then
    if let some obstacle := s.obstacle? then throw (failed logging [] (.unwritable obstacle))
  let log := logging.filter [settingsRecord s]
  let refuse (fault : ConfigurationFault) := failed logging log (.failure (.configuration fault))
  let backend ← (pickBackend a.backends s.backend).mapError refuse
  let kind ← (pickKind a.kinds).mapError refuse
  return { backend, kind, options := s.options, logging, log }

/-- Whether the job can be done whatever the input is, so that the input is worth reading. -/
def Job.isValid (job : Job) : Bool := (validate job.backend job.kind job.options).isOk

def Job.finish (job : Job) (input : Input) : Outcome :=
  let run := generateFile job.backend job.kind job.options input
  let log := job.log ++ job.logging.filter run.log
  match run.result with
  | .ok text => { exit := 0, stdout := text, log }
  | .error fault => failed job.logging log fault

/-- The questions that are answered without settings, in the order of their precedence. -/
def answer? (a : Arguments) : Option Outcome :=
  if a.has .version then some { exit := 0, stdout := s!"tracetool {version}\n" }
  else if a.has .checkBackend then some { exit := 0 }
  else if a.has .listBackends then some { exit := 0, stdout := Backend.names ++ "\n" }
  else if a.has .verbose && a.has .quiet then
    some { exit := 1, stderr := errorLine "Error" "--verbose and --quiet are mutually exclusive" }
  else none

def isFile : Entry → Bool
  | .file _ => true
  | _ => false

def misused : Outcome := { exit := 2, stderr := usage }

/-- Files are looked for before anything is done, first the one with settings, then the input, which
has to be at the very path given. A path that holds a NUL cannot even be looked for. -/
def checkFiles (env : Environment) (a : Arguments) : Except Outcome Unit :=
  if !(a.value? .config).all fun path => isFile (env.lookup (Path.normalize path)) then
    .error misused
  else match a.files with
    | [] => .ok ()
    | path :: rest =>
      if path.toList.contains '\x00' then .error { exit := 1 }
      else if path != standardInput && !isFile (env.lookup path) then .error misused
      else if rest.isEmpty then .ok () else .error misused

def plan (env : Environment) (args : List String) : Plan :=
  match parseArguments args with
  | none => .done misused
  | some a =>
    if a.has .help then .done { exit := 0, stdout := usage }
    else match checkFiles env a, answer? a with
      | .error outcome, _ => .done outcome
      | .ok (), some outcome => .done outcome
      | .ok (), none =>
        match prepare env a with
        | .error outcome => .done outcome
        | .ok job => .job job (a.files.head?.getD standardInput)

def inputAt (env : Environment) (stdin : Input) (path : String) : Input :=
  if path = standardInput then stdin
  else match env.lookup path with
    | .file bytes => Input.ofBytes bytes
    | _ => Input.ofLines []

def run (env : Environment) (stdin : Input) (args : List String) : Outcome :=
  match plan env args with
  | .done outcome => outcome
  | .job job path => job.finish (inputAt env stdin path)

end Tracepoint.Command
