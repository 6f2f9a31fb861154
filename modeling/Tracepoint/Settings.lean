import Tracepoint.Generation
import Tracepoint.Text.Identifier

namespace Tracepoint

inductive Verbosity
  | quiet
  | normal
  | verbose
  deriving DecidableEq

namespace Verbosity

def all : List Verbosity := [quiet, normal, verbose]

def name : Verbosity → String
  | quiet => "quiet"
  | normal => "normal"
  | verbose => "verbose"

def ofName? (name : String) : Option Verbosity := all.find? (·.name = name)

end Verbosity

structure Settings where
  backend : Option Backend := none
  binary : Value := .null
  targetType : Value := .null
  targetArch : Value := .null
  probePrefix : Value := .null
  provider : String := "qemu"
  verbosity : Verbosity := .normal

namespace Settings

/-- The keys of the settings, in the order of their listing. -/
def keys : List String :=
  ["backend", "binary", "target_type", "target_arch", "probe_prefix", "provider", "verbosity"]

def signature : Signature :=
  { operation := "TracetoolConfig.__init__", parameters := keys, required := false }

/-- The message shows the value, which has to be writable for that. -/
def refusal (key : String) (value : Value) (reason : String) : Fault :=
  match value.checkWritable with
  | .ok () => .failure (.invalidSetting key value reason)
  | .error fault => fault

def checkBackend (value : Value) : Except Fault (Option Backend) :=
  match value with
  | .null => .ok none
  | _ => do
    let _ ← (Backend.exists value).mapError .misuse
    match Backend.resolve value with
    | .ok b => return some b
    | .error _ => throw (refusal "backend" value "unknown backend")

def checkProvider (value : Value) : Except Fault String :=
  match value with
  | .str s =>
    if Text.isIdentifier s.toList then .ok s
    else .error (refusal "provider" value "must be a C identifier")
  | _ => .error (refusal "provider" value "must be a C identifier")

def checkVerbosity (value : Value) : Except Fault Verbosity :=
  let refused := refusal "verbosity" value "expected quiet, normal or verbose"
  match value with
  | .str s => match Verbosity.ofName? s with
    | some v => .ok v
    | none => .error refused
  | _ => .error refused

/-- The settings for the given values; those not given have their defaults. -/
def ofEntries (given : Entries Value) : Except Fault Settings := do
  let (own, _) ← (signature.bind [] given).mapError .misuse
  let valueOf (key : String) (default : Value) := (own.get? key).getD default
  let backend ← checkBackend (valueOf "backend" .null)
  let provider ← checkProvider (valueOf "provider" (.str "qemu"))
  let verbosity ← checkVerbosity (valueOf "verbosity" (.str "normal"))
  return {
    backend, provider, verbosity
    binary := valueOf "binary" .null
    targetType := valueOf "target_type" .null
    targetArch := valueOf "target_arch" .null
    probePrefix := valueOf "probe_prefix" .null }

def options (s : Settings) : Options where
  binary := s.binary
  targetType := s.targetType
  targetArch := s.targetArch
  probePrefix := s.probePrefix
  provider := s.provider

/-- The settings as values under their keys. -/
def toEntries (s : Settings) : Entries Value :=
  [("backend", match s.backend with | some b => .str b.name | none => .null),
    ("binary", s.binary), ("target_type", s.targetType), ("target_arch", s.targetArch),
    ("probe_prefix", s.probePrefix), ("provider", .str s.provider),
    ("verbosity", .str s.verbosity.name)]

/-- What keeps the settings from being shown. -/
def obstacle? (s : Settings) : Option Value.Obstacle :=
  s.toEntries.findSome? fun (_, value) => value.obstacle?

/-- One line that shows all settings. -/
def literal (s : Settings) : String :=
  let shown := ", ".intercalate (s.toEntries.map fun (key, value) => key ++ "=" ++ value.literal)
  s!"TracetoolConfig({shown})"

end Settings

end Tracepoint
