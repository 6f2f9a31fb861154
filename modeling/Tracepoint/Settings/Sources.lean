import Tracepoint.Path
import Tracepoint.Settings
import Tracepoint.Toml.Reader

namespace Tracepoint

/-- What a run can see of its surroundings. -/
structure Environment where
  /-- The absolute path of the working directory. -/
  directory : String
  lookup : String → Entry
  lookupVariable : String → Option String

namespace Settings

def projectFile : String := "tracetool.toml"

/-- The section `tracetool` of a file, or all of the file if it has none. -/
def section? (document : Entries Value) : Option (Entries Value) :=
  match document.get? "tracetool" with
  | none => some document
  | some (.table entries) => some entries
  | some _ => none

def ofBytes (path : String) (bytes : List UInt8) : Except Fault (Entries Value) := do
  let unusable (fault : FileFault) := Fault.failure (.configuration (.fileUnusable path fault))
  let text ← (Utf8.decode bytes).mapError .undecodable
  match Toml.parse text with
  | .error .malformed => throw (unusable .malformed)
  | .error (.longNumber digits) => throw (.longNumber digits)
  | .error .tooDeep => throw .tooDeep
  | .ok document =>
    match section? document with
    | none => throw (unusable .notTable)
    | some entries => return entries

/-- The settings in a file, of which messages speak by the given path. -/
def readEntry (path : String) (entry : Entry) : Except Fault (Option (Entries Value)) :=
  match entry with
  | .missing => .ok none
  | .tooLong => .error (.longFileName path)
  | .directory => .error (.failure (.configuration (.fileUnusable path .directory)))
  | .file bytes => (ofBytes path bytes).map some

/-- The settings of the project, if it has any. -/
def readProject (env : Environment) : Except Fault (Entries Value) := do
  let found ← readEntry (Path.join env.directory projectFile) (env.lookup projectFile)
  return found.getD []

/-- The settings of a file that has to exist. -/
def readFile (env : Environment) (file : String) : Except Fault (Entries Value) := do
  let path := Path.normalize file
  match ← readEntry path (env.lookup path) with
  | some entries => return entries
  | none => throw (.failure (.configuration (.fileMissing path)))

/-- The environment variable for a setting. -/
def variableName (key : String) : String := "TRACETOOL_" ++ key.toUpper

def readVariables (env : Environment) : Entries Value :=
  keys.filterMap fun key =>
    match env.lookupVariable (variableName key) with
    | some value => if value.isEmpty then none else some (key, .str value)
    | none => none

/-- Takes out a switch, which turns verbosity to its own name if it is on. -/
def applySwitch (switch : String) (given : Entries Value) : Entries Value :=
  let rest := given.erase switch
  match given.get? switch with
  | some value => if value.isPresent then rest.put "verbosity" (.str switch) else rest
  | none => rest

/-- The overriding settings proper: without the switches, and without those that are null. -/
def settleOverrides (given : Entries Value) : Entries Value :=
  (applySwitch "quiet" (applySwitch "verbose" given)).filter fun (_, value) => !value.isNull

/-- A dash in a key stands for an underscore. -/
def spell (key : String) : String := key.map fun c => if c = '-' then '_' else c

/-- Brings the keys to one spelling, a later entry replacing an earlier one of the same key. -/
def respell (given : Entries Value) : Entries Value :=
  Entries.update [] (given.map fun (key, value) => (spell key, value))

/-- All sources put one over the other. -/
def merge (sources : List (Entries Value)) : Entries Value :=
  respell (sources.foldl Entries.update [])

/-- Settings that cannot be taken are a fault of the configuration. -/
def misuseToFailure : Fault → Fault
  | .misuse cause => .failure (.configuration (.rejected cause))
  | fault => fault

/-- The file stands ahead of the overriding settings, which can be of any name but its own. -/
def loadSignature : Signature :=
  { operation := "load_config", receiver := [], parameters := ["config_file"], isOpen := true }

def load (env : Environment) (file : Option String) (overrides : Entries Value) :
    Except Fault Settings := do
  (loadSignature.check 1 overrides.keys).mapError .misuse
  let project ← readProject env
  let explicit ← match file with
    | some file => readFile env file
    | none => pure []
  let merged := merge [project, explicit, readVariables env, settleOverrides overrides]
  (ofEntries merged).mapError misuseToFailure

end Settings

end Tracepoint
