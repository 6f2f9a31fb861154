import Tracepoint.Backend
import Tracepoint.Kind

namespace Tracepoint.Command

inductive Switch
  | backend (b : Backend)
  | kind (k : Kind)
  | checkBackend
  | listBackends
  | verbose
  | quiet
  | version
  | help
  deriving DecidableEq

inductive ValueOption
  | backend
  | binary
  | targetArch
  | targetType
  | probePrefix
  | config
  deriving DecidableEq

inductive Choice
  | switch (s : Switch)
  | value (o : ValueOption)

/-- Names of two dashes have to be written in full. -/
def longNames : List (String × Choice) :=
  (Backend.all.map fun b => ("--" ++ b.name, .switch (.backend b))) ++
    [("--stap", .switch (.kind .tapset)), ("--check-backend", .switch .checkBackend),
      ("--list-backends", .switch .listBackends), ("--verbose", .switch .verbose),
      ("--quiet", .switch .quiet), ("--version", .switch .version), ("--help", .switch .help),
      ("--backend", .value .backend), ("--binary", .value .binary),
      ("--target-arch", .value .targetArch), ("--target-type", .value .targetType),
      ("--probe-prefix", .value .probePrefix), ("--config", .value .config)]

def shortNames : List (Char × Choice) :=
  [('h', .switch (.kind .header)), ('c', .switch (.kind .source)),
    ('d', .switch (.kind .descriptor)), ('v', .switch .verbose), ('q', .switch .quiet),
    ('b', .value .backend)]

structure Arguments where
  switches : List Switch := []
  /-- The options with their values as given, the first one first. -/
  values : List (ValueOption × String) := []
  files : List String := []

namespace Arguments

def has (a : Arguments) (s : Switch) : Bool := a.switches.contains s

/-- The last value given counts. -/
def value? (a : Arguments) (o : ValueOption) : Option String :=
  (a.values.reverse.find? (·.1 = o)).map (·.2)

/-- The backends that have been switched on, in their own order. -/
def backends (a : Arguments) : List Backend := Backend.all.filter fun b => a.has (.backend b)

def kinds (a : Arguments) : List Kind := Kind.all.filter fun k => a.has (.kind k)

end Arguments

/-- What one argument comes to: switches, and perhaps an option, the value of which may be in the
argument or has to follow it. -/
structure Reading where
  switches : List Switch := []
  pending : Option (ValueOption × Option String) := none

/-- Letters behind one dash. Whatever stands behind the letter of an option is its value. -/
def readLetters : List Char → Option Reading
  | [] => some {}
  | c :: cs =>
    match shortNames.lookup c with
    | none => none
    | some (.switch s) => (readLetters cs).map fun r => { r with switches := s :: r.switches }
    | some (.value o) =>
      some { pending := some (o, if cs.isEmpty then none else some (String.ofList cs)) }

/-- An argument that starts with a dash; `none` if it is not understood. -/
def readOption (arg : List Char) : Option Reading :=
  let name := arg.takeWhile (· != '=')
  let value? := match arg.dropWhile (· != '=') with
    | [] => none
    | _ :: cs => some (String.ofList cs)
  match longNames.lookup (String.ofList name), value? with
  | some (.switch s), none => some { switches := [s] }
  | some (.switch _), some _ => none
  | some (.value o), value? => some { pending := some (o, value?) }
  | none, _ => if arg.take 2 = ['-', '-'] then none else readLetters (arg.drop 1)

def looksLikeOption (arg : String) : Bool :=
  match arg.toList with
  | '-' :: _ :: _ => true
  | _ => false

/-- Two dashes by themselves end the options. -/
def parseArguments : List String → Option Arguments
  | [] => some {}
  | arg :: rest =>
    if arg = "--" then some { files := rest }
    else if looksLikeOption arg then
      match readOption arg.toList with
      | none => none
      | some ⟨switches, none⟩ =>
        (parseArguments rest).map fun a => { a with switches := switches ++ a.switches }
      | some ⟨switches, some (o, some value)⟩ =>
        (parseArguments rest).map fun a =>
          { a with switches := switches ++ a.switches, values := (o, value) :: a.values }
      | some ⟨switches, some (o, none)⟩ =>
        match rest with
        | [] => none
        | value :: rest =>
          (parseArguments rest).map fun a =>
            { a with switches := switches ++ a.switches, values := (o, value) :: a.values }
    else (parseArguments rest).map fun a => { a with files := arg :: a.files }

end Tracepoint.Command
