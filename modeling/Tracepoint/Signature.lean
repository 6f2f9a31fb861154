import Tracepoint.Entries
import Tracepoint.Value

namespace Tracepoint

inductive Misuse
  | repeated (operation key : String)
  | unknown (operation key : String)
  | surplus (operation : String) (most given : Nat)
  | lacking (operation : String) (keys : List String)
  /-- A value that is no possible key was looked up. -/
  | unhashable (type : String)
  /-- A value other than a string was to be shown as a message. -/
  | notText (type : String)
  /-- A value was to be changed in a way that is not for its type. -/
  | unable (type change : String)
  deriving DecidableEq

/-- Words in a row, the last one behind an "and"; from three words on with commas. -/
def enumerate : List String → String
  | [] => ""
  | [a] => a
  | [a, b] => s!"{a} and {b}"
  | words =>
    let last := words.getLast?.getD ""
    ", ".intercalate words.dropLast ++ s!", and {last}"

def Misuse.message : Misuse → String
  | repeated operation key => s!"{operation}() got multiple values for argument '{key}'"
  | unknown operation key => s!"{operation}() got an unexpected keyword argument '{key}'"
  | surplus operation most given =>
    s!"{operation}() takes {most} positional arguments but {given} were given"
  | lacking operation keys =>
    let count := keys.length
    let plural := if count = 1 then "" else "s"
    let list := enumerate (keys.map fun key => s!"'{key}'")
    s!"{operation}() missing {count} required positional argument{plural}: {list}"
  | unhashable type => s!"unhashable type: '{type}'"
  | notText type => s!"__str__ returned non-string (type {type})"
  | unable type change => s!"'{type}' object has no attribute '{change}'"

/-- An operation that takes values by position and by name. -/
structure Signature where
  operation : String
  /-- What the operation is applied to counts as given, ahead of all parameters. -/
  receiver : List String := ["self"]
  parameters : List String
  /-- Whether every parameter has to be given. -/
  required : Bool := true
  /-- Whether other names than those of the parameters can be given too. -/
  isOpen : Bool := false

namespace Signature

/-- What is wrong with a value under this name, behind `count` values without one. -/
def offence? (s : Signature) (count : Nat) (key : String) : Option Misuse :=
  if s.receiver.contains key || (s.parameters.take count).contains key then
    some (.repeated s.operation key)
  else if s.isOpen || s.parameters.contains key then none
  else some (.unknown s.operation key)

/-- The parameters for which there is no value. -/
def lacking (s : Signature) (count : Nat) (keys : List String) : List String :=
  (s.parameters.drop count).filter (!keys.contains ·)

/-- The names come first, in the order in which they are given; then the number of values. -/
def check (s : Signature) (count : Nat) (keys : List String) : Except Misuse Unit :=
  match keys.findSome? (s.offence? count) with
  | some misuse => .error misuse
  | none =>
    let least := s.receiver.length
    if s.parameters.length < count then
      .error (.surplus s.operation (least + s.parameters.length) (least + count))
    else if s.required && s.lacking count keys != [] then
      .error (.lacking s.operation (s.lacking count keys))
    else .ok ()

/-- The values of the parameters under their names, and then those under other names. -/
def bind (s : Signature) (positional : List Value) (named : Entries Value) :
    Except Misuse (Entries Value × Entries Value) := do
  s.check positional.length named.keys
  let (own, other) := named.partition fun (key, _) => s.parameters.contains key
  return (s.parameters.zip positional ++ own, other)

end Signature

end Tracepoint
