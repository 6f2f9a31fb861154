import Tracepoint.Event.Arguments

namespace Tracepoint

open Text

/-- A trace event. The properties stand in the order of the line, and as often. -/
structure Event where
  name : String
  properties : List String
  args : String
  format : String
  argNames : List String
  deriving DecidableEq

/-- All lines but blank ones and comments declare an event. -/
def isDeclaration (line : String) : Bool :=
  match trim line.toList with
  | [] => false
  | c :: _ => c != '#'

namespace Event

/-- The properties and the name, which stand in front of the arguments. -/
def head (line : List Char) : List (List Char) := words (before '(' line)

/-- Arguments go up to the first closing parenthesis, nested or not. -/
def argsOf (line : List Char) : List Char := trim (before ')' (after '(' line))

def ofChars (line : List Char) : Event :=
  let head := head line
  let args := argsOf line
  { name := String.ofList (head.getLast?.getD [])
    properties := head.dropLast.map String.ofList
    args := String.ofList args
    format := String.ofList (between '"' line)
    argNames := (Tracepoint.argNames args).map String.ofList }

/-- Reads `property … name(type name, …) "format"`. Every line can be read: a part that is missing
or malformed leaves its field empty or partial. -/
def parse (line : String) : Event := ofChars (trim line.toList)

def argCount (e : Event) : Nat := e.argNames.length

def parameters (e : Event) : List Parameter := Tracepoint.parameters e.args.toList

def hasProperty (e : Event) (property : String) : Bool := e.properties.contains property

def disabled (e : Event) : Bool := e.hasProperty "disable"

/-- The properties without repetition, by code points. -/
def propertySet (e : Event) : List String := e.properties.eraseDups.mergeSort fun a b => !(b < a)

/-- The argument names as a call lists them. -/
def callArgs (e : Event) : String := ", ".intercalate e.argNames

/-- The argument names behind another argument. -/
def furtherArgs (e : Event) : String :=
  String.join (e.argNames.map fun name => s!", {name}")

end Event

def readEvents (lines : List String) : List Event := (lines.filter isDeclaration).map Event.parse

end Tracepoint
