import Tracepoint.Binary64
import Tracepoint.Calendar
import Tracepoint.Entries
import Tracepoint.Text.Quoted

namespace Tracepoint

inductive Value
  | null
  | bool (b : Bool)
  | int (i : Int)
  | float (x : Binary64)
  | str (s : String)
  | array (items : List Value)
  | table (entries : List (String × Value))
  | date (d : Date)
  | time (t : TimeOfDay)
  | moment (m : Moment)
  deriving Inhabited

instance : Coe String Value := ⟨.str⟩

namespace Value

/-- A setting counts as absent if it is `null`, false, zero or empty. -/
def isPresent : Value → Bool
  | null => false
  | bool b => b
  | int i => i != 0
  | float x => !x.isZero
  | str s => !s.isEmpty
  | array items => !items.isEmpty
  | table entries => !entries.isEmpty
  | date _ | time _ | moment _ => true

def isNull : Value → Bool
  | null => true
  | _ => false

def typeName : Value → String
  | null => "NoneType"
  | bool _ => "bool"
  | int _ => "int"
  | float _ => "float"
  | str _ => "str"
  | array _ => "list"
  | table _ => "dict"
  | date _ => "datetime.date"
  | time _ => "datetime.time"
  | moment _ => "datetime.datetime"

/-- Longer whole numbers are neither read nor written in decimal digits. -/
def digitLimit : Nat := 4300

/-- The least whole number that has too many digits. -/
@[irreducible]
def numberLimit : Nat := Nat.pow 10 digitLimit

/-- How many steps down values can take that stand in one another, in reading and in writing. -/
def depthLimit : Nat := 979

/-- Why a value cannot be written. -/
inductive Obstacle
  | longNumber
  | tooDeep
  deriving DecidableEq

mutual

/-- The first thing that keeps a value from being written where `room` more values can stand in
one another. -/
def obstacleWithin (room : Nat) (v : Value) : Option Obstacle :=
  if room = 0 then some .tooDeep
  else match v with
    | int i => if i.natAbs < numberLimit then none else some .longNumber
    | array items => obstacleInItems (room - 1) items
    | table entries => obstacleInEntries (room - 1) entries
    | _ => none

def obstacleInItems (room : Nat) : List Value → Option Obstacle
  | [] => none
  | v :: vs => obstacleWithin room v <|> obstacleInItems room vs

def obstacleInEntries (room : Nat) : List (String × Value) → Option Obstacle
  | [] => none
  | (_, v) :: es => obstacleWithin room v <|> obstacleInEntries room es

end

def obstacle? (v : Value) : Option Obstacle := obstacleWithin depthLimit v

theorem obstacle?_null : obstacle? null = none := by
  simp [obstacle?, obstacleWithin, depthLimit]

theorem obstacle?_int (i : Int) :
    obstacle? (int i) = if i.natAbs < numberLimit then none else some .longNumber := by
  simp [obstacle?, obstacleWithin, depthLimit]

theorem obstacle?_str (s : String) : obstacle? (str s) = none := by
  simp [obstacle?, obstacleWithin, depthLimit]

def quotedString (s : String) : String := String.ofList (Text.quoted s.toList)

mutual

/-- A value as it is written inside another one. -/
def literal : Value → String
  | null => "None"
  | bool true => "True"
  | bool false => "False"
  | int i => toString i
  | float x => x.text
  | str s => quotedString s
  | array items => "[" ++ ", ".intercalate (literals items) ++ "]"
  | table entries => "\x7b" ++ ", ".intercalate (entryLiterals entries) ++ "\x7d"
  | date d => d.literal
  | time t => t.literal
  | moment m => m.literal

def literals : List Value → List String
  | [] => []
  | v :: vs => literal v :: literals vs

def entryLiterals : List (String × Value) → List String
  | [] => []
  | (k, v) :: es => (quotedString k ++ ": " ++ literal v) :: entryLiterals es

end

/-- A value as it stands in a message: strings and dates plain, the rest as a literal. -/
def text : Value → String
  | str s => s
  | date d => d.text
  | time t => t.text
  | moment m => m.text
  | v => v.literal

end Value

end Tracepoint
