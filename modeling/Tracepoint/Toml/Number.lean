import Tracepoint.Toml.Text
import Tracepoint.Value

namespace Tracepoint.Toml

/-- Why a text has no value. -/
inductive Defect
  | malformed
  /-- A decimal whole number has more digits than are read. -/
  | longNumber (digits : Nat)
  /-- Arrays and tables stand too deep in one another. -/
  | tooDeep
  deriving DecidableEq

/-- A reader that says what is wrong. -/
abbrev ValueReader (α : Type) := List Char → Except Defect (α × List Char)

/-- What cannot be read is malformed. -/
def orMalformed {α : Type} : Option α → Except Defect α
  | some a => .ok a
  | none => .error .malformed

def isDigit (c : Char) : Bool := '0' ≤ c && c ≤ '9'

/-- Digits, with single underscores between them. -/
def moreDigits (p : Char → Bool) : List Char → List Char × List Char
  | '_' :: d :: cs =>
    if p d then
      let (digits, rest) := moreDigits p cs
      (d :: digits, rest)
    else ([], '_' :: d :: cs)
  | c :: cs =>
    if p c then
      let (digits, rest) := moreDigits p cs
      (c :: digits, rest)
    else ([], c :: cs)
  | [] => ([], [])

def digits (p : Char → Bool) : Reader (List Char)
  | c :: cs =>
    if p c then
      let (more, rest) := moreDigits p cs
      some (c :: more, rest)
    else none
  | [] => none

def ofDigits (base : Nat) (ds : List Char) : Nat :=
  ds.foldl (fun n d => n * base + hexDigitValue d) 0

/-- A whole number in base sixteen, two or eight. -/
def prefixed : Reader Value
  | '0' :: 'x' :: cs => (digits isHexDigit cs).map fun (ds, rest) => (.int (ofDigits 16 ds), rest)
  | '0' :: 'b' :: cs =>
    (digits (fun c => c = '0' || c = '1') cs).map fun (ds, rest) => (.int (ofDigits 2 ds), rest)
  | '0' :: 'o' :: cs =>
    (digits (fun c => '0' ≤ c && c ≤ '7') cs).map fun (ds, rest) => (.int (ofDigits 8 ds), rest)
  | _ => none

def sign : List Char → Bool × List Char
  | '-' :: cs => (true, cs)
  | '+' :: cs => (false, cs)
  | cs => (false, cs)

/-- The digits in front of the point; a zero stands alone. -/
def wholePart : Reader (List Char)
  | '0' :: cs => some (['0'], cs)
  | cs => digits isDigit cs

def fraction : Reader (List Char)
  | '.' :: cs => digits isDigit cs
  | _ => none

def power : Reader Int
  | c :: cs =>
    if c = 'e' || c = 'E' then do
      let (negative, cs) := sign cs
      let (ds, rest) ← digits isDigit cs
      let n : Int := ofDigits 10 ds
      return (if negative then -n else n, rest)
    else none
  | [] => none

/-- A number with a fraction or a power is a floating-point number. -/
def decimalNumber : ValueReader Value := fun cs => do
  let (negative, cs) := sign cs
  let (whole, afterWhole) ← orMalformed (wholePart cs)
  let fractional := fraction afterWhole
  let (fractionDigits, afterFraction) := fractional.getD ([], afterWhole)
  let scaled := power afterFraction
  let (exponent, rest) := scaled.getD (0, afterFraction)
  if fractional.isSome || scaled.isSome then
    let x := Decimal.ofParts whole fractionDigits exponent
    return (.float (Binary64.ofDecimal negative x), rest)
  else if Value.digitLimit < whole.length then throw (.longNumber whole.length)
  else
    let n : Int := ofDigits 10 whole
    return (.int (if negative then -n else n), rest)

def number : ValueReader Value := fun cs =>
  match prefixed cs with
  | some found => .ok found
  | none => decimalNumber cs

def specialFloat : Reader Value := fun cs =>
  let (negative, rest) := sign cs
  match rest with
  | 'i' :: 'n' :: 'f' :: rest => some (.float (.infinity negative), rest)
  | 'n' :: 'a' :: 'n' :: rest => some (.float .nan, rest)
  | _ => none

/-- A number of exactly `count` digits. -/
def fixed (count : Nat) : Reader Nat := fun cs =>
  let ds := cs.take count
  if ds.length = count && ds.all isDigit then some (digitsValue ds, cs.drop count) else none

def symbol (c : Char) : Reader Unit
  | d :: cs => if d = c then some ((), cs) else none
  | [] => none

/-- A number of two digits up to `most`. -/
def twoDigits (least most : Nat) : Reader Nat := fun cs => do
  let (n, rest) ← fixed 2 cs
  if least ≤ n && n ≤ most then return (n, rest) else none

/-- Digits behind the sixth place of a second are dropped. -/
def microseconds : Reader Nat := fun cs =>
  match symbol '.' cs with
  | none => some (0, cs)
  | some ((), rest) =>
    match rest.takeWhile isDigit with
    | [] => some (0, cs)
    | ds =>
      let padded := ds ++ List.replicate 6 '0'
      some (digitsValue (padded.take 6), rest.dropWhile isDigit)

def timeOfDay : Reader TimeOfDay := fun cs => do
  let (hour, cs) ← twoDigits 0 23 cs
  let ((), cs) ← symbol ':' cs
  let (minute, cs) ← twoDigits 0 59 cs
  let ((), cs) ← symbol ':' cs
  let (second, cs) ← twoDigits 0 59 cs
  let (microsecond, rest) ← microseconds cs
  return (⟨hour, minute, second, microsecond⟩, rest)

/-- The shape of a date; the day need not exist in its month. -/
def date : Reader Date := fun cs => do
  let (year, cs) ← fixed 4 cs
  let ((), cs) ← symbol '-' cs
  let (month, cs) ← twoDigits 1 12 cs
  let ((), cs) ← symbol '-' cs
  let (day, rest) ← twoDigits 1 31 cs
  return (⟨year, month, day⟩, rest)

/-- The distance from universal time in minutes. -/
def offset : Reader Int
  | c :: cs =>
    if c = 'Z' || c = 'z' then some (0, cs)
    else if c = '+' || c = '-' then do
      let (hours, cs) ← twoDigits 0 23 cs
      let ((), cs) ← symbol ':' cs
      let (minutes, rest) ← twoDigits 0 59 cs
      let distance : Int := hours * 60 + minutes
      return (if c = '-' then -distance else distance, rest)
    else none
  | [] => none

/-- The time of day behind a date, with its offset. -/
def timeBehindDate : Reader (TimeOfDay × Option Int)
  | c :: cs =>
    if c = 'T' || c = 't' || c = ' ' then do
      let (time, rest) ← timeOfDay cs
      match offset rest with
      | some (minutes, rest) => return ((time, some minutes), rest)
      | none => return ((time, none), rest)
    else none
  | [] => none

/-- A date alone or with a time of day. The outer `none` is for other text, the inner one for a
day that does not exist. -/
def dateOrMoment (cs : List Char) : Option (Option Value × List Char) := do
  let (d, rest) ← date cs
  match timeBehindDate rest with
  | some ((time, minutes), rest) =>
    return (if d.isValid then some (.moment ⟨d, time, minutes⟩) else none, rest)
  | none => return (if d.isValid then some (.date d) else none, rest)

end Tracepoint.Toml
