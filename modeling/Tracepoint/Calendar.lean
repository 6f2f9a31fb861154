namespace Tracepoint

structure Date where
  year : Nat
  month : Nat
  day : Nat
  deriving DecidableEq

structure TimeOfDay where
  hour : Nat
  minute : Nat
  second : Nat
  microsecond : Nat
  deriving DecidableEq

/-- A date with a time of day, and the distance from universal time in minutes if it is known. -/
structure Moment where
  date : Date
  time : TimeOfDay
  offset : Option Int
  deriving DecidableEq

def isLeapYear (year : Nat) : Bool := year % 4 = 0 && (year % 100 != 0 || year % 400 = 0)

def daysIn (year month : Nat) : Nat :=
  match month with
  | 2 => if isLeapYear year then 29 else 28
  | 4 | 6 | 9 | 11 => 30
  | _ => 31

/-- There is no year zero. -/
def Date.isValid (d : Date) : Bool :=
  1 ≤ d.year && 1 ≤ d.month && d.month ≤ 12 && 1 ≤ d.day && d.day ≤ daysIn d.year d.month

def padded (width n : Nat) : String :=
  let digits := toString n
  String.ofList (List.replicate (width - digits.length) '0') ++ digits

def Date.text (d : Date) : String :=
  "-".intercalate [padded 4 d.year, padded 2 d.month, padded 2 d.day]

/-- Microseconds are written only if there are any. -/
def TimeOfDay.text (t : TimeOfDay) : String :=
  let clock := ":".intercalate [padded 2 t.hour, padded 2 t.minute, padded 2 t.second]
  if t.microsecond = 0 then clock else clock ++ "." ++ padded 6 t.microsecond

def offsetText (minutes : Int) : String :=
  let sign := if minutes < 0 then "-" else "+"
  sign ++ padded 2 (minutes.natAbs / 60) ++ ":" ++ padded 2 (minutes.natAbs % 60)

def Moment.text (m : Moment) : String :=
  let offset := match m.offset with
    | none => ""
    | some minutes => offsetText minutes
  m.date.text ++ " " ++ m.time.text ++ offset

/-- The arguments that make up a time of day; seconds and microseconds only as far as needed. -/
def TimeOfDay.arguments (t : TimeOfDay) : List String :=
  let all := [t.hour, t.minute, t.second, t.microsecond].map toString
  all.take (if t.microsecond != 0 then 4 else if t.second != 0 then 3 else 2)

def Date.arguments (d : Date) : List String := [d.year, d.month, d.day].map toString

/-- Whole days and the seconds left over, the latter never negative. -/
def offsetArguments (minutes : Int) : List String :=
  let seconds := minutes * 60
  let days := seconds.fdiv 86400
  let rest := seconds.fmod 86400
  (if days != 0 then [s!"days={days}"] else []) ++ (if rest != 0 then [s!"seconds={rest}"] else [])

def offsetLiteral (minutes : Int) : String :=
  if minutes = 0 then "datetime.timezone.utc"
  else
    let span := ", ".intercalate (offsetArguments minutes)
    s!"datetime.timezone(datetime.timedelta({span}))"

def Date.literal (d : Date) : String :=
  let arguments := ", ".intercalate d.arguments
  s!"datetime.date({arguments})"

def TimeOfDay.literal (t : TimeOfDay) : String :=
  let arguments := ", ".intercalate t.arguments
  s!"datetime.time({arguments})"

def Moment.literal (m : Moment) : String :=
  let zone := match m.offset with
    | none => []
    | some minutes => ["tzinfo=" ++ offsetLiteral minutes]
  let arguments := ", ".intercalate (m.date.arguments ++ m.time.arguments ++ zone)
  s!"datetime.datetime({arguments})"

end Tracepoint
