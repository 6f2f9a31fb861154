namespace Tracepoint

/-- A finite number is `mantissa * 2 ^ exponent` with its sign. -/
inductive Binary64
  | nan
  | infinity (negative : Bool)
  | finite (negative : Bool) (mantissa : Nat) (exponent : Int)
  deriving DecidableEq

/-- A decimal number `digits * 10 ^ exponent`. -/
structure Decimal where
  digits : Nat
  exponent : Int
  deriving DecidableEq

namespace Binary64

/-- `num / den` to the nearest whole number, a tie to the even one. -/
def roundDiv (num den : Nat) : Nat :=
  let q := num / den
  let r := num % den
  if 2 * r > den || (2 * r = den && q % 2 = 1) then q + 1 else q

/-- Numerator and denominator of `num / den / base ^ exponent`. -/
def shiftRatio (base num den : Nat) (exponent : Int) : Nat × Nat :=
  if 0 ≤ exponent then (num, den * base.pow exponent.toNat)
  else (num * base.pow (-exponent).toNat, den)

/-- The nearest number to `num / den`, which is not zero. A mantissa has 53 bits, fewer below the
least normal number. -/
def ofRatio (negative : Bool) (num den : Nat) : Binary64 :=
  let least : Int := max ((num.log2 : Int) - den.log2 - 53) (-1074)
  let (n, d) := shiftRatio 2 num den least
  let exponent := if n / d < Nat.pow 2 53 then least else least + 1
  let (n, d) := shiftRatio 2 num den exponent
  let rounded := roundDiv n d
  let (mantissa, exponent) :=
    if rounded = Nat.pow 2 53 then (Nat.pow 2 52, exponent + 1) else (rounded, exponent)
  if exponent > 971 then infinity negative
  else if mantissa = 0 then finite negative 0 0
  else finite negative mantissa exponent

/-- Decimals far out of range are settled by their size alone. -/
def ofDecimal (negative : Bool) (x : Decimal) : Binary64 :=
  let size := (Nat.toDigits 10 x.digits).length + x.exponent
  if x.digits = 0 || size < -400 then finite negative 0 0
  else if size > 400 then infinity negative
  else
    let (num, den) := shiftRatio 10 x.digits 1 (-x.exponent)
    ofRatio negative num den

def isZero : Binary64 → Bool
  | finite _ 0 _ => true
  | _ => false

/-- The numbers whose nearest binary64 number is `mantissa * 2 ^ exponent`, as multiples of the
quarter of its last place: from `low` to `high`, the ends included where `closed`. -/
structure Interval where
  low : Nat
  middle : Nat
  high : Nat
  closed : Bool

/-- The gap below a power of two is half as wide, except at the least exponent. -/
def interval (mantissa : Nat) (exponent : Int) : Interval :=
  let below := if mantissa = Nat.pow 2 52 && exponent > -1074 then 1 else 2
  ⟨4 * mantissa - below, 4 * mantissa, 4 * mantissa + 2, mantissa % 2 = 0⟩

/-- The least `e` with `num / den < 10 ^ e`; `fuel` bounds the zeros behind the point. -/
def magnitude (num den : Nat) : Nat → Int
  | 0 => 0
  | fuel + 1 =>
    if num ≥ den then (Nat.toDigits 10 (num / den)).length
    else if num * 10 ≥ den then 0 else magnitude (num * 10) den fuel - 1

/-- Of the two neighbours of the number among the multiples of `10 ^ exponent` the nearer one that
lies in the interval; a tie goes to the even one. The interval is in units of `2 ^ unit`. -/
def nearestIn (i : Interval) (unit exponent : Int) : Option Nat :=
  -- all four numbers are brought to one denominator
  let (n, d) := shiftRatio 2 1 1 (-unit)
  let (tn, td) := shiftRatio 10 1 1 (-exponent)
  let step := tn * d
  let scale := n * td
  let grid (c : Nat) := c * step
  let fits (c : Nat) :=
    if i.closed then i.low * scale ≤ grid c && grid c ≤ i.high * scale
    else i.low * scale < grid c && grid c < i.high * scale
  let c := i.middle * scale / step
  let down := i.middle * scale - grid c
  let up := grid (c + 1) - i.middle * scale
  if fits c && fits (c + 1) then
    some (if down < up || (down = up && c % 2 = 0) then c else c + 1)
  else if fits c then some c
  else if fits (c + 1) then some (c + 1)
  else none

/-- Tries grids of more and more digits, `places` of them at most. -/
def firstFit (i : Interval) (unit size : Int) : Nat → Nat → Decimal
  | 0, digits => ⟨i.middle, size - digits⟩
  | places + 1, digits =>
    match nearestIn i unit (size - digits) with
    | some c => ⟨c, size - digits⟩
    | none => firstFit i unit size places (digits + 1)

/-- The shortest decimal that reads back. Seventeen digits are always enough. -/
def shortest (mantissa : Nat) (exponent : Int) : Decimal :=
  let unit := exponent - 2
  let (num, den) := shiftRatio 2 (4 * mantissa) 1 (-unit)
  firstFit (interval mantissa exponent) unit (magnitude num den 400) 17 1

def zeros (n : Nat) : List Char := List.replicate n '0'

def dropTrailingZeros (ds : List Char) : List Char := (ds.reverse.dropWhile (· == '0')).reverse

/-- Positional from a ten-thousandth up to sixteen places before the point, with at least one
digit on each side of it; beyond that in scientific form, the exponent signed and of two digits or
more. -/
def decimalText (x : Decimal) : List Char :=
  let all := Nat.toDigits 10 x.digits
  let point := (all.length : Int) + x.exponent
  let ds := dropTrailingZeros all
  if -4 < point && point ≤ 16 then
    if point ≤ 0 then '0' :: '.' :: zeros (-point).toNat ++ ds
    else
      let whole := ds.take point.toNat
      let rest := ds.drop point.toNat
      whole ++ zeros (point.toNat - whole.length) ++ '.' :: (if rest.isEmpty then ['0'] else rest)
  else
    let power := point - 1
    let digits := Nat.toDigits 10 power.natAbs
    ds.take 1 ++ (if ds.length > 1 then '.' :: ds.drop 1 else []) ++
      'e' :: (if power < 0 then '-' else '+') :: zeros (2 - digits.length) ++ digits

def signed (negative : Bool) (text : List Char) : List Char :=
  if negative then '-' :: text else text

def text : Binary64 → String
  | nan => "nan"
  | infinity negative => String.ofList (signed negative "inf".toList)
  | finite negative 0 _ => String.ofList (signed negative "0.0".toList)
  | finite negative mantissa exponent =>
    String.ofList (signed negative (decimalText (shortest mantissa exponent)))

end Binary64

/-- The value of a run of decimal digits. -/
def digitsValue (ds : List Char) : Nat := ds.foldl (fun n d => n * 10 + (d.toNat - 48)) 0

/-- The decimal `whole.fraction * 10 ^ power`. -/
def Decimal.ofParts (whole fraction : List Char) (power : Int) : Decimal :=
  ⟨digitsValue (whole ++ fraction), power - fraction.length⟩

end Tracepoint
