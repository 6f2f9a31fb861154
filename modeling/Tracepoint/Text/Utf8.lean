import Tracepoint.Text.Quoted

namespace Tracepoint.Utf8

inductive Reason
  | start
  | continuation
  | truncated
  deriving DecidableEq

/-- The offending bytes and the position of the first of them. -/
structure Fault where
  position : Nat
  bytes : List UInt8
  reason : Reason
  deriving DecidableEq

def Reason.message : Reason → String
  | .start => "invalid start byte"
  | .continuation => "invalid continuation byte"
  | .truncated => "unexpected end of data"

def Fault.message (f : Fault) : String :=
  let place := match f.bytes with
    | [b] =>
      let digits := String.ofList (Text.hexDigits 2 b.toNat)
      s!"byte 0x{digits} in position {f.position}"
    | bs =>
      let last := f.position + bs.length - 1
      s!"bytes in position {f.position}-{last}"
  let reason := f.reason.message
  s!"'utf-8' codec can't decode {place}: {reason}"

def isContinuation (b : UInt8) : Bool := 0x80 ≤ b && b < 0xC0

/-- Whether `b` can follow the start byte `a`. A second byte is held to a narrower range where
the code point would have a shorter form, be a surrogate or lie beyond the last one. -/
def follows (a b : UInt8) : Bool :=
  isContinuation b && !(a = 0xE0 && b < 0xA0) && !(a = 0xED && 0xA0 ≤ b) &&
    !(a = 0xF0 && b < 0x90) && !(a = 0xF4 && 0x90 ≤ b)

/-- How many bytes a character takes that starts with `a`; none starts with a byte that gives 0. -/
def length (a : UInt8) : Nat :=
  if a < 0x80 then 1 else if a < 0xC2 then 0 else if a < 0xE0 then 2 else if a < 0xF0 then 3
  else if a < 0xF5 then 4 else 0

/-- The low bits that a start byte or a continuation byte carries. -/
def payload (a : UInt8) : Nat :=
  if a < 0x80 then a.toNat else if a < 0xC0 then a.toNat % 64 else if a < 0xE0 then a.toNat % 32
  else if a < 0xF0 then a.toNat % 16 else a.toNat % 8

def charOf (bytes : List UInt8) : Char :=
  Char.ofNat (bytes.foldl (fun n b => n * 64 + payload b) 0)

/-- The first character of `a :: bs` with the number of further bytes it takes, or what is wrong
and how many bytes are concerned. -/
def first (a : UInt8) (bs : List UInt8) : Except (Nat × Reason) (Char × Nat) :=
  match length a, bs with
  | 0, _ => .error (1, .start)
  | 1, _ => .ok (charOf [a], 0)
  | _, [] => .error (1, .truncated)
  | n, b :: bs =>
    if !follows a b then .error (1, .continuation)
    else if n = 2 then .ok (charOf [a, b], 1)
    else match bs with
      | [] => .error (2, .truncated)
      | c :: bs =>
        if !isContinuation c then .error (2, .continuation)
        else if n = 3 then .ok (charOf [a, b, c], 2)
        else match bs with
          | [] => .error (3, .truncated)
          | d :: _ =>
            if !isContinuation d then .error (3, .continuation)
            else .ok (charOf [a, b, c, d], 3)

/-- The characters up to the first fault; `seen` holds those in front of `bytes`, last first. -/
def scan (seen : List Char) (position : Nat) : List UInt8 → List Char × Option Fault
  | [] => (seen.reverse, none)
  | a :: bs =>
    match first a bs with
    | .ok (c, more) => scan (c :: seen) (position + more + 1) (bs.drop more)
    | .error (width, reason) => (seen.reverse, some ⟨position, (a :: bs).take width, reason⟩)
  termination_by bytes => bytes.length
  decreasing_by simp only [List.length_drop, List.length_cons]; omega

def decode (bytes : List UInt8) : Except Fault (List Char) :=
  match scan [] 0 bytes with
  | (cs, none) => .ok cs
  | (_, some fault) => .error fault

end Tracepoint.Utf8
