import DiffContents.Json.Value

/-!
# Numerals

A numeral is the text of a number taken apart into its digits.  `Numeral.value?` is the number it
denotes.  Whole numbers that fit 64 bits are exact; every other numeral denotes the floating point
number made of its leading digits, as many as fit 64 bits, times a power of ten.  A numeral whose
magnitude is beyond the floating point numbers denotes nothing.
-/

namespace DiffContents

namespace Json

/-- **A numeral, taken apart.** -/
structure Numeral where
  negative : Bool
  /-- The digits before the point. -/
  whole : List Nat
  /-- The digits after the point, if there is a point. -/
  fraction : Option (List Nat)
  /-- Whether the exponent is negative, and its digits, if there is an exponent. -/
  exponent : Option (Bool × List Nat)
deriving DecidableEq, Repr, Inhabited

namespace Numeral

/-- Puts digits behind a number as long as it fits 64 bits; also gives the digits left over. -/
def absorb : Nat → List Nat → Nat × List Nat
  | n, [] => (n, [])
  | n, d :: ds => if n * 10 + d < UInt64.size then absorb (n * 10 + d) ds else (n, d :: ds)

/-- The number that digits denote. -/
def ofDigits (ds : List Nat) : Nat := ds.foldl (fun n d => n * 10 + d) 0

/-- The greatest exponent that is read as it stands. -/
def maxExponent : Nat := 0x7fffffff

/-- How many digits of an exponent are read until it is known to be beyond the greatest one; none
if it is not beyond. -/
def overflowAfter : Nat → Nat → List Nat → Option Nat
  | _, _, [] => none
  | n, seen, d :: ds =>
    if n * 10 + d ≤ maxExponent then overflowAfter (n * 10 + d) (seen + 1) ds else some (seen + 1)

/-- `f * 10 ^ e`, rounded after every step; none when it is infinite. -/
def scale (f : Float) : Nat → Int → Option Float
  | 0, _ => some f
  | fuel + 1, e =>
    if e.natAbs ≤ 308 then
      let power := Float.ofScientific 1 false e.natAbs
      if 0 ≤ e then
        let g := f * power
        if g.isInf then none else some g
      else some (f / power)
    else if f == 0 then some f
    else if 0 ≤ e then none
    else scale (f / Float.ofScientific 1 false 308) fuel (e + 308)

/-- The sign put on a floating point number. -/
def signed (negative : Bool) (f : Float) : Float := if negative then -f else f

/-- What a numeral denotes. -/
inductive Denoted where
  | number (n : Number)
  /-- The number is too large. -/
  | tooLarge
  /-- The number is too large, as is known after some digits of its exponent. -/
  | tooLargeAfter (exponentDigits : Nat)
deriving Repr

/-- The floating point number `significand * 10 ^ e`. -/
def float (negative : Bool) (significand : Nat) (e : Int) : Denoted :=
  match scale significand.toUInt64.toFloat (e.natAbs / 308 + 1) e with
  | some f => .number (.float (signed negative f))
  | none => .tooLarge

/-- A whole number that fits 64 bits; a negative one that does not, and negative zero, are
floating point numbers. -/
def int (negative : Bool) (n : Nat) : Number :=
  if negative then
    if 0 < n && n ≤ 0x8000000000000000 then .int (-(n : Int)) else .float (-n.toUInt64.toFloat)
  else .int n

/-- **The number a numeral denotes.** -/
def value (l : Numeral) : Denoted :=
  match absorb 0 l.whole, l.fraction, l.exponent with
  | (n, []), none, none => .number (int l.negative n)
  | (n, excess), fraction, exponent =>
    let (significand, left) := absorb n (fraction.getD [])
    let e : Int := excess.length - ((fraction.getD []).length - left.length : Nat)
    match exponent with
    | none => float l.negative significand e
    | some (negative, digits) =>
      match overflowAfter 0 0 digits with
      | some seen =>
        if significand = 0 || negative then .number (.float (signed l.negative 0))
        else .tooLargeAfter seen
      | none =>
        let shift : Int := ofDigits digits
        float l.negative significand (if negative then e - shift else e + shift)

end Numeral

end Json

end DiffContents
