import DiffContents.Toml.Scanner
import DiffContents.Toml.Value

/-!
# Numbers and moments

Whole numbers have 64 bits and are written to the base ten, sixteen, eight or two; an underscore
may stand between two digits.  A floating point number has a fraction, an exponent or both, and is
no number if it is too large.  A date is a day of the calendar.
-/

namespace DiffContents

namespace Toml

namespace Numeral

open Scanner

/-- A digit to a base, as a number. -/
def digitValue? (base : Nat) (c : Char) : Option Nat :=
  let value? :=
    if '0' ≤ c ∧ c ≤ '9' then some (c.toNat - '0'.toNat)
    else if 'a' ≤ c ∧ c ≤ 'f' then some (c.toNat - 'a'.toNat + 10)
    else if 'A' ≤ c ∧ c ≤ 'F' then some (c.toNat - 'A'.toNat + 10)
    else none
  value?.filter (· < base)

/-- A digit to a base. -/
def digit (base : Nat) : Scanner Nat
  | [] => none
  | c :: cs => (digitValue? base c).map (·, cs)

/-- Digits to a base, with single underscores between them. -/
def digits (base : Nat) : Scanner (List Nat) := do
  let first ← digit base
  let rest ← many (digit base <|> (do
    char '_'
    digit base))
  return first :: rest

/-- The number that digits to a base denote. -/
def ofDigits (base : Nat) (ds : List Nat) : Nat := ds.foldl (fun n d => n * base + d) 0

/-- A sign, and whether it is negative. -/
def sign : Scanner Bool := do
  match ← optional (charWith fun c => c = '+' || c = '-') with
  | some c => return c = '-'
  | none => return false

/-- Digits to the base ten without a zero in front. -/
def wholeDigits : Scanner (List Nat) := do
  let first ← digit 10
  if first = 0 then return [0]
  else
    let rest ← many (digit 10 <|> (do
      char '_'
      digit 10))
    return first :: rest

/-- Whole numbers lie below this one, and not below its negative. -/
def wordBound : Int := 0x8000000000000000

/-- A whole number of 64 bits. -/
def fitting (n : Int) : Scanner Toml :=
  if -wordBound ≤ n ∧ n < wordBound then return .integer n else failure

/-- A whole number to a base other than ten. -/
def based (letter : Char) (base : Nat) : Scanner Toml := do
  chars ['0', letter]
  fitting (ofDigits base (← digits base))

/-- A whole number to the base ten. -/
def decimal : Scanner Toml := do
  let negative ← sign
  let n : Int := ofDigits 10 (← wholeDigits)
  fitting (if negative then -n else n)

/-- A whole number. -/
def integer : Scanner Toml := based 'x' 16 <|> based 'o' 8 <|> based 'b' 2 <|> decimal

/-! ## Floating point numbers -/

/-- The numbers from this one on round to infinity. -/
def overflowBound : Nat := Nat.pow 2 1024 - Nat.pow 2 970

/-- The number of some digits times a power of ten rounds to infinity. -/
def overflows (ds : List Nat) (e : Int) : Bool :=
  let ds := ds.dropWhile (· = 0)
  let magnitude : Int := ds.length + e
  if ds.isEmpty || magnitude < 300 then false
  else if 320 < magnitude then true
  else if 0 ≤ e then overflowBound ≤ ofDigits 10 ds * Nat.pow 10 e.toNat
  else overflowBound * Nat.pow 10 (-e).toNat ≤ ofDigits 10 ds

/-- The digits after a point. -/
def fraction : Scanner (List Nat) := do
  char '.'
  digits 10

/-- An exponent. -/
def exponent : Scanner Int := do
  let _ ← charWith fun c => c = 'e' || c = 'E'
  let negative ← sign
  let n : Int := ofDigits 10 (← digits 10)
  return if negative then -n else n

/-- A floating point number in digits.  A negative one may be too large. -/
def finite : Scanner Unit := do
  let negative ← sign
  let whole ← wholeDigits
  let fraction? ← optional fraction
  let exponent? ← optional exponent
  if fraction?.isNone && exponent?.isNone then failure
  let fraction := fraction?.getD []
  if !negative && overflows (whole ++ fraction) (exponent?.getD 0 - fraction.length) then failure

/-- An infinity, or not a number. -/
def special : Scanner Unit := do
  let _ ← sign
  chars ['i', 'n', 'f'] <|> chars ['n', 'a', 'n']

/-- What a scanner takes, as a value made of the characters taken. -/
def written (make : String → Toml) (s : Scanner Unit) : Scanner Toml := fun cs =>
  (s cs).map fun (_, rest) => (make (String.ofList (cs.take (cs.length - rest.length))), rest)

/-- A floating point number. -/
def float : Scanner Toml := written .float (finite <|> special)

/-! ## Moments -/

/-- A number of a fixed count of digits between two bounds. -/
def field (count lower upper : Nat) : Scanner Nat := fun cs =>
  let ds := (cs.take count).filterMap (digitValue? 10)
  let n := ofDigits 10 ds
  if ds.length = count && lower ≤ n && n ≤ upper then some (n, cs.drop count) else none

/-- The year has a twenty-ninth of February. -/
def isLeap (year : Nat) : Bool := year % 4 = 0 && (year % 100 ≠ 0 || year % 400 = 0)

/-- The number of days of a month. -/
def daysOf (year month : Nat) : Nat :=
  if month = 2 then if isLeap year then 29 else 28
  else if month = 4 || month = 6 || month = 9 || month = 11 then 30
  else 31

/-- A day of the calendar. -/
def date : Scanner Unit := do
  let year ← field 4 0 9999
  char '-'
  let month ← field 2 1 12
  char '-'
  let _ ← field 2 1 (daysOf year month)

/-- A time of day. -/
def time : Scanner Unit := do
  let _ ← field 2 0 23
  char ':'
  let _ ← field 2 0 59
  char ':'
  let _ ← field 2 0 60
  let _ ← optional do
    char '.'
    run1 Char.isDigit

/-- The distance of a time of day from universal time. -/
def offset : Scanner Unit := do
  match ← charWith fun c => c = 'Z' || c = 'z' || c = '+' || c = '-' with
  | 'Z' | 'z' => return ()
  | _ =>
    let _ ← field 2 0 23
    char ':'
    let _ ← field 2 0 59

/-- A time of day after a date. -/
def timeAfterDate : Scanner Unit := do
  let _ ← charWith fun c => c = 'T' || c = 't' || c = ' '
  time
  let _ ← optional offset

/-- A date with or without a time of day. -/
def dateWithTime : Scanner Unit := do
  date
  let _ ← optional timeAfterDate

/-- A moment. -/
def moment : Scanner Toml := written .moment (dateWithTime <|> time)

/-- **A moment or a number.** -/
def any : Scanner Toml := moment <|> float <|> integer

end Numeral

end Toml

end DiffContents
