import DiffContents.Decimal.Shortest

/-!
# The text of a floating point number

A number is written with the fewest digits that read back, positionally when its first digit
stands between the fifth place after the point and the sixteenth before it, and otherwise with an
exponent that has a sign.  A whole number keeps one zero after the point.
-/

namespace DiffContents

namespace FloatText

/-- How a decimal number is laid out. -/
structure Layout where
  /-- The least exponent of the first digit that is written positionally. -/
  least : Int
  /-- The greatest exponent of the first digit that is written positionally. -/
  greatest : Int
deriving DecidableEq, Repr

/-- The layout of numbers in messages. -/
def layout : Layout := ⟨-5, 15⟩

/-- A sign and the value of a finite number, which is none for zero. -/
def split (f : Float) : Bool × Option Binary :=
  let bits : Nat := f.toBits.toNat
  let fraction : Nat := bits % Nat.pow 2 52
  let biased : Nat := bits / Nat.pow 2 52 % Nat.pow 2 11
  let negative := decide (Nat.pow 2 63 ≤ bits)
  if biased = 0 then
    (negative, if fraction = 0 then none else some ⟨fraction, -1074, false⟩)
  else
    (negative, some ⟨Nat.pow 2 52 + fraction, (biased : Int) - 1075, fraction = 0 && 1 < biased⟩)

/-- The digits of a decimal number without zeros at their end, and the exponent of the first
one. -/
def significant (d : Decimal) : List Char × Int :=
  let digits := (toString d.digits).toList
  let kept := (digits.reverse.dropWhile (· == '0')).reverse
  (kept, d.exponent + digits.length - 1)

/-- Digits laid out around the decimal point, or with an exponent. -/
def place (l : Layout) (digits : List Char) (e : Int) : List Char :=
  if l.least ≤ e && e ≤ l.greatest then
    if e < 0 then ['0', '.'] ++ List.replicate (-e - 1).toNat '0' ++ digits
    else
      let whole := e.toNat + 1
      let front := digits.take whole
      let back := digits.drop whole
      front ++ List.replicate (whole - front.length) '0' ++ '.' ::
        (if back.isEmpty then ['0'] else back)
  else
    digits.take 1 ++ (if digits.length ≤ 1 then [] else '.' :: digits.drop 1) ++
      ['e', if e < 0 then '-' else '+'] ++ (toString e.natAbs).toList

/-- **The text of a finite number.** -/
def render (f : Float) : String :=
  let (negative, value) := split f
  let body := match value with
    | none => ['0', '.', '0']
    | some b => let (digits, e) := significant b.shortest; place layout digits e
  String.ofList (if negative then '-' :: body else body)

end FloatText

end DiffContents
