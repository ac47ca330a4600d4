/-!
# The shortest decimal text of a binary number

A finite binary number is `mantissa * 2 ^ exponent`.  The reals that round to it form an
interval, whose ends belong to it when the mantissa is even.  `Binary.shortest` is the decimal
number with the fewest digits in that interval, and of several with that many digits the nearest.

To find it, take the decimal grids with one digit, two digits and so on: the two neighbours of
the number on a grid are tried, and the first grid with a neighbour inside the interval wins.
-/

namespace DiffContents

/-- **A positive binary number**, `mantissa * 2 ^ exponent`. -/
structure Binary where
  mantissa : Nat
  exponent : Int
  /-- The gap below the number is half the gap above it, as it is at a power of two. -/
  narrowBelow : Bool
deriving DecidableEq, Repr

/-- A decimal number, `digits * 10 ^ exponent`. -/
structure Decimal where
  digits : Nat
  exponent : Int
deriving DecidableEq, Repr

namespace Binary

/-- A fraction of two natural numbers. -/
structure Ratio where
  num : Nat
  den : Nat
deriving DecidableEq, Repr

/-- `n * base ^ e` as a fraction. -/
def Ratio.scaled (n base : Nat) (e : Int) : Ratio :=
  if 0 ≤ e then ⟨n * Nat.pow base e.toNat, 1⟩ else ⟨n, Nat.pow base (-e).toNat⟩

/-- One fraction is at most another. -/
def Ratio.atMost (a b : Ratio) : Bool := decide (a.num * b.den ≤ b.num * a.den)

/-- One fraction is less than another. -/
def Ratio.below (a b : Ratio) : Bool := decide (a.num * b.den < b.num * a.den)

/-- The number itself, in quarters of its last binary place. -/
def value (b : Binary) : Ratio := .scaled (4 * b.mantissa) 2 (b.exponent - 2)

/-- The lower end of the interval of reals that round to the number. -/
def low (b : Binary) : Ratio :=
  .scaled (4 * b.mantissa - if b.narrowBelow then 1 else 2) 2 (b.exponent - 2)

/-- The upper end of the interval of reals that round to the number. -/
def high (b : Binary) : Ratio := .scaled (4 * b.mantissa + 2) 2 (b.exponent - 2)

/-- A decimal number rounds to the binary one. -/
def rounds (b : Binary) (d : Decimal) : Bool :=
  let r := Ratio.scaled d.digits 10 d.exponent
  if b.mantissa % 2 = 0 then b.low.atMost r && r.atMost b.high
  else b.low.below r && r.below b.high

/-- The greatest `e` with `10 ^ e` at most the number, looked for upwards from `e` in `fuel`
steps. -/
def magnitudeFrom (r : Ratio) : Nat → Int → Int
  | 0, e => e
  | fuel + 1, e =>
    if (Ratio.scaled 1 10 (e + 1)).atMost r then magnitudeFrom r fuel (e + 1) else e

/-- The decimal exponent of the first digit of the number. -/
def magnitude (b : Binary) : Int := magnitudeFrom b.value 700 (-350)

/-- The neighbours of the number on the grid of step `10 ^ e`: the one below and the one above
it. -/
def neighbours (b : Binary) (e : Int) : Decimal × Decimal :=
  let step := Ratio.scaled 1 10 e
  let v := b.value
  let n := (v.num * step.den) / (v.den * step.num)
  (⟨n, e⟩, ⟨n + 1, e⟩)

/-- The lower of the two neighbours on a grid is nearer than the upper one; half-way between them,
the even one counts as the nearer. -/
def lowerNearer (b : Binary) (e : Int) (n : Nat) : Bool :=
  let middle := Ratio.scaled (2 * n + 1) 10 e
  let v := b.value
  let twice := v.num * 2 * middle.den
  decide (twice < middle.num * v.den) || twice = middle.num * v.den && n % 2 = 0

/-- The decimal number of the first grid with a neighbour that rounds to the number, the grids
tried from `places` digits on. -/
def shortestFrom (b : Binary) : Nat → Nat → Decimal
  | 0, places => (b.neighbours (b.magnitude + 1 - places)).1
  | fuel + 1, places =>
    let e := b.magnitude + 1 - places
    let (lower, upper) := b.neighbours e
    match b.rounds lower, b.rounds upper with
    | true, true => if b.lowerNearer e lower.digits then lower else upper
    | true, false => lower
    | false, true => upper
    | false, false => shortestFrom b fuel (places + 1)

/-- **The shortest decimal number that rounds to the binary one.** -/
def shortest (b : Binary) : Decimal := b.shortestFrom 17 1

end Binary

end DiffContents
