import FenceCheck.Number.Binary64

/-!
The shortest decimal that reads back as a given floating-point number. The reals that round to the
number form an interval, closed if its mantissa is even. For one digit, two digits and so on, the two
neighbours of the number on that decimal grid are tried; the first grid with a hit wins, of two hits
the nearer one, and an exact tie goes to the even digit.
-/
namespace FenceCheck.Number.Binary64

/-- A positive decimal: `digits * 10 ^ exponent`. -/
structure Decimal where
  digits : Nat
  exponent : Int
  deriving DecidableEq, Repr

/-- The reals that round to a number, and the number, over a common denominator. -/
structure Interval where
  low : Nat
  value : Nat
  high : Nat
  den : Nat
  closed : Bool

/-- The interval of `mantissa * 2 ^ exponent`. Below a power of two the numbers lie twice as dense. -/
def Interval.of (mantissa : Nat) (exponent : Int) : Interval :=
  let below := if mantissa = pow2 52 ∧ -1074 < exponent then 1 else 2
  let e := exponent - 2
  let unit := if 0 ≤ e then pow2 e.toNat else 1
  { low := (4 * mantissa - below) * unit
    value := 4 * mantissa * unit
    high := (4 * mantissa + 2) * unit
    den := if 0 ≤ e then 1 else pow2 (-e).toNat
    closed := mantissa % 2 = 0 }

/-- The power of ten of the leading digit of `num / den`, for positive numbers. -/
def leadingExponent (num den : Nat) : Int :=
  if den ≤ num then digitCount (num / den) - 1
  else -(digitCount ((den + num - 1) / num - 1) : Int)

/-- Whether the interval holds `digits * 10 ^ p`, given as `digits * up / down`. -/
def Interval.holds (i : Interval) (digits up down : Nat) : Bool :=
  let x := digits * up * i.den
  if i.closed then i.low * down ≤ x && x ≤ i.high * down else i.low * down < x && x < i.high * down

/-- The neighbour of the number on the grid `10 ^ p` that the interval holds, if it does. -/
def Interval.onGrid (i : Interval) (p : Int) : Option Decimal :=
  let up := if 0 ≤ p then pow10 p.toNat else 1
  let down := if 0 ≤ p then 1 else pow10 (-p).toNat
  let num := i.value * down
  let den := i.den * up
  let floor := num / den
  match i.holds floor up down && floor ≠ 0, i.holds (floor + 1) up down with
  | true, true => some ⟨roundHalfEven num den, p⟩
  | true, false => some ⟨floor, p⟩
  | false, true => some ⟨floor + 1, p⟩
  | false, false => none

/-- The first hit on the grids `10 ^ p`, `10 ^ (p - 1)` and so on, at most `fuel` of them. -/
def Interval.search (i : Interval) (p : Int) : Nat → Decimal
  | 0 => ⟨0, 0⟩
  | fuel + 1 => (i.onGrid p).getD (i.search (p - 1) fuel)

/-- The shortest decimal for `mantissa * 2 ^ exponent`. Seventeen digits always suffice. -/
def shortest (mantissa : Nat) (exponent : Int) : Decimal :=
  let i := Interval.of mantissa exponent
  i.search (leadingExponent i.value i.den) 18

end FenceCheck.Number.Binary64
