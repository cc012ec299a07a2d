/-!
Floating-point numbers of 64 bits as data: the bit pattern, what it denotes, and the pattern nearest
to a ratio of natural numbers. All arithmetic is exact; a half goes to the even neighbour.
-/
namespace FenceCheck.Number

def pow2 (n : Nat) : Nat := Nat.pow 2 n

def pow10 (n : Nat) : Nat := Nat.pow 10 n

/-- A floating-point number, given by its bit pattern. -/
structure Binary64 where
  bits : UInt64
  deriving DecidableEq, Inhabited

namespace Binary64

/-- What a bit pattern denotes: `mantissa * 2 ^ exponent` for the finite ones. -/
inductive Form where
  | nan
  | infinite (negative : Bool)
  | finite (negative : Bool) (mantissa : Nat) (exponent : Int)
  deriving DecidableEq

def negative (x : Binary64) : Bool :=
  x.bits.toNat / pow2 63 = 1

def form (x : Binary64) : Form :=
  let biased : Nat := x.bits.toNat / pow2 52 % pow2 11
  let fraction : Nat := x.bits.toNat % pow2 52
  if biased = 2047 then
    if fraction = 0 then .infinite x.negative else .nan
  else if biased = 0 then .finite x.negative fraction (-1074)
  else .finite x.negative (pow2 52 + fraction) ((biased : Int) - 1075)

def ofMagnitude (negative : Bool) (magnitude : Nat) : Binary64 :=
  ⟨UInt64.ofNat ((if negative then pow2 63 else 0) + magnitude)⟩

def infinity (negative : Bool) : Binary64 :=
  ofMagnitude negative (2047 * pow2 52)

def nan : Binary64 :=
  ofMagnitude false (2047 * pow2 52 + pow2 51)

/-- `num / den` rounded to a natural number, a half to the even one. -/
def roundHalfEven (num den : Nat) : Nat :=
  let q := num / den
  let r := num % den
  if 2 * r < den then q
  else if den < 2 * r then q + 1
  else if q % 2 = 0 then q else q + 1

/-- `num * 2 ^ e / den` as numerator and denominator. -/
def scaled (num den : Nat) (e : Int) : Nat × Nat :=
  if 0 ≤ e then (num * pow2 e.toNat, den) else (num, den * pow2 (-e).toNat)

/-- The greatest `k` with `2 ^ k ≤ num / den`, for positive numbers. -/
def floorLog2 (num den : Nat) : Int :=
  let k : Int := (Nat.log2 num : Int) - Nat.log2 den
  let (n, d) := scaled num den (-k)
  if n < d then k - 1 else k

/-- The number nearest to `num / den`; none if it is beyond the finite ones. -/
def ofRatio? (negative : Bool) (num den : Nat) : Option Binary64 :=
  if num = 0 then some (ofMagnitude negative 0)
  else
    let e := max (floorLog2 num den - 52) (-1074)
    let (n, d) := scaled num den (-e)
    let magnitude := (e + 1074).toNat * pow2 52 + roundHalfEven n d
    if magnitude < 2047 * pow2 52 then some (ofMagnitude negative magnitude) else none

/-- The number nearest to an integer; none if it is beyond the finite ones. -/
def ofInt? (n : Int) : Option Binary64 :=
  ofRatio? (n < 0) n.natAbs 1

/-- Number of decimal digits; zero has none. -/
def digitCount (n : Nat) : Nat :=
  if n = 0 then 0 else (Nat.toDigits 10 n).length

/-- The number nearest to `digits * 10 ^ exponent`, infinite beyond the finite ones. The exponent is
judged first, so that no power is formed that cannot matter. -/
def ofDecimal (negative : Bool) (digits : Nat) (exponent : Int) : Binary64 :=
  let top := exponent + digitCount digits
  if digits = 0 ∨ top < -400 then ofMagnitude negative 0
  else if 400 < top then infinity negative
  else
    let found :=
      if 0 ≤ exponent then ofRatio? negative (digits * pow10 exponent.toNat) 1
      else ofRatio? negative digits (pow10 (-exponent).toNat)
    found.getD (infinity negative)

def truncate (x : Binary64) : Option Int :=
  match x.form with
  | .finite neg m e =>
    let n : Nat := if 0 ≤ e then m * pow2 e.toNat else m / pow2 (-e).toNat
    some (if neg then -(n : Int) else n)
  | _ => none

def isZero (x : Binary64) : Bool :=
  x.bits.toNat % pow2 63 = 0

/-- At most zero; not so for a NaN. -/
def isNonPositive (x : Binary64) : Bool :=
  match x.form with
  | .nan => false
  | .infinite neg => neg
  | .finite neg m _ => neg || m = 0

end Binary64
end FenceCheck.Number
