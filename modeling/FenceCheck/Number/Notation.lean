import FenceCheck.Number.Shortest

/-!
Numbers as text. Floating-point numbers take the shortest decimal that reads back; it is written out
from `1e-4` up to below `1e16`, with a point and at least one digit after it, and beyond in scientific
form with a signed exponent of at least two digits. Integers are written in base ten, which is refused
beyond 4300 digits.
-/
namespace FenceCheck.Number

/-- Most digits that an integer may have when it is read from or written to base ten. -/
def digitLimit : Nat := 4300

def zeros (n : Nat) : List Char :=
  List.replicate n '0'

/-- Digits `ds`, the first of them standing at the power `lead` of ten, written out in full. -/
def positional (ds : List Char) (lead : Int) : List Char :=
  if lead < 0 then '0' :: '.' :: (zeros (-lead - 1).toNat ++ ds)
  else
    let whole := ds.take (lead.toNat + 1)
    let after := ds.drop (lead.toNat + 1)
    whole ++ zeros (lead.toNat + 1 - ds.length) ++ '.' :: (if after = [] then ['0'] else after)

def scientific (ds : List Char) (lead : Int) : List Char :=
  let exponent := Nat.toDigits 10 lead.natAbs
  ds.take 1 ++ (if ds.length ≤ 1 then [] else '.' :: ds.drop 1)
    ++ 'e' :: (if lead < 0 then '-' else '+') :: (zeros (2 - exponent.length) ++ exponent)

/-- The digits of a decimal without zeros at the end, and the power of ten of the first of them. -/
def Binary64.Decimal.leading (d : Binary64.Decimal) : List Char × Int :=
  let ds := Nat.toDigits 10 d.digits
  let kept := (ds.reverse.dropWhile (· = '0')).reverse
  (if kept = [] then ['0'] else kept, d.exponent + (ds.length - 1 : Nat))

def Binary64.render (x : Binary64) : String :=
  match x.form with
  | .nan => "nan"
  | .infinite neg => if neg then "-inf" else "inf"
  | .finite neg m e =>
    let body :=
      if m = 0 then ['0', '.', '0']
      else
        let (ds, lead) := (Binary64.shortest m e).leading
        if -4 ≤ lead ∧ lead < 16 then positional ds lead else scientific ds lead
    String.ofList (if neg then '-' :: body else body)

def renderInt (n : Int) : String :=
  if n < 0 then "-" ++ toString n.natAbs else toString n.natAbs

def renderInt? (n : Int) : Option String :=
  let s := toString n.natAbs
  if digitLimit < s.length then none else some (if n < 0 then "-" ++ s else s)

end FenceCheck.Number
