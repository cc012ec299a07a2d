import FenceCheck.Number.Notation
import FenceCheck.Text.Blank
import FenceCheck.Text.Digit

/-!
Numbers read from settings texts. Blanks may stand around the number, digits may be of any script, and
single low lines may separate digits.
-/
namespace FenceCheck.Number
open FenceCheck.Text

/-- A character with its script forgotten: digits become ASCII digits and blanks the space. ASCII
characters are kept, and others become a mark that belongs to no number. -/
def plainChar (c : Char) : Char :=
  if c.toNat < 0x80 then c
  else if isBlank c then ' '
  else match digitValue? c with
    | some d => Char.ofNat (48 + d)
    | none => '?'

def isAsciiBlank (c : Char) : Bool :=
  c = ' ' || ('\t' ≤ c && c ≤ '\r')

def plainText (s : String) : List Char :=
  let cs := s.toList.map plainChar
  ((cs.dropWhile isAsciiBlank).reverse.dropWhile isAsciiBlank).reverse

/-- Removes low lines, each of which must stand between two digits; `after` says that a digit precedes. -/
def joinDigits (after : Bool) : List Char → Option (List Char)
  | [] => some []
  | '_' :: d :: rest =>
    if after && d.isDigit then (joinDigits true rest).map (d :: ·) else none
  | c :: rest => if c = '_' then none else (joinDigits c.isDigit rest).map (c :: ·)

def takeSign : List Char → Bool × List Char
  | '-' :: rest => (true, rest)
  | '+' :: rest => (false, rest)
  | cs => (false, cs)

def ofDigits (cs : List Char) : Nat :=
  cs.foldl (fun n c => n * 10 + (c.toNat - 48)) 0

/-- An integer in base ten of at most 4300 digits. -/
def readInt? (s : String) : Option Int := do
  let (negative, cs) := takeSign (plainText s)
  let ds ← joinDigits false cs
  if ds = [] ∨ ds.any (!·.isDigit) ∨ digitLimit < ds.length then none
  else some (if negative then -(ofDigits ds : Int) else ofDigits ds)

/-- The exponent part of a number: nothing, or a mark, a sign and digits. -/
def readExponent? : List Char → Option Int
  | [] => some 0
  | c :: rest =>
    if c = 'e' ∨ c = 'E' then
      let (negative, ds) := takeSign rest
      if ds = [] ∨ ds.any (!·.isDigit) then none
      else some (if negative then -(ofDigits ds : Int) else ofDigits ds)
    else none

def readDecimal? (negative : Bool) (cs : List Char) : Option Binary64 := do
  let whole := cs.takeWhile Char.isDigit
  let afterWhole := cs.dropWhile Char.isDigit
  let (fraction, rest) := match afterWhole with
    | '.' :: more => (more.takeWhile Char.isDigit, more.dropWhile Char.isDigit)
    | more => ([], more)
  if whole = [] ∧ fraction = [] then none
  else
    let exponent ← readExponent? rest
    return .ofDecimal negative (ofDigits (whole ++ fraction)) (exponent - fraction.length)

/-- A floating-point number: a decimal, or a word for infinity or for no number. -/
def readFloat? (s : String) : Option Binary64 := do
  let cs ← joinDigits false (plainText s)
  let (negative, body) := takeSign cs
  let word := String.ofList (body.map Char.toLower)
  if word = "inf" ∨ word = "infinity" then some (.infinity negative)
  else if word = "nan" then some .nan
  else readDecimal? negative body

end FenceCheck.Number
