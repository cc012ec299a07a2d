import FenceCheck.Text.Boundaries
import FenceCheck.Text.CodePoint

/-!
Blank characters: white space, line and paragraph separators of Unicode 14, and the four
information separators U+001C to U+001F. `strip` removes them at both ends of a text.
-/
namespace FenceCheck.Text

def blankBoundaries : Array Nat := #[
  0x9, 0xe, 0x1c, 0x21, 0x85, 0x86, 0xa0, 0xa1, 0x1680, 0x1681, 0x2000, 0x200b, 0x2028, 0x202a,
  0x202f, 0x2030, 0x205f, 0x2060, 0x3000, 0x3001]

/-- White space as texts are trimmed by: wider than the ASCII blanks, and with the separators. -/
def isBlank (c : Char) : Bool :=
  withinBoundaries blankBoundaries c.toNat

def stripLeft (s : List Char) : List Char :=
  s.dropWhile isBlank

def stripRight (s : List Char) : List Char :=
  (s.reverse.dropWhile isBlank).reverse

def strip (s : String) : String :=
  String.ofList (stripRight (stripLeft s.toList))

/-- The same of code points, among which no surrogate is blank. -/
def CodePoint.isBlank (p : CodePoint) : Bool :=
  withinBoundaries blankBoundaries p.val

def stripPoints (ps : List CodePoint) : List CodePoint :=
  ((ps.dropWhile (·.isBlank)).reverse.dropWhile (·.isBlank)).reverse

def isBlankText (s : String) : Bool :=
  s.toList.all isBlank

end FenceCheck.Text
