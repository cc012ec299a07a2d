import FenceCheck.Text.CodePoint
import FenceCheck.Text.Hex
import FenceCheck.Text.Printable

/-!
Quoted texts, as messages show them: between apostrophes, or between quotation marks if there is an
apostrophe and no quotation mark inside. Printable characters stand for themselves, all others are
escaped by number.
-/
namespace FenceCheck.Text

def quoteMark (ps : List CodePoint) : Char :=
  if ps.any (·.val = 0x27) && !ps.any (·.val = 0x22) then '"' else '\''

/-- A code point by its number. -/
def numbered (p : CodePoint) : List Char :=
  if p.val < 0x100 then '\\' :: 'x' :: hexFixed 2 p.val
  else if p.val < 0x10000 then '\\' :: 'u' :: hexFixed 4 p.val
  else '\\' :: 'U' :: hexFixed 8 p.val

/-- One code point inside the marks `mark`. -/
def quotedPoint (mark : Char) (p : CodePoint) : List Char :=
  if p.val = mark.toNat then ['\\', mark]
  else if p.val = 0x5C then ['\\', '\\']
  else if p.val = 0x0A then ['\\', 'n']
  else if p.val = 0x0D then ['\\', 'r']
  else if p.val = 0x09 then ['\\', 't']
  else if isPrintable p.val then [p.toChar]
  else numbered p

def quotedPoints (ps : List CodePoint) : String :=
  let mark := quoteMark ps
  String.ofList (mark :: (ps.flatMap (quotedPoint mark) ++ [mark]))

def quoted (s : String) : String :=
  quotedPoints (codePoints s)

/-- A text as a stream shows it that writes surrogates by their numbers. -/
def escaped (ps : List CodePoint) : String :=
  String.ofList (ps.flatMap fun p => if p.isSurrogate then numbered p else [p.toChar])

end FenceCheck.Text
