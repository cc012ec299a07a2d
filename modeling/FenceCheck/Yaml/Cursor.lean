/-!
A place in a YAML stream: what is left of the text, and the numbers of characters, lines and columns
before it. Behind the end of the text stands a NUL character, which no stream holds itself.
-/
namespace FenceCheck.Yaml

/-- A line and a column, from zero. -/
structure Mark where
  line : Nat
  column : Nat
  deriving DecidableEq, Repr, Inhabited

/-- A place in a stream. No loop over the stream takes more steps than its size. -/
structure Cursor where
  size : Nat
  rest : List Char
  index : Nat
  line : Nat
  column : Nat
  deriving Inhabited

def endMark : Char := '\x00'

def isBreak (c : Char) : Bool :=
  c = '\r' || c = '\n' || c = '\u0085' || c = '\u2028' || c = '\u2029'

def isBreakOrEnd (c : Char) : Bool :=
  isBreak c || c = endMark

/-- A space, a line end or the end of the stream. -/
def isSpaceOrEnd (c : Char) : Bool :=
  isBreakOrEnd c || c = ' '

/-- A space, a tab, a line end or the end of the stream. -/
def isBlankOrEnd (c : Char) : Bool :=
  isSpaceOrEnd c || c = '\t'

/-- A letter or digit of ASCII, a hyphen or a low line. -/
def isWordChar (c : Char) : Bool :=
  c.isAlphanum || c = '-' || c = '_'

namespace Cursor

def start (s : List Char) : Cursor := ⟨s.length, s, 0, 0, 0⟩

def mark (c : Cursor) : Mark := ⟨c.line, c.column⟩

def peek (c : Cursor) : Char := c.rest.headD endMark

/-- The character `k` places further on. -/
def peekAt (c : Cursor) (k : Nat) : Char := (c.rest.drop k).headD endMark

/-- The next `k` characters. -/
def ahead (c : Cursor) (k : Nat) : List Char := c.rest.take k

/-- One character further. Line ends start a new line, a carriage return only if no line feed follows;
byte order marks take no column. -/
def next (c : Cursor) : Cursor :=
  match c.rest with
  | [] => c
  | x :: rest =>
    let c := { c with rest, index := c.index + 1 }
    if (isBreak x && x ≠ '\r') || (x = '\r' && rest.headD endMark ≠ '\n') then
      { c with line := c.line + 1, column := 0 }
    else if x = '\uFEFF' then c
    else { c with column := c.column + 1 }

def forward (c : Cursor) : Nat → Cursor
  | 0 => c
  | n + 1 => c.next.forward n

def span (c : Cursor) (p : Char → Bool) : Nat :=
  (c.rest.takeWhile p).length

def skipWhile (c : Cursor) (p : Char → Bool) : Cursor :=
  c.forward (c.span p)

def skipSpaces (c : Cursor) : Cursor :=
  c.skipWhile (· = ' ')

def skipComment (c : Cursor) : Cursor :=
  if c.peek = '#' then c.skipWhile (!isBreakOrEnd ·) else c

def skipBreak (c : Cursor) : Cursor :=
  if c.ahead 2 = ['\r', '\n'] then c.forward 2
  else if isBreak c.peek then c.next
  else c

def isSeparator (c : Cursor) (sign : Char) : Bool :=
  c.ahead 3 = [sign, sign, sign] && isBlankOrEnd (c.peekAt 3)

def isAnySeparator (c : Cursor) : Bool :=
  c.isSeparator '-' || c.isSeparator '.'

end Cursor
end FenceCheck.Yaml
