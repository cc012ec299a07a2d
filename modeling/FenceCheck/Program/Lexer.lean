import FenceCheck.Program.Numeral
import FenceCheck.Program.Token
import FenceCheck.Text.Hex
import FenceCheck.Text.Identifier
import FenceCheck.Text.Printable

/-!
The tokens of a program. Blocks are told by the blanks that lines begin with; inside brackets line ends
and blanks do not count. The tokens come with the reason why they end.
-/
namespace FenceCheck.Program
open FenceCheck.Text

/-- An open bracket and its line. -/
structure Bracket where
  opening : Char
  line : Nat
  deriving DecidableEq, Repr

/-- Why the tokens of a program end before its text does. -/
structure Break where
  trouble : Trouble
  /-- It is told even if the text before it is at fault, too. -/
  loud : Bool
  /-- The innermost bracket that is open there. -/
  bracket : Option Bracket
  deriving DecidableEq, Repr

/-- The tokens of a program, and why they end early, if they do. -/
structure Tokens where
  all : Array Token
  broken : Option Break

def Bracket.trouble (b : Bracket) : Trouble :=
  ⟨b.line, "'" ++ b.opening.toString ++ "' was never closed"⟩

/-- The width of a line's blanks: with a tabulator as up to eight blanks, and as one. -/
structure Width where
  full : Nat := 0
  single : Nat := 0
  deriving DecidableEq, Repr

/-- The lexer between two tokens: the rest of the text, the line reached, whether the next character
begins a line, and whether the blanks of a line are to be counted; how many blocks are still to be opened,
or to be closed if negative; the widths of the open blocks, and the open brackets. -/
structure Lexer where
  rest : Rest
  line : Nat
  fresh : Bool := true
  lineStart : Bool := true
  pending : Int := 0
  blocks : List Width := [{}]
  brackets : List Bracket := []

/-- Reading a piece of the text, or why the tokens end there. -/
abbrev Scan (α : Type) := Except Break α

namespace Lexer

def touch (l : Lexer) : Lexer :=
  if l.fresh && !l.rest.isEmpty then { l with line := l.line + 1, fresh := false } else l

def take (l : Lexer) : Lexer :=
  let l := l.touch
  { l with rest := l.rest.drop 1, fresh := l.rest.head? = some '\n' }

def goTo (l : Lexer) (rest : Rest) : Lexer :=
  (List.range (l.rest.length - rest.length)).foldl (fun l _ => l.take) l

def stop {α : Type} (l : Lexer) (loud : Bool) (message : String) : Scan α :=
  .error { trouble := ⟨l.line, message⟩, loud, bracket := l.brackets.head? }

def fail {α : Type} (l : Lexer) (message : String) : Scan α := l.stop true message

def stopAtEnd {α : Type} (l : Lexer) : Scan α :=
  match l.brackets.head? with
  | some b => .error { trouble := b.trouble, loud := false, bracket := some b }
  | none => l.stop false "unexpected EOF while parsing"

/-- Goes on with the next line after a backslash that has been taken. -/
def continueLine (l : Lexer) : Scan Lexer :=
  match l.rest with
  | '\n' :: rest => if rest.isEmpty then l.take.stopAtEnd else .ok l.take.touch
  | _ => l.touch.stop false "unexpected character after line continuation character"

/-- Counts the blanks that a line begins with. A form feed starts the count again; with a backslash the
first one of them decides. -/
def countBlanks : Nat → Width → Option Width → Lexer → Scan (Width × Lexer)
  | 0, w, _, l => .ok (w, l)
  | fuel + 1, w, first, l =>
    match l.rest with
    | ' ' :: _ => countBlanks fuel ⟨w.full + 1, w.single + 1⟩ first l.take
    | '\t' :: _ => countBlanks fuel ⟨(w.full / 8 + 1) * 8, w.single + 1⟩ first l.take
    | '\x0c' :: _ => countBlanks fuel {} first l.take
    | '\\' :: _ => do
      let first := match first with
        | some f => some f
        | none => if w.full = 0 then none else some ⟨w.full, w.full⟩
      countBlanks fuel w first (← l.take.continueLine)
    | _ => .ok (first.getD w, l.touch)

def blockLimit : Nat := 100

def bracketLimit : Nat := 200

/-- Opens or closes blocks for a line that begins with a width of blanks. -/
def adjust (l : Lexer) (w : Width) : Scan Lexer :=
  let mixed : Scan Lexer := l.stop false "inconsistent use of tabs and spaces in indentation"
  let current := l.blocks.headD {}
  if w.full = current.full then
    if w.single = current.single then .ok l else mixed
  else if w.full > current.full then
    if l.blocks.length ≥ blockLimit then l.stop false "too many levels of indentation"
    else if w.single ≤ current.single then mixed
    else .ok { l with pending := l.pending + 1, blocks := w :: l.blocks }
  else
    let left := l.blocks.dropWhile fun b => w.full < b.full
    let closed := l.blocks.length - left.length
    let l := { l with pending := l.pending - closed, blocks := left }
    if (left.headD {}).full ≠ w.full then
      l.stop false "unindent does not match any outer indentation level"
    else if (left.headD {}).single ≠ w.single then
      l.stop false "inconsistent use of tabs and spaces in indentation"
    else .ok l

def token (before after : Lexer) (kind : TokenKind) : Token :=
  { kind, spelling := String.ofList (before.rest.take (before.rest.length - after.rest.length))
    line := after.line, depth := after.brackets.length }

def emit (l : Lexer) (kind : TokenKind) (rest : Rest) : Scan (Token × Lexer) :=
  let after := l.goTo rest
  .ok (token l after kind, after)

/-- A code point in base sixteen, of at least four digits. -/
def codePoint (c : Char) : String :=
  let n := c.toNat
  let digits := hexFixed (if n < 0x10000 then 4 else if n < 0x100000 then 5 else 6) n
  "U+" ++ String.ofList (digits.map Char.toUpper)

def wrongInName : Rest → Option Char
  | [] => none
  | c :: rest =>
    if c = '_' || isIdentifierStart c then rest.find? fun d => !isIdentifierContinue d else some c

def readName (l : Lexer) : Scan (Token × Lexer) :=
  let word := l.rest.takeWhile mayContinueName
  match wrongInName word with
  | some c =>
    if isPrintable c.toNat then l.fail ("invalid character '" ++ c.toString ++ "' (" ++ codePoint c ++ ")")
    else l.fail ("invalid non-printable character " ++ codePoint c)
  | none =>
    l.emit (if keywords.contains (String.ofList word) then .keyword else .name) (l.rest.drop word.length)

def isTextMark (mark : Rest) : Bool :=
  ["", "b", "r", "u", "f", "br", "rb", "fr", "rf"].contains
    (String.ofList (mark.map fun c => c.toLower))

def readQuoted (quote : Char) (size : Nat) : Nat → Nat → Lexer → Option Lexer
  | 0, _, _ => none
  | fuel + 1, closed, l =>
    if closed = size then some l
    else match l.rest with
      | [] => none
      | c :: _ =>
        if size = 1 && c = '\n' then none
        else if c = quote then readQuoted quote size fuel (closed + 1) l.take
        else if c = '\\' then readQuoted quote size fuel 0 l.take.take
        else readQuoted quote size fuel 0 l.take

def lastLine (quote : Char) (size : Nat) : Nat → Lexer → Nat
  | 0, l => l.line
  | fuel + 1, l =>
    match l.rest with
    | [] => l.line
    | c :: _ =>
      if size = 1 && c = '\n' then l.touch.line
      else if c = '\\' then lastLine quote size fuel l.take.take
      else lastLine quote size fuel l.take

def readText (l : Lexer) (mark : Rest) (quote : Char) : Scan (Token × Lexer) :=
  let body := l.goTo (l.rest.drop (mark.length + 1))
  let fuel := body.rest.length + 1
  let finish (size closed : Nat) (body : Lexer) : Scan (Token × Lexer) :=
    match readQuoted quote size fuel closed body with
    | some after => .ok ({ token l after .text with line := body.line }, after)
    | none =>
      body.fail ((if size = 3 then "unterminated triple-quoted string literal (detected at line "
        else "unterminated string literal (detected at line ")
          ++ toString (lastLine quote size fuel body) ++ ")")
  match body.rest with
  | c :: d :: _ =>
    if c = quote then
      if d = quote then finish 3 0 (body.goTo (body.rest.drop 2)) else finish 1 1 body.take
    else finish 1 0 body
  | _ => finish 1 0 body

def readOperator (l : Lexer) : Scan (Token × Lexer) :=
  let upTo (n : Nat) : String := String.ofList (l.rest.take n)
  if operatorsOfThree.contains (upTo 3) then l.emit .operator (l.rest.drop 3)
  else if operatorsOfTwo.contains (upTo 2) then l.emit .operator (l.rest.drop 2)
  else match l.rest with
    | [] => l.stopAtEnd
    | c :: rest =>
      let after := l.take
      let emit (after : Lexer) : Scan (Token × Lexer) := .ok (token l after .operator, after)
      if c = '(' || c = '[' || c = '{' then
        if l.brackets.length ≥ bracketLimit then after.fail "too many nested parentheses"
        else emit { after with brackets := ⟨c, l.line⟩ :: l.brackets }
      else if c = ')' || c = ']' || c = '}' then
        match l.brackets with
        | [] => after.fail ("unmatched '" ++ c.toString ++ "'")
        | b :: outer =>
          let after := { after with brackets := outer }
          if (b.opening, c) = ('(', ')') || (b.opening, c) = ('[', ']') || (b.opening, c) = ('{', '}') then
            emit after
          else
            after.fail ("closing parenthesis '" ++ c.toString ++ "' does not match opening parenthesis '"
              ++ b.opening.toString ++ "'"
              ++ (if b.line = l.line then "" else " on line " ++ toString b.line))
      else if !isPrintable c.toNat then after.fail ("invalid non-printable character " ++ codePoint c)
      else l.emit .operator rest

def readNumber (l : Lexer) (rest : Piece) : Scan (Token × Lexer) :=
  match rest with
  | .ok rest => l.emit .number rest
  | .error message => l.fail message

/-- What a line or a token begins with. -/
inductive Found where
  | token (t : Token) (after : Lexer)
  | nothing (after : Lexer)

/-- Reads the token that begins with the next character; there is none where only a line ends or goes on.
`blank` is a line without tokens. -/
def readToken (l : Lexer) (blank : Bool) : Scan Found := do
  let found (x : Scan (Token × Lexer)) : Scan Found := do
    let (t, after) ← x
    return .token t after
  let l := l.goTo (l.rest.dropWhile fun c => c = ' ' || c = '\t' || c = '\x0c')
  let l := match l.rest with
    | '#' :: _ => l.goTo (l.rest.dropWhile (· ≠ '\n'))
    | _ => l
  let l := l.touch
  match l.rest with
  | [] =>
    if l.brackets.isEmpty then return .token (token l l .finish) l else l.stopAtEnd
  | c :: rest =>
    let mark := l.rest.takeWhile fun d => "bBrRuUfF".toList.contains d
    match l.rest.drop mark.length with
    | quote :: _ =>
      if (quote = '\'' || quote = '"') && isTextMark mark then found (l.readText mark quote)
      else if mayStartName c then found l.readName
      else if c = '\n' then
        let after := { l.take with lineStart := true }
        if blank || !l.brackets.isEmpty then return .nothing after
        else return .token { token l after .newline with spelling := "" } after
      else if c = '.' then
        match rest with
        | d :: _ =>
          if d.isDigit then found (l.readNumber (fractionEnd rest))
          else if rest.take 2 = ['.', '.'] then found (l.emit .operator (rest.drop 2))
          else found (l.emit .operator rest)
        | [] => found (l.emit .operator rest)
      else if c.isDigit then found (l.readNumber (numeralEnd l.rest))
      else if c = '\\' then return .nothing { (← l.take.continueLine) with lineStart := false }
      else found l.readOperator
    | [] => found l.readName

/-- Reads tokens to the end of the text. `blank` is a line without tokens so far. -/
def readAll : Nat → Array Token → Bool → Lexer → Tokens
  | 0, done, _, _ => ⟨done, none⟩
  | fuel + 1, done, blank, l =>
    let begun : Scan (Bool × Lexer) :=
      if l.lineStart then do
        let (w, l) ← countBlanks (l.rest.length + 1) {} none { l with lineStart := false }
        let blank := l.rest.head? = some '#' || l.rest.head? = some '\n'
        return (blank, ← if blank || !l.brackets.isEmpty then pure l else l.adjust w)
      else .ok (blank, l)
    match begun with
    | .error b => ⟨done, some b⟩
    | .ok (blank, l) =>
      if l.pending < 0 then
        readAll fuel (done.push (token l l .dedent)) blank { l with pending := l.pending + 1 }
      else if l.pending > 0 then
        readAll fuel (done.push (token l l .indent)) blank { l with pending := l.pending - 1 }
      else
        match l.readToken blank with
        | .error b => ⟨done, some b⟩
        | .ok (.nothing after) => readAll fuel done blank after
        | .ok (.token t after) =>
          if t.kind = .finish then ⟨done.push t, none⟩
          else readAll fuel (done.push t) false after

end Lexer

/-- The tokens of a text whose first line comes after a number of lines. -/
def tokens (text : Rest) (linesBefore : Nat) : Tokens :=
  Lexer.readAll (4 * text.length + 16) #[] false { rest := text, line := linesBefore }

end FenceCheck.Program
