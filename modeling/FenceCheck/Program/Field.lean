import FenceCheck.Program.Escape
import FenceCheck.Text.Quoted

/-!
Texts with fields: expressions in braces, each with an optional sign of equality, a conversion, and a
format, which may have fields as well. The check of an expression is a parameter.
-/
namespace FenceCheck.Program

/-- What surrounds a text with fields: whether its escapes count, and how to check an expression, given
the characters from the start of the text up to it, and to complain. -/
structure FieldSetting where
  raw : Bool
  expression : List Char → List Char → Except Trouble Unit
  complain : {α : Type} → String → Except Trouble α

/-- The text so far, in reverse, and what is left of it. -/
structure Cursor where
  before : List Char
  rest : List Char

namespace Cursor

def skip (c : Cursor) (n : Nat) : Cursor :=
  ⟨(c.rest.take n).reverse ++ c.before, c.rest.drop n⟩

end Cursor

/-- What a character inside an expression is part of. -/
structure Nesting where
  quote : Option Char := none
  triple : Bool := false
  brackets : List Char := []

def matching (opening closing : Char) : Bool :=
  (opening, closing) = ('(', ')') || (opening, closing) = ('[', ']') || (opening, closing) = ('{', '}')

def expressionEnd (s : FieldSetting) : Nat → Nesting → Cursor → Except Trouble Cursor
  | 0, _, c => .ok c
  | fuel + 1, n, c =>
    match c.rest with
    | [] =>
      match n.quote, n.brackets with
      | some _, _ => s.complain "f-string: unterminated string"
      | none, b :: _ => s.complain ("f-string: unmatched '" ++ b.toString ++ "'")
      | none, [] => .ok c
    | ch :: rest =>
      let isTriple := rest.take 2 = [ch, ch]
      if ch = '\\' then s.complain "f-string expression part cannot include a backslash"
      else match n.quote with
        | some q =>
          if ch ≠ q then expressionEnd s fuel n (c.skip 1)
          else if n.triple then
            if isTriple then expressionEnd s fuel { n with quote := none } (c.skip 3)
            else expressionEnd s fuel n (c.skip 1)
          else expressionEnd s fuel { n with quote := none } (c.skip 1)
        | none =>
          if ch = '\'' || ch = '"' then
            expressionEnd s fuel { n with quote := some ch, triple := isTriple } (c.skip (if isTriple then 3 else 1))
          else if ch = '[' || ch = '{' || ch = '(' then
            if n.brackets.length ≥ 200 then s.complain "f-string: too many nested parenthesis"
            else expressionEnd s fuel { n with brackets := ch :: n.brackets } (c.skip 1)
          else if ch = '#' then s.complain "f-string expression part cannot include '#'"
          else if n.brackets = [] && "!:\x7d=<>".toList.contains ch then
            if rest.head? = some '=' && "!=<>".toList.contains ch then expressionEnd s fuel n (c.skip 2)
            else if ch = '<' || ch = '>' then expressionEnd s fuel n (c.skip 1)
            else .ok c
          else if ch = ']' || ch = '}' || ch = ')' then
            match n.brackets with
            | [] => s.complain ("f-string: unmatched '" ++ ch.toString ++ "'")
            | b :: outer =>
              if matching b ch then expressionEnd s fuel { n with brackets := outer } (c.skip 1)
              else s.complain ("f-string: closing parenthesis '" ++ ch.toString
                ++ "' does not match opening parenthesis '" ++ b.toString ++ "'")
          else expressionEnd s fuel n (c.skip 1)

/-- The end of the text before the next field, what the text is, and whether a brace was doubled. -/
def literalEnd (s : FieldSetting) (level : Nat) :
    Nat → List Char → Cursor → Except Trouble (List Char × Bool × Cursor)
  | 0, done, c => .ok (done.reverse, false, c)
  | fuel + 1, done, c =>
    match c.rest with
    | [] => .ok (done.reverse, false, c)
    | ch :: rest =>
      let brace (done : List Char) (c : Cursor) (ch : Char) (rest : List Char) :
          Except Trouble (List Char × Bool × Cursor) :=
        if level = 0 && rest.head? = some ch then .ok ((ch :: done).reverse, true, c.skip 2)
        else if level = 0 && ch = '}' then s.complain "f-string: single '\x7d' is not allowed"
        else .ok (done.reverse, false, c)
      if !s.raw && ch = '\\' then
        match rest with
        | [] => literalEnd s level fuel (ch :: done) (c.skip 1)
        | 'N' :: '{' :: more =>
          let name := more.takeWhile (· ≠ '}')
          let size := min (name.length + 4) c.rest.length
          literalEnd s level fuel ((c.rest.take size).reverse ++ done) (c.skip size)
        | 'N' :: _ :: _ => literalEnd s level fuel ((c.rest.take 3).reverse ++ done) (c.skip 3)
        | d :: more =>
          if d = '{' || d = '}' then brace ('\\' :: done) (c.skip 1) d more
          else literalEnd s level fuel (d :: '\\' :: done) (c.skip 2)
      else if ch = '{' || ch = '}' then brace done c ch rest
      else literalEnd s level fuel (ch :: done) (c.skip 1)

def isFieldBlank (c : Char) : Bool := c = ' ' || c = '\t' || c = '\n' || c = '\x0c'

def isSpace (c : Char) : Bool := isFieldBlank c || c = '\r' || c = '\x0b'

/-- The complaint about a field without an expression, given what comes then. -/
def emptyComplaint (next : Option Char) : String :=
  match next with
  | some '!' => "f-string: expression required before '!'"
  | some ':' => "f-string: expression required before ':'"
  | some '=' => "f-string: expression required before '='"
  | _ => "f-string: empty expression not allowed"

def readConversion (s : FieldSetting) (c : Cursor) : Except Trouble Cursor := do
  match c.rest with
  | '!' :: rest =>
    let name := rest.takeWhile fun ch => ch ≠ '}' && ch ≠ ':'
    if name.length = rest.length then s.complain "f-string: expecting '\x7d'"
    else if name = [] then s.complain "f-string: missed conversion character"
    else if name = ['s'] || name = ['r'] || name = ['a'] then return c.skip (1 + name.length)
    else
      s.complain ("f-string: invalid conversion character " ++ Text.quoted (String.ofList name)
        ++ ": expected 's', 'r', or 'a'")
  | _ => return c

mutual

def checkField (s : FieldSetting) : Nat → Nat → Cursor → Except Trouble Cursor
  | 0, _, c => .ok c
  | fuel + 1, level, c => do
    if level ≥ 2 then s.complain "f-string: expressions nested too deeply"
    let start := c.skip 1
    let ended ← expressionEnd s (start.rest.length + 1) {} start
    if ended.rest = [] then s.complain "f-string: expecting '\x7d'"
    let text := start.rest.take (start.rest.length - ended.rest.length)
    if text.all isFieldBlank then s.complain (emptyComplaint ended.rest.head?)
    s.expression c.before.reverse text
    let after ← match ended.rest with
      | '=' :: rest =>
        let c := ended.skip (1 + (rest.takeWhile isSpace).length)
        if c.rest = [] then s.complain "f-string: expecting '\x7d'" else pure c
      | _ => pure ended
    let after ← readConversion s after
    let after ← match after.rest with
      | ':' :: rest =>
        if rest = [] then s.complain "f-string: expecting '\x7d'" else checkText s fuel (level + 1) (after.skip 1)
      | _ => pure after
    if after.rest.head? = some '}' then return after.skip 1
    else s.complain "f-string: expecting '\x7d'"

/-- Checks a text with fields. Inside a field it ends at a closing brace. -/
def checkText (s : FieldSetting) : Nat → Nat → Cursor → Except Trouble Cursor
  | 0, _, c => .ok c
  | fuel + 1, level, c => do
    let (literal, doubled, c) ← literalEnd s level (c.rest.length + 1) [] c
    if !s.raw then
      match textComplaint? literal with
      | some message => s.complain message
      | none => pure ()
    if doubled then checkText s fuel level c
    else match c.rest with
      | '{' :: _ => checkText s fuel level (← checkField s fuel level c)
      | _ => return c

end

def checkFields (s : FieldSetting) (text : List Char) : Except Trouble Unit := do
  let c ← checkText s (2 * text.length + 4) 0 ⟨[], text⟩
  if c.rest ≠ [] then s.complain "f-string: unexpected end of string"

end FenceCheck.Program
