import FenceCheck.Shell.Word
import FenceCheck.Text.Blank
import FenceCheck.Text.Printable
import FenceCheck.Text.Utf8

/-!
How a script's syntax errors are told: the token that was not expected, and the line it stands in.
-/
namespace FenceCheck.Shell
open FenceCheck.Text

/-- The spelling of a token in a message. Some tokens have none. -/
def Token.spelling? : Token → Option String
  | .word text | .assignment text | .arithmetic text | .loopHeader text => some text
  | .number digits => some (toString (digits.toNat?.getD 0))
  | .newline => some "newline"
  | .op s | .reserved s => some s
  | .substitution => some "$("
  | .eof => some "EOF"
  | .nothing | .redirectName | .condition => none

def isShown (c : Char) : Bool := isPrintable c.toNat || (isBlank c && c.toNat ≥ 0xa0 && c ≠ '\u2028' && c ≠ '\u2029')

def octal (n : Nat) : Text :=
  [Nat.digitChar (n / 64 % 8), Nat.digitChar (n / 8 % 8), Nat.digitChar (n % 8)]

def escapeLetter? (c : Char) : Option Char :=
  [('\x1b', 'E'), ('\x07', 'a'), ('\x0b', 'v'), ('\x08', 'b'), ('\x0c', 'f'), ('\n', 'n'), ('\r', 'r'),
    ('\t', 't'), ('\\', '\\'), ('\'', '\'')].lookup c

/-- A character inside an escaped quotation; one that is not shown is given by its bytes. -/
def escapeChar (c : Char) : Text :=
  match escapeLetter? c with
  | some e => ['\\', e]
  | none =>
    if isShown c then [c] else (Utf8.encode [c]).flatMap fun b => '\\' :: octal b.toNat

/-- A text as it is quoted in messages: in escapes if a character is not shown. -/
def shown (text : String) : String :=
  if text.toList.all isShown then text
  else "$'" ++ String.ofList (text.toList.flatMap escapeChar) ++ "'"

def tellLine : ShellM Unit := do
  let line := (← get).line
  complain ("`" ++ String.ofList (line.reverse.dropWhile (· = '\n')).reverse ++ "'")

/-- The piece of a line that an error is about, given what of the line has been read, in reverse, and
what comes then. -/
def suspectText (consumed rest : Text) : Text :=
  let isGap (c : Char) : Bool := c = ' ' || c = '\t' || c = '\n'
  let (before, here) : Text × Text :=
    match rest, consumed with
    | [], c :: before => (before, [c])
    | c :: _, before => (before, [c])
    | [], [] => ([], [])
  let from' := (here ++ before).dropWhile isGap
  match from' with
  | [] => (here ++ before).getLast?.toList
  | [c] => [c]
  | _ =>
    let piece := from'.takeWhile fun c => !" \n\t;|&".toList.contains c
    let more := (from'.drop piece.length).head?.toList
    ((piece ++ more).reverse).dropWhile isGap

def refuseToken {α : Type} : ShellM α := do
  let s ← get
  modify fun s => { s with failed := true }
  match s.context.current, s.context.current.spelling?, s.line, s.context.closer with
  | .eof, _, _, some c => complain ("unexpected EOF while looking for matching `" ++ c.toString ++ "'")
  | .eof, _, _, none => complain "syntax error: unexpected end of file"
  | _, some text, _, _ =>
    complain ("syntax error near unexpected token `" ++ shown text ++ "'")
    tellLine
  | _, none, [], _ => complain "syntax error: unexpected end of file"
  | _, none, line, _ =>
    let consumed := (line.take (line.length - s.rest.length)).reverse
    complain ("syntax error near `" ++ String.ofList (suspectText consumed s.rest) ++ "'")
    tellLine
  throw .stop

end FenceCheck.Shell
