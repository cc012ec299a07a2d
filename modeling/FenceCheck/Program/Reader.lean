import FenceCheck.Program.Field
import FenceCheck.Program.Matching
import FenceCheck.Text.Lines

/-!
Checking the form of a program: its tokens, its grammar, and its texts, whose fields hold expressions
that are checked like programs.
-/
namespace FenceCheck.Program
open FenceCheck.Text

/-- A text token in its pieces. -/
structure TextToken where
  line : Nat
  bytes : Bool
  raw : Bool
  fields : Bool
  body : List Char

def TextToken.ofNode (n : Node) : TextToken :=
  let marks := n.text.toList.takeWhile Char.isAlpha
  let has (c : Char) : Bool := marks.any fun d => d.toLower = c
  let quoted := n.text.toList.drop marks.length
  let size := if quoted.length ≥ 6 && quoted.take 2 = (quoted.drop 1).take 2 then 3 else 1
  { line := n.line, bytes := has 'b', raw := has 'r', fields := has 'f'
    body := (quoted.drop size).take (quoted.length - 2 * size) }

/-- Checks one text token. Complaints are about the line of the last token that was looked at. -/
def TextToken.check (t : TextToken) (label : String) (lastLine : Nat)
    (expression : List Char → Nat → Except Trouble Unit) : Except Trouble Unit :=
  let complain {α : Type} (message : String) : Except Trouble α := .error ⟨lastLine, label ++ message⟩
  if t.fields then
    checkFields
      { raw := t.raw
        expression := fun before text => expression text (t.line - 1 + before.count '\n')
        complain }
      t.body
  else if t.bytes then
    if t.body.any fun c => c.toNat ≥ 128 then
      .error ⟨t.line, label ++ "bytes can only contain ASCII literal characters"⟩
    else if t.raw then .ok ()
    else match bytesComplaint? (t.body.length + 1) 0 t.body with
      | some message => complain message
      | none => .ok ()
  else if t.raw then .ok ()
  else match textComplaint? t.body with
    | some message => complain message
    | none => .ok ()

/-- Checks adjacent text tokens, which are one text; all or none of them are bytes. -/
def checkTexts (label : String) (expression : List Char → Nat → Except Trouble Unit) (tokens : List Node)
    (lastLine : Nat) : Except Trouble NodeKind := do
  let texts := tokens.map TextToken.ofNode
  let bytes := (texts.head?.map (·.bytes)).getD false
  let mixed (t : TextToken) : Except Trouble Unit :=
    if t.bytes = bytes then .ok () else .error ⟨lastLine, label ++ "cannot mix bytes and nonbytes literals"⟩
  texts.forM fun t => do
    if t.fields then mixed t
    t.check label lastLine expression
    mixed t
  return if texts.any (·.fields) then .formatted else .literal

/-- Checks a text with a rule of the grammar, within a depth of fields inside fields. -/
def checkWith (label : String) (start : Rule) : Nat → List Char → Nat → Except Trouble Unit
  | 0, _, _ => .ok ()
  | depth + 1, text, linesBefore =>
    let inner (expression : List Char) (linesBefore : Nat) : Except Trouble Unit :=
      checkWith "f-string: " .starExpressions depth ('(' :: expression ++ [')', '\n']) linesBefore
    Setting.check { tokens := tokens text linesBefore, label, texts := checkTexts label inner } start

/-- The lines of a source; the last one is ended. -/
def sourceLines (source : List Char) : List Char :=
  let lines := unifyLineEnds source
  let endsInPair := source.reverse.take 2 = ['\n', '\r']
  if lines.getLast? = some '\n' && !endsInPair then lines else lines ++ ['\n']

def trouble? (source : List Char) : Option Trouble :=
  match checkWith "" .file (source.length + 1) (sourceLines source) 0 with
  | .ok () => none
  | .error t => some t

end FenceCheck.Program
