import FenceCheck.Json.Value
import FenceCheck.Number.Notation
import FenceCheck.Text.Hex

/-!
JSON texts. Members are written in increasing order of their keys, so that the order in which a value
was built never shows. A layout says whether the text is spread over lines and whether characters
outside ASCII are escaped.
-/
namespace FenceCheck.Json
open FenceCheck.Text FenceCheck.Number

/-- How a text is laid out. -/
structure Layout where
  /-- Every item on a line of its own, two spaces deeper than its container. -/
  spread : Bool
  /-- Everything outside printable ASCII is escaped. -/
  ascii : Bool
  deriving DecidableEq

def Layout.compact : Layout := ⟨false, true⟩

def Layout.pretty : Layout := ⟨true, true⟩

def Layout.artifact : Layout := ⟨true, false⟩

def points (cs : List Char) : List CodePoint :=
  cs.map .ofChar

def unitEscape (n : Nat) : List Char :=
  '\\' :: 'u' :: hexFixed 4 n

/-- An escape by number: one unit, or the two surrogates of a point beyond the first plane. -/
def numberEscape (n : Nat) : List Char :=
  if n < 0x10000 then unitEscape n
  else unitEscape (0xD800 + (n - 0x10000) / 0x400) ++ unitEscape (0xDC00 + (n - 0x10000) % 0x400)

def escape (ascii : Bool) (p : CodePoint) : List CodePoint :=
  if p.val = 0x22 then points ['\\', '"']
  else if p.val = 0x5C then points ['\\', '\\']
  else if p.val = 0x08 then points ['\\', 'b']
  else if p.val = 0x0C then points ['\\', 'f']
  else if p.val = 0x0A then points ['\\', 'n']
  else if p.val = 0x0D then points ['\\', 'r']
  else if p.val = 0x09 then points ['\\', 't']
  else if p.val < 0x20 ∨ (ascii = true ∧ 0x7E < p.val) then points (numberEscape p.val)
  else [p]

def renderString (ascii : Bool) (s : List CodePoint) : List CodePoint :=
  .ofChar '"' :: (s.flatMap (escape ascii) ++ [.ofChar '"'])

/-- A floating-point number; the non-finite ones are words. -/
def renderFloat (x : Binary64) : String :=
  match x.form with
  | .nan => "NaN"
  | .infinite neg => if neg then "-Infinity" else "Infinity"
  | .finite .. => x.render

/-- A line feed and the indentation of `depth` containers. -/
def newLine (depth : Nat) : List CodePoint :=
  points ('\n' :: List.replicate (2 * depth) ' ')

/-- Items between an opening and a closing bracket at `depth`. -/
def enclose (layout : Layout) (depth : Nat) (opening closing : Char)
    (items : List (List CodePoint)) : List CodePoint :=
  match items with
  | [] => points [opening, closing]
  | first :: rest =>
    let start := if layout.spread then newLine (depth + 1) else []
    let separator := if layout.spread then .ofChar ',' :: newLine (depth + 1) else points [',', ' ']
    let finish := if layout.spread then newLine depth else []
    .ofChar opening :: (start ++ first ++ rest.flatMap (separator ++ ·) ++ finish ++ [.ofChar closing])

def stringLE : List CodePoint → List CodePoint → Bool
  | [], _ => true
  | _ :: _, [] => false
  | a :: s, b :: t => a.val < b.val || (a.val = b.val && stringLE s t)

def sortByKey (members : List (List CodePoint × List CodePoint)) :
    List (List CodePoint × List CodePoint) :=
  members.mergeSort fun a b => stringLE a.1 b.1

mutual

/-- The text of a value at `depth`. -/
def renderAt (layout : Layout) (depth : Nat) : Json → List CodePoint
  | .null => points "null".toList
  | .bool b => points (if b then "true" else "false").toList
  | .int n => points (renderInt n).toList
  | .float x => points (renderFloat x).toList
  | .string s => renderString layout.ascii s
  | .array items => enclose layout depth '[' ']' (renderItems layout (depth + 1) items)
  | .object members =>
    enclose layout depth '{' '}'
      ((sortByKey (renderMembers layout (depth + 1) members)).map fun (k, v) =>
        renderString layout.ascii k ++ points [':', ' '] ++ v)

def renderItems (layout : Layout) (depth : Nat) : List Json → List (List CodePoint)
  | [] => []
  | v :: rest => renderAt layout depth v :: renderItems layout depth rest

def renderMembers (layout : Layout) (depth : Nat) :
    List (List CodePoint × Json) → List (List CodePoint × List CodePoint)
  | [] => []
  | (k, v) :: rest => (k, renderAt layout depth v) :: renderMembers layout depth rest

end

def render (layout : Layout) (v : Json) : List CodePoint :=
  renderAt layout 0 v

/-- The stable form of files: indented, characters as themselves, and one line feed at the end. -/
def renderArtifact (v : Json) : List CodePoint :=
  render .artifact v ++ points ['\n']

end FenceCheck.Json
