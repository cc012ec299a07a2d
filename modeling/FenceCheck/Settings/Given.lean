import FenceCheck.Json.Literal
import FenceCheck.Number.Reading
import FenceCheck.Toml.Value

/-!
Values given for settings, by whichever layer: a file, the environment or the command line. A number may
be given as a text, and a flag counts as zero or one.
-/
namespace FenceCheck.Settings
open FenceCheck.Number FenceCheck.Text

/-- A value given for a setting. -/
inductive Given where
  | text (s : String)
  | whole (n : Int)
  | real (x : Binary64)
  | flag (b : Bool)
  | texts (items : List String)
  /-- Anything else, by its literal form if it has one. -/
  | other (literal : Option String)
  deriving DecidableEq

namespace Given

def textsOf {α : Type} (text? : α → Option String) : List α → Option (List String)
  | [] => some []
  | v :: rest => do return (← text? v) :: (← textsOf text? rest)

def ofToml : Toml → Given
  | .string s => .text s
  | .int n => .whole n
  | .float x => .real x
  | .bool b => .flag b
  | .array items =>
    match textsOf (fun | .string s => some s | _ => none) items with
    | some all => .texts all
    | none => .other (Toml.array items).literal?
  | v => .other v.literal?

/-- A JSON value; nothing is given by `null`. -/
def ofJson? : Json → Option Given
  | .null => none
  | .bool b => some (.flag b)
  | .int n => some (.whole n)
  | .float x => some (.real x)
  | .string s => some (.text (ofCodePoints s))
  | .array items =>
    match textsOf (fun | .string s => some (ofCodePoints s) | _ => none) items with
    | some all => some (.texts all)
    | none => some (.other (some (Json.array items).literal))
  | v => some (.other (some v.literal))

/-- The value in literal notation; none if an integer is beyond the digit limit. -/
def literal? : Given → Option String
  | .text s => some (quoted s)
  | .whole n => renderInt? n
  | .real x => some x.render
  | .flag b => some (if b then "True" else "False")
  | .texts items => some ("[" ++ String.intercalate ", " (items.map quoted) ++ "]")
  | .other literal => literal

end Given
end FenceCheck.Settings
