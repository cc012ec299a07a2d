import FenceCheck.Json.Value
import FenceCheck.Number.Notation
import FenceCheck.Text.Quoted

/-!
JSON values inside messages: `None`, `True` and `False`, quoted strings, and brackets around lists and
mappings.
-/
namespace FenceCheck.Json
open FenceCheck.Text FenceCheck.Number

mutual

def literal : Json → String
  | .null => "None"
  | .bool b => if b then "True" else "False"
  | .int n => renderInt n
  | .float x => x.render
  | .string s => quotedPoints s
  | .array items => "[" ++ String.intercalate ", " (literalItems items) ++ "]"
  | .object members => "\x7b" ++ String.intercalate ", " (literalMembers members) ++ "\x7d"

def literalItems : List Json → List String
  | [] => []
  | v :: rest => literal v :: literalItems rest

def literalMembers : List (List CodePoint × Json) → List String
  | [] => []
  | (k, v) :: rest => (quotedPoints k ++ ": " ++ literal v) :: literalMembers rest

end

/-- A value as a stream shows it: a string stands for itself, with surrogates by their numbers, and all
else is in literal notation. -/
def plain : Json → String
  | .string s => escaped s
  | v => literal v

end FenceCheck.Json
