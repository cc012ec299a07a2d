import FenceCheck.Number.Notation
import FenceCheck.Text.Quoted
import FenceCheck.Toml.Moment

/-!
Values of TOML documents, and their literal form in messages.
-/
namespace FenceCheck
open FenceCheck.Number FenceCheck.Text

/-- A TOML value. The entries of a table keep the order in which they were made. -/
inductive Toml where
  | string (s : String)
  | int (n : Int)
  | float (x : Binary64)
  | bool (b : Bool)
  | date (d : Toml.Date)
  | time (t : Toml.Time)
  | dateTime (m : Toml.DateTime)
  | array (items : List Toml)
  | table (entries : List (String × Toml))
  deriving Inhabited

namespace Toml

abbrev Entries := List (String × Toml)

mutual

/-- A value in literal notation; none if an integer is beyond the digit limit. -/
def literal? : Toml → Option String
  | .string s => some (quoted s)
  | .int n => renderInt? n
  | .float x => some x.render
  | .bool b => some (if b then "True" else "False")
  | .date d => some d.literal
  | .time t => some t.literal
  | .dateTime m => some m.literal
  | .array items => do return "[" ++ String.intercalate ", " (← literalItems? items) ++ "]"
  | .table entries => do
    return "\x7b" ++ String.intercalate ", " (← literalEntries? entries) ++ "\x7d"

def literalItems? : List Toml → Option (List String)
  | [] => some []
  | v :: rest => do return (← literal? v) :: (← literalItems? rest)

def literalEntries? : List (String × Toml) → Option (List String)
  | [] => some []
  | (k, v) :: rest => do return (quoted k ++ ": " ++ (← literal? v)) :: (← literalEntries? rest)

end

end Toml
end FenceCheck
