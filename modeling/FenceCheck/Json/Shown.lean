import FenceCheck.Failure
import FenceCheck.Json.Literal

/-!
Texts of values. A value has no text if an integer in it has more digits than may be written, or if its
containers are nested too deep; what of both comes first is the fault.
-/
namespace FenceCheck.Json
open FenceCheck.Text FenceCheck.Number

mutual

/-- What keeps a value from being written in literal notation, if containers may nest `depth` deep. -/
def obstacle? (depth : Nat) : Json → Option Fault
  | .int n => if (renderInt? n).isSome then none else some .longInteger
  | .array items =>
    match depth with
    | 0 => some .deepValue
    | depth + 1 => itemObstacle? depth items
  | .object members =>
    match depth with
    | 0 => some .deepValue
    | depth + 1 => memberObstacle? depth members
  | _ => none

def itemObstacle? (depth : Nat) : List Json → Option Fault
  | [] => none
  | v :: rest => (obstacle? depth v).or (itemObstacle? depth rest)

def memberObstacle? (depth : Nat) : List (List CodePoint × Json) → Option Fault
  | [] => none
  | (_, v) :: rest => (obstacle? depth v).or (memberObstacle? depth rest)

end

/-- The literal notation of a value, if it has one. -/
def literal? (v : Json) : Except Fault String :=
  match obstacle? depthLimit v with
  | none => .ok v.literal
  | some f => .error f

/-- The text of a value, if it has one: a string stands for itself. -/
def shown : Json → Except Fault (List CodePoint)
  | .string s => .ok s
  | v => (literal? v).map codePoints

end FenceCheck.Json
