import FenceCheck.Json.Printer
import FenceCheck.Json.Shown

/-!
The schema of reports: a list of objects, each with exactly the members `file`, `content` and
`message`, all of them non-empty strings. All violations are put into words, which fails where a value has
no text. Of several the one nearest to the root is told; among those at the same depth the one at the
greatest place, and at one place the first that is found.
-/
namespace FenceCheck.Report
open FenceCheck.Text

/-- A step from a value to a part of it. -/
inductive PlaceStep where
  | index (i : Nat)
  | key (k : String)
  deriving DecidableEq, Repr

/-- The text of a step. -/
def PlaceStep.text : PlaceStep → String
  | .index i => toString i
  | .key k => k

/-- What is wrong and where; it may have no words. -/
structure Violation where
  place : List PlaceStep
  message : Except Fault String

/-- The members of an entry, in the order in which the schema lists them. -/
def entryKeys : List String := ["file", "content", "message"]

/-- Wrong type of a value. -/
def typeMessage (v : Json) (type : String) : Except Fault String := do
  return (← v.literal?) ++ " is not of type '" ++ type ++ "'"

/-- The members that an entry must not have, in the order of their names. -/
def extraKeys (members : List (List CodePoint × Json)) : List (List CodePoint) :=
  let known := entryKeys.map codePoints
  ((members.map Prod.fst).filter (!known.contains ·)).mergeSort Json.stringLE

/-- The complaint about members that an entry must not have. -/
def extraMessage (keys : List (List CodePoint)) : String :=
  "Additional properties are not allowed (" ++ String.intercalate ", " (keys.map quotedPoints)
    ++ (if keys.length = 1 then " was" else " were") ++ " unexpected)"

/-- Violations by the value of a member. -/
def checkMember (place : List PlaceStep) (v : Json) : List Violation :=
  match v with
  | .string [] => [⟨place, .ok (v.literal ++ " should be non-empty")⟩]
  | .string _ => []
  | _ => [⟨place, typeMessage v "string"⟩]

/-- Violations by an item of the list. -/
def checkEntry (i : Nat) (v : Json) : List Violation :=
  let place := [PlaceStep.index i]
  match v with
  | .object members =>
    let extra := extraKeys members
    (if extra = [] then [] else [⟨place, .ok (extraMessage extra)⟩])
    ++ (entryKeys.filter fun k => (Json.lookup (codePoints k) members).isNone).map
      (fun k => ⟨place, .ok (quoted k ++ " is a required property")⟩)
    ++ entryKeys.flatMap fun k =>
      match Json.lookup (codePoints k) members with
      | some v => checkMember (place ++ [.key k]) v
      | none => []
  | _ => [⟨place, typeMessage v "object"⟩]

/-- Violations by the items from index `i` on. -/
def checkItems (i : Nat) : List Json → List Violation
  | [] => []
  | v :: rest => checkEntry i v ++ checkItems (i + 1) rest

/-- All violations, in the order in which they are found. -/
def violations : Json → List Violation
  | .array items => checkItems 0 items
  | v => [⟨[], typeMessage v "array"⟩]

/-- Whether a step comes before another: indexes by number, keys by their characters. -/
def PlaceStep.before : PlaceStep → PlaceStep → Bool
  | .index i, .index j => i < j
  | .key a, .key b => a < b
  | .index _, .key _ => true
  | .key _, .index _ => false

/-- Whether a place comes before another of the same depth. -/
def placeBefore : List PlaceStep → List PlaceStep → Bool
  | a :: s, b :: t => a.before b || (a = b && placeBefore s t)
  | [], _ :: _ => true
  | _, [] => false

/-- Whether `b` is told rather than `a`, which was found earlier. -/
def Violation.yields (a b : Violation) : Bool :=
  b.place.length < a.place.length
    || (a.place.length = b.place.length && placeBefore a.place b.place)

/-- The violation that is told. -/
def violation? (v : Json) : Option Violation :=
  match violations v with
  | [] => none
  | first :: rest => some (rest.foldl (fun a b => if a.yields b then b else a) first)

/-- What keeps a violation from being put into words. -/
def Violation.fault? (bad : Violation) : Option Fault :=
  match bad.message with
  | .ok _ => none
  | .error f => some f

/-- What a check against a schema comes to. -/
inductive Validation where
  | accepted
  | violated (place : List PlaceStep) (message : String)
  | stopped (f : Fault)

/-- A check of values against the schema of reports. -/
abbrev Validator := Json → Validation

/-- The check that is installed. -/
def installed : Validator := fun v =>
  match (violations v).findSome? Violation.fault? with
  | some f => .stopped f
  | none =>
    match violation? v with
    | none => .accepted
    | some ⟨place, .ok message⟩ => .violated place message
    | some ⟨_, .error f⟩ => .stopped f

/-- A place as text. -/
def location (place : List PlaceStep) : String :=
  if place = [] then "<root>" else String.intercalate "/" (place.map PlaceStep.text)

/-- Checks a value against the schema of reports, which the message calls `name`. -/
def checkSchema (name : String) (v : Json) (validator : Validator := installed) : Outcome Unit :=
  match validator v with
  | .accepted => .ok ()
  | .violated place message =>
    .error (.run (.schema ("schema validation failed for " ++ name ++ " at " ++ location place ++ ": "
      ++ message)))
  | .stopped f => .error (.fault f)

/-- The name of the schema of reports. -/
def schemaName : String := "snippetctl.report.v1"

end FenceCheck.Report
