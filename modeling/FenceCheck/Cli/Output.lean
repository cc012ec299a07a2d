import FenceCheck.Failure
import FenceCheck.Json.Printer

/-!
What the command line prints: the choice of the format, values, and errors in either format.
-/
namespace FenceCheck.Cli

/-- How a run ends: its exit code, and what it wrote to the two streams. -/
structure Exit where
  code : Int
  stdout : String
  stderr : String
  deriving DecidableEq, Repr

/-- A value as printed: on one line, or indented. -/
def emitted (v : Json) (oneLine : Bool) : String :=
  Text.ofCodePoints (v.render (if oneLine then .compact else .pretty)) ++ "\n"

/-- The name of the format: the JSON flag wins, then the named format, then what the presence of a
build server suggests. -/
def resolveFormat (jsonFlag : Bool) (named : Option String) (onServer : Bool) : String :=
  if jsonFlag then "json"
  else match named with
    | some name => if name = "" then (if onServer then "json" else "text") else name
    | none => if onServer then "json" else "text"

def errorJson (e : RunError) : Json :=
  .ofMembers [("code", .int e.code), ("kind", .text e.kind), ("message", .text e.message)]

/-- An error as shown to the user, without the line end. -/
def renderError (asJson : Bool) (e : RunError) : String :=
  if asJson then
    Text.ofCodePoints ((Json.ofMembers [("schema_version", .nat 1), ("tool", .text "snippetctl"),
      ("status", .text "error"), ("errors", .array [errorJson e])]).render .compact)
  else "snippetctl: error: " ++ e.message

end FenceCheck.Cli
