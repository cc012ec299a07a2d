import FenceCheck.Environment
import FenceCheck.Failure
import FenceCheck.Json.Literal
import FenceCheck.Json.Printer

/-!
Log events. An event is data; it becomes one line of text, in `key=value` form or as a JSON object. The
run context decides which events are written, and in which form.
-/
namespace FenceCheck
open FenceCheck.Number

/-- What a run knows about itself. -/
structure RunContext where
  runId : String
  verbose : Bool
  quiet : Bool
  logJson : Bool
  deriving DecidableEq, Repr

/-- The context of a run: the run is named by `given`, else by the environment, else by `fallback`. -/
def RunContext.make (env : Environment) (given : Option String) (fallback : String)
    (verbose quiet logJson : Bool) : RunContext :=
  let named := [given, env.get? "RUN_ID"].filterMap id |>.find? (· ≠ "")
  ⟨named.getD fallback, verbose, quiet, logJson⟩

namespace Log

inductive Level where
  | debug
  | info
  | warn
  | error
  | other (word : String)
  deriving DecidableEq, Repr

def Level.word : Level → String
  | .debug => "debug"
  | .info => "info"
  | .warn => "warn"
  | .error => "error"
  | .other w => w

def Level.ofWord (word : String) : Level :=
  ([Level.debug, .info, .warn, .error].find? (·.word = word)).getD (.other word)

/-- Something that happened, with named values. -/
structure Event where
  level : Level
  component : String
  action : String
  fields : List (String × Json)

/-- Debug events are written in verbose runs, others unless the run is quiet; warnings and errors
always. Without a context only the latter are. -/
def Event.isEnabled (e : Event) : Option RunContext → Bool
  | none => e.level ≠ .debug && e.level ≠ .info
  | some ctx =>
    match e.level with
    | .debug => ctx.verbose
    | .info => !ctx.quiet
    | _ => true

def libraryRunId : String := "-"

mutual

/-- Whether a value has a text: integers beyond the digit limit have none, wherever they stand. -/
def isWritable : Json → Bool
  | .int n => (renderInt? n).isSome
  | .array items => areItemsWritable items
  | .object members => areMembersWritable members
  | _ => true

def areItemsWritable : List Json → Bool
  | [] => true
  | v :: rest => isWritable v && areItemsWritable rest

def areMembersWritable : List (List Text.CodePoint × Json) → Bool
  | [] => true
  | (_, v) :: rest => isWritable v && areMembersWritable rest

end

/-- The event as an object; its own fields win over the common ones. -/
def Event.payload (e : Event) (runId stamp : String) : List (List Text.CodePoint × Json) :=
  let common := [("ts", stamp), ("level", e.level.word), ("run_id", runId),
    ("component", e.component), ("action", e.action)].map fun (k, v) => (Text.codePoints k, Json.text v)
  e.fields.foldl (fun members (k, v) => Json.bind (Text.codePoints k) v members) common

/-- The `key=value` form, the fields in the order of their names. -/
def Event.plain (e : Event) (runId stamp : String) : String :=
  let shown := ((e.fields.lookup "ts").map Json.plain).getD stamp
  let core := "ts=" ++ shown ++ " level=" ++ e.level.word ++ " run_id=" ++ runId ++ " component="
    ++ e.component ++ " action=" ++ e.action
  let sorted := e.fields.mergeSort fun a b => a.1 ≤ b.1
  let extras := String.intercalate " " (sorted.map fun (k, v) => k ++ "=" ++ v.plain)
  if extras = "" then core else core ++ " " ++ extras

/-- The line of an event, at the time `stamp`. -/
def Event.line (e : Event) (ctx : Option RunContext) (stamp : String) : String :=
  let runId := (ctx.map (·.runId)).getD libraryRunId
  let asJson := (ctx.map (·.logJson)).getD false
  (if asJson then Text.ofCodePoints ((Json.object (e.payload runId stamp)).render .compact)
    else e.plain runId stamp) ++ "\n"

/-- What an event adds to the log, nothing if it is not enabled. -/
def Event.write (e : Event) (ctx : Option RunContext) (stamp : String) : Except Fault String :=
  if !e.isEnabled ctx then .ok ""
  else if e.fields.all fun (_, v) => isWritable v then .ok (e.line ctx stamp)
  else .error .longInteger

end Log
end FenceCheck
