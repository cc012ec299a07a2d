import FenceCheck.Cli.Arguments
import FenceCheck.Discovery
import FenceCheck.Language.Registry
import FenceCheck.Report.Contract
import FenceCheck.Report.Writing
import FenceCheck.Settings.Source

/-!
Runs of the program. A run reads its command line, performs the command, and ends with an exit code and
what it wrote to the two streams. A command's own output is complete before any of it is written, and is
written as a whole or, where the console cannot write it, not at all. So a run that fails writes nothing to
the first stream, and ends the second with the error.
-/
namespace FenceCheck.Cli
open FenceCheck.Number

structure Host where
  workspace : Workspace
  environment : Environment
  /-- The time that log events show. -/
  stamp : String
  /-- The name of a run that is given none. -/
  runName : String
  /-- Names to try for a fresh file. -/
  tokens : List String

def toolName : String := "snippetctl"

def baseMembers (ctx : RunContext) : List (String × Json) :=
  [("schema_version", .nat 1), ("tool", .text toolName), ("status", .text "ok"),
    ("run_id", .text ctx.runId)]

def answer (ctx : RunContext) (members : List (String × Json)) : String :=
  emitted (.ofMembers (baseMembers ctx ++ members)) true

def event (level : Log.Level) (action : String) (fields : List (String × Json)) : Log.Event :=
  ⟨level, "cli", action, fields⟩

/-- Logs an event, unless it is to be written and has no text. -/
def record (ctx : RunContext) (e : Log.Event) : Trace Unit :=
  if e.isEnabled (some ctx) && !(e.fields.all fun (_, v) => Log.isWritable v) then
    Trace.fail (.fault .longInteger)
  else Trace.log e

def settingsFor (host : Host) (g : Globals) (a : ScanArguments) : Outcome Settings := do
  let config := (g.config.filter (· ≠ "")).map Path.ofText
  let base ← Settings.load host.workspace host.environment config ⟨.root, host.workspace.cwd⟩
  base.override a.layer

/-- What a scan is about to do. -/
structure ScanPlan where
  settings : Settings
  plan : Report.Plan
  documents : List Path

def prepareScan (host : Host) (g : Globals) (a : ScanArguments) : Outcome ScanPlan := do
  let settings ← settingsFor host g a
  let check ← (Language.resolve host.environment settings.language
    (settings.timeout.map .real)).mapError .run
  let documents ← (Discovery.documents host.workspace (settings.paths.map .ofText)
    settings.exclude).mapError .fault
  return ⟨settings, ⟨settings.language, check, settings.jobs, settings.policy⟩, documents⟩

def scanSentence (s : Settings) (r : Report.Summary) : String :=
  "scanned " ++ toString r.documents ++ " document(s), " ++ toString r.blocks ++ " `" ++ s.language
    ++ "` block(s): " ++ toString r.report.length ++ " syntax error(s); report written to "
    ++ (Path.ofText s.out).text ++ "\n"

def scanAnswer (ctx : RunContext) (asJson : Bool) (s : Settings) (r : Report.Summary) :
    Outcome String := do
  let language ← (Language.find s.language).mapError .run
  return if asJson then
    answer ctx [("language", .text language.name), ("documents", .nat r.documents),
      ("skipped", .nat r.skipped), ("blocks", .nat r.blocks), ("failures", .nat r.report.length),
      ("report", .text (Path.ofText s.out).text)]
  else scanSentence s r

def runScan (host : Host) (ctx : RunContext) (asJson : Bool) (g : Globals) (a : ScanArguments)
    (umask : Nat := usualMask) : Workspace × Trace String :=
  let w := host.workspace
  let prepared : Trace ScanPlan := do
    let p ← Trace.ofOutcome (prepareScan host g a)
    record ctx (event .info "scan" [("language", .text p.settings.language),
      ("documents", .nat p.documents.length), ("jobs", .int p.settings.jobs)])
    return p
  match prepared.outcome with
  | .error e => (w, ⟨prepared.events, .error e⟩)
  | .ok p =>
    let (w, scanned) := Report.scan w host.tokens p.plan p.documents (.ofText p.settings.out) umask
    (w, do
      let p ← prepared
      let summary ← scanned
      Trace.ofOutcome (scanAnswer ctx asJson p.settings summary))

def padRight (width : Nat) (s : String) : String :=
  s ++ String.ofList (List.replicate (width - s.length) ' ')

def languageLine (l : Language) : String :=
  let aliases := if l.aliases = [] then "-" else String.intercalate ", " l.aliases
  padRight 8 l.name ++ " aliases: " ++ padRight 18 aliases ++ " " ++ l.description ++ "\n"

def runLanguages (ctx : RunContext) (asJson : Bool) : String :=
  if asJson then
    answer ctx [("languages", .array (Language.sorted.map fun l =>
      .ofMembers [("name", .text l.name), ("aliases", .array (l.aliases.map .text)),
        ("description", .text l.description)]))]
  else String.join (Language.sorted.map languageLine)

def runValidate (host : Host) (ctx : RunContext) (asJson : Bool) : Value → Outcome String
  | .nothing =>
    .error (.fault (.raised ⟨"TypeError", rfl⟩
      "expected str, bytes or os.PathLike object, not list"))
  | .given file => do
    Report.checkFile host.workspace Report.schemaName (.ofText file)
    return if asJson then answer ctx [("schema", .text Report.schemaName), ("file", .text file)]
    else file ++ ": valid " ++ Report.schemaName ++ "\n"

def runVersion (ctx : RunContext) (asJson : Bool) : String :=
  if asJson then answer ctx [("version", .text version)]
  else toolName ++ " " ++ version ++ "\n"

/-- Performs a command; the result is what it prints. -/
def perform (host : Host) (ctx : RunContext) (asJson : Bool) (i : Invocation)
    (umask : Nat := usualMask) : Workspace × Trace String :=
  match i.command with
  | .scan a => runScan host ctx asJson i.globals a umask
  | .languages _ => (host.workspace, Trace.ofOutcome (.ok (runLanguages ctx asJson)))
  | .validateReport _ file => (host.workspace, Trace.ofOutcome (runValidate host ctx asJson file))
  | .version _ => (host.workspace, Trace.ofOutcome (.ok (runVersion ctx asJson)))

def reportedError : Failure → RunError
  | .run e => e
  | .fault f => .internal ("internal error: " ++ f.message)
  | .interrupted i => .internal ("internal error: " ++ i.text)

/-- What is printed of a text at a console with the encoding `console`. -/
def printed (console : Text.Codec) (text : String) : Outcome String :=
  match console.refusal? (Text.codePoints text) with
  | none => .ok text
  | some e => .error (.fault (.notEncoded e))

/-- The end of a run whose command came to `t`. -/
def conclude (host : Host) (ctx : RunContext) (asJson : Bool) (i : Invocation) (t : Trace String)
    (console : Text.Codec := .utf8) : Exit :=
  let started := event .debug "start" [("cmd", .text i.command.word),
    ("fmt", .text (if asJson then "json" else "text"))]
  match t.outcome >>= printed console with
  | .ok stdout => ⟨0, stdout, Log.text (some ctx) host.stamp (started :: t.events)⟩
  | .error failure =>
    let e := reportedError failure
    let failed := event .error "failed"
      [("cmd", .text i.command.word), ("kind", .text e.kind), ("code", .int e.code)]
    ⟨e.code, "", Log.text (some ctx) host.stamp (started :: t.events ++ [failed])
      ++ renderError asJson e ++ "\n"⟩

def formatConflict : RunError :=
  .usage "conflicting output flags: use either --format or --json"

def isOnServer (env : Environment) : Bool :=
  ((env.get? "CI").getD "") ≠ ""

def runInvocation (host : Host) (jsonFlag : Bool) (i : Invocation) (umask : Nat := usualMask)
    (console : Text.Codec := .utf8) : Workspace × Exit :=
  let g := i.globals
  if jsonFlag && g.format = some "text" then
    (host.workspace, ⟨formatConflict.code, "", renderError false formatConflict ++ "\n"⟩)
  else
    let asJson := resolveFormat jsonFlag g.format (isOnServer host.environment) = "json"
    let ctx := RunContext.make host.environment g.runId host.runName g.verbose g.quiet g.logJson
    let (w, t) := perform host ctx asJson i umask
    (w, conclude host ctx asJson i t console)

/-- A run of the program. Whether the JSON flag is set is seen from the bare words. -/
def run (host : Host) (argv : List String) (umask : Nat := usualMask) (console : Text.Codec := .utf8) :
    Workspace × Exit :=
  match readArguments argv with
  | .error exit => (host.workspace, exit)
  | .ok i => runInvocation host (argv.contains "--json") i umask console

end FenceCheck.Cli
