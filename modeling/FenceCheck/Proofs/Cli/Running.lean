import FenceCheck.Cli.Run
import FenceCheck.Proofs.Text.Codec

/-! How a run of the program comes to its end. Once the command line is read, the run is refused or it is
told in one of the two formats, and its exit code is that of what the command came to. -/
namespace FenceCheck.Cli
open FenceCheck.Text

/-- The event that a run starts. -/
def startEvent (asJson : Bool) (i : Invocation) : Log.Event :=
  event .debug "start" [("cmd", .text i.command.word), ("fmt", .text (if asJson then "json" else "text"))]

/-- A console of the usual encoding prints every text. -/
@[simp] theorem printed_utf8 (text : String) : printed .utf8 text = .ok text := by
  rw [printed, Codec.refusal?_utf8_codePoints]

theorem conclude_of_printed {t : Trace String} {stdout : String} {console : Codec}
    (done : t.outcome = .ok stdout) (printable : console.refusal? (codePoints stdout) = none)
    (host : Host) (ctx : RunContext) (asJson : Bool) (i : Invocation) :
    conclude host ctx asJson i t console =
      ⟨0, stdout, Log.text (some ctx) host.stamp (startEvent asJson i :: t.events)⟩ := by
  rw [conclude, done, ok_bind, printed, printable]
  rfl

theorem conclude_of_ok {t : Trace String} {stdout : String} (done : t.outcome = .ok stdout)
    (host : Host) (ctx : RunContext) (asJson : Bool) (i : Invocation) :
    conclude host ctx asJson i t =
      ⟨0, stdout, Log.text (some ctx) host.stamp (startEvent asJson i :: t.events)⟩ :=
  conclude_of_printed done (Codec.refusal?_utf8_codePoints stdout) host ctx asJson i

/-- A command that is done fails still if the console cannot write what it prints. -/
theorem conclude_of_refused {t : Trace String} {stdout : String} {console : Codec} {e : EncodeError}
    (done : t.outcome = .ok stdout) (refused : console.refusal? (codePoints stdout) = some e)
    (host : Host) (ctx : RunContext) (asJson : Bool) (i : Invocation) :
    (conclude host ctx asJson i t console).code = 99 ∧
      (conclude host ctx asJson i t console).stdout = "" := by
  rw [conclude, done, ok_bind, printed, refused]
  exact ⟨rfl, rfl⟩

theorem code_of_error {t : Trace String} {e : Failure} (failed : t.outcome = .error e)
    (host : Host) (ctx : RunContext) (asJson : Bool) (i : Invocation) :
    (conclude host ctx asJson i t).code = (reportedError e).code := by
  rw [conclude, failed, error_bind]

/-- What a run knows about itself once its command line is read. -/
def contextOf (host : Host) (g : Globals) : RunContext :=
  RunContext.make host.environment g.runId host.runName g.verbose g.quiet g.logJson

/-- The run of a command line that was read, told in one format. -/
def told (host : Host) (i : Invocation) (asJson : Bool) (umask : Nat := usualMask) : Workspace × Exit :=
  let ctx := contextOf host i.globals
  let r := perform host ctx asJson i umask
  (r.1, conclude host ctx asJson i r.2)

/-- The end of a run that is asked for two formats at once: nothing is performed. -/
def refusal (host : Host) : Workspace × Exit :=
  (host.workspace, ⟨2, "", "snippetctl: error: conflicting output flags: use either --format or --json\n"⟩)

/-- A run is refused or told in one format, as the bare word, the format that is named and the environment
have it. -/
theorem run_of_parsed {host : Host} {argv : List String} {i : Invocation} {umask : Nat}
    (parsed : readArguments argv = .ok i) : run host argv umask =
      if argv.contains "--json" && i.globals.format = some "text" then refusal host
      else told host i (resolveFormat (argv.contains "--json") i.globals.format
        (isOnServer host.environment) = "json") umask := by
  rw [run, parsed]
  rfl

end FenceCheck.Cli
