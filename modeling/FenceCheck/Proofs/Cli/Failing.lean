import FenceCheck.Proofs.Cli.Format
import FenceCheck.Proofs.Cli.Validation
import FenceCheck.Proofs.Json.Members
import FenceCheck.Proofs.Json.Styles

/-! Runs that fail. Whatever a command does, it prints nothing before it is done, and what it fails with is
a run error with an exit code of its own or a fault. So the exit code tells whether a run failed, and the
end of the second stream tells why, in words or as an object on one line. -/
namespace FenceCheck.Cli
open Report FenceCheck.Text Number
variable {host : Host} {ctx : RunContext} {asJson : Bool} {umask : Nat}

theorem scanAnswer_contained (ctx : RunContext) (asJson : Bool) (settings : Settings) (s : Summary) :
    Contained Coded (scanAnswer ctx asJson settings s) := by
  refine Contained.bind (.of_errors fun e failed => ?_) fun language _ => .ok _
  simp [Coded, Language.code_of_find failed]

theorem runScan_contained (host : Host) (ctx : RunContext) (asJson : Bool) (g : Globals)
    (a : ScanArguments) (umask : Nat) :
    Contained Coded (runScan host ctx asJson g a umask).2.outcome := by
  cases ready : prepareScan host g a >>= fun p => (record ctx (scanEvent p)).outcome with
  | error e =>
    rw [(runScan_of_error asJson umask ready).2]
    have contained : Contained Coded (prepareScan host g a >>= fun p => (record ctx (scanEvent p)).outcome) :=
      (prepareScan_contained host g a).bind fun p _ => record_contained ctx _
    rw [ready] at contained
    exact contained.of_error
  | ok _ =>
    obtain ⟨p, prepared, recorded⟩ := exists_of_bind ready
    rw [(runScan_of_ready asJson umask prepared recorded).2]
    exact (scan_contained _ _ (Language.settles_of_resolve (resolve_of_prepareScan prepared)) _ _ umask).bind fun s _ =>
      scanAnswer_contained ctx asJson _ s

theorem checkFile_contained (w : Workspace) (p : Path) :
    Contained Coded (checkFile w schemaName p) := by
  have checked (v : Json) : Contained Coded (checkNamed schemaName v) := by
    rw [checkNamed]
    split
    · exact .fault _
    · exact .run (by simp [Coded, RunError.schemaName])
    · rw [checkSchema]
      split
      · exact .ok ()
      · exact .run (by simp [Coded, RunError.schema])
      · exact .fault _
  rw [checkFile]
  split
  · exact .run (by simp [Coded, RunError.read])
  · exact .fault _
  · split
    · exact checked _
    · exact .run (by simp [Coded, RunError.schema])
    · exact .fault _

/-- A command fails with a run error that has one of the exit codes, or with a fault. -/
theorem perform_contained (host : Host) (ctx : RunContext) (asJson : Bool) (i : Invocation)
    (umask : Nat) : Contained Coded (perform host ctx asJson i umask).2.outcome := by
  cases command : i.command with
  | languages json =>
    simp only [perform, command]
    exact .ok _
  | version json =>
    simp only [perform, command]
    exact .ok _
  | validateReport json v =>
    simp only [perform, command]
    cases v with
    | nothing => exact .fault _
    | given file => exact (checkFile_contained _ _).bind fun _ _ => .ok _
  | scan a =>
    simp only [perform, command]
    exact runScan_contained host ctx asJson i.globals a umask

/-- The error that a failure is reported as: a run error as it is, and any fault as an internal error with
its message. An interruption is not reported. -/
inductive ReportedAs : Failure → RunError → Prop where
  | own (e : RunError) : ReportedAs (.run e) e
  | internal (f : Fault) :
      ReportedAs (.fault f) ⟨"internal error: " ++ f.message, 99, "internal_error"⟩

/-- A line of printable ASCII that is the object of an error, with its code, its kind and its message. -/
structure ErrorLine (e : RunError) (line : String) : Prop where
  printable : ∀ c ∈ line.toList, Json.Printable c
  decoded : ∃ members entry, Json.read line = .ok (.object members) ∧
    Json.lookup (codePoints "status") members = some (.text "error") ∧
    Json.lookup (codePoints "errors") members = some (.array [.object entry]) ∧
    Json.lookup (codePoints "code") entry = some (.int e.code) ∧
    Json.lookup (codePoints "kind") entry = some (.text e.kind) ∧
    Json.lookup (codePoints "message") entry = some (.text e.message)

/-- No line, or lines that are all ended. -/
def WholeLines (log : String) : Prop :=
  log = "" ∨ ∃ front, log = front ++ "\n"

theorem wholeLines_text (ctx : Option RunContext) (stamp : String) (events : List Log.Event) :
    WholeLines (Log.text ctx stamp events) := by
  induction events with
  | nil => exact .inl rfl
  | cons e rest ih =>
    rw [Log.text_cons]
    rcases ih with none_ | ⟨front, ended⟩
    · rw [none_, String.append_empty]
      split
      · exact .inr ⟨_, Log.line_eq_body⟩
      · exact .inl rfl
    · exact .inr ⟨_, by rw [ended, ← String.append_assoc]⟩

/-- The object of an error is on one line, from which the error is read back. -/
theorem errorLine_renderError {e : RunError} (short : ¬ digitLimit < (toString e.code.natAbs).length) :
    ErrorLine e (renderError true e) := by
  let fields : List (String × Json) :=
    [("code", .int e.code), ("kind", .text e.kind), ("message", .text e.message)]
  let members : List (String × Json) := [("schema_version", .nat 1), ("tool", .text "snippetctl"),
    ("status", .text "error"), ("errors", .array [errorJson e])]
  have differ : (fields.map Prod.fst).Nodup := by simp [fields]
  have legible : ∀ m ∈ fields, Json.Legible 987 m.2 := by
    simp only [fields, List.forall_mem_cons]
    exact ⟨.int short, .text _, .text _, List.forall_mem_nil _⟩
  have entry : Json.Legible 988 (errorJson e) := .ofMembers differ legible
  have errors : Json.Legible 989 (.array [errorJson e]) := .array (List.forall_mem_singleton.mpr entry)
  have legible : ∀ m ∈ members, Json.Legible (Json.depthLimit - 1) m.2 := by
    simp only [members, List.forall_mem_cons]
    exact ⟨.int (by decide), .text _, .text _, errors, List.forall_mem_nil _⟩
  obtain ⟨inner, written, inside⟩ := Json.ordered_ofMembers differ
  obtain ⟨outer, read, found⟩ := Json.read_members (by simp [members]) legible
  have line : renderError true e =
      ofCodePoints ((Json.ofMembers members).render .compact) := rfl
  rw [line]
  refine ⟨?_, outer, inner, read, found "status", ?_, inside "code", inside "kind", inside "message"⟩
  · rw [ofCodePoints, String.toList_ofList]
    exact Json.printable_renderAt 0 _
  · refine (found "errors").trans (congrArg some ?_)
    rw [Json.ordered, Json.orderedItems_eq_map, List.map_singleton]
    exact congrArg (fun v => Json.array [v]) written

theorem reportedAs_of_perform {i : Invocation} {failure : Failure}
    (failed : (perform host ctx asJson i umask).2.outcome = .error failure) :
    ReportedAs failure (reportedError failure) ∧
      (reportedError failure).code ∈ [2, 10, 13, 14, 15, 17, 99] := by
  have contained := perform_contained host ctx asJson i umask
  rw [failed] at contained
  rcases contained.error_cases with ⟨e, rfl, coded⟩ | ⟨f, rfl⟩
  · exact ⟨.own e, List.mem_append_left [99] coded⟩
  · exact ⟨.internal f, by simp [reportedError, RunError.internal]⟩

/-- The end of a run that failed with an error: nothing on the first stream, and on the second the error
behind what was logged. -/
structure FailedWith (asJson : Bool) (exit : Exit) (e : RunError) : Prop where
  code : exit.code = e.code
  stdout : exit.stdout = ""
  stderr : ∃ log, WholeLines log ∧
    if asJson then ∃ line, ErrorLine e line ∧ exit.stderr = log ++ line ++ "\n"
    else exit.stderr = log ++ "snippetctl: error: " ++ e.message ++ "\n"

theorem failedWith_conclude (host : Host) (ctx : RunContext) (asJson : Bool) (i : Invocation)
    {t : Trace String} {failure : Failure} (failed : t.outcome = .error failure)
    (short : ¬ digitLimit < (toString (reportedError failure).code.natAbs).length) :
    FailedWith asJson (conclude host ctx asJson i t) (reportedError failure) := by
  obtain ⟨events, outcome⟩ := t
  obtain rfl : outcome = .error failure := failed
  have log := wholeLines_text (some ctx) host.stamp
    (startEvent asJson i :: (events ++ [failedEvent i (reportedError failure)]))
  rw [conclude_of_error]
  refine ⟨rfl, rfl, _, log, ?_⟩
  cases asJson with
  | true => exact ⟨_, errorLine_renderError short, (String.append_assoc ..).symm⟩
  | false => simp [renderError, String.append_assoc]

/-- A run whose command line is read and asks for one format fails just if its exit code is not that of
success. Then it printed nothing on the first stream, and the second ends with the error that is reported:
in JSON as an object on one line of printable ASCII, from which the exit code, the kind and the message are
read back whatever characters the message has, and else in words. A run that succeeds logs its events and
reports no error. -/
theorem failing_run_reports {argv : List String} {i : Invocation} (parsed : readArguments argv = .ok i)
    (agreed : ¬ (argv.contains "--json" = true ∧ i.globals.format = some "text")) (host : Host)
    (umask : Nat) :
    let asJson : Bool := resolveFormat (argv.contains "--json") i.globals.format
      (isOnServer host.environment) = "json"
    let ctx := contextOf host i.globals
    let t := (perform host ctx asJson i umask).2
    let exit := (run host argv umask).2
    (exit.code ≠ 0 → ∃ failure e, t.outcome = .error failure ∧ ReportedAs failure e ∧
      FailedWith asJson exit e) ∧
    (exit.code = 0 → ∃ stdout, t.outcome = .ok stdout ∧
      exit = ⟨0, stdout, Log.text (some ctx) host.stamp (startEvent asJson i :: t.events)⟩) := by
  intro asJson ctx t exit
  have ends : exit = conclude host ctx asJson i t := by
    simp only [exit, run_of_parsed parsed]
    rw [if_neg (by simpa using agreed)]
    rfl
  rw [ends]
  cases outcome : t.outcome with
  | ok stdout =>
    rw [conclude_of_ok outcome]
    exact ⟨fun code => absurd rfl code, fun _ => ⟨stdout, rfl, rfl⟩⟩
  | error failure =>
    obtain ⟨reported, coded⟩ := reportedAs_of_perform outcome
    have codes : ∀ c ∈ [2, 10, 13, 14, 15, 17, 99],
        (c : Int) ≠ 0 ∧ ¬ digitLimit < (toString c.natAbs).length := by decide
    obtain ⟨nonzero, short⟩ := codes _ coded
    refine ⟨fun _ => ⟨failure, _, rfl, reported, failedWith_conclude host ctx asJson i outcome short⟩, ?_⟩
    intro success
    rw [code_of_error outcome] at success
    exact absurd success nonzero

/-- A file of one byte that is no text is asked to be checked, and the run is told in JSON. -/
theorem failing_run_reports_undecoded :
    let argv := ["--json", "validate-report", "--file", "b.md"]
    let i : Invocation := ⟨{ json := true }, .validateReport false (.given "b.md")⟩
    readArguments argv = .ok i ∧ ¬ (argv.contains "--json" = true ∧ i.globals.format = some "text") ∧
      FailedWith true (run (bare shelf) argv).2 ⟨"internal error: " ++
        "'utf-8' codec can't decode byte 0xff in position 0: invalid start byte", 99, "internal_error"⟩ := by
  intro argv i
  have parsed : readArguments argv = .ok i := by decide +kernel
  have agreed : ¬ (argv.contains "--json" = true ∧ i.globals.format = some "text") := by decide
  obtain ⟨fails, succeeds⟩ := failing_run_reports parsed agreed (bare shelf) usualMask
  have outcome (ctx : RunContext) (asJson : Bool) : (perform (bare shelf) ctx asJson i).2.outcome =
      .error (.fault (.notText ⟨0xff, 0, 1, .invalidStart⟩)) := by
    simp only [perform, i, Trace.ofOutcome, runValidate, bare, checkFile_undecoded]
    rfl
  have code : (run (bare shelf) argv).2.code ≠ 0 := by
    intro success
    obtain ⟨_, done, _⟩ := succeeds success
    rw [outcome] at done
    contradiction
  obtain ⟨failure, e, failed, reported, told⟩ := fails code
  obtain rfl := Except.error.inj ((outcome _ _).symm.trans failed)
  cases reported
  exact ⟨parsed, agreed, told⟩

end FenceCheck.Cli
