import FenceCheck.Proofs.Cli.Running
import FenceCheck.Proofs.Cli.Scan
import FenceCheck.Proofs.Report.Checking

/-! The command that checks a report file. Its exit code is that of the check's answer, so it ends with an
internal error just where the file is lost to the check. -/
namespace FenceCheck.Cli
open Workspace Report FenceCheck.Text
variable {host : Host} {i : Invocation} {json : Bool} {file : String}

/-- The exit code of a run that came to an outcome. -/
def exitCode {α : Type} : Outcome α → Int
  | .ok _ => 0
  | .error f => (reportedError f).code

theorem code_conclude (host : Host) (ctx : RunContext) (asJson : Bool) (i : Invocation)
    (t : Trace String) : (conclude host ctx asJson i t).code = exitCode t.outcome := by
  cases done : t.outcome with
  | ok stdout => rw [conclude_of_ok done, exitCode]
  | error f => rw [code_of_error done, exitCode]

/-- The exit code of a validation is that of the check, in either format. -/
theorem code_validate (command : i.command = .validateReport json (.given file)) (asJson : Bool)
    (umask : Nat) : (told host i asJson umask).2.code =
      exitCode (checkFile host.workspace schemaName (.ofText file)) := by
  simp only [told, code_conclude, perform, command, Trace.ofOutcome, runValidate]
  cases checkFile host.workspace schemaName (.ofText file) <;> rfl

/-- The check of a report file answers with a read fault just if the file cannot be opened or read. It
accepts a file that was read just if a report is what it holds, and refuses any other as a violation of the
schema, unless the file is lost: its bytes are no text, or a number in it is too long, or it is nested too
deep. These are also the files at which a validation ends with an internal error. -/
theorem report_files_checked (w : Workspace) (p : Path) (named : p.hasNul = false) :
    ((∃ message, checkFile w schemaName p = .error (.run ⟨message, 14, "read_fault"⟩)) ↔
      ∃ f, w.readBytes p = .error f) ∧
    (∀ bytes, w.readBytes p = .ok bytes →
      (checkFile w schemaName p = .ok () ↔ Accepted bytes) ∧
      ((checkFile w schemaName p = .ok () ∨
        ∃ message, checkFile w schemaName p = .error (.run ⟨message, 15, "schema_violation"⟩)) ↔
          ¬ Lost bytes)) ∧
    ∀ (host : Host) (argv : List String) (i : Invocation) (json : Bool) (file : String) (umask : Nat),
      host.workspace = w → Path.ofText file = p → readArguments argv = .ok i →
      i.command = .validateReport json (.given file) →
      ¬ (argv.contains "--json" = true ∧ i.globals.format = some "text") →
      ((run host argv umask).2.code = 99 ↔ ∃ bytes, w.readBytes p = .ok bytes ∧ Lost bytes) := by
  have answer := answer_checkFile w p named
  refine ⟨?_, ?_, ?_⟩
  · generalize checkFile w schemaName p = r at answer
    cases answer with
    | unread message unread => exact iff_of_true ⟨message, rfl⟩ ⟨_, unread⟩
    | accepted opened => simp [opened]
    | violation message opened => simp [opened, RunError.schema]
    | lost f opened => simp [opened]
  · intro bytes opened
    generalize checkFile w schemaName p = r at answer
    cases answer with
    | unread message unread => simp [opened] at unread
    | accepted opened' accepted whole =>
      obtain rfl := Except.ok.inj (opened.symm.trans opened')
      exact ⟨iff_of_true rfl accepted, iff_of_true (.inl rfl) whole⟩
    | violation message opened' refused whole =>
      obtain rfl := Except.ok.inj (opened.symm.trans opened')
      exact ⟨iff_of_false (by simp) refused, iff_of_true (.inr ⟨message, rfl⟩) whole⟩
    | lost f opened' refused lost =>
      obtain rfl := Except.ok.inj (opened.symm.trans opened')
      exact ⟨iff_of_false (by simp) refused, iff_of_false (by simp) (not_not_intro lost)⟩
  · rintro host argv i json file umask rfl rfl parsed command agreed
    rw [run_of_parsed parsed, if_neg (by simpa using agreed), code_validate command]
    generalize checkFile host.workspace schemaName (.ofText file) = r at answer
    cases answer with
    | unread message unread => simp [exitCode, reportedError, RunError.read, unread]
    | accepted opened _ whole => simp [exitCode, opened, whole]
    | violation message opened _ whole => simp [exitCode, reportedError, RunError.schema, opened, whole]
    | lost f opened _ lost => simp [exitCode, reportedError, RunError.internal, opened, lost]

section Shelf

/-- A command line that asks for a file to be validated. -/
def validating (file : String) : Invocation :=
  ⟨{}, .validateReport false (.given file)⟩

theorem readBytes_document : shelf.readBytes (.ofText "a.md") =
    .ok (Utf8.encode "```py\nx\n```\n".toList) := by cbv

theorem readBytes_undecoded : shelf.readBytes (.ofText "b.md") = .ok [0xff] := by cbv

theorem decode_undecoded : Utf8.decode [0xff] = .error ⟨0xff, 0, 1, .invalidStart⟩ := by cbv

theorem checkFile_undecoded : checkFile shelf schemaName (.ofText "b.md") =
    .error (.fault (.notText ⟨0xff, 0, 1, .invalidStart⟩)) := by
  rw [checkFile, Workspace.readText, readBytes_undecoded, ok_bind, decode_undecoded]
  rfl

/-- A document is no report, but its check is answered. -/
theorem report_files_checked_shelf :
    let p := Path.ofText "a.md"
    let argv := ["validate-report", "--file", "a.md"]
    p.hasNul = false ∧ readArguments argv = .ok (validating "a.md") ∧
      (∃ message, checkFile shelf schemaName p = .error (.run ⟨message, 15, "schema_violation"⟩)) ∧
      (run (bare shelf) argv).2.code ≠ 99 := by
  intro p argv
  have named : p.hasNul = false := by decide +kernel
  have parsed : readArguments argv = .ok (validating "a.md") := by decide +kernel
  have decoded := Utf8.decode_encode "```py\nx\n```\n".toList
  have read : Json.read (String.ofList (unifyLineEnds "```py\nx\n```\n".toList)) =
      .error (.fault .expectingValue ⟨1, 1, 0⟩) := by cbv
  have whole : ¬ Lost (Utf8.encode "```py\nx\n```\n".toList) := by
    apply not_lost_of_read decoded <;> rw [read] <;> simp
  have refused : ¬ Accepted (Utf8.encode "```py\nx\n```\n".toList) := by
    rw [accepted_iff decoded, read]
    simp
  obtain ⟨_, checked, validated⟩ := report_files_checked shelf p named
  obtain ⟨accepted, answered⟩ := checked _ readBytes_document
  refine ⟨named, parsed, ?_, ?_⟩
  · exact (answered.mpr whole).resolve_left fun fine => refused (accepted.mp fine)
  · rw [ne_eq, validated (bare shelf) argv (validating "a.md") false "a.md" usualMask rfl rfl parsed rfl
      (by decide)]
    rintro ⟨bytes, opened, lost⟩
    exact whole (Except.ok.inj (readBytes_document.symm.trans opened) ▸ lost)

/-- The check of a file of one byte that is no text passes on the fault of the decoder, and the validation
ends with an internal error. -/
theorem undecoded_report_unanswered :
    let p := Path.ofText "b.md"
    shelf.readBytes p = .ok [0xff] ∧
      checkFile shelf schemaName p = .error (.fault (.notText ⟨0xff, 0, 1, .invalidStart⟩)) ∧
      (run (bare shelf) ["validate-report", "--file", "b.md"]).2.code = 99 := by
  intro p
  have parsed : readArguments ["validate-report", "--file", "b.md"] = .ok (validating "b.md") := by
    decide +kernel
  refine ⟨readBytes_undecoded, checkFile_undecoded, ?_⟩
  have agreed : ¬ (["validate-report", "--file", "b.md"].contains "--json" &&
      (validating "b.md").globals.format = some "text") = true := by decide
  rw [run_of_parsed parsed, if_neg agreed, code_validate rfl]
  exact congrArg exitCode checkFile_undecoded

end Shelf
end FenceCheck.Cli
