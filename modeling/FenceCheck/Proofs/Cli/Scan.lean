import FenceCheck.Proofs.Cli.Running
import FenceCheck.Proofs.Cli.Words
import FenceCheck.Proofs.Language.Checkers
import FenceCheck.Proofs.Report.Rerun
import FenceCheck.Proofs.Settings.Errors

/-! What a scan at the command line leaves behind. Nothing is written before the report, nothing but the
printing of the summary can fail after it, and no failure has the exit code of success; so the exit code
tells whether the report at the path is that of the run or no file was touched. -/
namespace FenceCheck

theorem Language.code_of_find {tag : String} {e : RunError} (failed : find tag = .error e) :
    e.code = 2 := by
  rw [find] at failed
  split at failed
  · exact absurd failed (by simp)
  · rw [← Except.error.inj failed]
    rfl

theorem Language.resolve_contained (env : Environment) (tag : String) (limit : Option Seconds) :
    Contained (fun e => e.code = 2 ∨ e.code = 13) ((resolve env tag limit).mapError .run) := by
  refine .of_errors fun e failed => ?_
  rw [resolve] at failed
  cases found : find tag with
  | error e' =>
    rw [found, error_bind] at failed
    exact Or.inl (Except.error.inj failed ▸ code_of_find found)
  | ok l =>
    rw [found, ok_bind] at failed
    dsimp only at failed
    split at failed
    · exact absurd failed (by simp)
    · rw [throw_eq] at failed
      rw [← Except.error.inj failed]
      exact Or.inr rfl

namespace Cli
open Number Workspace Report FenceCheck.Text
variable {host : Host} {ctx : RunContext} {asJson : Bool} {g : Globals} {a : ScanArguments}
variable {umask : Nat}

/-- A run error with one of the exit codes that run errors have. -/
def Coded (e : RunError) : Prop :=
  e.code ∈ [2, 10, 13, 14, 15, 17]

theorem Coded.ne_zero {e : RunError} (coded : Coded e) : e.code ≠ 0 := by
  intro zero
  rw [Coded, zero] at coded
  exact absurd coded (by decide)

theorem settingsFor_contained (host : Host) (g : Globals) (a : ScanArguments) :
    Contained Settings.IsConfigError (settingsFor host g a) :=
  (Settings.load_contained _ _ _ _).bind fun s _ => Settings.override_contained s _

/-- A scan that is ready knows its settings, its checker and its documents. -/
theorem prepareScan_eq_ok {p : ScanPlan} (prepared : prepareScan host g a = .ok p) :
    settingsFor host g a = .ok p.settings ∧
      ∃ check, Language.resolve host.environment p.settings.language (p.settings.timeout.map .real) =
          .ok check ∧
        p.plan = ⟨p.settings.language, check, p.settings.jobs, p.settings.policy⟩ ∧
        Discovery.documents host.workspace (p.settings.paths.map .ofText) p.settings.exclude =
          .ok p.documents := by
  obtain ⟨s, settings, prepared⟩ := exists_of_bind prepared
  obtain ⟨c, check, prepared⟩ := exists_of_bind prepared
  obtain ⟨ds, documents, prepared⟩ := exists_of_bind prepared
  obtain rfl := Except.ok.inj prepared
  exact ⟨settings, c, ok_of_mapError check, rfl, ok_of_mapError documents⟩

theorem prepareScan_contained (host : Host) (g : Globals) (a : ScanArguments) :
    Contained Coded (prepareScan host g a) := by
  refine Contained.bind ?_ fun settings _ => Contained.bind ?_ fun check _ =>
    Contained.bind ?_ fun documents _ => .ok _
  · exact (settingsFor_contained host g a).mono fun e fault => by simp [Coded, fault.2]
  · refine (Language.resolve_contained _ _ _).mono fun e code => ?_
    rcases code with code | code <;> simp [Coded, code]
  · exact .of_faults _

theorem prepareScan_confined (host : Host) (g : Globals) (a : ScanArguments) :
    Confined (fun e => e.code ≠ 0) (prepareScan host g a) :=
  (prepareScan_contained host g a).confined.mono fun _ => Coded.ne_zero

/-- The checker of a scan that is ready is that of its language. -/
theorem resolve_of_prepareScan {p : ScanPlan} (prepared : prepareScan host g a = .ok p) :
    Language.resolve host.environment p.settings.language (p.settings.timeout.map .real) =
      .ok p.plan.check := by
  obtain ⟨_, check, resolved, plan, _⟩ := prepareScan_eq_ok prepared
  rw [plan, resolved]

theorem record_contained (ctx : RunContext) (e : Log.Event) {allowed : RunError → Prop} :
    Contained allowed (record ctx e).outcome := by
  rw [record]
  split
  · exact .fault _
  · exact .ok ()

/-- No failure ends a run with the exit code of success. -/
theorem reportedError_code_ne_zero {α : Type} {e : Failure}
    (confined : Confined (fun e => e.code ≠ 0) (.error e : Outcome α)) :
    (reportedError e).code ≠ 0 := by
  cases e with
  | run e => exact confined e rfl
  | fault f => simp [reportedError, RunError.internal]
  | interrupted i => simp [reportedError, RunError.internal]

/-- No file was touched: all is as it was, but for directories on the way to the report. -/
def Spared (host : Host) (g : Globals) (a : ScanArguments) (umask : Nat) (u : Workspace) : Prop :=
  ∀ l, u.tree.get? l = host.workspace.tree.get? l ∨
    host.workspace.tree.get? l = none ∧ u.tree.get? l = some (.directory (masked umask 0o777)) ∧
      ∃ settings depth left, settingsFor host g a = .ok settings ∧
        u.Leads (Path.ofText settings.out).anchor
          ((Path.ofText settings.out).parent.parts.take depth) left l

theorem writeReport_contained (w : Workspace) (tokens : List String) (report : List Entry) (out : Path)
    (umask : Nat) : Contained Coded (writeReport w tokens report out umask).2 := by
  rw [writeReport, Writing.ofReport]
  cases serialized : serialize report with
  | error e =>
    obtain ⟨e', rfl, _, code⟩ := violation_of_serialize serialized
    exact .run (by simp [Coded, code])
  | ok text =>
    simp only [ok_bind, pure_eq]
    split
    · exact .ok out
    · exact (writeFailure_contained out _).mono fun e fault => by simp [Coded, fault.2]

/-- A scan whose checker comes to a verdict on each block is not interrupted. -/
theorem scan_contained (w : Workspace) (tokens : List String) {plan : Plan} (settles : plan.check.Settles)
    (paths : List Path) (out : Path) (umask : Nat) :
    Contained Coded (scan w tokens plan paths out umask).2.outcome := by
  rcases scan_cases w tokens plan paths out umask with
    ⟨e, collected, scanned⟩ | ⟨s, collected, ⟨v, e, failed, scanned⟩ | ⟨v, p, _, scanned⟩⟩
  · have reading : Contained IsReadFault (collect w plan paths).outcome := collect_contained settles paths
    rw [collected] at reading
    rw [scanned]
    exact reading.of_error.mono fun e fault => by simp [Coded, fault.2]
  · have writing := writeReport_contained w tokens s.report out umask
    rw [failed] at writing
    rw [scanned]
    exact writing.of_error
  · rw [scanned]
    exact .ok s

theorem Spared.refl (host : Host) (g : Globals) (a : ScanArguments) (umask : Nat) :
    Spared host g a umask host.workspace :=
  fun _ => Or.inl rfl

/-- A report of characters that is not written leaves the files as they were. -/
theorem Spared.of_writeReport {settings : Settings} (set_ : settingsFor host g a = .ok settings)
    {report : List Entry} {u : Workspace} {e : Failure} (scalar : ∀ e ∈ report, e.Scalar)
    (failed : writeReport host.workspace host.tokens report (.ofText settings.out) umask =
      (u, .error e)) : Spared host g a umask u := by
  rcases writeReport_cases host.workspace host.tokens report (dot_not_mem_ofText settings.out) umask with
    ⟨e', _, given⟩ | ⟨text, serialized, ⟨u', f, cwd, same, given⟩ | ⟨_, _, e', uncoded, _⟩ |
      ⟨u', l, mode, _, _, given⟩⟩
  · obtain rfl : u = host.workspace := by simpa [given] using (congrArg Prod.fst failed).symm
    exact .refl host g a umask
  · obtain rfl : u' = u := by simpa [given] using congrArg Prod.fst failed
    intro l
    rw [same]
    refine ((makeDirectories_paved host.workspace _ umask).kept l).imp_right ?_
    rintro ⟨free, directory, depth, left, leads⟩
    refine ⟨free, directory, settings, depth, left, set_, ?_⟩
    rw [Leads, cwd]
    exact leads.mono fun m n there => (same m).trans there
  · obtain ⟨_, rfl⟩ := serialize_eq_ok_iff.mp serialized
    obtain ⟨bytes, coded⟩ := encodable_iff.mpr scalar
    simp [coded] at uncoded
  · simp [given] at failed

/-- The event that a scan begins. -/
def scanEvent (p : ScanPlan) : Log.Event :=
  event .info "scan" [("language", .text p.settings.language), ("documents", .nat p.documents.length),
    ("jobs", .int p.settings.jobs)]

/-- Nothing is written as long as a scan is not ready. -/
theorem runScan_of_error (asJson : Bool) (umask : Nat) {e : Failure}
    (failed : (prepareScan host g a >>= fun p => (record ctx (scanEvent p)).outcome) = .error e) :
    (runScan host ctx asJson g a umask).1 = host.workspace ∧
      (runScan host ctx asJson g a umask).2.outcome = .error e := by
  have prepared : (Trace.ofOutcome (prepareScan host g a) >>= fun p => do
      record ctx (scanEvent p)
      return p).outcome = .error e := by
    rw [Trace.outcome_bind]
    cases ready : prepareScan host g a with
    | error e' => simpa [Trace.ofOutcome, ready] using failed
    | ok p =>
      rw [ready, ok_bind] at failed
      simp [Trace.ofOutcome, failed]
  rw [runScan]
  simp only [scanEvent] at prepared
  simp only [prepared, and_self]

/-- Once it is ready, a scan does what collecting and writing do, and then answers. -/
theorem runScan_of_ready (asJson : Bool) (umask : Nat) {p : ScanPlan}
    (ready : prepareScan host g a = .ok p) (recorded : (record ctx (scanEvent p)).outcome = .ok ()) :
    let scanned := Report.scan host.workspace host.tokens p.plan p.documents
      (.ofText p.settings.out) umask
    (runScan host ctx asJson g a umask).1 = scanned.1 ∧
      (runScan host ctx asJson g a umask).2.outcome =
        (scanned.2.outcome >>= fun s => scanAnswer ctx asJson p.settings s) := by
  intro scanned
  have prepared : (Trace.ofOutcome (prepareScan host g a) >>= fun p => do
      record ctx (scanEvent p)
      return p).outcome = .ok p := by
    rw [Trace.outcome_bind]
    simp [Trace.ofOutcome, ready, recorded]
  rw [runScan]
  simp only [scanEvent] at prepared
  simp only [prepared]
  refine ⟨rfl, ?_⟩
  rw [Trace.outcome_bind, prepared, ok_bind, Trace.outcome_bind]
  rfl

/-- What a scan prints in JSON. -/
def scanJson (ctx : RunContext) (language : Language) (settings : Settings) (s : Summary) : String :=
  answer ctx [("language", .text language.name), ("documents", .nat s.documents),
    ("skipped", .nat s.skipped), ("blocks", .nat s.blocks), ("failures", .nat s.report.length),
    ("report", .text (Path.ofText settings.out).text)]

theorem scanAnswer_eq (ctx : RunContext) (asJson : Bool) {settings : Settings} {language : Language}
    (found : Language.find settings.language = .ok language) (s : Summary) :
    scanAnswer ctx asJson settings s =
      .ok (if asJson then scanJson ctx language settings s else scanSentence settings s) := by
  rw [scanAnswer, found]
  rfl

/-- A scan that succeeded: what it was set to and found, and what it printed and left. Whoever opens the
path of the report finds it, unless a link was replaced on the way there. -/
structure Finished (host : Host) (ctx : RunContext) (asJson : Bool) (g : Globals) (a : ScanArguments)
    (umask : Nat) (p : ScanPlan) (s : Summary) (bytes : List UInt8) (u : Workspace) (stdout : String) :
    Prop where
  settings : settingsFor host g a = .ok p.settings
  plan : ∃ check, Language.resolve host.environment p.settings.language
      (p.settings.timeout.map .real) = .ok check ∧
    p.plan = ⟨p.settings.language, check, p.settings.jobs, p.settings.policy⟩
  documents : Discovery.documents host.workspace (p.settings.paths.map .ofText) p.settings.exclude =
    .ok p.documents
  collected : (collect host.workspace p.plan p.documents).outcome = .ok s
  serialized : ∃ written, serialize s.report = .ok written ∧ Utf8.encodePoints written = .ok bytes
  printed : ∃ language, Language.find p.settings.language = .ok language ∧
    stdout = if asJson then scanJson ctx language p.settings s else scanSentence p.settings s
  placed : ∃ l mode, (host.workspace.makeDirectories (Path.ofText p.settings.out).parent umask).1.place
      false (.ofText p.settings.out) = some l ∧
    u.tree.get? l = some (.file mode bytes)
  seen : Clear (host.workspace.makeDirectories (Path.ofText p.settings.out).parent umask).1
      (.ofText p.settings.out) →
    (∃ mode, u.look (.ofText p.settings.out) = some (.file mode bytes)) ∧
      checkFile u schemaName (.ofText p.settings.out) = .ok ()

/-- A scan that collected its documents and wrote their report has succeeded. -/
theorem Finished.of_writeReport {p : ScanPlan} {s : Summary} {language : Language} {u : Workspace}
    {path : Path} (ctx : RunContext) (asJson : Bool) (prepared : prepareScan host g a = .ok p)
    (found : Language.find p.settings.language = .ok language)
    (collected : (collect host.workspace p.plan p.documents).outcome = .ok s)
    (done : writeReport host.workspace host.tokens s.report (.ofText p.settings.out) umask =
      (u, .ok path)) :
    ∃ bytes, Finished host ctx asJson g a umask p s bytes u
      (if asJson then scanJson ctx language p.settings s else scanSentence p.settings s) := by
  obtain ⟨set_, check, resolved, plan, documents⟩ := prepareScan_eq_ok prepared
  rcases writeReport_cases host.workspace host.tokens s.report
      (dot_not_mem_ofText p.settings.out) umask with
    ⟨e, _, given⟩ | ⟨written, serialized, ⟨u', f, _, _, given⟩ | ⟨u', t, e, _, _, given⟩ |
      ⟨u', l, mode, bytes, placed, given⟩⟩
  · simp [given] at done
  · simp [given] at done
  · simp [given] at done
  · obtain rfl : u = u' := by simpa [given] using (congrArg Prod.fst done).symm
    have coded := ok_of_mapError placed.coded
    refine ⟨bytes, set_, ⟨check, resolved, plan⟩, documents, collected, ⟨written, serialized, coded⟩,
      ⟨language, found, rfl⟩, ⟨l, mode, placed.there, placed.patched.here⟩, fun clear => ?_⟩
    have seen := (placed.look_eq clear).2
    exact ⟨⟨mode, seen⟩, (readText_of_serialize serialized coded seen).2.2⟩

/-- What ends a scan before it reads its first document is told by a code that is not that of success. -/
theorem code_ne_zero_of_unready {host : Host} {ctx : RunContext} {g : Globals} {a : ScanArguments}
    {e : Failure}
    (ready : (prepareScan host g a >>= fun p => (record ctx (scanEvent p)).outcome) = .error e) :
    (reportedError e).code ≠ 0 := by
  have confined : Confined (fun e => e.code ≠ 0) (.error e : Outcome Unit) := by
    rw [← ready]
    exact (prepareScan_confined host g a).bind fun p _ => (record_contained ctx _).confined
  exact reportedError_code_ne_zero confined

/-- A scan fails and touches no file, or it writes the report and answers. -/
theorem runScan_cases (host : Host) (ctx : RunContext) (asJson : Bool) (g : Globals)
    (a : ScanArguments) (umask : Nat) :
    let r := runScan host ctx asJson g a umask
    (∃ e, r.2.outcome = .error e ∧ (reportedError e).code ≠ 0 ∧ Spared host g a umask r.1) ∨
    ∃ p s bytes stdout, r.2.outcome = .ok stdout ∧
      Finished host ctx asJson g a umask p s bytes r.1 stdout := by
  intro r
  -- whatever can fail before the report is collected is in `ready`, and it only reads
  cases ready : prepareScan host g a >>= fun p => (record ctx (scanEvent p)).outcome with
  | error e =>
    obtain ⟨untouched, outcome⟩ := runScan_of_error asJson umask ready
    refine Or.inl ⟨e, outcome, code_ne_zero_of_unready ready, ?_⟩
    rw [show r.1 = host.workspace from untouched]
    exact .refl host g a umask
  | ok _ =>
    cases prepared : prepareScan host g a with
    | error e => simp [prepared] at ready
    | ok p =>
      rw [prepared, ok_bind] at ready
      obtain ⟨after, outcome⟩ := runScan_of_ready asJson umask prepared ready
      have set_ := (prepareScan_eq_ok prepared).1
      have resolved := resolve_of_prepareScan prepared
      have codes := (scan_contained host.workspace host.tokens (Language.settles_of_resolve resolved)
        p.documents (.ofText p.settings.out) umask).confined.mono fun _ => Coded.ne_zero
      rcases scan_cases host.workspace host.tokens p.plan p.documents (.ofText p.settings.out) umask with
        ⟨e, _, scanned⟩ | ⟨s, collected, ⟨v, e, failed, scanned⟩ | ⟨v, path, written, scanned⟩⟩
      · rw [scanned] at after outcome codes
        refine Or.inl ⟨e, outcome, reportedError_code_ne_zero codes, ?_⟩
        rw [show r.1 = host.workspace from after]
        exact .refl host g a umask
      · rw [scanned] at after outcome codes
        refine Or.inl ⟨e, outcome, reportedError_code_ne_zero codes, ?_⟩
        rw [show r.1 = v from after]
        exact .of_writeReport set_ (Language.scalar_of_collect resolved collected) failed
      · rw [scanned] at after outcome
        obtain ⟨language, found, _⟩ := Language.checker_of_resolve resolved
        obtain ⟨bytes, finished⟩ := Finished.of_writeReport ctx asJson prepared found collected written
        dsimp only at outcome
        rw [ok_bind, scanAnswer_eq ctx asJson found] at outcome
        rw [← show r.1 = v from after] at finished
        exact Or.inr ⟨p, s, bytes, _, outcome, finished⟩

/-- The exit code of a scan tells what became of the files. With the code of success, the report of the
documents as they were stands at the place of the path, it passes the check, and what is printed counts
what was collected. With any other code no file or link was touched, unless all that failed was to print
that, at a console that cannot write it; and a command line that is not understood touches nothing at
all. -/
theorem scan_exit (host : Host) (argv : List String) (umask : Nat) (console : Codec) :
    let r := run host argv umask console
    (∀ exit, readArguments argv = .error exit → r = (host.workspace, exit)) ∧
    ∀ i a, readArguments argv = .ok i → i.command = .scan a →
      let asJson : Bool := resolveFormat (argv.contains "--json") i.globals.format
        (isOnServer host.environment) = "json"
      let ctx := RunContext.make host.environment i.globals.runId host.runName i.globals.verbose
        i.globals.quiet i.globals.logJson
      (r.2.code = 0 → ∃ p s bytes,
        Finished host ctx asJson i.globals a umask p s bytes r.1 r.2.stdout) ∧
      (r.2.code ≠ 0 → Spared host i.globals a umask r.1 ∨
        r.2.code = 99 ∧ r.2.stdout = "" ∧ ∃ p s bytes stdout e,
          Finished host ctx asJson i.globals a umask p s bytes r.1 stdout ∧
          console.refusal? (codePoints stdout) = some e) := by
  intro r
  refine ⟨fun exit refused => by simp only [r, run, refused], ?_⟩
  intro i a parsed command asJson ctx
  by_cases conflicting : (argv.contains "--json" && i.globals.format = some "text") = true
  · have given : r = (host.workspace,
        ⟨formatConflict.code, "", renderError false formatConflict ++ "\n"⟩) := by
      simp only [r, run, parsed, runInvocation, conflicting, if_true]
    refine ⟨fun success => ?_, fun _ => .inl ?_⟩
    · rw [given] at success
      have code : formatConflict.code = 0 := success
      exact absurd code (by decide)
    · rw [given]
      exact .refl host i.globals a umask
  · have given : r = ((runScan host ctx asJson i.globals a umask).1,
        conclude host ctx asJson i (runScan host ctx asJson i.globals a umask).2 console) := by
      simp only [r, run, parsed, runInvocation, conflicting, perform, command, asJson, ctx]
      rfl
    rw [given]
    rcases runScan_cases host ctx asJson i.globals a umask with
      ⟨e, failed, code, spared⟩ | ⟨p, s, bytes, stdout, answered, finished⟩
    · refine ⟨fun success => ?_, fun _ => .inl spared⟩
      simp only [conclude, failed, error_bind] at success
      exact absurd success code
    · cases refused : console.refusal? (codePoints stdout) with
      | none =>
        have exit := conclude_of_printed answered refused host ctx asJson i
        rw [exit]
        exact ⟨fun _ => ⟨p, s, bytes, finished⟩, fun code => absurd rfl code⟩
      | some e =>
        obtain ⟨code, silent⟩ := conclude_of_refused answered refused host ctx asJson i
        refine ⟨fun success => ?_, fun _ => .inr ?_⟩
        · rw [code] at success
          exact absurd success (by decide)
        · exact ⟨code, silent, p, s, bytes, stdout, e, finished, refused⟩

/-- A host without variables, with one name to try for a fresh file. -/
def bare (w : Workspace) : Host :=
  ⟨w, [], "", "", ["token"]⟩

section Instances
variable {w : Workspace}

/-- A workspace at the top of its tree, without a settings file. -/
structure Unset (w : Workspace) : Prop where
  top : w.cwd = []
  own : w.isFile ⟨.root, [Settings.ownFile]⟩ = .ok false
  shared : w.isFile ⟨.root, [Settings.sharedFile]⟩ = .ok false

theorem isFile_of_free {name : String} (plain : FileTree.Plain name) (free : w.tree.get? [name] = none)
    (short : ¬ FileTree.pathLimit < (Path.mk .root [name]).text.utf8ByteSize)
    (named : (Path.mk .root [name]).hasNul = false) : w.isFile ⟨.root, [name]⟩ = .ok false := by
  have vacant : w.spot true ⟨.root, [name]⟩ = .ok (.vacant [name]) :=
    spot_eq_ok.mpr ⟨named, short, (FileTree.walk_free rfl plain free).trans (if_pos rfl)⟩
  rw [isFile, isKind, node, find_eq, vacant]
  rfl

theorem Unset.of_free (top : w.cwd = []) (own : w.tree.get? [Settings.ownFile] = none)
    (shared : w.tree.get? [Settings.sharedFile] = none) : Unset w :=
  ⟨top, isFile_of_free (by constructor <;> decide) own (by decide) (by decide),
    isFile_of_free (by constructor <;> decide) shared (by decide) (by decide)⟩

/-- Without a settings file the settings are the defaults. -/
theorem Unset.load_eq (unset : Unset w) : Settings.load w [] none ⟨.root, w.cwd⟩ = .ok {} := by
  have here : w.tree.canonical w.cwd ⟨.root, w.cwd⟩ = .ok ⟨.root, []⟩ := by
    have found : w.tree.spot [] true ⟨.root, []⟩ = .ok (.taken []) := by
      rw [FileTree.spot, if_neg (by decide), FileTree.walk]
      rfl
    have named : (Path.mk .root []).hasNul = false := rfl
    rw [unset.top, FileTree.canonical, if_neg (by simp [named])]
    simp [FileTree.settle, FileTree.Named.start, FileTree.startOf, FileTree.collapse, found]
  have own : (Path.mk .root []).join (.ofText Settings.ownFile) = ⟨.root, [Settings.ownFile]⟩ := by
    decide
  have shared : (Path.mk .root []).join (.ofText Settings.sharedFile) =
      ⟨.root, [Settings.sharedFile]⟩ := by
    decide
  have chosen : Settings.chooseFile w none ⟨.root, w.cwd⟩ = .ok none := by
    simp only [Settings.chooseFile, here, ok_bind, Settings.findFile, own, unset.own, shared,
      unset.shared]
    rfl
  rw [Settings.load, chosen]
  cbv

theorem Unset.settingsFor_eq (unset : Unset w) (text : String) :
    settingsFor (bare w) {} { out := some (.text text) } = .ok { out := text } := by
  have coerced : Settings.coerce "command line" [("out", .text text)] = .ok [.out text] := rfl
  have checked : Settings.checked { out := text } = .ok { out := text } := by cbv
  have layer : ({ out := some (.text text) } : ScanArguments).layer = [("out", .text text)] := rfl
  rw [settingsFor]
  simp only [bare, Option.filter_none, Option.map_none, unset.load_eq, ok_bind, Settings.override,
    layer, coerced]
  exact checked

/-- The language of a scan that names none needs no tool. -/
theorem resolve_default : Language.resolve [] "python" none = .ok Language.checkProgram := by cbv

/-- A scan for an empty report. -/
def emptyPlan (text : String) : ScanPlan :=
  ⟨{ out := text }, ⟨"python", Language.checkProgram, 1, .abort⟩, []⟩

theorem Unset.prepareScan_eq (unset : Unset w)
    (nothing : Discovery.documents w [.ofText "."] [] = .ok []) (text : String) :
    prepareScan (bare w) {} { out := some (.text text) } = .ok (emptyPlan text) := by
  have limit : (none : Option Binary64).map .real = (none : Option Seconds) := rfl
  rw [prepareScan, unset.settingsFor_eq, ok_bind]
  simp only [bare, List.map_cons, List.map_nil, nothing]
  rw [limit, resolve_default, mapError_ok, ok_bind]
  rfl

theorem record_emptyPlan (ctx : RunContext) (text : String) :
    (record ctx (scanEvent (emptyPlan text))).outcome = .ok () := by
  have whole : (renderInt? 0).isSome ∧ (renderInt? 1).isSome := by decide
  rw [record, if_neg]
  · rfl
  · simp [scanEvent, event, emptyPlan, Log.isWritable, Json.text, Json.nat, whole]

/-- A scan that is ready and whose report is written succeeds, and is told in plain words. -/
theorem run_of_ready {argv : List String} {p : ScanPlan} {s : Summary} {u : Workspace} {path : Path}
    (parsed : readArguments argv = .ok ⟨{}, .scan a⟩) (noFlag : argv.contains "--json" = false)
    (ready : prepareScan (bare w) {} a = .ok p)
    (recorded : ∀ ctx, (record ctx (scanEvent p)).outcome = .ok ())
    (collected : (collect w p.plan p.documents).outcome = .ok s)
    (written : writeReport w ["token"] s.report (.ofText p.settings.out) = (u, .ok path)) :
    let r := run (bare w) argv
    r.1 = u ∧ r.2.code = 0 ∧ r.2.stdout = scanSentence p.settings s := by
  intro r
  let ctx := RunContext.make [] none "" false false false
  have given : r = ((runScan (bare w) ctx false {} a).1,
      conclude (bare w) ctx false ⟨{}, .scan a⟩ (runScan (bare w) ctx false {} a).2) := by
    simp only [r, run, parsed, runInvocation, perform, noFlag]
    rfl
  obtain ⟨after, outcome⟩ := runScan_of_ready false usualMask ready (recorded ctx)
  have scanned : (Report.scan w ["token"] p.plan p.documents (.ofText p.settings.out)).1 = u ∧
      (Report.scan w ["token"] p.plan p.documents (.ofText p.settings.out)).2.outcome = .ok s := by
    rw [Report.scan, collected]
    simp only [written, and_self]
  obtain ⟨_, check, resolved, _⟩ := prepareScan_eq_ok ready
  obtain ⟨language, known, _⟩ := Language.checker_of_resolve resolved
  change _ = (Report.scan w ["token"] p.plan p.documents (.ofText p.settings.out)).2.outcome >>= _ at outcome
  rw [scanned.2, ok_bind, scanAnswer_eq ctx false known s] at outcome
  rw [given, conclude_of_ok outcome]
  exact ⟨after.trans scanned.1, rfl, rfl⟩

/-- A scan without documents writes an empty report to the path it is given. -/
theorem Unset.run_eq (unset : Unset w)
    (nothing : Discovery.documents w [.ofText "."] [] = .ok []) {text : String}
    (noFlag : text ≠ "--json")
    (parsed : readArguments ["scan", "--out", text] =
      .ok ⟨{}, .scan { out := some (.text text) }⟩) {u : Workspace} {path : Path}
    (written : writeReport w ["token"] [] (.ofText text) = (u, .ok path)) :
    let r := run (bare w) ["scan", "--out", text]
    r.1 = u ∧ r.2.code = 0 := by
  intro r
  have plain : ["scan", "--out", text].contains "--json" = false := by
    simp [Ne.symm noFlag]
  obtain ⟨after, code, _⟩ := run_of_ready parsed plain (unset.prepareScan_eq nothing text)
    (fun ctx => record_emptyPlan ctx text) rfl written
  exact ⟨after, code⟩

theorem unset_attic : Unset (attic []) := .of_free rfl rfl rfl

theorem readAll_out {out : String} (plain : out.toList.head? ≠ some '-') :
    scanPart.readAll {} ["--out", out] = .ok ({ out := some (.text out) }, []) := by
  have readings : readWords scanPart.switches ["--out", out] =
      .ok [("--out", .switch (valued "--out") "--out" none), (out, .operand)] :=
    readWords_cons (by decide) rfl (readWords_operand plain _)
  rw [Part.readAll, readings]
  simp [Part.read, takeValue, scanPart, valued, helpSwitch, Value.asGiven]

theorem parsed_out {out : String} (plain : out.toList.head? ≠ some '-') :
    readArguments ["scan", "--out", out] = .ok ⟨{}, .scan { out := some (.text out) }⟩ :=
  parsed_scan (readWords_cons (by decide) (unknown_ahead _ (by simp)) (readWords_operand plain _))
    (readAll_out plain)

/-- A document with a block of JSON that is none. -/
def desk : Workspace where
  tree := ⟨[(["a.md"], .file 0o644 (Utf8.encode "```json\nx\n```\n".toList))]⟩
  cwd := []

def deskFile : Path :=
  ⟨.relative, ["a.md"]⟩

/-- A scan of the document, with some spelling of the language. -/
def filing (tag : String) : ScanArguments :=
  { language := some (.text tag), out := some (.text "report.json"), paths := ["a.md"] }

def filingSettings : Settings :=
  { language := "json", out := "report.json", paths := ["a.md"] }

def filingPlan : ScanPlan :=
  ⟨filingSettings, ⟨"json", Language.checkJson, 1, .abort⟩, [deskFile]⟩

/-- What such a scan finds. -/
def filed : Summary where
  report := [.ofBlock deskFile "x" (codePoints "line 1 column 1: Expecting value")]
  documents := 1
  blocks := 1

theorem readAll_filing {tag : String} (plain : tag.toList.head? ≠ some '-') :
    scanPart.readAll {} ["--language", tag, "--out", "report.json", "a.md"] = .ok (filing tag, []) := by
  have readings : readWords scanPart.switches ["--language", tag, "--out", "report.json", "a.md"] =
      .ok [("--language", .switch (valued "--language") "--language" none), (tag, .operand),
        ("--out", .switch (valued "--out") "--out" none), ("report.json", .operand),
        ("a.md", .operand)] :=
    readWords_cons (by decide) rfl (readWords_cons (ne_separator plain) (readWord_operand plain _)
      (readWords_cons (by decide) rfl (readWords_cons (by decide) rfl
        (readWords_cons (by decide) rfl rfl))))
  rw [Part.readAll, readings]
  simp [Part.read, takeValue, takeOperands, scanPart, valued, helpSwitch, Value.asGiven, filing]

theorem parsed_filing {tag : String} (plain : tag.toList.head? ≠ some '-') :
    readArguments ["scan", "--language", tag, "--out", "report.json", "a.md"] =
      .ok ⟨{}, .scan (filing tag)⟩ :=
  parsed_scan (readWords_cons (by decide) (unknown_ahead _ (by simp))
    (readWords_cons (ne_separator plain) (readWord_operand plain _) (readWords_cons (by decide)
      (unknown_ahead _ (by simp)) (readWords_cons (by decide) rfl (readWords_cons (by decide) rfl rfl)))))
    (readAll_filing plain)

theorem unset_desk : Unset desk := .of_free rfl rfl rfl

theorem settingsFor_filing : settingsFor (bare desk) {} (filing "json") = .ok filingSettings := by
  have layer : (filing "json").layer =
      [("language", .text "json"), ("paths", .texts ["a.md"]), ("out", .text "report.json")] := rfl
  have coerced : Settings.coerce "command line" [("language", .text "json"), ("paths", .texts ["a.md"]),
      ("out", .text "report.json")] = .ok [.language "json", .paths ["a.md"], .out "report.json"] := rfl
  have checked : Settings.checked filingSettings = .ok filingSettings := by cbv
  rw [settingsFor]
  simp only [bare, Option.filter_none, Option.map_none, unset_desk.load_eq, ok_bind, Settings.override,
    layer, coerced]
  exact checked

theorem documents_desk : Discovery.documents desk [deskFile] [] = .ok [deskFile] := by cbv

theorem prepareScan_desk : prepareScan (bare desk) {} (filing "json") = .ok filingPlan := by
  have resolved : Language.resolve [] "json" none = .ok Language.checkJson := by cbv
  have path : [Path.ofText "a.md"] = [deskFile] := by decide
  have limit : (none : Option Binary64).map .real = (none : Option Seconds) := rfl
  rw [prepareScan, settingsFor_filing, ok_bind]
  simp only [bare, filingSettings, List.map_cons, List.map_nil, path, documents_desk]
  rw [limit, resolved, mapError_ok, ok_bind]
  rfl

theorem settles_checkJson : Language.checkJson.Settles := by
  intro source
  obtain ⟨_, judged⟩ := Language.checkJson_orderly source
  exact ⟨_, judged⟩

theorem collect_desk : (collect desk filingPlan.plan [deskFile]).outcome = .ok filed := by
  have plain : FileTree.Plain "a.md" := by constructor <;> decide
  have here : desk.place true deskFile = some ["a.md"] := by
    refine place_eq_some.mpr ⟨.taken ["a.md"], spot_eq_ok.mpr ⟨by decide, by decide, ?_⟩, rfl⟩
    exact (FileTree.walk_down rfl plain rfl (by simp)).trans (FileTree.walk_here _ _ _ _)
  have there : desk.look deskFile =
      some (.file 0o644 (Utf8.encode "```json\nx\n```\n".toList)) := by
    rw [look_eq, here]
    rfl
  have text : desk.readText deskFile = .ok "```json\nx\n```\n".toList := readText_eq there (by decide)
  have block : Fence.extract "```json\nx\n```\n".toList deskFile "json" = [⟨deskFile, "x", 1⟩] := by
    decide +kernel
  have complaint : (Language.checkJson "x").complaint? =
      some (codePoints "line 1 column 1: Expecting value") := by decide +kernel
  rw [collect_of_settles settles_checkJson]
  generalize "```json\nx\n```\n".toList = words at text block
  simp [filingPlan, reads, readDocument_of_text text, Document.blocks, block, complaints, complaint, filed]

theorem plain_fresh_desk : FileTree.Plain ".report.json.token.tmp" := by constructor <;> decide

theorem writeReport_desk : ∃ u, writeReport desk ["token"] filed.report (.ofText "report.json") =
    (u, .ok (.ofText "report.json")) := by
  refine writeReport_top rfl (by decide) plain_fresh_desk (by decide) (by decide) rfl rfl ?_ ?_
  · exact List.forall_mem_singleton.mpr ⟨by decide, by decide, by decide⟩
  · exact List.forall_mem_singleton.mpr (.ofBlock _ _ (isSurrogate_of_mem_codePoints _))

/-- The scan finds the block and reports it. -/
theorem run_desk :
    let r := run (bare desk) ["scan", "--language", "json", "--out", "report.json", "a.md"]
    r.2.code = 0 ∧ r.2.stdout =
      "scanned 1 document(s), 1 `json` block(s): 1 syntax error(s); report written to report.json\n" := by
  obtain ⟨u, written⟩ := writeReport_desk
  have recorded (ctx : RunContext) : (record ctx (scanEvent filingPlan)).outcome = .ok () := by
    have whole : (renderInt? 1).isSome := by decide
    rw [record, if_neg]
    · rfl
    · simp [scanEvent, event, filingPlan, filingSettings, Log.isWritable, Json.text, Json.nat, whole]
  obtain ⟨_, code, told⟩ := run_of_ready (parsed_filing (by decide)) rfl prepareScan_desk recorded
    collect_desk written
  exact ⟨code, told.trans rfl⟩

theorem run_conflicting :
    let argv := ["--format", "text", "scan", "--json"]
    readArguments argv = .ok ⟨{ format := some "text" }, .scan { json := true }⟩ ∧
      (run (bare desk) argv).2.code ≠ 0 := by
  intro argv
  have parsed : readArguments argv = .ok ⟨{ format := some "text" }, .scan { json := true }⟩ := by
    decide +kernel
  refine ⟨parsed, ?_⟩
  rw [run, parsed]
  decide

theorem readArguments_incomplete : ∃ exit, readArguments ["scan", "--jobs"] = .error exit := by
  have refused : (readArguments ["scan", "--jobs"]).toOption = none := by decide +kernel
  cases read : readArguments ["scan", "--jobs"] with
  | error exit => exact ⟨exit, rfl⟩
  | ok i => simp [read, Except.toOption] at refused

/-- What a scan of the document is set to and finds. -/
theorem Finished.eq_filed {ctx : RunContext} {asJson : Bool} {p : ScanPlan} {s : Summary}
    {bytes : List UInt8} {u : Workspace} {stdout : String}
    (finished : Finished (bare desk) ctx asJson {} (filing "json") usualMask p s bytes u stdout) :
    p = filingPlan ∧ s = filed := by
  obtain ⟨settings, plan, documents⟩ := p
  obtain rfl : settings = filingSettings :=
    Except.ok.inj (finished.settings.symm.trans settingsFor_filing)
  obtain ⟨check, resolved, planned⟩ := finished.plan
  dsimp only at resolved planned
  subst planned
  have known : Language.resolve [] "json" none = .ok Language.checkJson := by cbv
  obtain rfl : check = Language.checkJson := Except.ok.inj (resolved.symm.trans known)
  obtain rfl : documents = [deskFile] := Except.ok.inj (finished.documents.symm.trans documents_desk)
  exact ⟨rfl, Except.ok.inj (finished.collected.symm.trans collect_desk)⟩

theorem clear_desk : Clear (desk.makeDirectories (Path.ofText "report.json").parent).1 (.ofText "report.json") := by
  rw [makeDirectories_of_directory (isDirectory_top rfl)]
  refine clear_of_no_link (fun l target link => ?_) _
  simp only [desk, FileTree.get?, List.lookup_cons] at link
  split at link
  · simp at link
  · split at link <;> simp at link

/-- A command line that is not understood, one that fails, and one that succeeds: its report is at its path
and tells of the one block that was found. -/
theorem scan_exit_desk :
    let host := bare desk
    (∃ exit, readArguments ["scan", "--jobs"] = .error exit ∧
      run host ["scan", "--jobs"] = (desk, exit)) ∧
    (let r := run host ["--format", "text", "scan", "--json"]
     r.2.code ≠ 0 ∧ Spared host { format := some "text" } { json := true } usualMask r.1) ∧
    let r := run host ["scan", "--language", "json", "--out", "report.json", "a.md"]
    let out := Path.ofText "report.json"
    r.2.code = 0 ∧ Clear (desk.makeDirectories out.parent).1 out ∧
      ∃ mode written bytes, serialize filed.report = .ok written ∧
        Utf8.encodePoints written = .ok bytes ∧ r.1.look out = some (.file mode bytes) ∧
        checkFile r.1 schemaName out = .ok () := by
  intro host
  obtain ⟨exit, incomplete⟩ := readArguments_incomplete
  obtain ⟨understood, failed⟩ := run_conflicting
  obtain ⟨code, _⟩ := run_desk
  refine ⟨⟨exit, incomplete, (scan_exit host _ usualMask .utf8).1 exit incomplete⟩, ⟨failed, ?_⟩, code,
    clear_desk, ?_⟩
  · obtain spared | ⟨_, _, _, _, _, stdout, _, _, refused⟩ :=
      ((scan_exit host _ usualMask .utf8).2 _ _ understood rfl).2 failed
    · exact spared
    · simp at refused
  · obtain ⟨p, s, bytes, finished⟩ :=
      ((scan_exit host _ usualMask .utf8).2 _ _ (parsed_filing (by decide)) rfl).1 code
    obtain ⟨rfl, rfl⟩ := finished.eq_filed
    obtain ⟨written, serialized, coded⟩ := finished.serialized
    obtain ⟨⟨mode, file⟩, checked⟩ := finished.seen clear_desk
    exact ⟨mode, written, bytes, serialized, coded, file, checked⟩

/-- A scan whose report replaces a link on its own way succeeds, and its report is not at its path. -/
theorem scan_report_lost :
    let r := run (bare (mirror [])) ["scan", "--out", "self/self"]
    r.2.code = 0 ∧ r.1.look (Path.ofText "self/self") = none := by
  intro r
  have parsed := parsed_out (show "self/self".toList.head? ≠ some '-' by decide)
  have nothing : Discovery.documents (mirror []) [.ofText "."] [] = .ok [] := by cbv
  have unset : Unset (mirror []) := .of_free rfl rfl rfl
  obtain ⟨after, code⟩ := unset.run_eq nothing (by decide) parsed writeReport_mirror
  refine ⟨code, ?_⟩
  rw [after]
  exact look_mirror 0o755 emptyReport

end Instances

end Cli
end FenceCheck
