import FenceCheck.Proofs.Cli.Running
import FenceCheck.Proofs.Cli.Scan
import FenceCheck.Proofs.Discovery.Places
import FenceCheck.Proofs.Language.Checkers
import FenceCheck.Proofs.Report.Writable
import FenceCheck.Proofs.Settings.Layers

/-! Scans that are told to leave out what cannot be read. Once it is known which documents there are,
nothing about a document ends such a scan: it succeeds, and counts and announces each that it left out.
What can still end it comes before, where the paths are asked for their kind and resolved. -/
namespace FenceCheck.Cli
open Number Workspace Report Discovery FenceCheck.Text

section Settings
variable {host : Host} {g : Globals} {a : ScanArguments} {settings : Settings}

theorem keys_filterMap_sublist {α : Type} (values : List (String × Option α)) :
    ((values.filterMap fun (key, v?) => v?.map (key, ·)).map Prod.fst).Sublist
      (values.map Prod.fst) := by
  induction values with
  | nil => exact .slnil
  | cons e rest ih =>
    obtain ⟨key, v?⟩ := e
    cases v? with
    | none => exact ih.cons key
    | some v => exact ih.cons_cons key

theorem distinct_layer (a : ScanArguments) : (a.layer.map Prod.fst).Nodup := by
  have keys : ["language", "paths", "out", "jobs", "on_read_error", "timeout", "exclude"].Nodup := by
    decide
  exact keys.sublist (keys_filterMap_sublist _)

/-- What a run is set to where the command line names paths and the policy to skip. -/
theorem settings_of_skipping (set_ : settingsFor host g a = .ok settings) (given : a.paths ≠ [])
    (skipping : a.onReadError = some (.text "skip")) :
    settings.paths = a.paths ∧ settings.policy = .skip := by
  have paths : a.layer.lookup "paths" = some (.texts a.paths) := by
    apply Bindings.lookup_of_mem (distinct_layer a)
    simp [ScanArguments.layer, given]
  have policy : a.layer.lookup "on_read_error" = some (.text "skip") := by
    apply Bindings.lookup_of_mem (distinct_layer a)
    simp [ScanArguments.layer, skipping]
  obtain ⟨base, _, set_⟩ := exists_of_bind set_
  obtain ⟨changes, coerced, set_⟩ := exists_of_bind set_
  rw [Settings.applyAll_of_coerce (distinct_layer a) coerced] at set_
  obtain ⟨_, rfl⟩ := Settings.checked_eq_ok_iff.mp set_
  constructor
  · simp [Settings.normalized, Settings.overlay, paths, Settings.textsOf?]
  · simp [Settings.normalized, Settings.overlay, policy, Settings.textOf?, Settings.policy,
      ReadPolicy.word]

end Settings

section Collection
variable {w : Workspace} {plan : Plan} {paths : List Path}

theorem fit_of_collect {s : Summary} (texts : ∀ p ∈ paths, p.text ≠ "")
    (collected : (collect w plan paths).outcome = .ok s) :
    ∀ e ∈ s.report, e.Fit := by
  intro e member
  obtain ⟨d, inPaths, b, inBlocks, same, failed⟩ := entry_of_collect collected member
  have named : b.file.text ≠ "" := by
    rw [Fence.file_of_mem_extract inBlocks]
    exact texts d.path inPaths
  have some_ := (Fence.content_of_mem_extract inBlocks).1
  rw [same]
  exact ⟨codePoints_eq_nil.not.mpr named, codePoints_eq_nil.not.mpr some_,
    message_ne_nil_of_validate failed⟩

/-- Under the policy to skip, a collection comes to an end, and counts what it left out. -/
theorem exists_collect_of_skip (settles : plan.check.Settles) (skipping : plan.policy = .skip)
    (named : ∀ p ∈ paths, p.hasNul = false) :
    ∃ s, (collect w plan paths).outcome = .ok s ∧ s.skipped = (unreadable w paths).length := by
  rw [collect_of_settles settles, skipping, reads_skip named]
  refine ⟨_, rfl, ?_⟩
  have all := length_readable_add_unreadable w paths
  dsimp only
  omega

end Collection

section Runs
variable {host : Host} {ctx : RunContext} {asJson : Bool} {g : Globals} {a : ScanArguments}
variable {umask : Nat} {settings : Settings} {check : Checker} {documents : List Path} {p : ScanPlan}

/-- What a scan with these settings is about to do. -/
def planned (settings : Settings) (check : Checker) (documents : List Path) : ScanPlan :=
  ⟨settings, ⟨settings.language, check, settings.jobs, settings.policy⟩, documents⟩

theorem prepareScan_of_documents (set_ : settingsFor host g a = .ok settings)
    (resolved : Language.resolve host.environment settings.language (settings.timeout.map .real) =
      .ok check) : prepareScan host g a =
      (Discovery.documents host.workspace (settings.paths.map .ofText) settings.exclude).mapError .fault
        >>= fun documents => .ok (planned settings check documents) := by
  rw [prepareScan, set_, ok_bind, resolved]
  rfl

/-- The event that a scan begins can be written, or is not to be: the numbers that it tells, of jobs and
of documents, have no more digits than may be written. -/
def Recordable (ctx : RunContext) (jobs : Int) (documents : Nat) : Prop :=
  ctx.quiet = true ∨ Writable jobs ∧ Writable documents

theorem recordable_iff : Recordable ctx p.settings.jobs p.documents.length ↔
    ((scanEvent p).isEnabled (some ctx) &&
      !((scanEvent p).fields.all fun (_, v) => Log.isWritable v)) = false := by
  cases quiet : ctx.quiet with
  | true => simp [Recordable, quiet, Log.Event.isEnabled, scanEvent, event]
  | false =>
    simp [Recordable, quiet, Log.Event.isEnabled, scanEvent, event, Log.isWritable, Json.text,
      Json.nat, Writable, and_comm]

theorem record_eq (recorded : Recordable ctx p.settings.jobs p.documents.length) :
    record ctx (scanEvent p) = Trace.log (scanEvent p) := by
  rw [record, recordable_iff.mp recorded]
  rfl

theorem record_ok_iff : (record ctx (scanEvent p)).outcome = .ok () ↔
    Recordable ctx p.settings.jobs p.documents.length := by
  constructor
  · intro written
    rw [recordable_iff, ← Bool.not_eq_true]
    intro unwritten
    rw [record, if_pos unwritten] at written
    contradiction
  · intro recorded
    rw [record_eq recorded]
    rfl

theorem events_runScan (ready : prepareScan host g a = .ok p)
    (recorded : Recordable ctx p.settings.jobs p.documents.length) {s : Summary}
    (scanned : (Report.scan host.workspace host.tokens p.plan p.documents
      (.ofText p.settings.out) umask).2.outcome = .ok s) :
    (runScan host ctx asJson g a umask).2.events = scanEvent p :: (Report.scan host.workspace
      host.tokens p.plan p.documents (.ofText p.settings.out) umask).2.events := by
  have prepared : (Trace.ofOutcome (prepareScan host g a) >>= fun p => do
      record ctx (scanEvent p)
      return p) = ⟨[scanEvent p], .ok p⟩ := by
    rw [ready, Trace.ofOutcome, Trace.mk_bind, record_eq recorded]
    rfl
  rw [runScan]
  simp only [scanEvent] at prepared ⊢
  simp only [prepared, Trace.mk_bind, Trace.events_bind_ok scanned]
  simp only [Trace.ofOutcome, List.append_nil, List.singleton_append]

/-- A run of a scan, once its command line was read and asks for one form of output. -/
theorem run_eq_runScan {argv : List String} {i : Invocation} (parsed : readArguments argv = .ok i)
    (command : i.command = .scan a)
    (agreed : ¬ (argv.contains "--json" = true ∧ i.globals.format = some "text")) :
    let asJson : Bool := resolveFormat (argv.contains "--json") i.globals.format
      (isOnServer host.environment) = "json"
    let ctx := RunContext.make host.environment i.globals.runId host.runName i.globals.verbose
      i.globals.quiet i.globals.logJson
    run host argv umask = ((runScan host ctx asJson i.globals a umask).1,
      conclude host ctx asJson i (runScan host ctx asJson i.globals a umask).2) := by
  intro asJson ctx
  have plain : (argv.contains "--json" && i.globals.format = some "text") = false := by
    simpa using agreed
  simp only [run, parsed, runInvocation, plain, perform, command, asJson, ctx]
  rfl

/-- What cannot be read was accounted for: it was counted, and announced in what was logged, and no two of
the documents lead to one place. A path that cannot be read is among them, by itself or by a path to the
same place, unless it is shadowed by a document that can be read. -/
structure Accounted (host : Host) (ctx : RunContext) (paths documents : List Path) (s : Summary)
    (stderr : String) : Prop where
  counted : s.skipped = (unreadable host.workspace documents).length
  announced : ∃ events, stderr = Log.text (some ctx) host.stamp events ∧
    skips (events.filter (·.isEnabled (some ctx))) =
      (unreadable host.workspace documents).map fun (d, f) => skipEvent d f
  once : documents.Pairwise fun d e =>
    Discovery.place host.workspace d ≠ Discovery.place host.workspace e
  covered : ∀ q ∈ paths, host.workspace.isDirectory q = .ok false →
    ∀ f, host.workspace.readText q = .error f →
      ((∃ d g, (d, g) ∈ unreadable host.workspace documents ∧
        Discovery.place host.workspace d = Discovery.place host.workspace q) ↔
          ¬ Shadowed host.workspace documents q)

theorem hasNul_of_canonical {w : Workspace} {q c : Path} (told : w.tree.canonical w.cwd q = .ok c) :
    q.hasNul = false := by
  rw [FileTree.canonical] at told
  split at told
  · contradiction
  · rename_i clean
    simpa using clean

/-- A scan with the policy to skip that knows its documents succeeds, and its log announces those that it
left out. -/
theorem runScan_of_skip (asJson : Bool) (homed : host.workspace.Homed)
    (ready : prepareScan host g a = .ok p) (skipping : p.settings.policy = .skip)
    (recorded : Recordable ctx p.settings.jobs p.documents.length) {v : Workspace} {out : Path}
    (writable : writeReport host.workspace host.tokens [] (.ofText p.settings.out) umask =
      (v, .ok out)) :
    let r := runScan host ctx asJson g a umask
    ∃ s bytes stdout, r.2.outcome = .ok stdout ∧
      Finished host ctx asJson g a umask p s bytes r.1 stdout ∧
      s.skipped = (unreadable host.workspace p.documents).length ∧
      skips r.2.events = announcements host.workspace p.documents := by
  intro r
  obtain ⟨_, check, _, plan, found⟩ := prepareScan_eq_ok ready
  have resolved := resolve_of_prepareScan ready
  have settles := Language.settles_of_resolve resolved
  have policy : p.plan.policy = .skip := by rw [plan, skipping]
  obtain ⟨all, expansion, same, told⟩ := exists_expansion homed found
  have named : ∀ d ∈ p.documents, d.hasNul = false := by
    intro d member
    obtain ⟨c, told⟩ := told d (mem_of_mem_firsts (same ▸ member))
    exact hasNul_of_canonical told
  have texts : ∀ d ∈ p.documents, d.text ≠ "" := by
    intro d member
    refine expansion.text_ne_empty homed.formed ?_ d (mem_of_mem_firsts (same ▸ member))
    intro q given
    obtain ⟨text, _, rfl⟩ := List.mem_map.mp given
    exact Path.text_ne_empty fun c => Path.ne_empty_of_mem_ofText
  -- no document ends the collection, and no report of theirs is refused
  obtain ⟨s, collected, counted⟩ := exists_collect_of_skip settles policy named
  obtain ⟨u, written⟩ := exists_writeReport (dot_not_mem_ofText p.settings.out) writable
    (fit_of_collect texts collected) (Language.scalar_of_collect resolved collected)
  have scanned : Report.scan host.workspace host.tokens p.plan p.documents (.ofText p.settings.out)
      umask = (u, ⟨(collect host.workspace p.plan p.documents).events ++
        [writtenEvent (.ofText p.settings.out) s], .ok s⟩) := by
    rw [Report.scan, collected]
    simp only [written]
  obtain ⟨after, outcome⟩ : r.1 = _ ∧ r.2.outcome = _ :=
    runScan_of_ready asJson umask ready (record_ok_iff.mpr recorded)
  have events : r.2.events = scanEvent p :: _ :=
    events_runScan ready recorded (congrArg (·.2.outcome) scanned)
  obtain ⟨language, known, _⟩ := Language.checker_of_resolve resolved
  obtain ⟨bytes, finished⟩ := Finished.of_writeReport ctx asJson ready known collected written
  rw [scanned, ok_bind, scanAnswer_eq ctx asJson known] at outcome
  rw [scanned] at after events
  refine ⟨s, bytes, _, outcome, after ▸ finished, counted, ?_⟩
  rw [events, ← skips_collect settles policy named]
  simp [skips, scanEvent, event, writtenEvent, Report.event]

/-- A scan that does not know its documents, or cannot tell that it begins, fails. -/
theorem runScan_of_unready (ctx : RunContext) (asJson : Bool) (umask : Nat)
    (unready : ¬ ∃ p, prepareScan host g a = .ok p ∧
      Recordable ctx p.settings.jobs p.documents.length) :
    ∃ e, (runScan host ctx asJson g a umask).2.outcome = .error e ∧ (reportedError e).code ≠ 0 := by
  cases ready : prepareScan host g a >>= fun p => (record ctx (scanEvent p)).outcome with
  | error e => exact ⟨e, (runScan_of_error asJson umask ready).2, code_ne_zero_of_unready ready⟩
  | ok _ =>
    exfalso
    cases prepared : prepareScan host g a with
    | error e => simp [prepared] at ready
    | ok p =>
      rw [prepared, ok_bind] at ready
      exact unready ⟨p, prepared, record_ok_iff.mp ready⟩

theorem ready_iff (ctx : RunContext) (set_ : settingsFor host g a = .ok settings)
    (resolved : Language.resolve host.environment settings.language (settings.timeout.map .real) =
      .ok check) (homed : host.workspace.Homed) :
    (∃ p, prepareScan host g a = .ok p ∧ Recordable ctx p.settings.jobs p.documents.length) ↔
      (∀ q ∈ settings.paths.map Path.ofText, Traceable host.workspace q) ∧
        ∀ documents, Discovery.documents host.workspace (settings.paths.map .ofText) settings.exclude =
          .ok documents → Recordable ctx settings.jobs documents.length := by
  rw [← exists_documents_iff_traceable homed _ settings.exclude,
    prepareScan_of_documents set_ resolved]
  cases found : Discovery.documents host.workspace (settings.paths.map .ofText) settings.exclude with
  | error f => simp
  | ok documents => simp [planned]

/-- The events that tell of what was left out are those of the documents that cannot be read, whatever
else is logged before them that tells of nothing left out. -/
theorem skips_enabled {w : Workspace} {documents : List Path} {first : Log.Event}
    {events : List Log.Event} (other : first.action ≠ "skip-unreadable")
    (skipped : skips events = announcements w documents) (ctx : RunContext) :
    skips ((first :: events).filter (·.isEnabled (some ctx))) = announcements w documents := by
  have commuted (l : List Log.Event) :
      skips (l.filter (·.isEnabled (some ctx))) = (skips l).filter (·.isEnabled (some ctx)) := by
    simp only [skips, List.filter_filter, Bool.and_comm]
  have dropped : skips (first :: events) = skips events := by
    simp [skips, other]
  rw [commuted, dropped, skipped, announcements_enabled]

theorem Accounted.of_documents {paths documents : List Path} {exclude : List String} {s : Summary}
    {stderr : String} (homed : host.workspace.Homed)
    (found : Discovery.documents host.workspace paths exclude = .ok documents)
    (counted : s.skipped = (unreadable host.workspace documents).length)
    (announced : ∃ events, stderr = Log.text (some ctx) host.stamp events ∧
      skips (events.filter (·.isEnabled (some ctx))) = announcements host.workspace documents) :
    Accounted host ctx paths documents s stderr := by
  obtain ⟨all, expansion, rfl, _⟩ := exists_expansion homed found
  refine ⟨counted, announced, pairwise_firsts _ all, ?_⟩
  intro q member noDirectory f failed
  exact exists_unreadable_iff homed (expansion.mem_of_other member noDirectory) failed

/-- What becomes of a scan that is told to leave out what cannot be read, and could write a report. It
succeeds if and only if each path that it is given can be traced, and it can tell that it begins; no
document ends it. If it succeeds the report is written, and each document that cannot be read is counted
and announced, once for the place it is led to. A path that cannot be read, and is no directory, is among
them but for one case: it leads nowhere, and a document that can be read has its canonical form. -/
theorem skipping_scan (host : Host) (argv : List String) (umask : Nat) (i : Invocation)
    (homed : host.workspace.Homed) (parsed : readArguments argv = .ok i)
    (command : i.command = .scan a)
    (agreed : ¬ (argv.contains "--json" = true ∧ i.globals.format = some "text"))
    (given : a.paths ≠ []) (skipping : a.onReadError = some (.text "skip"))
    (set_ : settingsFor host i.globals a = .ok settings)
    (resolved : Language.resolve host.environment settings.language (settings.timeout.map .real) =
      .ok check)
    (writable : ∃ v out, writeReport host.workspace host.tokens [] (.ofText settings.out) umask =
      (v, .ok out)) :
    let paths := a.paths.map Path.ofText
    let asJson : Bool := resolveFormat (argv.contains "--json") i.globals.format
      (isOnServer host.environment) = "json"
    let ctx := RunContext.make host.environment i.globals.runId host.runName i.globals.verbose
      i.globals.quiet i.globals.logJson
    let r := run host argv umask
    (r.2.code = 0 ↔ (∀ q ∈ paths, Traceable host.workspace q) ∧
      ∀ documents, Discovery.documents host.workspace paths settings.exclude = .ok documents →
        Recordable ctx settings.jobs documents.length) ∧
    (r.2.code = 0 → ∃ p s bytes,
      Finished host ctx asJson i.globals a umask p s bytes r.1 r.2.stdout ∧
        Accounted host ctx paths p.documents s r.2.stderr) := by
  intro paths asJson ctx r
  obtain ⟨samePaths, policy⟩ := settings_of_skipping set_ given skipping
  have paths_eq : settings.paths.map Path.ofText = paths := by rw [samePaths]
  have ends : r = ((runScan host ctx asJson i.globals a umask).1,
      conclude host ctx asJson i (runScan host ctx asJson i.globals a umask).2) :=
    run_eq_runScan parsed command agreed
  have readiness := ready_iff ctx set_ resolved homed
  rw [paths_eq] at readiness
  rw [← readiness, ends]
  by_cases ready : ∃ p, prepareScan host i.globals a = .ok p ∧
      Recordable ctx p.settings.jobs p.documents.length
  · obtain ⟨v, out, writable⟩ := writable
    obtain ⟨p, prepared, recorded⟩ := id ready
    obtain ⟨set', _, _, _, found⟩ := prepareScan_eq_ok prepared
    obtain rfl : p.settings = settings := Except.ok.inj (set'.symm.trans set_)
    rw [paths_eq] at found
    obtain ⟨s, bytes, stdout, outcome, finished, counted, skipped⟩ :=
      runScan_of_skip asJson homed prepared policy recorded writable
    rw [conclude_of_ok outcome]
    refine ⟨iff_of_true rfl ready, fun _ => ⟨p, s, bytes, finished, ?_⟩⟩
    have other : (startEvent asJson i).action ≠ "skip-unreadable" := by simp [startEvent, event]
    exact .of_documents homed found counted ⟨_, rfl, skips_enabled other skipped ctx⟩
  · obtain ⟨e, failed, code⟩ := runScan_of_unready ctx asJson umask ready
    rw [← code_of_error failed host ctx asJson i] at code
    exact ⟨iff_of_false code ready, fun success => absurd success code⟩

end Runs

section Instances

/-- A scan of one path that is told to skip. -/
def skippingArguments (path : String) : ScanArguments :=
  { paths := [path], out := some (.text "new/../old"), onReadError := some (.text "skip") }

theorem readAll_skipping {path : String} (plain : path.toList.head? ≠ some '-') :
    scanPart.readAll {} ["--on-read-error", "skip", "--out", "new/../old", path] =
      .ok (skippingArguments path, []) := by
  have allowed : "skip" ∈ ReadPolicy.words := by decide
  have readings : readWords scanPart.switches ["--on-read-error", "skip", "--out", "new/../old", path] =
      .ok [("--on-read-error", .switch (valued "--on-read-error") "--on-read-error" none),
        ("skip", .operand), ("--out", .switch (valued "--out") "--out" none),
        ("new/../old", .operand), (path, .operand)] :=
    readWords_cons (by decide) rfl (readWords_cons (by decide) rfl (readWords_cons (by decide) rfl
      (readWords_cons (by decide) rfl (readWords_operand plain _))))
  rw [Part.readAll, readings]
  simp [Part.read, takeValue, takeOperands, scanPart, valued, helpSwitch, checkChoice, allowed,
    ne_separator plain, Value.asGiven, skippingArguments]

theorem parsed_skipping {path : String} (plain : path.toList.head? ≠ some '-') :
    readArguments ["scan", "--on-read-error", "skip", "--out", "new/../old", path] =
      .ok ⟨{}, .scan (skippingArguments path)⟩ :=
  parsed_scan (readWords_cons (by decide) (unknown_ahead _ (by simp)) (readWords_cons (by decide) rfl
    (readWords_cons (by decide) (unknown_ahead _ (by simp)) (readWords_cons (by decide) rfl
      (readWords_operand plain _))))) (readAll_skipping plain)

theorem settingsFor_skipping (path : String) : settingsFor (bare (attic [])) {} (skippingArguments path) =
    .ok { out := "new/../old", paths := [path], onReadError := "skip" } := by
  have layer : (skippingArguments path).layer = [("paths", .texts [path]),
      ("out", .text "new/../old"), ("on_read_error", .text "skip")] := rfl
  have coerced : Settings.coerce "command line" [("paths", .texts [path]),
      ("out", .text "new/../old"), ("on_read_error", .text "skip")] =
      .ok [.paths [path], .out "new/../old", .onReadError "skip"] := rfl
  have checked : Settings.checked { out := "new/../old", paths := [path], onReadError := "skip" } =
      .ok { out := "new/../old", paths := [path], onReadError := "skip" } := by cbv
  rw [settingsFor]
  simp only [bare, Option.filter_none, Option.map_none, unset_attic.load_eq, ok_bind,
    Settings.override, layer, coerced]
  exact checked

theorem homed_attic : (attic []).Homed where
  formed := ⟨by decide, by decide, by decide⟩
  inside := rfl
  named := by simp [attic]

/-- A path in the attic that leads nowhere. -/
def gone : Path :=
  ⟨.relative, ["gone.md"]⟩

theorem plain_gone : FileTree.Plain "gone.md" := by constructor <;> decide

theorem find_gone : (attic []).find gone = .error (refused gone .notFound) := by
  have vacant : (attic []).spot true gone = .ok (.vacant ["gone.md"]) :=
    spot_eq_ok.mpr ⟨by decide, by decide, FileTree.walk_free rfl plain_gone rfl⟩
  rw [Workspace.find_eq, vacant]
  rfl

theorem isDirectory_gone : (attic []).isDirectory gone = .ok false := by
  apply isKind_of_absent find_gone
  rw [TooLong, find_gone]
  simp [refused]

theorem canonical_gone : (attic []).tree.canonical [] gone = .ok ⟨.root, ["gone.md"]⟩ := by
  have settled : (attic []).tree.settle [] ((attic []).tree.openLimit [] + 1) [] ⟨.above 0, []⟩
      ["gone.md"] = (true, ⟨.above 0, ["gone.md"]⟩) := by
    have free : (attic []).tree.get? (FileTree.Named.down ⟨.above 0, []⟩ ["gone.md"]).place = none := rfl
    rw [FileTree.settle, if_neg (by decide), if_neg (by decide)]
    simp only [free]
    rw [FileTree.settle]
    rfl
  have found : (attic []).tree.spot [] true ⟨.root, ["gone.md"]⟩ = .ok (.vacant ["gone.md"]) := by
    rw [FileTree.spot, if_neg (by decide)]
    exact FileTree.walk_free rfl plain_gone rfl
  have clean : ¬ gone.hasNul = true := by decide
  have start : FileTree.Named.start [] gone = ⟨.above 0, []⟩ := rfl
  have parts : gone.parts = ["gone.md"] := rfl
  have collapsed : FileTree.collapse ["gone.md"] = ["gone.md"] := by decide
  simp only [FileTree.canonical, if_neg clean, start, parts, settled, collapsed, found]

theorem documents_gone : Discovery.documents (attic []) [gone] [] = .ok [gone] := by
  have expansion : Expansion (attic []) [] [gone] [gone] := .other isDirectory_gone .nil
  have resolved : ∀ p ∈ [gone], ∃ c, (attic []).tree.canonical [] p = .ok c :=
    List.forall_mem_singleton.mpr ⟨_, canonical_gone⟩
  rw [documents_eq expansion resolved, firsts_eq_self (List.pairwise_singleton _ _)]

theorem unreadable_gone : unreadable (attic []) [gone] = [(gone, refused gone .notFound)] := by
  have failed : (attic []).readText gone = .error (refused gone .notFound) := by
    simp [readText, readBytes, node, find_gone]
  simp [unreadable, failed]

/-- A scan of a path that leads nowhere counts it and announces it. -/
theorem skipping_scan_attic :
    let host := bare (attic [])
    let r := run host ["scan", "--on-read-error", "skip", "--out", "new/../old", "gone.md"]
    let ctx := RunContext.make [] none "" false false false
    r.2.code = 0 ∧ ∃ s : Summary, s.skipped = 1 ∧ ∃ events, r.2.stderr = Log.text (some ctx) "" events ∧
      skips (events.filter (·.isEnabled (some ctx))) = [skipEvent gone (refused gone .notFound)] := by
  intro host r ctx
  have path : [gone] = (skippingArguments "gone.md").paths.map Path.ofText := by decide
  obtain ⟨succeeds, accounts⟩ := skipping_scan host _ usualMask _ homed_attic (parsed_skipping (by decide)) rfl
    (by simp) (by simp [skippingArguments]) rfl (settingsFor_skipping "gone.md") resolve_default
    ⟨_, _, writeReport_attic_nil 0o644⟩
  rw [← path] at succeeds accounts
  have code : r.2.code = 0 := by
    refine succeeds.mpr ⟨?_, ?_⟩
    · rw [List.forall_mem_singleton]
      exact ⟨followable_of_other isDirectory_gone, _, canonical_gone⟩
    · intro documents found
      obtain rfl := Except.ok.inj (documents_gone.symm.trans found)
      have written : Writable 1 := by
        rw [Writable]
        decide
      exact Or.inr ⟨written, written⟩
  obtain ⟨p, s, _, finished, accounted⟩ := accounts code
  have settings := Except.ok.inj ((settingsFor_skipping "gone.md").symm.trans finished.settings)
  have documents : p.documents = [gone] := by
    have found := finished.documents
    rw [← settings, show (["gone.md"].map Path.ofText) = [gone] from path.symm] at found
    exact (Except.ok.inj (documents_gone.symm.trans found)).symm
  obtain ⟨counted, ⟨events, logged, announced⟩, _, _⟩ := accounted
  rw [documents] at counted announced
  have unread : unreadable host.workspace [gone] = [(gone, refused gone .notFound)] := unreadable_gone
  rw [unread] at counted announced
  exact ⟨code, s, counted, events, logged, announced⟩

theorem documents_long : Discovery.documents (attic []) [.ofText FileTree.longName] [] =
    .error (refused (.ofText FileTree.longName) .nameTooLong) := by
  have some_ : FileTree.longName.toList ≠ [] := by
    rw [FileTree.toList_longName]
    exact List.cons_ne_nil _ _
  have plain : FileTree.longName.toList ≠ ['.'] := by
    rw [FileTree.toList_longName]
    exact fun same => absurd (List.cons.inj same).1 (by decide)
  have path : Path.ofText FileTree.longName = ⟨.relative, [FileTree.longName]⟩ := by
    rw [Path.ofText, Path.anchorOf_of_notMem FileTree.slash_notMem_longName,
      Path.componentsOf_of_notMem FileTree.slash_notMem_longName some_ plain, String.ofList_toList]
  have clean : (Path.mk .relative [FileTree.longName]).hasNul = false := by
    simp [Path.hasNul, FileTree.mem_longName]
  have long : (attic []).TooLong ⟨.relative, [FileTree.longName]⟩ :=
    tooLong_of_walk clean (by decide +kernel) (FileTree.walk_longName rfl true _ [])
  have refused : (attic []).isDirectory ⟨.relative, [FileTree.longName]⟩ = .error _ :=
    isKind_of_tooLong long
  rw [path, Discovery.documents, documentsFrom, expand, refused]
  rfl

/-- A path whose name is too long ends the scan, however well a report could be written. -/
theorem long_path_ends_scan :
    let host := bare (attic [])
    let argv := ["scan", "--on-read-error", "skip", "--out", "new/../old", FileTree.longName]
    readArguments argv = .ok ⟨{}, .scan (skippingArguments FileTree.longName)⟩ ∧
      (writeReport host.workspace host.tokens [] (.ofText "new/../old")).2 =
        .ok (.ofText "new/../old") ∧
      (run host argv).2.code = 99 := by
  intro host argv
  have parsed : readArguments argv = .ok ⟨{}, .scan (skippingArguments FileTree.longName)⟩ := by
    refine parsed_skipping ?_
    rw [FileTree.toList_longName]
    decide
  refine ⟨parsed, congrArg Prod.snd (writeReport_attic_nil 0o644), ?_⟩
  let a := skippingArguments FileTree.longName
  have prepared : prepareScan host {} a =
      .error (.fault (refused (.ofText FileTree.longName) .nameTooLong)) := by
    rw [prepareScan_of_documents (settingsFor_skipping FileTree.longName) resolve_default]
    simp only [bare, List.map_cons, List.map_nil, documents_long, mapError_error, error_bind]
  have unready (ctx : RunContext) : (prepareScan host {} a >>= fun p =>
      (record ctx (scanEvent p)).outcome) =
        .error (.fault (refused (.ofText FileTree.longName) .nameTooLong)) := by
    rw [prepared, error_bind]
  rw [run_eq_runScan parsed rfl (by simp)]
  exact code_of_error (runScan_of_error _ usualMask (unready _)).2 host _ _ _

end Instances

end FenceCheck.Cli
