import FenceCheck.Proofs.Cli.Running
import FenceCheck.Proofs.Cli.Skipping
import FenceCheck.Proofs.Report.Writable
import FenceCheck.Proofs.Settings.Respelled

/-! One tag for all spellings of a language. The tag that documents are searched for is one of those of the
language whose checker judges the blocks; and two spellings of it, whichever layers give them, end a run
alike and with the same report, unless the file that spells it is a document itself. -/
namespace FenceCheck.Cli
open Number Settings Workspace Report FenceCheck.Text
variable {host host' : Host} {ctx ctx' : RunContext} {asJson : Bool} {g : Globals}
variable {a a' : ScanArguments} {umask : Nat}

section Tag
variable {s : Settings} {check : Checker} {l : Language}

/-- One language, from the tag that documents are searched for to what is printed. -/
structure Chosen (host : Host) (g : Globals) (a : ScanArguments) (s : Settings) (check : Checker)
    (l : Language) : Prop where
  listed : l ∈ Language.all
  tag : s.language ∈ l.tags
  checker : check = l.checker (s.timeout.map .real)
  searched : ∀ p, prepareScan host g a = .ok p →
    p.settings = s ∧ p.plan.language = s.language ∧ p.plan.check = check
  told : ∀ ctx asJson r, scanAnswer ctx asJson s r =
    .ok (if asJson then scanJson ctx l s r else scanSentence s r)

theorem small_of_settingsFor (set_ : settingsFor host g a = .ok s) :
    normalizeLanguage s.language = s.language := by
  obtain ⟨base, _, overridden⟩ := exists_of_bind set_
  rw [override_eq] at overridden
  obtain ⟨t, _, checked⟩ := exists_of_bind overridden
  obtain ⟨_, rfl⟩ := checked_eq_ok_iff.mp checked
  exact normalizeLanguage_idem _

theorem chosen_of_resolve (set_ : settingsFor host g a = .ok s)
    (resolved : Language.resolve host.environment s.language (s.timeout.map .real) = .ok check) :
    ∃ l, Chosen host g a s check l := by
  obtain ⟨l, found, rfl⟩ := Language.checker_of_resolve resolved
  obtain ⟨listed, tag⟩ := Language.mem_tags_of_find found
  have small : Language.normalizeTag s.language = s.language := small_of_settingsFor set_
  rw [small] at tag
  refine ⟨l, listed, tag, rfl, fun p prepared => ?_, fun ctx asJson r => scanAnswer_eq ctx asJson found r⟩
  obtain ⟨set', check', resolved', plan, _⟩ := prepareScan_eq_ok prepared
  obtain rfl : s = p.settings := Except.ok.inj (set_.symm.trans set')
  obtain rfl : _ = check' := Except.ok.inj (resolved.symm.trans resolved')
  rw [plan]
  exact ⟨rfl, rfl, rfl⟩

end Tag

/-- Arguments of a scan that differ in how they spell the language, and in nothing else. -/
inductive RespelledArguments : ScanArguments → ScanArguments → Prop where
  | same (a : ScanArguments) : RespelledArguments a a
  | tag {tag tag' : String} (a : ScanArguments) : SameTag tag tag' →
      RespelledArguments { a with language := some (.text tag) } { a with language := some (.text tag') }

theorem RespelledArguments.layer (respelled : RespelledArguments a a') :
    RespelledLayer a.layer a'.layer := by
  cases respelled with
  | same => exact .refl _
  | tag a same => exact .tag same (.refl _)

/-- Runs that differ in how the language is spelled by the settings file, the environment or the command
line, and in nothing else that a scan depends on. -/
structure Respelled (host host' : Host) (g : Globals) (a a' : ScanArguments) : Prop where
  tokens : host.tokens = host'.tokens
  outline : host.workspace.outline = host'.workspace.outline
  file : ∀ p, chooseFile host.workspace ((g.config.filter (· ≠ "")).map Path.ofText)
    ⟨.root, host.workspace.cwd⟩ = .ok (some p) → RespelledFile host.workspace host'.workspace p
  environment : RespelledEnvironment host.environment host'.environment
  arguments : RespelledArguments a a'

/-- Runs whose command lines alone differ. -/
theorem Respelled.of_arguments (host : Host) (g : Globals) (arguments : RespelledArguments a a') :
    Respelled host host g a a' where
  tokens := rfl
  outline := rfl
  file _ _ := .inl rfl
  environment := .refl _
  arguments := arguments

namespace Respelled
variable (respelled : Respelled host host' g a a')
include respelled

theorem alike : host.workspace.Alike host'.workspace :=
  alike_of_outline respelled.outline

theorem settingsFor_eq : settingsFor host g a = settingsFor host' g a' := by
  simp only [settingsFor, ← respelled.alike.cwd,
    load_respelled respelled.outline respelled.file respelled.environment,
    override_respelled respelled.arguments.layer]

theorem variable_eq {name : String} (other : name ≠ "SNIPPETCTL_LANGUAGE") :
    host.environment.get? name = host'.environment.get? name :=
  respelled.environment.others name other

theorem resolve_eq (tag : String) (limit : Option Seconds) :
    Language.resolve host.environment tag limit = Language.resolve host'.environment tag limit := by
  have tools (tool : String) : host.environment.hasTool tool = host'.environment.hasTool tool := by
    simp only [Environment.hasTool, Environment.searchPath,
      respelled.variable_eq (show "PATH" ≠ "SNIPPETCTL_LANGUAGE" by decide)]
  simp only [Language.resolve, tools]

theorem prepareScan_eq : prepareScan host g a = prepareScan host' g a' := by
  simp only [prepareScan, respelled.settingsFor_eq, respelled.resolve_eq,
    Discovery.documents_of_outline respelled.outline]

end Respelled

/-- What a scan comes to but for its answer, and how it comes to that. -/
def found (host : Host) (ctx : RunContext) (g : Globals) (a : ScanArguments) (umask : Nat) :
    Outcome (ScanPlan × Summary) := do
  let p ← prepareScan host g a
  (record ctx (scanEvent p)).outcome
  let s ← (Report.scan host.workspace host.tokens p.plan p.documents (.ofText p.settings.out)
    umask).2.outcome
  return (p, s)

theorem outcome_runScan (host : Host) (ctx : RunContext) (asJson : Bool) (g : Globals)
    (a : ScanArguments) (umask : Nat) : (runScan host ctx asJson g a umask).2.outcome =
      found host ctx g a umask >>= fun r => scanAnswer ctx asJson r.1.settings r.2 := by
  cases prepared : prepareScan host g a with
  | error e =>
    have failed : (prepareScan host g a >>= fun p => (record ctx (scanEvent p)).outcome) = .error e := by
      rw [prepared, error_bind]
    simp only [(runScan_of_error asJson umask failed).2, found, prepared, error_bind]
  | ok p =>
    cases recorded : (record ctx (scanEvent p)).outcome with
    | error e =>
      have failed : (prepareScan host g a >>= fun p => (record ctx (scanEvent p)).outcome) = .error e := by
        rw [prepared, ok_bind, recorded]
      simp only [(runScan_of_error asJson umask failed).2, found, prepared, ok_bind, recorded, error_bind]
    | ok _ =>
      rw [(runScan_of_ready asJson umask prepared recorded).2]
      simp only [found, prepared, ok_bind, recorded, bind_assoc, pure_bind]

theorem answers_of_found {r : ScanPlan × Summary} (done : found host ctx g a umask = .ok r) :
    ∃ l, ∀ ctx asJson, scanAnswer ctx asJson r.1.settings r.2 =
      .ok (if asJson then scanJson ctx l r.1.settings r.2 else scanSentence r.1.settings r.2) := by
  obtain ⟨p, prepared, done⟩ := exists_of_bind done
  obtain ⟨_, _, done⟩ := exists_of_bind done
  obtain ⟨s, _, done⟩ := exists_of_bind done
  obtain rfl : (p, s) = r := Except.ok.inj done
  obtain ⟨_, check, resolved, _⟩ := prepareScan_eq_ok prepared
  obtain ⟨l, known, _⟩ := Language.checker_of_resolve resolved
  exact ⟨l, fun ctx asJson => scanAnswer_eq ctx asJson known s⟩

theorem record_congr (quiet : ctx.quiet = ctx'.quiet) (p : ScanPlan) :
    record ctx (scanEvent p) = record ctx' (scanEvent p) := by
  have enabled : (scanEvent p).isEnabled (some ctx) = (scanEvent p).isEnabled (some ctx') := by
    simp only [Log.Event.isEnabled, scanEvent, event, quiet]
  rw [record, record, enabled]

theorem scanJson_congr (named : ctx.runId = ctx'.runId) (l : Language) (settings : Settings)
    (s : Summary) : scanJson ctx l settings s = scanJson ctx' l settings s := by
  simp only [scanJson, answer, baseMembers, named]

theorem Finished.prepared {p : ScanPlan} {s : Summary} {bytes : List UInt8} {stdout : String}
    {u : Workspace} (finished : Finished host ctx asJson g a umask p s bytes u stdout) :
    prepareScan host g a = .ok p := by
  obtain ⟨check, resolved, plan⟩ := finished.plan
  simp only [prepareScan, finished.settings, ok_bind, resolved, mapError_ok, finished.documents, pure_eq,
    ← plan]

namespace Respelled
variable (respelled : Respelled host host' g a a')
variable (texts : ∀ p, prepareScan host g a = .ok p → ∀ d ∈ p.documents,
  host.workspace.readText d = host'.workspace.readText d)
include respelled texts

theorem found_eq (quiet : ctx.quiet = ctx'.quiet) (umask : Nat) :
    found host ctx g a umask = found host' ctx' g a' umask := by
  simp only [found, ← respelled.prepareScan_eq, ← record_congr quiet, ← respelled.tokens]
  cases prepared : prepareScan host g a with
  | error e => simp only [error_bind]
  | ok p =>
    obtain ⟨_, scanned⟩ := abreast_scan respelled.alike p.plan (texts p prepared) host.tokens
      (.ofText p.settings.out) umask
    simp only [ok_bind, scanned]

/-- Two scans that succeed have the same plan, and come to the same report. -/
theorem same_of_finished {p p' : ScanPlan} {s s' : Summary} {bytes bytes' : List UInt8}
    {stdout stdout' : String} {u u' : Workspace}
    (finished : Finished host ctx asJson g a umask p s bytes u stdout)
    (finished' : Finished host' ctx' asJson g a' umask p' s' bytes' u' stdout') :
    p = p' ∧ s = s' ∧ bytes = bytes' := by
  obtain rfl : p = p' := by
    have prepared := finished.prepared
    rw [respelled.prepareScan_eq, finished'.prepared] at prepared
    exact (Except.ok.inj prepared).symm
  obtain rfl : s = s' := by
    have collected := finished.collected
    rw [collect_of_documents p.plan (texts p finished.prepared), finished'.collected] at collected
    exact (Except.ok.inj collected).symm
  obtain ⟨written, serialized, coded⟩ := finished.serialized
  obtain ⟨written', serialized', coded'⟩ := finished'.serialized
  obtain rfl : written = written' := Except.ok.inj (serialized.symm.trans serialized')
  exact ⟨rfl, rfl, Except.ok.inj (coded.symm.trans coded')⟩

/-- Both scans fail for the same reason, or both succeed with the same report. -/
theorem runScan_alike (quiet : ctx.quiet = ctx'.quiet) (asJson : Bool) (umask : Nat) :
    let r := runScan host ctx asJson g a umask
    let r' := runScan host' ctx' asJson g a' umask
    (∃ e, r.2.outcome = .error e ∧ r'.2.outcome = .error e ∧ (reportedError e).code ≠ 0 ∧
      Spared host g a umask r.1 ∧ Spared host' g a' umask r'.1) ∨
    ∃ p s bytes stdout stdout', r.2.outcome = .ok stdout ∧ r'.2.outcome = .ok stdout' ∧
      Finished host ctx asJson g a umask p s bytes r.1 stdout ∧
      Finished host' ctx' asJson g a' umask p s bytes r'.1 stdout' := by
  intro r r'
  have comes : r.2.outcome = _ := outcome_runScan host ctx asJson g a umask
  have comes' : r'.2.outcome = _ := outcome_runScan host' ctx' asJson g a' umask
  rw [← respelled.found_eq texts quiet] at comes'
  have ends := runScan_cases host ctx asJson g a umask
  have ends' := runScan_cases host' ctx' asJson g a' umask
  cases done : found host ctx g a umask with
  | error e =>
    rw [done, error_bind] at comes comes'
    rcases ends with ⟨e₁, failed, code, spared⟩ | ⟨_, _, _, _, printed, _⟩
    · rcases ends' with ⟨_, _, _, spared'⟩ | ⟨_, _, _, _, printed, _⟩
      · obtain rfl : e = e₁ := Except.error.inj (comes.symm.trans failed)
        exact .inl ⟨e, comes, comes', code, spared, spared'⟩
      · exact absurd (comes'.symm.trans printed) (by simp)
    · exact absurd (comes.symm.trans printed) (by simp)
  | ok result =>
    obtain ⟨l, answers⟩ := answers_of_found done
    rw [done, ok_bind, answers] at comes comes'
    rcases ends with ⟨_, failed, _⟩ | ⟨p, s, bytes, stdout, printed, finished⟩
    · exact absurd (comes.symm.trans failed) (by simp)
    · rcases ends' with ⟨_, failed, _⟩ | ⟨p', s', bytes', stdout', printed', finished'⟩
      · exact absurd (comes'.symm.trans failed) (by simp)
      · obtain ⟨rfl, rfl, rfl⟩ := respelled.same_of_finished texts finished finished'
        exact .inr ⟨p, s, bytes, stdout, stdout', printed, printed', finished, finished'⟩

end Respelled

theorem told_of_error {e : Failure}
    (failed : (runScan host (contextOf host g) asJson g a umask).2.outcome = .error e) :
    let r := told host ⟨g, .scan a⟩ asJson umask
    r.1 = (runScan host (contextOf host g) asJson g a umask).1 ∧
      r.2.code = (reportedError e).code ∧ r.2.stdout = "" := by
  simp only [told, perform, conclude, failed, error_bind, and_self]

theorem told_of_ok {stdout : String}
    (printed : (runScan host (contextOf host g) asJson g a umask).2.outcome = .ok stdout) :
    let r := told host ⟨g, .scan a⟩ asJson umask
    r.1 = (runScan host (contextOf host g) asJson g a umask).1 ∧ r.2.code = 0 ∧ r.2.stdout = stdout := by
  simp only [told, perform, conclude_of_ok printed, and_self]

/-- The tag that a scan searches its documents for is one of those of the language whose checker judges
what is found, and whose name is printed in JSON; in plain words it is the tag that is printed. A run in
which a layer spells the language in another way, of the same form without blanks around it and in small
letters, ends with the same exit code; it prints the same but for the name of the run, and leaves the same
report, unless a document's text was changed with the spelling. -/
theorem respelled_runs_agree (host : Host) {argv : List String} {g : Globals} {a : ScanArguments}
    (parsed : readArguments argv = .ok ⟨g, .scan a⟩) (umask : Nat) :
    (∀ s check, settingsFor host g a = .ok s → Language.resolve host.environment s.language
      (s.timeout.map .real) = .ok check → ∃ l, Chosen host g a s check l) ∧
    ∀ host' argv' a', readArguments argv' = .ok ⟨g, .scan a'⟩ →
      argv.contains "--json" = argv'.contains "--json" → Respelled host host' g a a' →
      (∀ p, prepareScan host g a = .ok p → ∀ d ∈ p.documents,
        host.workspace.readText d = host'.workspace.readText d) →
      let r := run host argv umask
      let r' := run host' argv' umask
      let asJson : Bool := resolveFormat (argv.contains "--json") g.format
        (isOnServer host.environment) = "json"
      r.2.code = r'.2.code ∧
      (r.2.code ≠ 0 → r.2.stdout = "" ∧ r'.2.stdout = "" ∧
        Spared host g a umask r.1 ∧ Spared host' g a' umask r'.1) ∧
      (r.2.code = 0 → ∃ p s bytes,
        Finished host (contextOf host g) asJson g a umask p s bytes r.1 r.2.stdout ∧
        Finished host' (contextOf host' g) asJson g a' umask p s bytes r'.1 r'.2.stdout) ∧
      ((contextOf host g).runId = (contextOf host' g).runId → r.2.stdout = r'.2.stdout) := by
  refine ⟨fun s check set_ resolved => chosen_of_resolve set_ resolved, ?_⟩
  intro host' argv' a' parsed' flag respelled texts r r' asJson
  have onServer : isOnServer host.environment = isOnServer host'.environment := by
    simp only [isOnServer, respelled.variable_eq (show "CI" ≠ "SNIPPETCTL_LANGUAGE" by decide)]
  have ended : r = _ := run_of_parsed parsed
  have ended' : r' = _ := run_of_parsed parsed'
  rw [← flag, ← onServer] at ended'
  by_cases conflicting : (argv.contains "--json" && g.format = some "text") = true
  · rw [if_pos conflicting] at ended ended'
    rw [ended, ended']
    have code : (refusal host).2.code ≠ 0 := by simp [refusal]
    exact ⟨rfl, fun _ => ⟨rfl, rfl, .refl host g a umask, .refl host' g a' umask⟩,
      fun success => absurd success code, fun _ => rfl⟩
  · rw [if_neg conflicting] at ended ended'
    have quiet : (contextOf host g).quiet = (contextOf host' g).quiet := rfl
    rcases respelled.runScan_alike texts quiet asJson umask with
      ⟨e, failed, failed', code, spared, spared'⟩ |
      ⟨p, s, bytes, stdout, stdout', printed, printed', finished, finished'⟩
    · obtain ⟨left, code₁, nothing⟩ : r.1 = _ ∧ r.2.code = _ ∧ r.2.stdout = "" :=
        ended ▸ told_of_error failed
      obtain ⟨left', code₂, nothing'⟩ : r'.1 = _ ∧ r'.2.code = _ ∧ r'.2.stdout = "" :=
        ended' ▸ told_of_error failed'
      refine ⟨code₁.trans code₂.symm, fun _ => ⟨nothing, nothing', ?_, ?_⟩, fun success => ?_, fun _ => ?_⟩
      · rwa [left]
      · rwa [left']
      · exact absurd (code₁.symm.trans success) code
      · rw [nothing, nothing']
    · obtain ⟨left, code, shown⟩ : r.1 = _ ∧ r.2.code = 0 ∧ r.2.stdout = stdout :=
        ended ▸ told_of_ok printed
      obtain ⟨left', code', shown'⟩ : r'.1 = _ ∧ r'.2.code = 0 ∧ r'.2.stdout = stdout' :=
        ended' ▸ told_of_ok printed'
      refine ⟨code.trans code'.symm, fun failed => absurd code failed, fun _ => ?_, fun named => ?_⟩
      · rw [left, left', shown, shown']
        exact ⟨p, s, bytes, finished, finished'⟩
      · obtain ⟨l, known, same⟩ := finished.printed
        obtain ⟨l', known', same'⟩ := finished'.printed
        obtain rfl : l = l' := Except.ok.inj (known.symm.trans known')
        rw [shown, shown', same, same', scanJson_congr named]

section Instances

/-- Arguments that spell the language in some way. -/
def spelling (tag : String) : ScanArguments :=
  { language := some (.text tag), out := some (.text "new/../old") }

theorem readAll_spelling {tag : String} (plain : tag.toList.head? ≠ some '-') :
    scanPart.readAll {} ["--language", tag, "--out", "new/../old"] = .ok (spelling tag, []) := by
  have readings : readWords scanPart.switches ["--language", tag, "--out", "new/../old"] =
      .ok [("--language", .switch (valued "--language") "--language" none), (tag, .operand),
        ("--out", .switch (valued "--out") "--out" none), ("new/../old", .operand)] :=
    readWords_cons (by decide) rfl (readWords_cons (ne_separator plain) (readWord_operand plain _)
      (readWords_cons (by decide) rfl (readWords_cons (by decide) rfl rfl)))
  rw [Part.readAll, readings]
  simp [Part.read, takeValue, scanPart, valued, helpSwitch, Value.asGiven, spelling]

theorem parsed_spelling {tag : String} (plain : tag.toList.head? ≠ some '-') :
    readArguments ["scan", "--language", tag, "--out", "new/../old"] =
      .ok ⟨{}, .scan (spelling tag)⟩ :=
  parsed_scan (readWords_cons (by decide) (unknown_ahead _ (by simp))
    (readWords_cons (ne_separator plain) (readWord_operand plain _) (readWords_cons (by decide)
      (unknown_ahead _ (by simp)) (readWords_cons (by decide) rfl rfl)))) (readAll_spelling plain)

theorem run_spelling :
    let r := run (bare (attic [])) ["scan", "--language", "py", "--out", "new/../old"]
    r.2.code = 0 ∧ r.2.stdout =
      "scanned 0 document(s), 0 `py` block(s): 0 syntax error(s); report written to new/../old\n" := by
  have layer : (spelling "py").layer = [("language", .text "py"), ("out", .text "new/../old")] := rfl
  have coerced : Settings.coerce "command line" [("language", .text "py"), ("out", .text "new/../old")] =
      .ok [.language "py", .out "new/../old"] := rfl
  have checked : Settings.checked { language := "py", out := "new/../old" } =
      .ok { language := "py", out := "new/../old" } := by cbv
  have set_ : settingsFor (bare (attic [])) {} (spelling "py") =
      .ok { language := "py", out := "new/../old" } := by
    rw [settingsFor]
    simp only [bare, Option.filter_none, Option.map_none, unset_attic.load_eq, ok_bind,
      Settings.override, layer, coerced]
    exact checked
  have resolved : Language.resolve [] "py" none = .ok Language.checkProgram := by cbv
  have nothing : Discovery.documents (attic []) [.ofText "."] [] = .ok [] := by cbv
  have ready := prepareScan_of_documents set_ resolved
  simp only [bare, List.map_cons, List.map_nil, nothing, mapError_ok, ok_bind] at ready
  have whole : Writable 1 ∧ Writable 0 := by
    have digits : (renderInt? 1).isSome = true ∧ (renderInt? 0).isSome = true := by decide
    exact digits
  obtain ⟨_, code, told⟩ := run_of_ready (parsed_spelling (by decide)) rfl ready
    (fun ctx => record_ok_iff.mpr (.inr whole)) rfl (writeReport_attic_nil 0o644)
  exact ⟨code, told.trans rfl⟩

theorem sameTag_json : SameTag "json" " JSON " := by
  rw [SameTag]
  cbv

/-- A language in small letters, and one in capitals with blanks around it, for a document with a block of
it. -/
theorem respelled_runs_agree_desk :
    let host := bare desk
    let argv (tag : String) := ["scan", "--language", tag, "--out", "report.json", "a.md"]
    let r := run host (argv "json")
    let r' := run host (argv " JSON ")
    Respelled host host {} (filing "json") (filing " JSON ") ∧
      r.2.code = 0 ∧ r'.2.code = 0 ∧ r.2.stdout = r'.2.stdout ∧
      ∃ bytes, Finished host (contextOf host {}) false {} (filing "json") usualMask filingPlan filed bytes
          r.1 r.2.stdout ∧
        Finished host (contextOf host {}) false {} (filing " JSON ") usualMask filingPlan filed bytes
          r'.1 r'.2.stdout := by
  intro host argv r r'
  have parsed := parsed_filing (show "json".toList.head? ≠ some '-' by decide)
  have parsed' := parsed_filing (show " JSON ".toList.head? ≠ some '-' by decide)
  have code : r.2.code = 0 := run_desk.1
  have respelled : Respelled host host {} (filing "json") (filing " JSON ") :=
    .of_arguments host {} (.tag { out := some (.text "report.json"), paths := ["a.md"] } sameTag_json)
  obtain ⟨codes, _, finished, told⟩ := (respelled_runs_agree host parsed usualMask).2 host _ _ parsed' rfl
    respelled fun _ _ _ _ => rfl
  obtain ⟨p, s, bytes, left, left'⟩ := finished code
  obtain ⟨rfl, rfl⟩ := left.eq_filed
  exact ⟨respelled, code, codes.symm.trans code, told rfl, bytes, left, left'⟩

/-- A settings file that is a document as well: what names the language stands in a block of JSON. -/
def quoting (tag : String) : String :=
  "exclude = '''\n```json'''\nlanguage = \"" ++ tag ++ "\"\npaths = '''\n```\n'''\n"

def quotingTable (tag : String) : Toml.Entries :=
  [("exclude", .string "```json"), ("language", .string tag), ("paths", .string "```\n")]

def quotingTree (tag : String) : Workspace :=
  configured (Utf8.encode (quoting tag).toList)

/-- The block, which is no JSON. -/
def quotedBlock (tag : String) : String :=
  "language = \"" ++ tag ++ "\"\npaths = '''"

def quotation (tag : String) : Entry :=
  .ofBlock topFile (quotedBlock tag) (codePoints "line 1 column 1: Expecting value")

/-- The arguments of a scan of the settings file. -/
def rescan : ScanArguments :=
  { paths := ["/snippetctl.toml"] }

def rescanPlan : ScanPlan :=
  planned { language := "json", paths := rescan.paths, exclude := ["```json"] } Language.checkJson [topFile]

theorem parsed_rescan : readArguments ["scan", "/snippetctl.toml"] = .ok ⟨{}, .scan rescan⟩ := by
  have readings := readWords_operand (show "/snippetctl.toml".toList.head? ≠ some '-' by decide)
  rw [readArguments, readWords_cons (by decide) rfl (readings _)]
  simp [readProgram, readCommand, Part.readAll, readings, Part.read, scanPart, takeOperands, rescan]

theorem fit_quotation (tag : String) : (quotation tag).Fit where
  file := codePoints_eq_nil.not.mpr (by decide)
  content := codePoints_eq_nil.not.mpr (by simp [quotedBlock])
  message := codePoints_eq_nil.not.mpr (by decide)

theorem homed_configured (bytes : List UInt8) : (configured bytes).Homed where
  formed := ⟨by simp [configured], by simp [configured], by simp [configured]; rfl⟩
  inside := rfl
  named := by simp [configured]

theorem documents_configured (bytes : List UInt8) (exclude : List String) :
    Discovery.documents (configured bytes) [topFile] exclude = .ok [topFile] := by
  have there := node_configured bytes
  have noDirectory : (configured bytes).isDirectory topFile = .ok false := by
    rw [isDirectory, isKind, there]
  rw [node] at there
  obtain ⟨l, found, _⟩ := exists_of_bind there
  have place := canonical_of_find (homed_configured bytes) found
  simp [Discovery.documents, Discovery.documentsFrom, Discovery.expand, noDirectory, Discovery.keepNew, place]

theorem read_quoting {tag : String} (known : tag ∈ ["JSON", "json"]) :
    '\r' ∉ (quoting tag).toList ∧ Toml.read (quoting tag).toList = .ok (quotingTable tag) := by
  simp only [List.mem_cons, List.not_mem_nil, or_false] at known
  rcases known with rfl | rfl
  · exact ⟨by decide, rfl⟩
  · exact ⟨by decide, rfl⟩

theorem sameTag_quoting {tag : String} (known : tag ∈ ["JSON", "json"]) : SameTag tag "json" := by
  simp only [List.mem_cons, List.not_mem_nil, or_false] at known
  rcases known with rfl | rfl
  · rw [SameTag]
    cbv
  · rfl

theorem prepareScan_quoting {tag : String} (known : tag ∈ ["JSON", "json"]) :
    prepareScan (bare (quotingTree tag)) {} rescan = .ok rescanPlan := by
  obtain ⟨plain, read⟩ := read_quoting known
  have respelled : RespelledLayer (layerOf (quotingTable tag)) (layerOf (quotingTable "json")) :=
    .same _ (.tag (sameTag_quoting known) (.same _ .nil))
  have inFile : (({} : Settings).override (layerOf (quotingTable tag))).toOption =
      some { language := "json", paths := ["```\n"], exclude := ["```json"] } := by
    rw [override_respelled respelled]
    cbv
  have overridden : (Settings.override { language := "json", paths := ["```\n"], exclude := ["```json"] }
      rescan.layer).toOption = some rescanPlan.settings := by cbv
  have set_ : settingsFor (bare (quotingTree tag)) {} rescan = .ok rescanPlan.settings := by
    have loaded := load_configured (quotingTable tag) plain read inFile
    rw [settingsFor]
    simp only [bare, Option.filter_none, Option.map_none]
    change (load (quotingTree tag) [] none ⟨.root, []⟩ >>= _) = _
    rw [quotingTree, loaded, ok_bind]
    exact ok_of_toOption overridden
  have resolved : Language.resolve [] "json" none = .ok Language.checkJson := by cbv
  have path : rescan.paths.map Path.ofText = [topFile] := by decide
  have ready := prepareScan_of_documents set_ resolved
  have there : Discovery.documents (bare (quotingTree tag)).workspace (rescanPlan.settings.paths.map .ofText)
      rescanPlan.settings.exclude = .ok [topFile] := by
    rw [show rescanPlan.settings.paths = rescan.paths from rfl, path]
    exact documents_configured _ _
  rw [ready, there]
  rfl

theorem collect_quoting {tag : String} (known : tag ∈ ["JSON", "json"]) :
    (collect (quotingTree tag) rescanPlan.plan rescanPlan.documents).outcome =
      .ok { report := [quotation tag], documents := 1, blocks := 1 } := by
  have text : (quotingTree tag).readText topFile = .ok (quoting tag).toList := by
    rw [Workspace.readText, quotingTree, readBytes_configured]
    simp [Utf8.decode_encode, unifyLineEnds_eq_self (read_quoting known).1]
  have block : ∀ tag ∈ ["JSON", "json"], Fence.extract (quoting tag).toList topFile "json" =
      [⟨topFile, quotedBlock tag, 2⟩] := by decide +kernel
  have complaint : ∀ tag ∈ ["JSON", "json"], (Language.checkJson (quotedBlock tag)).complaint? =
      some (codePoints "line 1 column 1: Expecting value") := by decide +kernel
  rw [collect_of_settles settles_checkJson]
  have block := block tag known
  have complaint := complaint tag known
  generalize (quoting tag).toList = words at text block
  simp [rescanPlan, planned, reads, readDocument_of_text text, Document.blocks, block, complaints, complaint]
  rfl

theorem fileLayer_quoting {tag : String} (known : tag ∈ ["JSON", "json"]) :
    fileLayer (quotingTree tag) topFile = .ok (layerOf (quotingTable tag)) := by
  obtain ⟨plain, read⟩ := read_quoting known
  have holds : Holds (quotingTree tag) (some topFile) (quotingTable tag) := holds_configured plain read
  rw [fileLayer, fileValues_of_holds holds]
  rfl

theorem outline_configured (bytes bytes' : List UInt8) :
    (configured bytes).outline = (configured bytes').outline := rfl

/-- Runs whose settings files alone differ. -/
theorem Respelled.of_file {w w' : Workspace} (outline : w.outline = w'.outline)
    (file : ∀ p, chooseFile w none ⟨.root, w.cwd⟩ = .ok (some p) → RespelledFile w w' p)
    (a : ScanArguments) : Respelled (bare w) (bare w') {} a a where
  tokens := rfl
  outline := outline
  file := file
  environment := .refl _
  arguments := .same a

theorem respelled_quoting :
    Respelled (bare (quotingTree "JSON")) (bare (quotingTree "json")) {} rescan rescan := by
  refine .of_file (outline_configured _ _) (fun p chosen => ?_) rescan
  obtain rfl : topFile = p := by
    have own := chooseFile_configured (Utf8.encode (quoting "JSON").toList)
    exact Option.some.inj (Except.ok.inj (own.symm.trans chosen))
  exact .inr ⟨_, _, fileLayer_quoting (by decide), fileLayer_quoting (by decide),
    .same _ (.tag (sameTag_quoting (by decide)) (.same _ .nil))⟩

/-- In plain words the tag is told where the language has another name; and a settings file that is a
document as well is quoted in the report as it spells the language. -/
theorem spelling_told_and_quoted :
    ((run (bare (attic [])) ["scan", "--language", "py", "--out", "new/../old"]).2.stdout =
        "scanned 0 document(s), 0 `py` block(s): 0 syntax error(s); report written to new/../old\n" ∧
      (Language.find "py").toOption.map (·.name) = some "python") ∧
    readArguments ["scan", "/snippetctl.toml"] = .ok ⟨{}, .scan rescan⟩ ∧
    Respelled (bare (quotingTree "JSON")) (bare (quotingTree "json")) {} rescan rescan ∧
    ∃ p s s' text text', prepareScan (bare (quotingTree "JSON")) {} rescan = .ok p ∧
      prepareScan (bare (quotingTree "json")) {} rescan = .ok p ∧
      (collect (quotingTree "JSON") p.plan p.documents).outcome = .ok s ∧
      (collect (quotingTree "json") p.plan p.documents).outcome = .ok s' ∧
      serialize s.report = .ok text ∧ serialize s'.report = .ok text' ∧ text ≠ text' := by
  refine ⟨⟨run_spelling.2, by cbv⟩, parsed_rescan, respelled_quoting, ?_⟩
  refine ⟨rescanPlan, _, _, _, _, prepareScan_quoting (by decide), prepareScan_quoting (by decide),
    collect_quoting (by decide), collect_quoting (by decide),
    serialize_eq_ok_iff.mpr ⟨List.forall_mem_singleton.mpr (fit_quotation _), rfl⟩,
    serialize_eq_ok_iff.mpr ⟨List.forall_mem_singleton.mpr (fit_quotation _), rfl⟩, fun same => ?_⟩
  have letters := congrArg (·[35]?) same
  have capital : (toJson [quotation "JSON"]).renderArtifact[35]? = some (.ofChar 'J') := by cbv
  have small : (toJson [quotation "json"]).renderArtifact[35]? = some (.ofChar 'j') := by cbv
  exact absurd (capital.symm.trans (letters.trans small)) (by decide)

end Instances

end FenceCheck.Cli
