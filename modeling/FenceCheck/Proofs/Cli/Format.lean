import FenceCheck.Proofs.Cli.Scan
import FenceCheck.Proofs.Cli.Running
import FenceCheck.Proofs.Cli.Recognised
import FenceCheck.Proofs.Log.Lines

/-! In which format a run is told. What a run prints shows its format: the answer of a run that ends well,
the event of its start where that is logged, and the error otherwise; and no run prints what a run that is
refused prints. So the format can be read off the output. -/
namespace FenceCheck.Cli
open FenceCheck.Text FenceCheck.Report

/-- The word that a format has in the event of the start. -/
def formatWord (asJson : Bool) : String :=
  if asJson then "json" else "text"

section Texts

theorem ofCodePoints_append (ps qs : List CodePoint) :
    ofCodePoints (ps ++ qs) = ofCodePoints ps ++ ofCodePoints qs := by
  simp [ofCodePoints]

theorem ofCodePoints_points (cs : List Char) : ofCodePoints (Json.points cs) = String.ofList cs := by
  simp [ofCodePoints, Json.points, Function.comp_def]

/-- An object in one line stands between braces. -/
theorem exists_braces (members : List (List CodePoint × Json)) :
    ∃ inner, ofCodePoints ((Json.object members).render .compact) = "\x7b" ++ inner ++ "\x7d" := by
  rw [Json.render, Json.renderAt]
  generalize (Json.sortByKey _).map _ = items
  cases items with
  | nil => exact ⟨"", rfl⟩
  | cons first rest =>
    let inner := first ++ rest.flatMap (Json.points [',', ' '] ++ ·)
    have whole : Json.enclose .compact 0 '{' '}' (first :: rest) =
        Json.points ['{'] ++ inner ++ Json.points ['}'] := by
      simp [Json.enclose, Json.Layout.compact, Json.points, inner]
    refine ⟨ofCodePoints inner, ?_⟩
    rw [whole, ofCodePoints_append, ofCodePoints_append, ofCodePoints_points, ofCodePoints_points]

/-- One item of several that are enclosed in one line. -/
theorem exists_around (depth : Nat) (opening closing : Char) (before after : List (List CodePoint)) :
    ∃ front back, ∀ item, Json.enclose .compact depth opening closing (before ++ item :: after) =
      front ++ item ++ back := by
  let gap := Json.points [',', ' ']
  cases before with
  | nil =>
    refine ⟨[.ofChar opening], after.flatMap (gap ++ ·) ++ [.ofChar closing], fun item => ?_⟩
    simp [Json.enclose, Json.Layout.compact, gap]
  | cons first rest =>
    refine ⟨.ofChar opening :: (first ++ rest.flatMap (gap ++ ·) ++ gap),
      after.flatMap (gap ++ ·) ++ [.ofChar closing], fun item => ?_⟩
    simp [Json.enclose, Json.Layout.compact, gap]

end Texts

section Start
variable {ctx : RunContext} {i : Invocation} {runId stamp : String}

theorem sortByKey_start (ts level runId component action cmd fmt : List CodePoint) :
    Json.sortByKey [(codePoints "ts", ts), (codePoints "level", level), (codePoints "run_id", runId),
        (codePoints "component", component), (codePoints "action", action), (codePoints "cmd", cmd),
        (codePoints "fmt", fmt)] =
      [(codePoints "action", action), (codePoints "cmd", cmd), (codePoints "component", component),
        (codePoints "fmt", fmt), (codePoints "level", level), (codePoints "run_id", runId),
        (codePoints "ts", ts)] := by
  cbv

theorem renderString_formatWord (asJson : Bool) :
    Json.renderString true (codePoints (formatWord asJson)) =
      Json.points ['"'] ++ (codePoints (formatWord asJson) ++ Json.points ['"']) := by
  cases asJson <;> rfl

theorem exists_object_start (i : Invocation) (runId stamp : String) : ∃ front back, ∀ asJson,
    ofCodePoints ((Json.object ((startEvent asJson i).payload runId stamp)).render .compact) =
      front ++ formatWord asJson ++ back := by
  have members (asJson : Bool) : (startEvent asJson i).payload runId stamp =
      [(codePoints "ts", .text stamp), (codePoints "level", .text "debug"),
        (codePoints "run_id", .text runId), (codePoints "component", .text "cli"),
        (codePoints "action", .text "start"), (codePoints "cmd", .text i.command.word),
        (codePoints "fmt", .text (formatWord asJson))] := rfl
  let text (s : String) := Json.renderString true (codePoints s)
  let member (key value : String) := text key ++ Json.points [':', ' '] ++ text value
  obtain ⟨front, back, around⟩ := exists_around 0 '{' '}'
    [member "action" "start", member "cmd" i.command.word, member "component" "cli"]
    [member "level" "debug", member "run_id" runId, member "ts" stamp]
  refine ⟨ofCodePoints front ++ ofCodePoints (text "fmt") ++ String.ofList [':', ' '] ++
      String.ofList ['"'], String.ofList ['"'] ++ ofCodePoints back, fun asJson => ?_⟩
  simp only [members, Json.render, Json.renderAt, Json.renderMembers, sortByKey_start, Json.text]
  refine (congrArg ofCodePoints (around (member "fmt" (formatWord asJson)))).trans ?_
  simp only [member, text, renderString_formatWord, ofCodePoints_append, ofCodePoints_codePoints,
    ofCodePoints_points, String.append_assoc]

theorem exists_plain_start (i : Invocation) (runId stamp : String) : ∃ front, ∀ asJson,
    (startEvent asJson i).plain runId stamp = front ++ formatWord asJson := by
  let fields := "cmd" ++ "=" ++ i.command.word ++ " " ++ ("fmt" ++ "=")
  refine ⟨"ts=" ++ stamp ++ " level=" ++ "debug" ++ " run_id=" ++ runId ++ " component=" ++ "cli" ++
    " action=" ++ "start" ++ " " ++ fields, fun asJson => ?_⟩
  have sorted : (startEvent asJson i).fields.mergeSort (fun a b => a.1 ≤ b.1) =
      [("cmd", .text i.command.word), ("fmt", .text (formatWord asJson))] := by
    have pair (a b : Json) : [("cmd", a), ("fmt", b)].mergeSort (fun a b => a.1 ≤ b.1) =
        [("cmd", a), ("fmt", b)] := by cbv
    exact pair _ _
  have shown : String.intercalate " " ([("cmd", Json.text i.command.word),
      ("fmt", .text (formatWord asJson))].map fun m => m.1 ++ "=" ++ m.2.plain) =
        fields ++ formatWord asJson := by
    simp only [List.map_cons, List.map_nil, String.intercalate_cons_cons, String.intercalate_singleton,
      Json.plain, Json.text, escaped_codePoints, fields, String.append_assoc]
  have nonempty : fields ++ formatWord asJson ≠ "" := by
    intro nothing
    have word := (String.append_eq_empty_iff.mp nothing).2
    cases asJson <;> exact absurd word (by decide)
  rw [Log.Event.plain, sorted, shown, if_neg nonempty]
  exact String.append_assoc.symm

/-- The line of the start shows the format, and shows it at the same place in either. -/
theorem exists_line_start (ctx : RunContext) (i : Invocation) (stamp : String) : ∃ front back,
    ∀ asJson, (startEvent asJson i).line (some ctx) stamp = front ++ formatWord asJson ++ back := by
  cases objects : ctx.logJson with
  | true =>
    obtain ⟨front, back, whole⟩ := exists_object_start i ctx.runId stamp
    refine ⟨front, back ++ "\n", fun asJson => ?_⟩
    simp only [Log.Event.line, Option.map_some, Option.getD_some, objects, if_true, whole,
      String.append_assoc]
  | false =>
    obtain ⟨front, whole⟩ := exists_plain_start i ctx.runId stamp
    refine ⟨front, "\n", fun asJson => ?_⟩
    simp only [Log.Event.line, Option.map_some, Option.getD_some, objects, Bool.false_eq_true, if_false,
      whole]

theorem ne_of_formatWord (front back back' : String) :
    front ++ formatWord true ++ back ≠ front ++ formatWord false ++ back' := by
  simp [← String.toList_inj, formatWord]

end Start

section Answers
variable {ctx : RunContext} {c d : Char} {s t : String}

theorem ne_of_heads (first : s.toList.head? = some c) (other : t.toList.head? = some d) (differ : c ≠ d) :
    s ≠ t := by
  rintro rfl
  exact differ (Option.some.inj (first.symm.trans other))

theorem head?_append (first : s.toList.head? = some c) (t : String) : (s ++ t).toList.head? = some c := by
  rw [String.toList_append, List.head?_append, first]
  rfl

theorem exists_answer (ctx : RunContext) (members : List (String × Json)) :
    ∃ inner, answer ctx members = "\x7b" ++ inner ++ "\x7d" ++ "\n" := by
  obtain ⟨inner, whole⟩ := exists_braces
    ((baseMembers ctx ++ members).map fun m => (codePoints m.1, m.2))
  exact ⟨inner, congrArg (· ++ "\n") whole⟩

theorem head?_answer (ctx : RunContext) (members : List (String × Json)) :
    (answer ctx members).toList.head? = some '{' := by
  obtain ⟨inner, whole⟩ := exists_answer ctx members
  rw [whole]
  exact head?_append (head?_append (head?_append (by decide) _) _) _

theorem head?_scanSentence (s : Settings) (r : Report.Summary) :
    (scanSentence s r).toList.head? = some 's' := by
  unfold scanSentence
  iterate 10 refine head?_append ?_ _
  decide

/-- The answer of a validation ends in another character, whatever the file is called. -/
theorem answer_ne_valid (ctx : RunContext) (members : List (String × Json)) (file : String) :
    answer ctx members ≠ file ++ ": valid " ++ Report.schemaName ++ "\n" := by
  obtain ⟨inner, whole⟩ := exists_answer ctx members
  rw [whole]
  intro same
  have last := congrArg (fun s : String => s.toList.reverse[1]?) same
  simp [Report.schemaName] at last

end Answers

section Commands
variable {host : Host} {ctx : RunContext} {i : Invocation} {umask : Nat}

/-- What a command comes to, by the format: the same failure in both, or different answers, that in JSON
an object. -/
inductive Formats (ctx : RunContext) (come : Bool → Workspace × Trace String) : Prop where
  | failed (w : Workspace) (events : List Log.Event) (e : Failure) :
      (∀ asJson, come asJson = (w, ⟨events, .error e⟩)) → Formats ctx come
  | answered (w : Workspace) (events : List Log.Event) (stdout : Bool → String) :
      (∃ members, stdout true = answer ctx members) → stdout true ≠ stdout false →
      (∀ asJson, come asJson = (w, ⟨events, .ok (stdout asJson)⟩)) → Formats ctx come

theorem head?_languageLine {l : Language} (listed : l ∈ Language.all) :
    ∃ c, (languageLine l).toList.head? = some c ∧ c ≠ '{' := by
  have named : ∀ l ∈ Language.all, l.name.toList.head?.any (· ≠ '{') = true := by decide
  obtain ⟨c, first, other⟩ := (Option.any_eq_true _ _).mp (named l listed)
  refine ⟨c, ?_, of_decide_eq_true other⟩
  simp only [languageLine, padRight, String.append_assoc]
  exact head?_append first _

theorem runLanguages_ne (ctx : RunContext) : runLanguages ctx true ≠ runLanguages ctx false := by
  cases listed : Language.sorted with
  | nil =>
    have count : Language.sorted.length = 5 := List.length_mergeSort Language.all
    simp [listed] at count
  | cons l rest =>
    have among : l ∈ Language.sorted := listed ▸ List.mem_cons_self
    have member : l ∈ Language.all := List.mem_mergeSort.mp among
    obtain ⟨c, first, other⟩ := head?_languageLine member
    have lines : runLanguages ctx false = languageLine l ++ String.join (rest.map languageLine) := by
      rw [← String.join_cons, ← List.map_cons, ← listed]
      rfl
    rw [lines]
    exact ne_of_heads (head?_answer ctx _) (head?_append first _) other.symm

theorem runVersion_ne (ctx : RunContext) : runVersion ctx true ≠ runVersion ctx false := by
  have first : (toolName ++ " " ++ version ++ "\n").toList.head? = some 's' := by decide
  exact ne_of_heads (head?_answer ctx _) first (by decide)

theorem formats_validate (host : Host) (ctx : RunContext) (v : Value) : Formats ctx fun asJson =>
    (host.workspace, Trace.ofOutcome (runValidate host ctx asJson v)) := by
  cases v with
  | nothing => exact .failed host.workspace [] _ fun _ => rfl
  | given file =>
    cases checked : Report.checkFile host.workspace Report.schemaName (.ofText file) with
    | error e =>
      refine .failed host.workspace [] e fun asJson => ?_
      rw [runValidate, checked]
      rfl
    | ok u =>
      let told (asJson : Bool) : String :=
        if asJson then answer ctx [("schema", .text Report.schemaName), ("file", .text file)]
        else file ++ ": valid " ++ Report.schemaName ++ "\n"
      refine .answered host.workspace [] told ⟨_, rfl⟩ (answer_ne_valid ctx _ file) fun asJson => ?_
      rw [runValidate, checked]
      rfl

theorem formats_scan (host : Host) (ctx : RunContext) (g : Globals) (a : ScanArguments) (umask : Nat) :
    Formats ctx fun asJson => runScan host ctx asJson g a umask := by
  simp only [runScan]
  generalize (Trace.ofOutcome (prepareScan host g a) >>= _ : Trace ScanPlan) = prepared
  obtain ⟨events, ended⟩ := prepared
  cases ended with
  | error e => exact .failed host.workspace events e fun _ => rfl
  | ok p =>
    dsimp only
    generalize Report.scan host.workspace host.tokens p.plan p.documents (.ofText p.settings.out) umask =
      r
    obtain ⟨w, later, scanned⟩ := r
    cases scanned with
    | error e => exact .failed w (events ++ later) e fun _ => rfl
    | ok summary =>
      cases found : Language.find p.settings.language with
      | error e =>
        refine .failed w (events ++ (later ++ [])) (.run e) fun asJson => ?_
        rw [Trace.mk_bind, Trace.mk_bind, scanAnswer, found]
        rfl
      | ok language =>
        refine .answered w (events ++ (later ++ [])) (fun asJson =>
          if asJson then scanJson ctx language p.settings summary else scanSentence p.settings summary) ⟨_, rfl⟩
          ?_ fun asJson => ?_
        · exact ne_of_heads (head?_answer ctx _) (head?_scanSentence _ _) (by decide)
        · rw [Trace.mk_bind, Trace.mk_bind, scanAnswer_eq ctx asJson found]
          rfl

theorem formats_perform (host : Host) (ctx : RunContext) (i : Invocation) (umask : Nat) :
    Formats ctx fun asJson => perform host ctx asJson i umask := by
  cases command : i.command with
  | languages json =>
    refine .answered host.workspace [] (runLanguages ctx) ⟨_, rfl⟩ (runLanguages_ne ctx) fun asJson => ?_
    rw [perform, command]
    rfl
  | version json =>
    refine .answered host.workspace [] (runVersion ctx) ⟨_, rfl⟩ (runVersion_ne ctx) fun asJson => ?_
    rw [perform, command]
    rfl
  | validateReport json v =>
    simp only [perform, command]
    exact formats_validate host ctx v
  | scan a =>
    simp only [perform, command]
    exact formats_scan host ctx i.globals a umask

end Commands

section Runs
variable {host : Host} {i : Invocation} {umask : Nat}

theorem text_start (ctx : RunContext) (i : Invocation) (stamp : String) (events : List Log.Event)
    (asJson : Bool) : Log.text (some ctx) stamp (startEvent asJson i :: events) =
      (if ctx.verbose then (startEvent asJson i).line (some ctx) stamp else "") ++
        Log.text (some ctx) stamp events := by
  rw [Log.text_cons]
  rfl

/-- A line of the log begins with the time, or with the brace of an object. -/
theorem head?_line (e : Log.Event) (ctx : Option RunContext) (stamp : String) :
    ∃ c ≠ 's', (e.line ctx stamp).toList.head? = some c := by
  rw [Log.Event.line]
  split
  · obtain ⟨inner, whole⟩ := exists_braces (e.payload ((ctx.map (·.runId)).getD Log.libraryRunId) stamp)
    rw [whole]
    refine ⟨'{', by decide, ?_⟩
    iterate 3 refine head?_append ?_ _
    decide
  · refine ⟨'t', by decide, head?_append ?_ _⟩
    rw [Log.Event.plain]
    dsimp only
    split
    · iterate 9 refine head?_append ?_ _
      decide
    · iterate 11 refine head?_append ?_ _
      decide

theorem head?_text {ctx : Option RunContext} {events : List Log.Event} (stamp : String)
    (enabled : ∃ e ∈ events, e.isEnabled ctx = true) :
    ∃ c ≠ 's', (Log.text ctx stamp events).toList.head? = some c := by
  induction events with
  | nil => simp at enabled
  | cons e rest ih =>
    rw [Log.text_cons]
    by_cases first : e.isEnabled ctx = true
    · rw [if_pos first]
      obtain ⟨c, other, head⟩ := head?_line e ctx stamp
      exact ⟨c, other, head?_append head _⟩
    · rw [if_neg first, String.empty_append]
      exact ih (by simpa [first] using enabled)

/-- The event that a run failed. -/
def failedEvent (i : Invocation) (e : RunError) : Log.Event :=
  event .error "failed" [("cmd", .text i.command.word), ("kind", .text e.kind), ("code", .int e.code)]

theorem conclude_of_error (host : Host) (ctx : RunContext) (asJson : Bool) (i : Invocation)
    (events : List Log.Event) (e : Failure) : conclude host ctx asJson i ⟨events, .error e⟩ =
      ⟨(reportedError e).code, "", Log.text (some ctx) host.stamp
        (startEvent asJson i :: (events ++ [failedEvent i (reportedError e)])) ++
          (renderError asJson (reportedError e) ++ "\n")⟩ := by
  rw [← String.append_assoc]
  rfl

theorem renderError_ne (e : RunError) : renderError true e ++ "\n" ≠ renderError false e ++ "\n" := by
  obtain ⟨inner, whole⟩ := exists_braces
    ([("schema_version", Json.nat 1), ("tool", .text "snippetctl"), ("status", .text "error"),
      ("errors", .array [errorJson e])].map fun m => (codePoints m.1, m.2))
  have object : renderError true e = "\x7b" ++ inner ++ "\x7d" := whole
  have sentence : renderError false e = "snippetctl: error: " ++ e.message := rfl
  rw [object, sentence]
  refine ne_of_heads (c := '{') (d := 's') ?_ ?_ (by decide)
  · iterate 3 refine head?_append ?_ _
    decide
  · iterate 2 refine head?_append ?_ _
    decide

/-- What is logged shows the format where the start of the run is, and else is the same. -/
theorem text_start_cases (ctx : RunContext) (i : Invocation) (stamp : String) (events : List Log.Event) :
    (∀ rest rest', Log.text (some ctx) stamp (startEvent true i :: events) ++ rest ≠
      Log.text (some ctx) stamp (startEvent false i :: events) ++ rest') ∨
    ∀ asJson, Log.text (some ctx) stamp (startEvent asJson i :: events) =
      Log.text (some ctx) stamp events := by
  cases verbose : ctx.verbose with
  | true =>
    left
    intro rest rest'
    obtain ⟨front, back, whole⟩ := exists_line_start ctx i stamp
    simp only [text_start, verbose, if_true, whole, String.append_assoc, ne_eq]
    simpa only [String.append_assoc, ne_eq] using ne_of_formatWord front _ _
  | false =>
    right
    intro asJson
    simp [text_start, verbose]

/-- A run that is told in one format prints something else than when it is told in the other. -/
theorem told_ne (host : Host) (i : Invocation) (umask : Nat) :
    (told host i true umask).2 ≠ (told host i false umask).2 := by
  intro same
  simp only [told] at same
  cases formats_perform host (contextOf host i.globals) i umask with
  | failed w events e come =>
    rw [come true, come false, conclude_of_error, conclude_of_error] at same
    have stderr := congrArg Exit.stderr same
    dsimp only at stderr
    rcases text_start_cases (contextOf host i.globals) i host.stamp
      (events ++ [failedEvent i (reportedError e)]) with shown | hidden
    · exact shown _ _ stderr
    · rw [hidden true, hidden false] at stderr
      exact renderError_ne _ (String.append_right_inj _ |>.mp stderr)
  | answered w events stdout object differ come =>
    rw [come true, come false, conclude_of_ok rfl, conclude_of_ok rfl] at same
    exact differ (congrArg Exit.stdout same)

/-- A run that is told in JSON answers with an object, or ends its log with the object of its error. -/
theorem told_as_object (host : Host) (i : Invocation) (umask : Nat) :
    let exit := (told host i true umask).2
    (exit.code = 0 ∧ ∃ members, exit.stdout = answer (contextOf host i.globals) members) ∨
      exit.stdout = "" ∧ ∃ log e, exit.stderr = log ++ (renderError true e ++ "\n") := by
  intro exit
  simp only [exit, told]
  cases formats_perform host (contextOf host i.globals) i umask with
  | failed w events e come =>
    rw [come true, conclude_of_error]
    exact .inr ⟨rfl, _, _, rfl⟩
  | answered w events stdout object differ come =>
    rw [come true, conclude_of_ok rfl]
    exact .inl ⟨rfl, object⟩

theorem refusal_ne_told (host : Host) (i : Invocation) (asJson : Bool) (umask : Nat) :
    (refusal host).2 ≠ (told host i asJson umask).2 := by
  intro same
  simp only [told] at same
  cases formats_perform host (contextOf host i.globals) i umask with
  | failed w events e come =>
    rw [come asJson, conclude_of_error] at same
    have stderr := congrArg Exit.stderr same
    have logged : failedEvent i (reportedError e) ∈
        startEvent asJson i :: (events ++ [failedEvent i (reportedError e)]) := by simp
    obtain ⟨c, other, head⟩ := @head?_text (some (contextOf host i.globals)) _ host.stamp
      ⟨_, logged, rfl⟩
    have refused : (refusal host).2.stderr.toList.head? = some 's' := by
      dsimp only [refusal]
      decide
    exact ne_of_heads refused (head?_append head _) other.symm stderr
  | answered w events stdout object differ come =>
    rw [come asJson, conclude_of_ok rfl] at same
    have code : (2 : Int) = 0 := congrArg Exit.code same
    contradiction

/-- Whether the environment names a build server. -/
def OnServer (host : Host) : Prop :=
  ∃ value, host.environment.get? "CI" = some value ∧ value ≠ ""

theorem isOnServer_iff : isOnServer host.environment = true ↔ OnServer host := by
  rw [isOnServer, OnServer]
  cases host.environment.get? "CI" <;> simp

instance (host : Host) : Decidable (OnServer host) :=
  decidable_of_iff _ isOnServer_iff

theorem resolveFormat_iff {bare server : Bool} {named : Option String}
    (known : named = none ∨ named = some "text" ∨ named = some "json") :
    resolveFormat bare named server = "json" ↔
      bare = true ∨ named = some "json" ∨ named = none ∧ server = true := by
  rcases known with rfl | rfl | rfl <;> cases bare <;> cases server <;> decide

theorem bind_text?_eq_some {v : Option Value} {name : String} :
    v.bind Value.text? = some name ↔ v = some (.given name) := by
  rcases v with _ | _ | given <;> simp [Value.text?]

theorem bind_text?_eq_none {v : Option Value} (valued : v ≠ some .nothing) :
    v.bind Value.text? = none ↔ v = none := by
  rcases v with _ | _ | given
  · simp
  · contradiction
  · simp [Value.text?]

theorem bind_text?_known {v : Option Value}
    (choices : ∀ w, v = some w → w = .nothing ∨ w = .given "text" ∨ w = .given "json") :
    v.bind Value.text? = none ∨ v.bind Value.text? = some "text" ∨ v.bind Value.text? = some "json" := by
  cases v with
  | none => exact .inl rfl
  | some w => rcases choices w rfl with rfl | rfl | rfl <;> simp [Value.text?]

/-- The outcomes of a run that is refused in one case, and else told in one of two formats. -/
theorem outcome_iff {r : Workspace × Exit} {refused json : Prop} [Decidable refused] [Decidable json]
    (chosen : r = if refused then refusal host else told host i (decide json) umask) :
    (r = refusal host ↔ refused) ∧ (r = told host i true umask ↔ ¬ refused ∧ json) := by
  have refusedNot (asJson : Bool) : refusal host ≠ told host i asJson umask :=
    fun same => refusal_ne_told host i asJson umask (congrArg Prod.snd same)
  have formatsNot : told host i true umask ≠ told host i false umask :=
    fun same => told_ne host i umask (congrArg Prod.snd same)
  by_cases given : refused
  · rw [if_pos given] at chosen
    subst chosen
    exact ⟨iff_of_true rfl given, iff_of_false (refusedNot true) (fun both => both.1 given)⟩
  · rw [if_neg given] at chosen
    subst chosen
    refine ⟨iff_of_false (refusedNot _).symm given, ?_⟩
    by_cases isJson : json
    · exact iff_of_true (by rw [decide_eq_true isJson]) ⟨given, isJson⟩
    · rw [decide_eq_false isJson]
      exact iff_of_false formatsNot.symm fun both => isJson both.2

/-- The format of a run whose command line is read. What counts for JSON is the bare word `--json`: where
it is recognised as the switch, and also where it is an operand; a shortened switch does not count. The
run is refused just if the bare word is there and the last format named is text, and it is told as JSON
just if it is not refused and the bare word is there, or JSON was named last, or no format has a name and
there is a build server; as JSON it answers with an object, or ends its log with the object of its error.
So the format is that of the recognised switches where the word is there just if the switch is, and no
format was named without a value. -/
theorem format_of_run {argv : List String} (parsed : readArguments argv = .ok i) (host : Host)
    (umask : Nat) :
    let taken := recognised argv
    let asked := ∃ t ∈ taken, t.switch = jsonSwitch
    let bare := (∃ t ∈ taken, t.word = "--json") ∨ "--json" ∈ i.command.operands
    let format := lastValue formatSwitch taken
    let r := run host argv umask
    (asked ↔ i.globals.json = true ∨ i.command.asksJson = true) ∧
    (r = refusal host ↔ bare ∧ format = some (.given "text")) ∧
    (r = told host i true umask ↔ ¬ (bare ∧ format = some (.given "text")) ∧
      (bare ∨ format = some (.given "json") ∨ format.bind Value.text? = none ∧ OnServer host)) ∧
    (r = told host i true umask →
      (r.2.code = 0 ∧ ∃ members, r.2.stdout = answer (contextOf host i.globals) members) ∨
        r.2.stdout = "" ∧ ∃ log e, r.2.stderr = log ++ (renderError true e ++ "\n")) ∧
    ((asked ↔ bare) → format ≠ some .nothing →
      (r = refusal host ↔ asked ∧ format = some (.given "text")) ∧
      (r = told host i true umask ↔ ¬ (asked ∧ format = some (.given "text")) ∧
        (asked ∨ format = some (.given "json") ∨ ¬ asked ∧ format = none ∧ OnServer host))) := by
  intro taken asked bare format r
  classical
  obtain ⟨flags, named, choices, word⟩ := readArguments_spec parsed
  have isBare : argv.contains "--json" = true ↔ bare := List.contains_iff_mem.trans word
  have isNamed (name : String) : i.globals.format = some name ↔ format = some (.given name) := by
    rw [named, bind_text?_eq_some]
  have known : i.globals.format = none ∨ i.globals.format = some "text" ∨
      i.globals.format = some "json" := named ▸ bind_text?_known choices
  let refused := bare ∧ format = some (.given "text")
  let json := bare ∨ format = some (.given "json") ∨ format.bind Value.text? = none ∧ OnServer host
  have ends : r = if refused then refusal host else told host i (decide json) umask := by
    have refuses : (argv.contains "--json" && i.globals.format = some "text") = true ↔ refused := by
      rw [Bool.and_eq_true, decide_eq_true_iff, isBare, isNamed]
    have tells : resolveFormat (argv.contains "--json") i.globals.format
        (isOnServer host.environment) = "json" ↔ json := by
      rw [resolveFormat_iff known, isBare, isNamed, isOnServer_iff, named]
    exact (run_of_parsed parsed).trans (by simp only [refuses, tells])
  obtain ⟨isRefused, isJson⟩ := outcome_iff ends
  refine ⟨flags, isRefused, isJson, fun inJson => inJson ▸ told_as_object host i umask,
    fun same valued => ?_⟩
  refine ⟨by rw [isRefused, same], isJson.trans ?_⟩
  dsimp only [refused, json]
  rw [same, bind_text?_eq_none valued]
  refine and_congr_right' ?_
  by_cases there : bare <;> simp [there]

theorem format_of_run_flag :
    let host := bare (attic [])
    let i : Invocation := ⟨{ json := true }, .version false⟩
    readArguments ["--json", "version"] = .ok i ∧ run host ["--json", "version"] = told host i true := by
  intro host i
  have parsed : readArguments ["--json", "version"] = .ok i := by decide +kernel
  have taken : recognised ["--json", "version"] = [⟨"--json", jsonSwitch, .nothing⟩] := by decide +kernel
  obtain ⟨_, _, _, _, agree⟩ := format_of_run parsed host usualMask
  rw [taken] at agree
  obtain ⟨_, isJson⟩ := agree (by decide) (by decide)
  exact ⟨parsed, isJson.mpr (by decide)⟩

/-- A shortened switch is recognised and does not count, and a path that is called `--json` counts though
no switch is recognised. -/
theorem shortened_switch_unheeded :
    let host := bare (attic [])
    let short : Invocation := ⟨{ json := true }, .version false⟩
    let path : Invocation := ⟨{}, .scan { paths := ["--json"] }⟩
    (readArguments ["--js", "version"] = .ok short ∧
      (∃ t ∈ recognised ["--js", "version"], t.switch = jsonSwitch) ∧
      run host ["--js", "version"] ≠ told host short true) ∧
    (readArguments ["scan", "--", "--json"] = .ok path ∧
      recognised ["scan", "--", "--json"] = [] ∧ ¬ OnServer host ∧
      run host ["scan", "--", "--json"] = told host path true) := by
  intro host short path
  have shortParsed : readArguments ["--js", "version"] = .ok short := by decide +kernel
  have pathParsed : readArguments ["scan", "--", "--json"] = .ok path := by decide +kernel
  refine ⟨⟨shortParsed, by decide +kernel, ?_⟩, pathParsed, by decide +kernel, by decide, ?_⟩
  · rw [run_of_parsed shortParsed, if_neg (by decide)]
    exact fun same => told_ne host short usualMask (congrArg Prod.snd same).symm
  · rw [run_of_parsed pathParsed, if_neg (by decide)]
    rfl

end Runs
end FenceCheck.Cli
