import FenceCheck.Proofs.Report.Journal
import FenceCheck.Proofs.Report.Rerun

/-! The log of a scan, as one who decodes its lines finds it: what it says adds up to what the scan
answers. -/
namespace FenceCheck
open FenceCheck.Text

namespace Log

/-- The records of an action. -/
def recordsOf (action : String) (records : List Record) : List Record :=
  records.filter fun r => (r "action").bind text? = some action

/-- What an event says, whenever it happens. -/
def said (runId : String) (e : Event) : Record :=
  (e.record runId "").untimed

section Said
variable {runId : String} {e : Event}

theorem said_common : said runId e "action" = some (.text e.action) ∧
    said runId e "run_id" = some (.text runId) := by
  simp [said, Record.untimed, Event.record, Event.common, List.lookup_cons]

theorem recordsOf_said (action : String) (events : List Event) :
    recordsOf action (events.map (said runId)) = (Report.under action events).map (said runId) := by
  rw [recordsOf, List.filter_map, Report.under]
  congr 1
  apply List.filter_congr
  intro e _
  simp [said_common, text?, Json.text]

end Said

end Log

namespace Report
open Log

/-- Records that add up to a summary: one for each document that was read and for each left out, the
numbers of blocks that were found, the errors of the report in its order, and at the end the totals. -/
structure Accounts (records : List Record) (s : Summary) : Prop where
  documents : (recordsOf "read" records).length = s.documents
  skipped : (recordsOf "skip-unreadable" records).length = s.skipped
  blocks : ∃ counts : List Nat, counts.sum = s.blocks ∧
    (recordsOf "extract" records).map (fun r => r "blocks") = counts.map fun n => some (.nat n)
  report : (recordsOf "syntax-error" records).map (fun r => (r "path", r "message")) =
    s.report.map fun e => (some (.string e.file), some (.string e.message))
  totals : ∃ last, records.getLast? = some last ∧ last "action" = some (.text "written") ∧
    last "documents" = some (.nat s.documents) ∧ last "skipped" = some (.nat s.skipped) ∧
    last "blocks" = some (.nat s.blocks) ∧ last "failures" = some (.nat s.report.length)

/-- The times do not matter to what records add up to. -/
theorem Accounts.of_untimed {records : List Record} {s : Summary}
    (accounts : Accounts (records.map Record.untimed) s) : Accounts records s := by
  have kept (action : String) : recordsOf action (records.map Record.untimed) =
      (recordsOf action records).map Record.untimed := by
    rw [recordsOf, List.filter_map]
    rfl
  obtain ⟨documents, skipped, blocks, report, totals⟩ := accounts
  rw [kept, List.length_map] at documents skipped
  rw [kept, List.map_map] at report
  simp only [kept, List.map_map] at blocks
  obtain ⟨last, ends, told⟩ := totals
  rw [List.getLast?_map, Option.map_eq_some_iff] at ends
  obtain ⟨last, ends, rfl⟩ := ends
  exact ⟨documents, skipped, blocks, report, last, ends, told⟩

section Scanning
variable {w : Workspace} {tokens : List String} {plan : Plan} {paths : List Path} {out : Path}
variable {umask : Nat} {s : Summary} {runId : String}

/-- A scan comes to an end if its collection does and the report can be written. -/
theorem scan_outcome_iff : (scan w tokens plan paths out umask).2.outcome = .ok s ↔
    (collect w plan paths).outcome = .ok s ∧
      ∃ v p, writeReport w tokens s.report out umask = (v, .ok p) := by
  rcases scan_cases w tokens plan paths out umask with
    ⟨e, failed, scanned⟩ | ⟨s', reached, ⟨v, e, refused, scanned⟩ | ⟨v, p, written, scanned⟩⟩
  · simp [failed, scanned]
  · simp only [reached, scanned, reduceCtorEq, Except.ok.injEq, false_iff]
    rintro ⟨rfl, v, p, ends⟩
    simp [refused] at ends
  · simp only [reached, scanned, Except.ok.injEq]
    constructor
    · rintro rfl
      exact ⟨rfl, v, p, written⟩
    · exact And.left

/-- It tells what its collection tells, and then the totals. -/
theorem scan_events (done : (scan w tokens plan paths out umask).2.outcome = .ok s) :
    (scan w tokens plan paths out umask).2.events =
      (collect w plan paths).events ++ [writtenEvent out s] := by
  obtain ⟨reached, v, p, ends⟩ := scan_outcome_iff.mp done
  simp [scan, reached, ends]

/-- What is told of documents and blocks is texts and numbers, unless a complaint holds a surrogate. -/
theorem flat_of_told (scalar : ∀ e ∈ complaints plan.check (paths.flatMap (blocksAt w plan.language)), e.Scalar)
    {e : Event} (member : e ∈ told w plan paths) : e.Flat := by
  rcases List.mem_append.mp member with opening | objecting
  · obtain ⟨p, _, opening⟩ := List.mem_flatMap.mp opening
    rw [opened] at opening
    split at opening
    · rcases List.mem_pair.mp opening with rfl | rfl
      · constructor <;> simp [readEvent, event]
      · constructor <;> simp [extractEvent, event]
    · obtain rfl := List.mem_singleton.mp opening
      constructor <;> simp [skipEvent, event]
  · obtain ⟨b, inside, objecting⟩ := List.mem_filterMap.mp objecting
    obtain ⟨message, complaint, rfl⟩ := Option.map_eq_some_iff.mp objecting
    have entered : Entry.ofBlock b.file b.content message ∈
        complaints plan.check (paths.flatMap (blocksAt w plan.language)) :=
      List.mem_filterMap.mpr ⟨b, inside, by rw [complaint, Option.map_some]⟩
    have plain : ∀ p ∈ message, p.isSurrogate = false := (scalar _ entered).message
    have text : Json.string message = .text (ofCodePoints message) := by
      rw [Json.text, codePoints_ofCodePoints plain]
    constructor <;> simp [failureEvent, event, text]

theorem flat_writtenEvent (out : Path) (s : Summary) : (writtenEvent out s).Flat := by
  constructor <;> simp [writtenEvent, event]

/-- What is said of the blocks of which the checker complains is what is entered of them. -/
theorem said_objections (runId : String) (check : Checker) (blocks : List Fence.Block) :
    (objections check blocks).map (fun e => (said runId e "path", said runId e "message")) =
      (complaints check blocks).map fun e => (some (.string e.file), some (.string e.message)) := by
  rw [objections, complaints, List.map_filterMap, List.map_filterMap]
  congr 1
  funext b
  cases (check b.content).complaint? <;> rfl

theorem accounts_of_collect (runId : String) (out : Path)
    (reached : (collect w plan paths).outcome = .ok s) :
    Accounts (((collect w plan paths).events ++ [writtenEvent out s]).map (said runId)) s := by
  obtain ⟨_, same⟩ := collect_told reached
  obtain ⟨reads, extracts, skips, none_⟩ := under_opened w plan.language paths
  have kind (action : String) (other : action ≠ "written") :
      recordsOf action (((collect w plan paths).events ++ [writtenEvent out s]).map (said runId)) =
        (under action (told w plan paths)).map (said runId) := by
    have apart : under action [writtenEvent out s] = [] := by
      simp [under, writtenEvent, event, Ne.symm other]
    rw [recordsOf_said, under_append, same, apart, List.append_nil]
  obtain rfl := summary_of_collect reached
  constructor
  · rw [kind _ (by decide), told, under_append, reads, under_objections]
    simp
  · rw [kind _ (by decide), told, under_append, skips, under_objections]
    simp [announcements]
  · refine ⟨(readable w paths).map fun d => (d.blocks plan.language).length, ?_, ?_⟩
    · rw [← blocks_readable, List.length_flatMap]
    · rw [kind _ (by decide), told, under_append, extracts, under_objections]
      rw [if_neg (by decide), List.append_nil, List.map_map, List.map_map, List.map_map]
      rfl
  · rw [kind _ (by decide), told, under_append, none_, under_objections, if_pos rfl, List.nil_append,
      List.map_map]
    exact said_objections runId plan.check _
  · rw [List.map_append, List.map_singleton, List.getLast?_concat]
    exact ⟨_, rfl, rfl, rfl, rfl, rfl, rfl⟩

/-- How many jobs there are does not matter to what a collection that comes to an end answers. -/
theorem collect_of_jobs (reached : (collect w plan paths).outcome = .ok s) (jobs : Int) :
    (collect w { plan with jobs } paths).outcome = .ok s := by
  cases read : reads w plan.policy paths with
  | error e =>
    obtain ⟨⟨_, failed⟩, _⟩ := collect_of_failure read
    simp [failed] at reached
  | ok documents =>
    have other := @collect_of_reads w { plan with jobs } paths documents read
    exact (other.trans (collect_of_reads read).symm).trans reached

theorem scan_of_jobs (done : (scan w tokens plan paths out umask).2.outcome = .ok s) (jobs : Int) :
    (scan w tokens { plan with jobs } paths out umask).2.outcome = .ok s := by
  obtain ⟨reached, ends⟩ := scan_outcome_iff.mp done
  exact scan_outcome_iff.mpr ⟨collect_of_jobs reached jobs, ends⟩

theorem scan_perm (done : (scan w tokens plan paths out umask).2.outcome = .ok s) :
    (scan w tokens plan paths out umask).2.events.Perm (told w plan paths ++ [writtenEvent out s]) := by
  obtain ⟨reached, _⟩ := scan_outcome_iff.mp done
  rw [scan_events done]
  exact (collect_told reached).1.append_right _

theorem flat_of_scan (done : (scan w tokens plan paths out umask).2.outcome = .ok s) :
    ∀ e ∈ (scan w tokens plan paths out umask).2.events, e.Flat := by
  obtain ⟨reached, _, _, written⟩ := scan_outcome_iff.mp done
  have scalar := scalar_of_written written
  rw [summary_of_collect reached] at scalar
  intro e member
  rcases List.mem_append.mp ((scan_perm done).mem_iff.mp member) with inside | last
  · exact flat_of_told scalar inside
  · obtain rfl := List.mem_singleton.mp last
    exact flat_writtenEvent out s

end Scanning

/-- The log of a verbose run that writes objects and is not quiet. Where a scan comes to an end, each line
of its log is an object that names the run, and what the lines say adds up to what the scan answers: the
documents that were read, those left out, the blocks that were found, the errors in the order of the
report, and at the end the totals. With any other number of jobs the scan answers the same and says the
same, in another order at most and at other times. -/
theorem scan_log_adds_up (w : Workspace) (tokens : List String) (plan : Plan) (paths : List Path)
    (out : Path) (umask : Nat) (ctx : RunContext) (verbose : ctx.verbose = true)
    (quiet : ctx.quiet = false) (objects : ctx.logJson = true) {s : Summary}
    (done : (scan w tokens plan paths out umask).2.outcome = .ok s) :
    (∀ jobs, (scan w tokens { plan with jobs } paths out umask).2.outcome = .ok s) ∧
    ∀ stderr, Logged ctx (scan w tokens plan paths out umask).2.events stderr →
      ∃ records, Tells stderr records ∧ (∀ r ∈ records, r "run_id" = some (.text ctx.runId)) ∧
        Accounts records s ∧
        ∀ jobs stderr', Logged ctx (scan w tokens { plan with jobs } paths out umask).2.events stderr' →
          ∃ records', Tells stderr' records' ∧
            (records.map Record.untimed).Perm (records'.map Record.untimed) := by
  refine ⟨scan_of_jobs done, ?_⟩
  intro stderr logged
  obtain ⟨records, tells, same⟩ := logged.tells objects verbose quiet (flat_of_scan done)
  refine ⟨records, tells, ?_, ?_, ?_⟩
  · intro r member
    have member := List.mem_map_of_mem (f := Record.untimed) member
    rw [same] at member
    obtain ⟨e, _, equal⟩ := List.mem_map.mp member
    exact (congrFun equal "run_id").symm.trans said_common.2
  · apply Accounts.of_untimed
    rw [same, scan_events done]
    exact accounts_of_collect ctx.runId out (scan_outcome_iff.mp done).1
  · intro jobs stderr' logged'
    have done' := scan_of_jobs done jobs
    obtain ⟨records', tells', same'⟩ := logged'.tells objects verbose quiet (flat_of_scan done')
    refine ⟨records', tells', ?_⟩
    rw [same, same']
    exact ((scan_perm done).trans (scan_perm done').symm).map _

/-- Two jobs, and a document with a block that fails. -/
theorem scan_log_adds_up_shelf :
    let ctx : RunContext := ⟨"r", true, false, true⟩
    let plan : Plan := { language := "py", check := objector.check, jobs := 2 }
    let scanned := (scan shelf ["abcdefgh"] plan [Path.ofText "a.md"] (Path.ofText "report.json") usualMask).2
    let s : Summary := {
      report := [.ofBlock (Path.ofText "a.md") "x" (codePoints "bad x")], documents := 1, blocks := 1 }
    scanned.outcome = .ok s ∧
      ∃ stderr records, Logged ctx scanned.events stderr ∧ Tells stderr records ∧ Accounts records s := by
  intro ctx plan scanned s
  obtain ⟨u, written⟩ := writeReport_shelf
  have done : scanned.outcome = .ok s := scan_outcome_iff.mpr ⟨collect_shelf, u, _, written⟩
  obtain ⟨_, logs⟩ := scan_log_adds_up shelf ["abcdefgh"] plan [Path.ofText "a.md"]
    (Path.ofText "report.json") usualMask ctx rfl rfl rfl done
  obtain ⟨stderr, logged⟩ : ∃ stderr, Logged ctx scanned.events stderr := by
    refine exists_logged ctx fun e member => ?_
    have path : Path.ofText "a.md" = ⟨.relative, ["a.md"]⟩ := by decide
    have text : shelf.readText (Path.ofText "a.md") = .ok "```py\nx\n```\n".toList := path ▸ readText_shelf
    have block : Fence.extract "```py\nx\n```\n".toList (Path.ofText "a.md") "py" =
        [⟨Path.ofText "a.md", "x", 1⟩] := path ▸ extract_shelf
    have opening : opened shelf "py" (Path.ofText "a.md") =
        [readEvent ⟨Path.ofText "a.md", "```py\nx\n```\n".toList⟩,
          extractEvent ⟨Path.ofText "a.md", "```py\nx\n```\n".toList⟩ [⟨Path.ofText "a.md", "x", 1⟩]] := by
      simp only [opened, text, Document.blocks, block]
    have found : blocksAt shelf "py" (Path.ofText "a.md") = [⟨Path.ofText "a.md", "x", 1⟩] := by
      simp only [blocksAt, text, Document.blocks, block]
    have objecting : objections objector.check [⟨Path.ofText "a.md", "x", 1⟩] =
        [failureEvent ⟨Path.ofText "a.md", "x", 1⟩ (codePoints "bad x")] := by
      simp [objections, complaint_objector]
    have member := (scan_perm done).mem_iff.mp member
    simp only [told, List.flatMap_cons, List.flatMap_nil, List.append_nil, opening, found, objecting,
      List.mem_append, List.mem_cons, List.not_mem_nil, or_false, plan] at member
    rcases member with ((rfl | rfl) | rfl) | rfl <;> decide +kernel
  obtain ⟨records, tells, _, accounts, _⟩ := logs stderr logged
  exact ⟨done, stderr, records, logged, tells, accounts⟩

end Report
end FenceCheck
