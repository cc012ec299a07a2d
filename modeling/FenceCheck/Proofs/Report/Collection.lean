import FenceCheck.Proofs.Report.Pool

/-! What a collection comes to, and why the number of jobs does not matter. Both ways of collecting read
the same documents in the same order; they differ in when blocks are judged. Where reading fails and
where a judgement fails are kept apart, since only these two can end a collection early. -/
namespace FenceCheck
open FenceCheck.Text

/-- The checker never asks the program to end. -/
def Checker.Steady (check : Checker) : Prop :=
  ∀ source i, check source ≠ .interrupted i

/-- Each source text gets a verdict. -/
def Checker.Settles (check : Checker) : Prop :=
  ∀ source, ∃ verdict, validate check source = .ok verdict

/-- What a reply complains about, if it does: a value that counts as true, or an exception. -/
def Reply.complaint? : Reply → Option (List CodePoint)
  | .answered v => if v.isTruthy then v.shown.toOption else none
  | .raised e => e.summary.toOption
  | .interrupted _ => none

/-- The verdict that a complaint stands for. -/
def Verdict.ofComplaint : Option (List CodePoint) → Verdict
  | some message => .failed message
  | none => .ok

theorem Exception.summary_of_text {e : Exception} {text : List CodePoint} (told : e.text = .ok text) :
    ∃ message, e.summary = .ok message := by
  simp [summary, told]

/-- What a parser replies is settled, unless it is a request to end the program. -/
theorem Parser.settles (parser : Parser) (steady : parser.check.Steady) : parser.check.Settles := by
  intro source
  have told := parser.told source
  rw [validate]
  cases reply : parser.check source with
  | interrupted i => exact absurd reply (steady source i)
  | raised e =>
    obtain ⟨text, shown⟩ : ∃ text, e.text = .ok text := by rwa [reply] at told
    obtain ⟨message, summed⟩ := e.summary_of_text shown
    exact ⟨.failed message, by rw [Reply.verdict, summed]; rfl⟩
  | answered v =>
    rw [Reply.verdict]
    split
    · rename_i truthy
      rw [reply] at told
      obtain ⟨text, shown⟩ := told truthy
      exact ⟨.failed text, by rw [shown]; rfl⟩
    · exact ⟨.ok, rfl⟩

/-- A verdict is what the reply complains about. -/
theorem eq_ofComplaint_of_validate {check : Checker} {source : String} {verdict : Verdict}
    (judged : validate check source = .ok verdict) :
    verdict = .ofComplaint (check source).complaint? := by
  rw [validate] at judged
  cases reply : check source with
  | interrupted i => simp [reply, Reply.verdict] at judged
  | raised e =>
    rw [reply, Reply.verdict] at judged
    obtain ⟨message, summed, rfl⟩ := exists_of_map (ok_of_mapError judged)
    rw [Reply.complaint?, summed]
    rfl
  | answered v =>
    rw [reply, Reply.verdict] at judged
    rw [Reply.complaint?]
    split at judged
    · rename_i truthy
      obtain ⟨message, shown, rfl⟩ := exists_of_map (ok_of_mapError judged)
      rw [if_pos truthy, shown]
      rfl
    · rename_i falsy
      rw [if_neg falsy]
      exact (Except.ok.inj judged).symm

theorem Checker.Settles.validate_eq {check : Checker} (settles : check.Settles) (source : String) :
    validate check source = .ok (.ofComplaint (check source).complaint?) := by
  obtain ⟨verdict, judged⟩ := settles source
  rw [judged, eq_ofComplaint_of_validate judged]

namespace Report
open Trace

/-- The documents that are read, or the failure that ends the reading. -/
def reads (w : Workspace) (policy : ReadPolicy) : List Path → Outcome (List Document)
  | [] => .ok []
  | p :: rest =>
    match (readDocument w policy p).outcome with
    | .error e => .error e
    | .ok none => reads w policy rest
    | .ok (some d) => (reads w policy rest).map (d :: ·)

/-- The blocks of a document in a language. -/
def Document.blocks (language : String) (d : Document) : List Fence.Block :=
  Fence.extract d.text d.path language

/-- The entries of the blocks that failed. -/
def entriesOf (judged : List (Fence.Block × Verdict)) : List Entry :=
  (failures judged).map fun (b, message) => .ofBlock b.file b.content message

/-- What `done` comes to after more documents, of so many paths, and their judged blocks. -/
def Summary.extend (done : Summary) (paths : Nat) (documents : Nat)
    (judged : List (Fence.Block × Verdict)) (blocks : Nat) : Summary where
  report := done.report ++ entriesOf judged
  documents := done.documents + documents
  skipped := done.skipped + (paths - documents)
  blocks := done.blocks + blocks

@[simp] theorem entriesOf_nil : entriesOf [] = [] := rfl

theorem entriesOf_append (a b : List (Fence.Block × Verdict)) :
    entriesOf (a ++ b) = entriesOf a ++ entriesOf b := by
  simp [entriesOf, failures]

@[simp] theorem outcome_enter_ok (judged : List (Fence.Block × Verdict)) :
    (enter (.ok judged)).outcome = .ok (entriesOf judged) := rfl

@[simp] theorem outcome_enter_error (e : Failure) : (enter (.error e)).outcome = .error e := rfl

/-- What is read of the first path is nothing, or the document that comes first. -/
theorem reads_cons_cases {w : Workspace} {policy : ReadPolicy} {p : Path} {rest : List Path}
    {documents : List Document} (read : reads w policy (p :: rest) = .ok documents) :
    ((readDocument w policy p).outcome = .ok none ∧ reads w policy rest = .ok documents) ∨
      ∃ d more, (readDocument w policy p).outcome = .ok (some d) ∧ reads w policy rest = .ok more ∧
        documents = d :: more := by
  simp only [reads] at read
  split at read
  · contradiction
  · exact .inl ⟨‹_›, read⟩
  · rename_i d first
    obtain ⟨more, later, same⟩ := exists_of_map read
    exact .inr ⟨d, more, first, later, same.symm⟩

theorem exists_of_verdicts_cons {check : Checker} {b : Fence.Block} {rest : List Fence.Block}
    {judged : List (Fence.Block × Verdict)} (ran : verdicts check (b :: rest) = .ok judged) :
    ∃ verdict more, validate check b.content = .ok verdict ∧ verdicts check rest = .ok more ∧
      judged = (b, verdict) :: more := by
  rw [verdicts] at ran
  obtain ⟨verdict, first, ran⟩ := exists_of_bind ran
  obtain ⟨more, later, ran⟩ := exists_of_bind ran
  exact ⟨verdict, more, first, later, (Except.ok.inj ran).symm⟩

theorem reads_length {w : Workspace} {policy : ReadPolicy} {paths : List Path}
    {documents : List Document} (read : reads w policy paths = .ok documents) :
    documents.length ≤ paths.length := by
  induction paths generalizing documents with
  | nil =>
    cases read
    simp
  | cons p rest ih =>
    rcases reads_cons_cases read with ⟨_, read⟩ | ⟨d, more, _, later, rfl⟩
    · exact Nat.le_succ_of_le (ih read)
    · simpa using ih later

theorem verdicts_append (check : Checker) (a b : List Fence.Block) :
    verdicts check (a ++ b) =
      match verdicts check a with
      | .error e => .error e
      | .ok first => (verdicts check b).map (first ++ ·) := by
  induction a with
  | nil =>
    simp only [List.nil_append, verdicts]
    cases verdicts check b <;> rfl
  | cons block a ih =>
    simp only [List.cons_append, verdicts, ih]
    cases validate check block.content with
    | error e => rfl
    | ok verdict =>
      cases verdicts check a with
      | error e => rfl
      | ok first => cases verdicts check b <;> rfl

theorem gather_outcome (w : Workspace) (plan : Plan) (paths : List Path) :
    (gather w plan paths).outcome = (reads w plan.policy paths).map
      fun documents => (documents.length, documents.flatMap (Document.blocks plan.language)) := by
  induction paths with
  | nil => rfl
  | cons p rest ih =>
    simp only [gather, reads, outcome_bind]
    cases (readDocument w plan.policy p).outcome with
    | error e => rfl
    | ok read =>
      cases read with
      | none => exact ih
      | some d =>
        simp only [ok_bind, outcome_bind, ih, findBlocks, outcome_log, outcome_pure]
        cases reads w plan.policy rest <;> rfl

/-- One document after another: once all can be read, only the judgements decide. -/
theorem collectEach_of_reads {w : Workspace} {plan : Plan} {paths : List Path}
    {documents : List Document} (read : reads w plan.policy paths = .ok documents) (done : Summary) :
    (collectEach w plan done paths).outcome =
      match verdicts plan.check (documents.flatMap (Document.blocks plan.language)) with
      | .error e => .error e
      | .ok judged => .ok (done.extend paths.length documents.length judged
          (documents.flatMap (Document.blocks plan.language)).length) := by
  induction paths generalizing done documents with
  | nil =>
    cases read
    simp [collectEach, verdicts, Summary.extend]
  | cons p rest ih =>
    simp only [collectEach, outcome_bind]
    rcases reads_cons_cases read with ⟨first, read⟩ | ⟨d, more, first, later, rfl⟩
    · have bound := reads_length read
      have skipped : done.skipped + 1 + (rest.length - documents.length) =
          done.skipped + (rest.length + 1 - documents.length) := by omega
      simp only [first, ok_bind, ih read]
      split <;> simp [Summary.extend, skipped]
    · simp only [first, ok_bind, outcome_bind, findBlocks, outcome_log, outcome_pure, judge,
        List.flatMap_cons, verdicts_append, Document.blocks]
      cases verdicts plan.check (Fence.extract d.text d.path plan.language) with
      | error e => rfl
      | ok judged =>
        simp only [outcome_enter_ok, ok_bind, ih later]
        cases verdicts plan.check (more.flatMap (Document.blocks plan.language)) with
        | error e => rfl
        | ok others =>
          simp only [map_ok, Summary.extend, entriesOf_append, List.append_assoc,
            List.length_append, List.length_cons, Nat.add_sub_add_right, Except.ok.injEq]
          congr 1 <;> omega

/-- A failure to read ends the collection, and is what is told unless a judgement before it failed. -/
theorem collectEach_of_failure {w : Workspace} {plan : Plan} {paths : List Path} {e : Failure}
    (read : reads w plan.policy paths = .error e) (done : Summary) :
    (∃ e', (collectEach w plan done paths).outcome = .error e') ∧
      ((∀ blocks e', verdicts plan.check blocks ≠ .error e') →
        (collectEach w plan done paths).outcome = .error e) := by
  induction paths generalizing done with
  | nil => cases read
  | cons p rest ih =>
    simp only [reads] at read
    simp only [collectEach, outcome_bind]
    cases first : (readDocument w plan.policy p).outcome with
    | error e' =>
      obtain rfl : e' = e := by simpa [first] using read
      exact ⟨⟨e', rfl⟩, fun _ => rfl⟩
    | ok opened =>
      cases opened with
      | none => exact ih (by simpa [first] using read) _
      | some d =>
        have later : reads w plan.policy rest = .error e := by
          cases h : reads w plan.policy rest with
          | error e' => simpa [first, h] using read
          | ok more => simp [first, h] at read
        simp only [ok_bind, outcome_bind, findBlocks, outcome_log, outcome_pure, judge]
        cases judged : verdicts plan.check (Fence.extract d.text d.path plan.language) with
        | error e' => exact ⟨⟨_, rfl⟩, fun settled => absurd judged (settled _ e')⟩
        | ok judged => exact ih later _

theorem collectBatch_outcome (w : Workspace) (plan : Plan)
    (judgeAll : List Fence.Block → Outcome (List (Fence.Block × Verdict)))
    (paths : List Path) :
    (collectBatch w plan judgeAll paths).outcome =
      match reads w plan.policy paths with
      | .error e => .error e
      | .ok documents =>
        match judgeAll (documents.flatMap (Document.blocks plan.language)) with
        | .error e => .error e
        | .ok judged => .ok (Summary.extend {} paths.length documents.length judged
            (documents.flatMap (Document.blocks plan.language)).length) := by
  simp only [collectBatch, outcome_bind, gather_outcome]
  cases reads w plan.policy paths with
  | error e => rfl
  | ok documents =>
    simp only [map_ok, ok_bind]
    cases judgeAll (documents.flatMap (Document.blocks plan.language)) with
    | error e => rfl
    | ok judged => simp [Summary.extend]

/-- The entries of the blocks of which the checker complains. -/
def complaints (check : Checker) (blocks : List Fence.Block) : List Entry :=
  blocks.filterMap fun b => (check b.content).complaint?.map (.ofBlock b.file b.content ·)

theorem verdicts_of_settles {check : Checker} (settles : check.Settles) (blocks : List Fence.Block) :
    verdicts check blocks =
      .ok (blocks.map fun b => (b, .ofComplaint (check b.content).complaint?)) := by
  induction blocks with
  | nil => rfl
  | cons b rest ih =>
    simp only [verdicts, settles.validate_eq, ih]
    rfl

theorem entriesOf_complaints (check : Checker) (blocks : List Fence.Block) :
    entriesOf (blocks.map fun b => (b, .ofComplaint (check b.content).complaint?)) =
      complaints check blocks := by
  simp only [entriesOf, failures, complaints, List.filterMap_map, List.map_filterMap]
  congr 1
  funext b
  cases reply : (check b.content).complaint? <;> simp [reply, Verdict.ofComplaint]

theorem collect_of_reads {w : Workspace} {plan : Plan} {paths : List Path}
    {documents : List Document} (read : reads w plan.policy paths = .ok documents) :
    (collect w plan paths).outcome =
      match verdicts plan.check (documents.flatMap (Document.blocks plan.language)) with
      | .error e => .error e
      | .ok judged => .ok (Summary.extend {} paths.length documents.length judged
          (documents.flatMap (Document.blocks plan.language)).length) := by
  by_cases several : 1 < plan.jobs
  · rw [collect, if_pos several, collectBatch_outcome, read]
  · rw [collect, if_neg several, collectEach_of_reads read]

theorem collect_of_failure {w : Workspace} {plan : Plan} {paths : List Path} {e : Failure}
    (read : reads w plan.policy paths = .error e) :
    (∃ e', (collect w plan paths).outcome = .error e') ∧
      (plan.check.Settles → (collect w plan paths).outcome = .error e) := by
  by_cases several : 1 < plan.jobs
  · have failed : (collect w plan paths).outcome = .error e := by
      rw [collect, if_pos several, collectBatch_outcome, read]
    exact ⟨⟨e, failed⟩, fun _ => failed⟩
  · rw [collect, if_neg several]
    obtain ⟨fails, told⟩ := collectEach_of_failure read {}
    refine ⟨fails, fun settles => told ?_⟩
    intro blocks e' failed
    simp [verdicts_of_settles settles] at failed

/-- Where each block gets a verdict, a collection comes to what reading comes to. -/
theorem collect_of_settles {w : Workspace} {plan : Plan} (settles : plan.check.Settles)
    (paths : List Path) :
    (collect w plan paths).outcome = (reads w plan.policy paths).map fun documents =>
      { report := complaints plan.check (documents.flatMap (Document.blocks plan.language))
        documents := documents.length
        skipped := paths.length - documents.length
        blocks := (documents.flatMap (Document.blocks plan.language)).length } := by
  cases read : reads w plan.policy paths with
  | error e => exact (collect_of_failure read).2 settles
  | ok documents =>
    simp [collect_of_reads read, verdicts_of_settles settles, Summary.extend, entriesOf_complaints]

/-- A document with one block, and a file that is no text. -/
def shelf : Workspace where
  tree := ⟨[(["a.md"], .file 0o644 (Text.Utf8.encode "```py\nx\n```\n".toList)),
    (["b.md"], .file 0o644 [0xff])]⟩
  cwd := []

/-- A parser that objects to all it is shown. -/
def objector : Parser where
  check source := .answered (.text ("bad " ++ source))
  told _ _ := ⟨_, rfl⟩

theorem objector_steady : objector.check.Steady := by
  intro source i asked
  cases asked

theorem extract_shelf : Fence.extract "```py\nx\n```\n".toList ⟨.relative, ["a.md"]⟩ "py" =
    [⟨⟨.relative, ["a.md"]⟩, "x", 1⟩] := by decide +kernel

theorem complaint_objector : (objector.check "x").complaint? = some (codePoints "bad x") := by
  decide +kernel

end Report
end FenceCheck
