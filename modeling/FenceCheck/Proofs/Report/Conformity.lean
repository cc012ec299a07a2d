import FenceCheck.Proofs.Failure
import FenceCheck.Proofs.Report.Acceptance
import FenceCheck.Proofs.Report.Documents
import FenceCheck.Report.Writing

/-! Reports always are as their schema demands, whatever the checker does. The scanner keeps no block
without content, a complaint always has a text, and so has the path of a document; none of the three
looks at the schema. -/
namespace FenceCheck
open FenceCheck.Text

namespace Path

theorem ne_empty_of_mem_ofText {text c : String} (member : c ∈ (Path.ofText text).parts) : c ≠ "" := by
  simp only [ofText, componentsOf] at member
  obtain ⟨piece, kept, rfl⟩ := List.mem_map.mp member
  have some_ : piece ≠ [] ∧ piece ≠ ['.'] := by simpa using (List.mem_filter.mp kept).2
  simpa using some_.1

theorem text_ne_empty {p : Path} (named : ∀ c ∈ p.parts, c ≠ "") : p.text ≠ "" := by
  rw [Path.text]
  split
  · decide
  · rename_i some_
    cases parts : p.parts with
    | nil =>
      cases anchor : p.anchor with
      | relative => exact absurd ⟨parts, anchor⟩ some_
      | root => decide
      | doubled => decide
    | cons c rest =>
      have first : c ≠ "" := named c (by simp [parts])
      cases rest with
      | nil => simp [first]
      | cons d rest =>
        intro nothing
        have lengths := congrArg String.length nothing
        simp [String.intercalate_cons_cons] at lengths

end Path

theorem ClassName.text_ne_empty (name : ClassName) : name.text ≠ "" := by
  intro nothing
  simpa [nothing] using name.named

/-- An exception is told by its text or by its label, and neither is empty. -/
theorem Exception.summary_ne_nil {e : Exception} {message : List CodePoint}
    (told : e.summary = .ok message) : message ≠ [] := by
  obtain ⟨text, _, told⟩ := exists_of_bind told
  obtain rfl := Except.ok.inj told
  split
  · exact fun nothing => e.label.text_ne_empty (codePoints_eq_nil.mp nothing)
  · assumption

namespace Number
variable {x : Binary64}

theorem positional_ne_nil (ds : List Char) (lead : Int) : positional ds lead ≠ [] := by
  rw [positional]
  split <;> simp

theorem scientific_ne_nil (ds : List Char) (lead : Int) : scientific ds lead ≠ [] := by
  simp [scientific]

theorem render_ne_empty (x : Binary64) : x.render ≠ "" := by
  rw [Binary64.render]
  split
  · decide
  · split <;> decide
  · dsimp only
    split
    · simp
    · split
      · simp
      · split
        · simpa using positional_ne_nil _ _
        · simpa using scientific_ne_nil _ _

theorem renderInt_ne_empty (n : Int) : renderInt n ≠ "" := by
  have digits : toString n.natAbs ≠ "" := by
    intro nothing
    have lengths := congrArg String.length nothing
    simp at lengths
  rw [renderInt]
  split
  · simp
  · exact digits

end Number

theorem Json.literal_ne_empty (v : Json) : v.literal ≠ "" := by
  cases v with
  | null => simp [literal]
  | bool b => cases b <;> simp [literal]
  | int n => exact Number.renderInt_ne_empty n
  | float x => exact Number.render_ne_empty x
  | string s => simp [literal, quotedPoints]
  | array items => simp [literal]
  | object members => simp [literal]

/-- The text of a value that counts as true is not empty. -/
theorem Json.shown_ne_nil {v : Json} {text : List CodePoint} (truthy : v.isTruthy = true)
    (told : v.shown = .ok text) : text ≠ [] := by
  have written (other : (v.literal?).map codePoints = .ok text) : text ≠ [] := by
    obtain ⟨s, written, rfl⟩ := exists_of_map other
    rw [literal?] at written
    split at written
    · rw [ne_eq, codePoints_eq_nil, ← Except.ok.inj written]
      exact v.literal_ne_empty
    · contradiction
  cases v with
  | string s =>
    obtain rfl := Except.ok.inj told
    simpa [isTruthy] using truthy
  | _ => exact written told

/-- Whatever a checker does, a block that it fails has a message. -/
theorem message_ne_nil_of_validate {check : Checker} {source : String} {message : List CodePoint}
    (failed : validate check source = .ok (.failed message)) : message ≠ [] := by
  rw [validate] at failed
  cases reply : check source with
  | answered v =>
    rw [reply, Reply.verdict] at failed
    split at failed
    · rename_i truthy
      obtain ⟨_, told, same⟩ := exists_of_map (ok_of_mapError failed)
      obtain rfl := Verdict.failed.inj same
      exact Json.shown_ne_nil truthy told
    · simp at failed
  | raised e =>
    rw [reply, Reply.verdict] at failed
    obtain ⟨_, told, same⟩ := exists_of_map (ok_of_mapError failed)
    obtain rfl := Verdict.failed.inj same
    exact Exception.summary_ne_nil told
  | interrupted i => simp [reply, Reply.verdict] at failed

/-- The scanner keeps trimmed contents, and no empty ones. -/
theorem Fence.content_of_mem_extract {text : List Char} {file : Path} {language : String} {b : Block}
    (member : b ∈ extract text file language) : b.content ≠ "" ∧ strip b.content = b.content := by
  obtain ⟨_, _, s, _, found⟩ := exists_span_of_mem_extract member
  obtain ⟨some_, rfl⟩ := blockOf?_eq_some_iff.mp found
  exact ⟨some_, strip_strip _⟩

namespace Report
open Trace
variable {w : Workspace} {plan : Plan} {paths : List Path}

theorem path_of_readDocument {policy : ReadPolicy} {p : Path} {d : Document}
    (read : (readDocument w policy p).outcome = .ok (some d)) : d.path = p := by
  cases text : w.readText p with
  | ok text =>
    rw [readDocument_of_text text] at read
    obtain rfl : (⟨p, _⟩ : Document) = d := by simpa using read
    rfl
  | error f =>
    simp only [readDocument, Document.read, text, error_bind] at read
    split at read
    · simp at read
    · split at read <;> simp at read

theorem path_mem_of_reads {policy : ReadPolicy} {documents : List Document}
    (read : reads w policy paths = .ok documents) {d : Document} (member : d ∈ documents) :
    d.path ∈ paths := by
  induction paths generalizing documents with
  | nil =>
    cases read
    simp at member
  | cons p rest ih =>
    rcases reads_cons_cases read with ⟨_, read⟩ | ⟨d', more, first, later, rfl⟩
    · exact List.mem_cons_of_mem p (ih read member)
    · rcases List.mem_cons.mp member with rfl | inRest
      · simp [path_of_readDocument first]
      · exact List.mem_cons_of_mem p (ih later inRest)

theorem mem_of_verdicts {check : Checker} {blocks : List Fence.Block}
    {judged : List (Fence.Block × Verdict)} (all : verdicts check blocks = .ok judged)
    {b : Fence.Block} {verdict : Verdict} (member : (b, verdict) ∈ judged) :
    b ∈ blocks ∧ validate check b.content = .ok verdict := by
  induction blocks generalizing judged with
  | nil =>
    cases all
    simp at member
  | cons b' rest ih =>
    obtain ⟨verdict', more, first, later, rfl⟩ := exists_of_verdicts_cons all
    rcases List.mem_cons.mp member with same | inRest
    · obtain ⟨rfl, rfl⟩ := Prod.mk.inj same
      exact ⟨List.mem_cons_self, first⟩
    · obtain ⟨inBlocks, judged⟩ := ih later inRest
      exact ⟨List.mem_cons_of_mem b' inBlocks, judged⟩

/-- An entry of a report is a block of a document that was given, with what the checker said of it. -/
theorem entry_of_collect {s : Summary} (collected : (collect w plan paths).outcome = .ok s)
    {e : Entry} (member : e ∈ s.report) : ∃ d : Document, d.path ∈ paths ∧
      ∃ b ∈ Fence.extract d.text d.path plan.language,
        e = .ofBlock b.file b.content e.message ∧
          validate plan.check b.content = .ok (.failed e.message) := by
  cases read : reads w plan.policy paths with
  | error e =>
    obtain ⟨⟨e', failed⟩, _⟩ := collect_of_failure read
    simp [failed] at collected
  | ok documents =>
    rw [collect_of_reads read] at collected
    split at collected
    · contradiction
    · rename_i judged all
      obtain rfl := Except.ok.inj collected
      simp only [Summary.extend, List.nil_append, entriesOf, failures, List.mem_map,
        List.mem_filterMap] at member
      obtain ⟨⟨b, message⟩, ⟨⟨b', verdict⟩, inJudged, failed⟩, rfl⟩ := member
      cases verdict with
      | ok => simp at failed
      | failed message' =>
        obtain ⟨rfl, rfl⟩ : b' = b ∧ message' = message := by simpa using failed
        obtain ⟨inBlocks, validated⟩ := mem_of_verdicts all inJudged
        obtain ⟨d, inDocuments, found⟩ := List.mem_flatMap.mp inBlocks
        exact ⟨d, path_mem_of_reads read inDocuments, b', found, rfl, validated⟩

/-- The run error of a document that cannot be read. -/
def IsReadFault (e : RunError) : Prop :=
  e.kind = "read_fault" ∧ e.code = 14

theorem readDocument_contained (w : Workspace) (policy : ReadPolicy) (p : Path) :
    Contained IsReadFault (readDocument w policy p).outcome := by
  cases text : w.readText p with
  | ok text =>
    rw [readDocument_of_text text]
    exact .ok _
  | error f =>
    simp only [readDocument, Document.read, text, error_bind]
    split
    · exact .fault f
    · split
      · exact .ok none
      · exact .run ⟨rfl, rfl⟩

theorem reads_contained (w : Workspace) (policy : ReadPolicy) (paths : List Path) :
    Contained IsReadFault (reads w policy paths) := by
  induction paths with
  | nil => exact .ok []
  | cons p rest ih =>
    have first := readDocument_contained w policy p
    rw [reads]
    split
    · rename_i e failed
      rw [failed] at first
      exact first.of_error
    · exact ih
    · exact ih.map

/-- Where each block gets a verdict, no collection is interrupted. -/
theorem collect_contained (settles : plan.check.Settles) (paths : List Path) :
    Contained IsReadFault (collect w plan paths).outcome := by
  rw [collect_of_settles settles]
  exact (reads_contained w plan.policy paths).map

/-- The run error of a report that cannot be written. -/
def IsWriteFault (e : RunError) : Prop :=
  e.kind = "write_fault" ∧ e.code = 17

theorem writeFailure_contained {α : Type} (out : Path) (f : Fault) :
    Contained IsWriteFault (.error (writeFailure out f) : Outcome α) := by
  unfold writeFailure
  split
  · exact .run ⟨rfl, rfl⟩
  · exact .fault f

/-- A scan fails as the collection does, or as the writing does, and else comes to what was collected. -/
theorem scan_cases (w : Workspace) (tokens : List String) (plan : Plan) (paths : List Path) (out : Path)
    (umask : Nat) :
    let events := (collect w plan paths).events
    (∃ e, (collect w plan paths).outcome = .error e ∧
      scan w tokens plan paths out umask = (w, ⟨events, .error e⟩)) ∨
    ∃ s, (collect w plan paths).outcome = .ok s ∧
      ((∃ v e, writeReport w tokens s.report out umask = (v, .error e) ∧
        scan w tokens plan paths out umask = (v, ⟨events, .error e⟩)) ∨
      ∃ v p, writeReport w tokens s.report out umask = (v, .ok p) ∧
        scan w tokens plan paths out umask = (v, ⟨events ++ [writtenEvent out s], .ok s⟩)) := by
  intro events
  simp only [scan]
  cases collected : (collect w plan paths).outcome with
  | error e => exact Or.inl ⟨e, rfl, rfl⟩
  | ok s =>
    refine Or.inr ⟨s, rfl, ?_⟩
    cases written : writeReport w tokens s.report out umask with
    | mk v r =>
      cases r with
      | error e => exact Or.inl ⟨v, e, rfl, by simp only [written, events]⟩
      | ok p => exact Or.inr ⟨v, p, rfl, by simp only [written, events]⟩

end Report
end FenceCheck
