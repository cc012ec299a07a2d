import FenceCheck.Proofs.Fence.Reading
import FenceCheck.Proofs.Json.OneLine
import FenceCheck.Proofs.Report.Documents
import FenceCheck.Proofs.Report.RoundTrip
import FenceCheck.Proofs.Text.Lines

/-! Reports as documents. Whatever the strings of a report hold, a line of its text begins with a bracket
or with indentation, since line feeds in strings are escaped; so no line opens a block. Main statement: a
report among the documents of a run is read, and adds nothing to what the run finds. -/
namespace FenceCheck

namespace Text

/-- A character with which the printer goes on behind a line feed: indentation, or a closing bracket. -/
def IsMargin (c : Char) : Prop :=
  c = ' ' ∨ c = ']' ∨ c = '}'

/-- A text in which a line feed has one of these characters behind it. -/
inductive Ruled : List Char → Prop where
  | nil : Ruled []
  | plain {c rest} : c ≠ '\n' → Ruled rest → Ruled (c :: rest)
  | feed {c rest} : IsMargin c → Ruled (c :: rest) → Ruled ('\n' :: c :: rest)

section Lines
variable {text rest : List Char}

theorem IsMargin.ne_feed {c : Char} (margin : IsMargin c) : c ≠ '\n' := by
  rcases margin with rfl | rfl | rfl <;> decide

theorem Ruled.append (first : Ruled text) (second : Ruled rest) : Ruled (text ++ rest) := by
  induction first with
  | nil => exact second
  | plain other _ ih => exact .plain other ih
  | feed margin _ ih => exact .feed margin ih

theorem Ruled.of_unbroken (unbroken : ∀ c ∈ text, c ≠ '\n') : Ruled text := by
  induction text with
  | nil => exact .nil
  | cons c rest ih =>
    obtain ⟨here, later⟩ := List.forall_mem_cons.mp unbroken
    exact .plain here (ih later)

theorem Ruled.flatMap {α : Type} {f : α → List Char} {parts : List α}
    (each : ∀ part ∈ parts, Ruled (f part)) : Ruled (parts.flatMap f) := by
  induction parts with
  | nil => exact .nil
  | cons part parts ih =>
    obtain ⟨here, later⟩ := List.forall_mem_cons.mp each
    rw [List.flatMap_cons]
    exact here.append (ih later)

/-- A character that is no line feed stands at the start of the first line. -/
theorem splitAtFeeds_cons {c : Char} (other : c ≠ '\n') (rest : List Char) : ∃ line more,
    splitAtFeeds rest = line :: more ∧ splitAtFeeds (c :: rest) = (c :: line) :: more := by
  cases pieces : splitAtFeeds rest with
  | nil => exact absurd pieces (splitAtFeeds_ne_nil rest)
  | cons line more => exact ⟨line, more, rfl, by rw [splitAtFeeds, if_neg other, pieces]⟩

/-- Each line but the first begins as the printer begins lines. -/
theorem Ruled.lines (ruled : Ruled text) : ∀ line ∈ (splitAtFeeds text).tail,
    ∃ c more, line = c :: more ∧ IsMargin c := by
  induction ruled with
  | nil => simp [splitAtFeeds]
  | @plain c rest other _ ih =>
    obtain ⟨line, more, pieces, whole⟩ := splitAtFeeds_cons other rest
    rw [pieces] at ih
    rw [whole]
    exact ih
  | @feed c rest margin _ ih =>
    obtain ⟨line, more, _, whole⟩ := splitAtFeeds_cons margin.ne_feed rest
    rw [whole] at ih
    rw [splitAtFeeds, if_pos rfl, List.tail_cons, whole, List.forall_mem_cons]
    exact ⟨⟨c, line, rfl, margin⟩, ih⟩

theorem trimReturn_cons {c : Char} (other : c ≠ '\r') (rest : List Char) :
    ∃ more, trimReturn (c :: rest) = c :: more := by
  rw [trimReturn]
  split
  · rename_i last
    cases rest with
    | nil => exact absurd (Option.some.inj last) other
    | cons d rest => exact ⟨(d :: rest).dropLast, List.dropLast_cons_cons⟩
  · exact ⟨rest, rfl⟩

/-- The lines of a text that ends with a line feed begin with what it begins with, or as the printer begins
lines. -/
theorem Ruled.splitLines {c : Char} (ruled : Ruled (c :: text)) (first : c ≠ '\n') (firstPlain : c ≠ '\r') :
    ∀ line ∈ splitLines (c :: text ++ ['\n']), ∃ d more, line = d :: more ∧ (d = c ∨ IsMargin d) := by
  obtain ⟨start, others, _, whole⟩ := splitAtFeeds_cons first text
  have lines := ruled.lines
  rw [whole, List.tail_cons] at lines
  have nothing : Text.splitLines [] = [] := rfl
  rw [splitLines_append_feed, whole, nothing, List.append_nil, List.map_cons, List.forall_mem_cons]
  constructor
  · obtain ⟨more, trimmed⟩ := trimReturn_cons firstPlain start
    exact ⟨c, more, trimmed, .inl rfl⟩
  · intro line member
    obtain ⟨piece, inPieces, rfl⟩ := List.mem_map.mp member
    obtain ⟨d, more, rfl, margin⟩ := lines piece inPieces
    have plain : d ≠ '\r' := by
      rcases margin with rfl | rfl | rfl <;> decide
    obtain ⟨kept, trimmed⟩ := trimReturn_cons plain more
    exact ⟨d, kept, trimmed, .inr margin⟩

end Lines
end Text

namespace Json
open Text
variable {layout : Layout}

theorem ruled_spaces (width : Nat) : Ruled (List.replicate width ' ') := by
  refine .of_unbroken fun c member => ?_
  obtain rfl := List.eq_of_mem_replicate member
  decide

/-- A new line inside of a container is indented. -/
theorem ruled_newLine (level : Nat) : Ruled (chars (newLine (level + 1))) := by
  have width : 2 * (level + 1) = 2 * level + 1 + 1 := by omega
  rw [newLine, chars_points, width, List.replicate_succ]
  exact .feed (.inl rfl) (ruled_spaces (2 * level + 1 + 1))

/-- A new line that is not indented holds the bracket that closes the outermost container. -/
theorem ruled_newLine_closing (level : Nat) {closing : Char} (margin : IsMargin closing) :
    Ruled (chars (newLine level) ++ [closing]) := by
  have ending : Ruled [closing] := .plain margin.ne_feed .nil
  cases level with
  | zero =>
    rw [newLine, chars_points]
    exact .feed margin ending
  | succ level => exact (ruled_newLine level).append ending

theorem ruled_enclose (level : Nat) {opening closing : Char} (opens : opening ≠ '\n')
    (margin : IsMargin closing) {texts : List (List CodePoint)} (inner : ∀ t ∈ texts, Ruled (chars t)) :
    Ruled (chars (enclose layout level opening closing texts)) := by
  have ending : Ruled [closing] := .plain margin.ne_feed .nil
  cases texts with
  | nil => simpa [enclose] using Ruled.plain opens ending
  | cons first more =>
    obtain ⟨head, tail⟩ := List.forall_mem_cons.mp inner
    obtain ⟨start, separator, finish, whole, ruledStart, ruledSeparator, ruledFinish⟩ :
        ∃ start separator finish, chars (enclose layout level opening closing (first :: more)) =
          opening :: (start ++ (chars first ++ (more.flatMap (fun t => separator ++ chars t) ++ finish))) ∧
          Ruled start ∧ Ruled separator ∧ Ruled finish := by
      cases spread : layout.spread with
      | true =>
        refine ⟨chars (newLine (level + 1)), ',' :: chars (newLine (level + 1)),
          chars (newLine level) ++ [closing], ?_, ruled_newLine level,
          .plain (by decide) (ruled_newLine level), ruled_newLine_closing level margin⟩
        simp [enclose, spread, chars, List.map_flatMap]
      | false =>
        refine ⟨[], [',', ' '], [closing], ?_, .nil, .of_unbroken (by simp), ending⟩
        simp [enclose, spread, points, chars, List.map_flatMap]
    rw [whole]
    exact .plain opens (ruledStart.append (head.append ((Ruled.flatMap fun t member =>
      ruledSeparator.append (tail t member)).append ruledFinish)))

/-- What is written for a code point never ends a line, be it a surrogate. -/
theorem ne_feed_of_escape (ascii : Bool) (p : CodePoint) : ∀ c ∈ chars (escape ascii p), c ≠ '\n' := by
  intro c member
  rcases escape_cases ascii p with ⟨d, _, written, printable, _⟩ | written | ⟨written, _, _, printable⟩
  · rw [written, chars_points, List.mem_cons, List.mem_singleton] at member
    rcases member with rfl | rfl
    · decide
    · rintro rfl
      exact absurd printable (by decide)
  · rw [written, chars_points] at member
    exact (printable_numberEscape _ c member).ne_feed
  · obtain rfl : c = p.toChar := by simpa [written] using member
    rw [ne_eq, toChar_eq_feed_iff]
    omega

theorem ruled_renderString (ascii : Bool) (s : List CodePoint) : Ruled (chars (renderString ascii s)) := by
  have mark : '"' ≠ '\n' := by decide
  rw [renderString, chars_cons, chars_append, CodePoint.toChar_ofChar]
  refine .plain mark (.append ?_ (.plain mark .nil))
  rw [chars, List.map_flatMap]
  exact .flatMap fun p _ => .of_unbroken (ne_feed_of_escape ascii p)

theorem ruled_of_printable {text : List Char} (printable : ∀ c ∈ text, Printable c) : Ruled text :=
  .of_unbroken fun c member => (printable c member).ne_feed

mutual

/-- Whatever a value holds, its text is ruled. -/
theorem ruled_renderAt (layout : Layout) (level : Nat) : ∀ v : Json, Ruled (chars (renderAt layout level v))
  | .null => by
    rw [renderAt, chars_points]
    exact ruled_of_printable (printable_of_all (by decide))
  | .bool b => by
    rw [renderAt, chars_points]
    cases b <;> exact ruled_of_printable (printable_of_all (by decide))
  | .int n => by
    rw [renderAt, chars_points]
    exact ruled_of_printable (printable_renderInt n)
  | .float x => by
    rw [renderAt, chars_points]
    exact ruled_of_printable (printable_renderFloat x)
  | .string s => by
    rw [renderAt]
    exact ruled_renderString layout.ascii s
  | .array items => by
    rw [renderAt]
    exact ruled_enclose level (by decide) (.inr (.inl rfl)) (ruled_renderItems layout (level + 1) items)
  | .object members => by
    rw [renderAt]
    refine ruled_enclose level (by decide) (.inr (.inr rfl)) ?_
    intro t member
    obtain ⟨m, sorted, rfl⟩ := List.mem_map.mp member
    simp only [chars_append, chars_points]
    refine ((ruled_renderString layout.ascii m.1).append (.of_unbroken (by simp))).append ?_
    exact ruled_renderMembers layout (level + 1) members m (List.mem_mergeSort.mp sorted)

theorem ruled_renderItems (layout : Layout) (level : Nat) : ∀ items : List Json,
    ∀ t ∈ renderItems layout level items, Ruled (chars t)
  | [] => by simp [renderItems]
  | v :: rest => by
    rw [renderItems, List.forall_mem_cons]
    exact ⟨ruled_renderAt layout level v, ruled_renderItems layout level rest⟩

theorem ruled_renderMembers (layout : Layout) (level : Nat) : ∀ members : Members,
    ∀ m ∈ renderMembers layout level members, Ruled (chars m.2)
  | [] => by simp [renderMembers]
  | (_, v) :: rest => by
    rw [renderMembers, List.forall_mem_cons]
    exact ⟨ruled_renderAt layout level v, ruled_renderMembers layout level rest⟩

end

end Json

namespace Fence
open Text

/-- A text of which no line begins with a backtick has no blocks, whatever the language. -/
theorem extract_eq_nil {text : List Char} (plain : ∀ line ∈ splitLines text, ∀ c ∈ line.head?, c ≠ '`')
    (file : Path) (language : String) : extract text file language = [] := by
  have quiet : ∀ line ∈ splitLines text, ¬ Opens (openMarker language) line := by
    rintro line member ⟨tail, rfl⟩
    exact plain _ member '`' rfl rfl
  rw [extract, scan_skip rfl 1 quiet]
  rfl

end Fence

namespace Report
open Text Workspace
variable {w : Workspace} {plan : Plan} {p : Path} {report : List Entry} {text : List CodePoint}

/-- The text of a report has no blocks. -/
theorem extract_serialize (serialized : serialize report = .ok text) (file : Path) (language : String) :
    Fence.extract (chars text) file language = [] := by
  obtain ⟨_, rfl⟩ := serialize_eq_ok_iff.mp serialized
  have ruled := Json.ruled_renderAt .artifact 0 (toJson report)
  obtain ⟨rest, begins⟩ : ∃ rest, chars (Json.renderAt .artifact 0 (toJson report)) = '[' :: rest :=
    Json.chars_enclose_head ..
  refine Fence.extract_eq_nil (fun line member c first => ?_) file language
  rw [Json.renderArtifact, chars_append, Json.chars_points, Json.render, begins] at member
  rw [begins] at ruled
  obtain ⟨d, more, rfl, starts⟩ := ruled.splitLines (by decide) (by decide) line member
  obtain rfl := Option.some.inj first
  rcases starts with rfl | rfl | rfl | rfl <;> decide

/-- A summary with one document more, in which nothing was found. -/
def Summary.another (s : Summary) : Summary :=
  { s with documents := s.documents + 1 }

section Collection
variable {d : List Char} (read : w.readText p = .ok d) (void : Fence.extract d p plan.language = [])

theorem collectEach_another (paths : List Path) (done : Summary) :
    (collectEach w plan done.another paths).outcome =
      (collectEach w plan done paths).outcome.map Summary.another := by
  induction paths generalizing done with
  | nil => rfl
  | cons q rest ih =>
    simp only [collectEach, Trace.outcome_bind]
    cases (readDocument w plan.policy q).outcome with
    | error e => rfl
    | ok opened =>
      cases opened with
      | none => exact ih { done with skipped := done.skipped + 1 }
      | some d =>
        simp only [ok_bind, Trace.outcome_bind, findBlocks, Trace.outcome_log, Trace.outcome_pure, judge]
        cases verdicts plan.check (Fence.extract d.text d.path plan.language) with
        | error i => rfl
        | ok judged =>
          simp only [outcome_enter_ok, ok_bind]
          exact ih { done with
            report := done.report ++ entriesOf judged
            documents := done.documents + 1
            blocks := done.blocks + (Fence.extract d.text d.path plan.language).length }

include read void

/-- A document without blocks is counted, wherever it stands. -/
theorem collectEach_insert (before after : List Path) (done : Summary) :
    (collectEach w plan done (before ++ p :: after)).outcome =
      (collectEach w plan done (before ++ after)).outcome.map Summary.another := by
  induction before generalizing done with
  | nil =>
    simp only [List.nil_append, collectEach, readDocument_of_text read, Trace.outcome_bind, ok_bind,
      findBlocks, void, Trace.outcome_log, Trace.outcome_pure, judge, verdicts, outcome_enter_ok,
      entriesOf_nil, List.append_nil, List.length_nil]
    exact collectEach_another after done
  | cons q before ih =>
    simp only [List.cons_append, collectEach, Trace.outcome_bind]
    cases (readDocument w plan.policy q).outcome with
    | error e => rfl
    | ok opened =>
      cases opened with
      | none => exact ih { done with skipped := done.skipped + 1 }
      | some d =>
        simp only [ok_bind, Trace.outcome_bind, findBlocks, Trace.outcome_log, Trace.outcome_pure, judge]
        cases verdicts plan.check (Fence.extract d.text d.path plan.language) with
        | error i => rfl
        | ok judged =>
          simp only [outcome_enter_ok, ok_bind]
          exact ih _

theorem gather_insert (before after : List Path) :
    (gather w plan (before ++ p :: after)).outcome =
      (gather w plan (before ++ after)).outcome.map fun found => (found.1 + 1, found.2) := by
  induction before with
  | nil =>
    simp only [List.nil_append, gather, readDocument_of_text read, Trace.outcome_bind, ok_bind,
      findBlocks, void, Trace.outcome_log, Trace.outcome_pure, List.nil_append]
    cases (gather w plan after).outcome <;> rfl
  | cons q before ih =>
    simp only [List.cons_append, gather, Trace.outcome_bind]
    cases (readDocument w plan.policy q).outcome with
    | error e => rfl
    | ok opened =>
      cases opened with
      | none => exact ih
      | some d =>
        simp only [ok_bind, Trace.outcome_bind, findBlocks, Trace.outcome_log, Trace.outcome_pure, ih]
        cases (gather w plan (before ++ after)).outcome <;> rfl

theorem collect_insert (before after : List Path) :
    (collect w plan (before ++ p :: after)).outcome =
      (collect w plan (before ++ after)).outcome.map Summary.another := by
  by_cases several : 1 < plan.jobs
  · simp only [collect, if_pos several, collectBatch, Trace.outcome_bind, gather_insert read void]
    cases (gather w plan (before ++ after)).outcome with
    | error e => rfl
    | ok found =>
      obtain ⟨documents, blocks⟩ := found
      simp only [map_ok, ok_bind]
      cases verdicts plan.check blocks with
      | error i => rfl
      | ok judged =>
        have skipped : (before ++ p :: after).length - (documents + 1) =
            (before ++ after).length - documents := by
          simp only [List.length_append, List.length_cons]
          omega
        simp only [outcome_enter_ok, ok_bind, Trace.outcome_pure, skipped]
        rfl
  · simp only [collect, if_neg several]
    exact collectEach_insert read void before after {}

/-- A run with such a document writes the same report. -/
theorem scan_insert (tokens : List String) (before after : List Path) (out : Path) (umask : Nat) :
    let r := scan w tokens plan (before ++ after) out umask
    let r' := scan w tokens plan (before ++ p :: after) out umask
    r'.1 = r.1 ∧ r'.2.outcome = r.2.outcome.map Summary.another := by
  intro r r'
  simp only [r, r', scan, collect_insert read void]
  cases (collect w plan (before ++ after)).outcome with
  | error e => exact ⟨rfl, rfl⟩
  | ok s =>
    simp only [map_ok, Summary.another]
    cases writeReport w tokens s.report out umask with
    | mk u written => cases written <;> exact ⟨rfl, rfl⟩

end Collection

/-- No text of a report has a block in it, in whatever language. So a report that is among the documents of
a run, anywhere and more than once if need be, is a document more to the run and no block and no entry:
the run comes to what it comes to without it, and leaves the same files. -/
theorem report_adds_nothing (serialized : serialize report = .ok text) :
    (∀ file language, Fence.extract (chars text) file language = []) ∧
    ∀ w p mode bytes, Utf8.encodePoints text = .ok bytes → w.look p = some (.file mode bytes) →
      ∀ (plan : Plan) (before after : List Path),
        (collect w plan (before ++ p :: after)).outcome =
          (collect w plan (before ++ after)).outcome.map Summary.another ∧
        ∀ tokens out umask,
          let r := scan w tokens plan (before ++ after) out umask
          let r' := scan w tokens plan (before ++ p :: after) out umask
          r'.1 = r.1 ∧ r'.2.outcome = r.2.outcome.map Summary.another := by
  refine ⟨extract_serialize serialized, fun w p mode bytes coded there plan before after => ?_⟩
  have read := (readText_of_serialize serialized coded there).1
  have void := extract_serialize serialized p plan.language
  exact ⟨collect_insert read void before after,
    fun tokens out umask => scan_insert read void tokens before after out umask⟩

/-- A report on a sample that has a fence in it, as a document. -/
theorem report_adds_nothing_fenced :
    let report : List Entry := [.ofBlock ⟨.relative, ["a.md"]⟩ "```py\nx\n```" (codePoints "bad")]
    let p : Path := ⟨.relative, ["report.md"]⟩
    ∃ text bytes, serialize report = .ok text ∧ Utf8.encodePoints text = .ok bytes ∧
      Fence.extract (chars text) p "py" = [] ∧
      (collect ⟨⟨[(["report.md"], .file 0o644 bytes)]⟩, []⟩ { language := "py", check := objector.check }
        [p]).outcome = .ok { documents := 1 } := by
  intro report p
  have fit : ∀ e ∈ report, e.Fit := List.forall_mem_singleton.mpr ⟨by decide, by decide, by decide⟩
  have scalar : ∀ e ∈ report, e.Scalar :=
    List.forall_mem_singleton.mpr (.ofBlock _ _ (isSurrogate_of_mem_codePoints _))
  obtain ⟨text, bytes, serialized, coded⟩ := exists_encoded fit scalar
  let w : Workspace := ⟨⟨[(["report.md"], .file 0o644 bytes)]⟩, []⟩
  have plain : FileTree.Plain "report.md" := by constructor <;> decide
  have there : w.place true p = some ["report.md"] := by
    refine place_eq_some.mpr ⟨.taken _, spot_eq_ok.mpr ⟨by decide, by decide, ?_⟩, rfl⟩
    refine (FileTree.walk_down rfl plain rfl (by simp)).trans ?_
    rw [FileTree.walk]
    rfl
  have found : w.look p = some (.file 0o644 bytes) := by
    rw [look_eq, there]
    rfl
  obtain ⟨void, adds⟩ := report_adds_nothing serialized
  exact ⟨text, bytes, serialized, coded, void p "py",
    (adds w p 0o644 bytes coded found { language := "py", check := objector.check } [] []).1⟩

end Report
end FenceCheck
