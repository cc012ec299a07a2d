import FenceCheck.Proofs.Fence.Reading

/-! Where the blocks of a document come from. Main statement: the line that a block's number tells opens
blocks, and its content is that of the lines from there up to the first closing fence. -/
namespace FenceCheck.Fence
open FenceCheck.Text

/-- The body of a block among the lines of its document: those behind the opening one, up to the first
closing fence. -/
def Block.body (b : Block) (lines : List (List Char)) : List (List Char) :=
  (lines.drop b.line).takeWhile fun l => !isCloseFence l

/-- The line of a document with the number of the block, counted from one. -/
def Block.Opener (b : Block) (lines : List (List Char)) (line : List Char) : Prop :=
  0 < b.line ∧ lines[b.line - 1]? = some line

theorem Paired.of_mem {spans : List Span} {s : Span} (paired : Paired marker lines start spans)
    (member : s ∈ spans) : (∃ line, lines[s.opening]? = some line ∧ Opens marker line) ∧
      FirstFrom Closes lines (s.opening + 1) s.closing := by
  induction paired with
  | stop => simp at member
  | pair opening closing _ ih =>
    rcases List.mem_cons.mp member with rfl | later
    · exact ⟨opening.holds, closing⟩
    · exact ih later

theorem not_closes_of_mem_body {b : Block} {lines : List (List Char)} {l : List Char}
    (member : l ∈ b.body lines) : ¬ Closes l := by
  have open_ := List.mem_takeWhile_imp member
  rw [← isCloseFence_iff_closes]
  simpa using open_

theorem mem_of_mem_body {b : Block} {lines : List (List Char)} {l : List Char}
    (member : l ∈ b.body lines) : l ∈ lines :=
  List.mem_of_mem_drop (List.takeWhile_subset _ member)

theorem takeWhile_of_closing (closing : FirstFrom Closes lines (o + 1) c) :
    (lines.drop (o + 1)).takeWhile (fun l => !isCloseFence l) = Span.between ⟨o, c⟩ lines := by
  obtain ⟨closer, closes, inside, whole⟩ := closing.split
  rw [← isCloseFence_iff_closes] at closes
  have open_ : ∀ l ∈ (lines.take c).drop (o + 1), (!isCloseFence l) = true := by
    intro l member
    simpa [← isCloseFence_iff_closes] using inside l member
  rw [whole, List.takeWhile_append_of_pos open_, List.takeWhile_cons_of_neg (by simp [closes]),
    List.append_nil]
  rfl

/-- Each block was opened by the line of its number, and is the block of its body. -/
theorem opened_of_mem_extract {text : List Char} {file : Path} {language : String} {b : Block}
    (member : b ∈ extract text file language) :
    (∃ line, b.Opener (splitLines text) line ∧ Opens (openMarker language) line) ∧
      blockOf? file (b.body (splitLines text)) b.line = some b := by
  obtain ⟨spans, paired, s, inSpans, found⟩ := exists_span_of_mem_extract member
  obtain ⟨⟨line, at_, opens⟩, closing⟩ := paired.of_mem inSpans
  have number : b.line = s.opening + 1 := by rw [(blockOf?_eq_some_iff.mp found).2]
  have body : b.body (splitLines text) = s.between (splitLines text) := by
    rw [Block.body, number, takeWhile_of_closing closing]
  refine ⟨⟨line, ⟨by omega, ?_⟩, opens⟩, ?_⟩
  · rw [number, Nat.add_sub_cancel, at_]
  · rw [body, number, found]

end FenceCheck.Fence
