import FenceCheck.Proofs.Fence.Reading
import FenceCheck.Proofs.Text.Lines

/-! Documents that grow at their end. What the scanner has found it keeps, and a text put behind a closed
document is read as it would be alone, some lines further down. Main statement: the blocks of a document
with a text behind it, by the state in which the scanner leaves the document. -/
namespace FenceCheck.Fence
open FenceCheck.Text

/-- The state behind the lines. -/
def stateAfter (marker : List Char) (s : State) (lines : List (List Char)) : State :=
  lines.foldl (fun s line => (step marker s line).1) s

/-- The same block in a document with so many lines put before it. -/
def Block.shift (count : Nat) (b : Block) : Block :=
  { b with line := b.line + count }

section Scan
variable {marker : List Char} {file : Path} {p q : Progress}

theorem advance_state (p : Progress) (number : Nat) (line : List Char) :
    (advance marker file p number line).state = (step marker p.state line).1 := by
  rcases stepped : step marker p.state line with ⟨state, event⟩
  simp only [advance, stepped]
  cases event with
  | skip => rfl
  | opening => rfl
  | content => rfl
  | closing =>
    dsimp only
    split
    · rfl
    · rfl

theorem scan_state (p : Progress) (number : Nat) (lines : List (List Char)) :
    (scan marker file p number lines).state = stateAfter marker p.state lines := by
  induction lines generalizing p number with
  | nil => rfl
  | cons line lines ih => rw [scan, ih, advance_state, stateAfter, stateAfter, List.foldl_cons]

theorem found_suffix_advance (p : Progress) (number : Nat) (line : List Char) :
    p.found <:+ (advance marker file p number line).found := by
  rcases stepped : step marker p.state line with ⟨state, event⟩
  simp only [advance, stepped]
  cases event with
  | skip => exact List.suffix_rfl
  | opening => exact List.suffix_rfl
  | content => exact List.suffix_rfl
  | closing =>
    dsimp only
    split
    · exact List.suffix_rfl
    · exact List.suffix_cons _ _

/-- Blocks once found stay found, and none comes between them. -/
theorem found_suffix_scan (p : Progress) (number : Nat) (lines : List (List Char)) :
    p.found <:+ (scan marker file p number lines).found := by
  induction lines generalizing p number with
  | nil => exact List.suffix_rfl
  | cons line lines ih => exact (found_suffix_advance p number line).trans (ih _ _)

/-- A scanner repeats `count` lines further down, behind the blocks `earlier`, what another does. Outside
a block the lines that it holds do not count. -/
structure Trails (count : Nat) (earlier : List Block) (p q : Progress) : Prop where
  state : p.state = q.state
  found : p.found = q.found.map (Block.shift count) ++ earlier
  pending : q.state = .inside → p.buffer = q.buffer ∧ p.openedAt = q.openedAt + count

theorem Trails.start (outside : p.state = .outside) (count : Nat) :
    Trails count p.found p ⟨.outside, [], 0, []⟩ :=
  ⟨outside, by simp, by simp⟩

theorem Trails.advance (trails : Trails count earlier p q) (marker : List Char) (file : Path)
    (number : Nat) (line : List Char) :
    Trails count earlier (advance marker file p (number + count) line)
      (advance marker file q number line) := by
  cases state : q.state with
  | outside =>
    have outside : p.state = .outside := trails.state.trans state
    by_cases opens : Opens marker line
    · rw [advance_opening outside opens, advance_opening state opens]
      exact ⟨rfl, trails.found, fun _ => ⟨rfl, rfl⟩⟩
    · rw [advance_skip outside opens, advance_skip state opens]
      exact trails
  | inside =>
    have inside : p.state = .inside := trails.state.trans state
    -- both hold the same lines of the open block
    obtain ⟨buffer, openedAt⟩ := trails.pending state
    by_cases closes : Closes line
    · rw [advance_closing inside closes, advance_closing state closes]
      refine ⟨rfl, ?_, by simp⟩
      simp only [buffer, openedAt, trails.found]
      split
      · rfl
      · rfl
    · rw [advance_content inside closes, advance_content state closes]
      exact ⟨trails.state, trails.found, fun _ => ⟨by rw [buffer], openedAt⟩⟩

theorem Trails.scan (trails : Trails count earlier p q) (marker : List Char) (file : Path)
    (number : Nat) (lines : List (List Char)) :
    Trails count earlier (scan marker file p (number + count) lines)
      (scan marker file q number lines) := by
  induction lines generalizing p q number with
  | nil => exact trails
  | cons line lines ih =>
    have next := ih (trails.advance marker file number line) (number + 1)
    rwa [Nat.add_right_comm] at next

end Scan

/-- The scanner reads what follows an ended line from where that line has left it. -/
theorem extract_of_ended {text : List Char} (ended : text = [] ∨ text.getLast? = some '\n')
    (more : List Char) (file : Path) (language : String) :
    extract (text ++ more) file language =
      (scan (openMarker language) file
        (scan (openMarker language) file ⟨.outside, [], 0, []⟩ 1 (splitLines text))
        (1 + (splitLines text).length) (splitLines more)).found.reverse := by
  rw [extract, splitLines_append ended, scan_append]

/-- Text put behind a document whose last line is ended alters, drops and renumbers none of its blocks.
Where the document leaves no block open, the blocks of the text follow, further down by the lines of the
document; where it leaves one open that the text does not close, there are no more. -/
theorem extract_append {text : List Char} (ended : text = [] ∨ text.getLast? = some '\n')
    (more : List Char) (file : Path) (language : String) :
    let state := stateAfter (openMarker language) .outside (splitLines text)
    extract text file language <+: extract (text ++ more) file language ∧
    (state = .outside → extract (text ++ more) file language = extract text file language ++
      (extract more file language).map (Block.shift (splitLines text).length)) ∧
    (state = .inside → (∀ line ∈ splitLines more, isCloseFence line = false) →
      extract (text ++ more) file language = extract text file language) := by
  intro state
  have left : (scan (openMarker language) file ⟨.outside, [], 0, []⟩ 1 (splitLines text)).state =
      state := scan_state _ _ _
  rw [extract_of_ended ended, extract]
  refine ⟨?_, ?_, ?_⟩
  · rw [List.reverse_prefix]
    exact found_suffix_scan _ _ _
  · intro outside
    have trails := (Trails.start (left.trans outside) (splitLines text).length).scan
      (openMarker language) file 1 (splitLines more)
    rw [trails.found, List.reverse_append, ← List.map_reverse]
    rfl
  · intro inside unclosed
    rw [scan_content (left.trans inside)]
    intro line member closes
    simpa [unclosed line member] using (isCloseFence_iff_closes line).mpr closes

/-- A document with one block, closed at its end or cut off before that, and a document behind it. -/
theorem extract_append_note :
    let closed := "# a\n```py\nx = 1\n```\n".toList
    let cut := "```py\nx = 1\n```\n```py\ny\n".toList
    let more := "z\n```py\n2\n```\n".toList
    let unclosing := "z\n```py\n2\n ```".toList
    let file : Path := ⟨.relative, ["a.md"]⟩
    (closed.getLast? = some '\n' ∧ extract (closed ++ more) file "py" =
      [⟨file, "x = 1", 2⟩, ⟨file, "2", 6⟩]) ∧
    cut.getLast? = some '\n' ∧ extract (cut ++ unclosing) file "py" = [⟨file, "x = 1", 1⟩] := by
  intro closed cut more unclosing file
  have ended : closed.getLast? = some '\n' := by decide
  have ended' : cut.getLast? = some '\n' := by decide
  obtain ⟨_, behind, _⟩ := extract_append (.inr ended) more file "py"
  obtain ⟨_, _, none⟩ := extract_append (.inr ended') unclosing file "py"
  have first : extract closed file "py" = [⟨file, "x = 1", 2⟩] := by decide +kernel
  have second : extract more file "py" = [⟨file, "2", 2⟩] := by decide +kernel
  have kept : extract cut file "py" = [⟨file, "x = 1", 1⟩] := by decide +kernel
  refine ⟨⟨ended, ?_⟩, ended', ?_⟩
  · rw [behind (by decide +kernel), first, second]
    decide
  · rw [none (by decide +kernel) (by decide +kernel), kept]

end FenceCheck.Fence
