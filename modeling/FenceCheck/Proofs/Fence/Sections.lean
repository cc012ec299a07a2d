import FenceCheck.Proofs.Fence.Reading
import FenceCheck.Proofs.Text.Lines

/-! Documents written from sections, each some prose and a fenced body under a tag. Main statement: what
the scanner finds in such a document are the bodies under its own tag, with the numbers of the lines that
open them. -/
namespace FenceCheck.Fence
open FenceCheck.Text

/-- Some lines of prose, and lines between two fences. -/
structure Section where
  prose : List (List Char)
  tag : String
  body : List (List Char)

namespace Section

/-- The lines of a section as they are written: the tag stands right behind the fence that opens the
body. -/
def lines (s : Section) : List (List Char) :=
  s.prose ++ (fence ++ s.tag.toList) :: (s.body ++ [fence])

/-- The body holds nothing but blanks. -/
def Hollow (s : Section) : Prop :=
  ∀ line ∈ s.body, ∀ c ∈ line, isBlank c = true

instance (s : Section) : Decidable s.Hollow :=
  decidable_of_iff ((s.body.all fun line => line.all isBlank) = true) (by simp [Hollow])

/-- What a scanner for the language may meet: lines that are read back as they are written, prose that
opens no block, and a body that ends at its own fence. A body under another tag is prose to it. -/
structure Regular (language : String) (s : Section) : Prop where
  unbroken : ∀ line ∈ s.lines, '\n' ∉ line
  noReturn : ∀ line ∈ s.lines, line.getLast? ≠ some '\r'
  prose : ∀ line ∈ s.prose, ¬ Opens (openMarker language) line
  tag : s.tag = language ∨ ¬ language.toList <+: s.tag.toList
  own : s.tag = language → ∀ line ∈ s.body, ¬ Closes line
  foreign : s.tag ≠ language → ∀ line ∈ s.body, ¬ Opens (openMarker language) line

instance (language : String) (s : Section) : Decidable (s.Regular language) :=
  decidable_of_iff
    ((∀ line ∈ s.lines, '\n' ∉ line) ∧ (∀ line ∈ s.lines, line.getLast? ≠ some '\r') ∧
      (∀ line ∈ s.prose, ¬ Opens (openMarker language) line) ∧
      (s.tag = language ∨ ¬ language.toList <+: s.tag.toList) ∧
      (s.tag = language → ∀ line ∈ s.body, ¬ Closes line) ∧
      (s.tag ≠ language → ∀ line ∈ s.body, ¬ Opens (openMarker language) line))
    ⟨fun ⟨unbroken, noReturn, prose, tag, own, foreign⟩ =>
      ⟨unbroken, noReturn, prose, tag, own, foreign⟩,
      fun ⟨unbroken, noReturn, prose, tag, own, foreign⟩ =>
      ⟨unbroken, noReturn, prose, tag, own, foreign⟩⟩

/-- The block of a section with so many lines before it. -/
def block? (file : Path) (language : String) (before : Nat) (s : Section) : Option Block :=
  if s.tag = language ∧ ¬ s.Hollow then
    some ⟨file, strip (String.ofList (List.intercalate ['\n'] s.body)), before + s.prose.length + 1⟩
  else none

end Section

/-- The document of the sections, each line ended by a line feed. -/
def render (sections : List Section) : List Char :=
  (sections.flatMap Section.lines).flatMap (· ++ ['\n'])

/-- The blocks of the sections with so many lines before them. -/
def blocksOf (file : Path) (language : String) : Nat → List Section → List Block
  | _, [] => []
  | before, s :: rest =>
    (s.block? file language before).toList ++ blocksOf file language (before + s.lines.length) rest

namespace Section
variable {s : Section} {language : String} {p : Progress} {file : Path}

theorem block?_own (own : s.tag = language) (before : Nat) :
    s.block? file language before = blockOf? file s.body (before + s.prose.length + 1) := by
  have hollow : strip (String.ofList (List.intercalate ['\n'] s.body)) = "" ↔ s.Hollow := by
    rw [strip_eq_empty_iff, blank_intercalate_iff, Hollow]
  simp only [block?, blockOf?, own, hollow, true_and, ite_not]

theorem block?_foreign (foreign : s.tag ≠ language) (before : Nat) :
    s.block? file language before = none :=
  if_neg fun both => foreign both.1

/-- No line of a section under another tag opens a block, not even the fences around its body. -/
theorem Regular.quiet (regular : s.Regular language) (foreign : s.tag ≠ language) :
    ∀ line ∈ s.lines, ¬ Opens (openMarker language) line := by
  have tag : ¬ language.toList <+: s.tag.toList := regular.tag.resolve_left foreign
  have bare : ¬ Opens (openMarker language) fence := by
    rw [← List.append_nil fence, opens_fence_append_iff, List.prefix_nil]
    -- the empty tag begins every tag, so nothing stands under another one
    intro empty
    exact tag (empty ▸ List.nil_prefix)
  rw [Section.lines, List.forall_mem_append, List.forall_mem_cons, List.forall_mem_append,
    List.forall_mem_singleton, opens_fence_append_iff]
  exact ⟨regular.prose, tag, regular.foreign foreign, bare⟩

/-- Between two sections the scanner stands outside, one block further if the section has one. -/
theorem Regular.scan_lines (regular : s.Regular language) (file : Path)
    (outside : p.state = .outside) (before : Nat) :
    (scan (openMarker language) file p (before + 1) s.lines).state = .outside ∧
    (scan (openMarker language) file p (before + 1) s.lines).found =
      (s.block? file language before).toList ++ p.found := by
  by_cases own : s.tag = language
  · have opens : Opens (openMarker language) (fence ++ s.tag.toList) :=
      (opens_fence_append_iff language _).mpr (own ▸ List.prefix_rfl)
    rw [Section.lines, scan_fenced _ _ outside _ regular.prose opens (regular.own own) closes_fence,
      block?_own own, Nat.add_right_comm]
    exact ⟨rfl, rfl⟩
  · rw [scan_skip outside _ (regular.quiet own), block?_foreign own]
    exact ⟨outside, rfl⟩

end Section

theorem scan_sections {sections : List Section} {language : String} {p : Progress}
    (regular : ∀ s ∈ sections, s.Regular language) (file : Path) (outside : p.state = .outside)
    (before : Nat) :
    (scan (openMarker language) file p (before + 1) (sections.flatMap Section.lines)).found =
      (blocksOf file language before sections).reverse ++ p.found := by
  induction sections generalizing p before with
  | nil => rfl
  | cons s sections ih =>
    rw [List.forall_mem_cons] at regular
    obtain ⟨state, found⟩ := regular.1.scan_lines file outside before
    rw [List.flatMap_cons, scan_append, Nat.add_right_comm, ih regular.2 state, found, blocksOf,
      List.reverse_append, List.append_assoc]
    cases s.block? file language before <;> rfl

/-- The lines of a document that is written from regular sections are those of the sections, and its
blocks are those of the sections under the tag of the language whose bodies are not blank: one for each,
in their order, with the trimmed body as content and the number of the line that opens it. -/
theorem extract_render {sections : List Section} {language : String}
    (regular : ∀ s ∈ sections, s.Regular language) (file : Path) :
    splitLines (render sections) = sections.flatMap Section.lines ∧
    extract (render sections) file language = blocksOf file language 0 sections := by
  have lines : splitLines (render sections) = sections.flatMap Section.lines := by
    apply splitLines_flatMap
    · intro line member
      obtain ⟨s, inSections, inLines⟩ := List.mem_flatMap.mp member
      exact (regular s inSections).unbroken line inLines
    · intro line member
      obtain ⟨s, inSections, inLines⟩ := List.mem_flatMap.mp member
      exact (regular s inSections).noReturn line inLines
  have found := scan_sections (p := ⟨.outside, [], 0, []⟩) regular file rfl 0
  refine ⟨lines, ?_⟩
  rw [extract, lines, found, List.append_nil, List.reverse_reverse]

/-- A body that holds fences of other kinds, one under another tag with a bare fence in it, a blank one,
and one behind these. -/
theorem extract_render_chapter :
    let sections : List Section := [
      ⟨["# a".toList], "py", ["```py".toList, "x = 1".toList, "````".toList, "  ```".toList]⟩,
      ⟨["p".toList], "sh", ["echo".toList, "```".toList, " ```py".toList]⟩,
      ⟨[], "py", ["  ".toList, []]⟩,
      ⟨["b".toList, []], "py", [" y".toList]⟩]
    let file : Path := ⟨.relative, ["a.md"]⟩
    (∀ s ∈ sections, s.Regular "py") ∧
    extract (render sections) file "py" =
      [⟨file, "```py\nx = 1\n````\n  ```", 2⟩, ⟨file, "y", 20⟩] := by
  intro sections file
  have regular : ∀ s ∈ sections, s.Regular "py" := by decide +kernel
  refine ⟨regular, (extract_render regular file).2.trans ?_⟩
  decide +kernel

end FenceCheck.Fence
