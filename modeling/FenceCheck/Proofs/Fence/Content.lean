import FenceCheck.Proofs.Fence.Origin
import FenceCheck.Proofs.Text.Lines

/-! Fences in the content of blocks. A body has no closing fence among its lines, but to trim it moves its
first line to the left. Main statement: the content of a block has no closing fence behind its first line,
and one on its first line just if the first line of the body that is not blank is an indented fence. -/
namespace FenceCheck.Fence
open FenceCheck.Text

/-- A bare fence behind blanks, which closes no block. -/
def Indented (line : List Char) : Prop :=
  ∃ indent rest, line = indent ++ rest ∧ indent ≠ [] ∧ indent.all isBlank = true ∧ Closes rest

theorem closes_iff_stripRight (line : List Char) : Closes line ↔ stripRight line = fence := by
  constructor
  · rintro ⟨tail, rfl, blank⟩
    rw [stripRight_append_blank _ _ (List.all_eq_true.mpr blank)]
    decide +kernel
  · intro trimmed
    obtain ⟨back, whole, blank⟩ := exists_stripRight line
    exact ⟨back, trimmed ▸ whole, List.all_eq_true.mp blank⟩

theorem closes_append_blank_iff (line : List Char) {tail : List Char}
    (blank : tail.all isBlank = true) : Closes (line ++ tail) ↔ Closes line := by
  rw [closes_iff_stripRight, closes_iff_stripRight, stripRight_append_blank _ _ blank]

theorem head?_of_closes {line : List Char} (closes : Closes line) :
    ∀ c ∈ line.head?, isBlank c = false := by
  obtain ⟨tail, rfl, _⟩ := closes
  intro c first
  obtain rfl : '`' = c := by simpa [fence] using first
  decide +kernel

/-- Behind an indentation stands what the line is trimmed to, so only one rest can be a fence. -/
theorem indented_append_iff {indent line : List Char} (blank : indent.all isBlank = true)
    (first : ∀ c ∈ line.head?, isBlank c = false) :
    Indented (indent ++ line) ↔ indent ≠ [] ∧ Closes line := by
  constructor
  · rintro ⟨indent', rest, same, some_, blank', closes⟩
    have trimmed := congrArg stripLeft same
    rw [stripLeft_append, if_pos blank, stripLeft_eq_self first, stripLeft_append, if_pos blank',
      stripLeft_eq_self (head?_of_closes closes)] at trimmed
    subst trimmed
    obtain rfl := List.append_cancel_right same
    exact ⟨some_, closes⟩
  · rintro ⟨some_, closes⟩
    exact ⟨indent, line, rfl, some_, blank, closes⟩

/-- The content of a block has no closing fence but on its first line, and one there just if the first
line of the body that is not blank is an indented fence. -/
theorem content_fences (text : List Char) (file : Path) (language : String) :
    ∀ b ∈ extract text file language,
      ∃ first rest, splitAtFeeds b.content.toList = first :: rest ∧
        (∀ line ∈ rest, isCloseFence line = false) ∧
        (isCloseFence first = true ↔ ∃ line,
          (b.body (splitLines text)).find? (fun l => !l.all isBlank) = some line ∧ Indented line) := by
  intro b member
  obtain ⟨some_, same⟩ := blockOf?_eq_some_iff.mp (opened_of_mem_extract member).2
  have open_ : ∀ l ∈ b.body (splitLines text), ¬ Closes l := fun l => not_closes_of_mem_body
  have unbroken : ∀ l ∈ b.body (splitLines text), '\n' ∉ l := fun l inBody =>
    feed_notMem_splitLines text l (mem_of_mem_body inBody)
  generalize b.body (splitLines text) = body at *
  have content : b.content = strip (String.ofList (List.intercalate ['\n'] body)) := by rw [same]
  rw [content] at some_ ⊢
  have lines : splitAtFeeds (List.intercalate ['\n'] body) = body := by
    apply splitAtFeeds_intercalate unbroken
    rintro rfl
    exact some_ rfl
  obtain ⟨first, rest, pieces⟩ := List.exists_cons_of_ne_nil (splitAtFeeds_ne_nil
    (strip (String.ofList (List.intercalate ['\n'] body))).toList)
  obtain ⟨c, more, rfl, plain⟩ := exists_first_of_strip some_ pieces
  obtain ⟨indent, tail, indentBlank, tailBlank, moved, behind⟩ := lines_of_strip plain pieces
  rw [lines] at moved behind
  refine ⟨_, rest, pieces, ?_, ?_⟩
  · intro line inRest
    obtain ⟨tail, blank, inBody⟩ := behind line inRest
    rw [Bool.eq_false_iff, ne_eq, isCloseFence_iff_closes, ← closes_append_blank_iff line blank]
    exact open_ _ inBody
  · -- without an indentation the line would have closed the block
    have indented (closes : Closes (c :: more ++ tail)) : indent ≠ [] := by
      rintro rfl
      exact open_ _ (List.mem_of_find?_eq_some moved) closes
    rw [isCloseFence_iff_closes, ← closes_append_blank_iff _ tailBlank, moved]
    simp only [Option.some.injEq, exists_eq_left']
    rw [indented_append_iff indentBlank (by simp [plain])]
    exact ⟨fun closes => ⟨indented closes, closes⟩, And.right⟩

/-- A body with two indented fences, of which the first moves to the left. -/
theorem content_fences_indented :
    let text := "```py\n\n  ```\n ``` \n```\n".toList
    let file : Path := ⟨.relative, ["a.md"]⟩
    ⟨file, "```\n ```", 1⟩ ∈ extract text file "py" ∧
    splitAtFeeds "```\n ```".toList = ["```".toList, " ```".toList] ∧
    isCloseFence " ```".toList = false ∧
    ∃ line, ((⟨file, "```\n ```", 1⟩ : Block).body (splitLines text)).find? (fun l => !l.all isBlank) =
      some line ∧ Indented line := by
  intro text file
  have found : ⟨file, "```\n ```", 1⟩ ∈ extract text file "py" := by decide +kernel
  have lines : splitAtFeeds "```\n ```".toList = ["```".toList, " ```".toList] := by decide
  obtain ⟨first, rest, pieces, later, indented⟩ := content_fences text file "py" _ found
  obtain ⟨rfl, rfl⟩ := List.cons.inj (lines.symm.trans pieces)
  exact ⟨found, lines, later _ (by simp), indented.mp (by decide +kernel)⟩

/-- A bare fence in the content of a block. -/
theorem indented_fence_in_content :
    let text := "```py\n  ```\nx\n```\n".toList
    let file : Path := ⟨.relative, ["a.md"]⟩
    ∃ b ∈ extract text file "py", ∃ line ∈ splitAtFeeds b.content.toList,
      isCloseFence line = true := by
  decide +kernel

end FenceCheck.Fence
