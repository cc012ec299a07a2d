import FenceCheck.Proofs.Fence.Origin
import FenceCheck.Proofs.Text.Lines

/-! The words that blocks are found under. An opening line is told by how it starts, not by its whole
word. Main statement: the words of the lines that open blocks are those that begin with the tag, and a
block stands under the tag itself unless its opening line runs on behind the tag. -/
namespace FenceCheck.Fence
open FenceCheck.Text

/-- The word of a fence: what stands behind its mark up to the first blank. -/
def infoWord (line : List Char) : List Char :=
  (line.drop fence.length).takeWhile fun c => !isBlank c

/-- The line goes on behind the marker without a blank. -/
def RunsOn (marker line : List Char) : Prop :=
  ∃ c, isBlank c = false ∧ Opens (marker ++ [c]) line

theorem runsOn_append_iff (marker tail : List Char) :
    RunsOn marker (marker ++ tail) ↔ tail.head?.any (fun c => !isBlank c) = true := by
  have opens (c : Char) : Opens (marker ++ [c]) (marker ++ tail) ↔ [c] <+: tail :=
    List.prefix_append_right_inj marker
  simp only [RunsOn, opens]
  cases tail <;> simp

theorem RunsOn.opens {marker line : List Char} (runs : RunsOn marker line) : Opens marker line := by
  obtain ⟨c, _, opens⟩ := runs
  exact (List.prefix_append _ _).trans opens

instance (marker : List Char) : DecidablePred (RunsOn marker) := fun line =>
  decidable_of_iff
    (Opens marker line ∧ (line.drop marker.length).head?.any (fun c => !isBlank c) = true) <| by
    constructor
    · rintro ⟨⟨tail, rfl⟩, more⟩
      rw [List.drop_left] at more
      exact (runsOn_append_iff marker tail).mpr more
    · intro runs
      obtain ⟨tail, rfl⟩ := runs.opens
      exact ⟨runs.opens, by rw [List.drop_left]; exact (runsOn_append_iff marker tail).mp runs⟩

theorem infoWord_append {word : List Char} (plain : ∀ c ∈ word, isBlank c = false)
    (tail : List Char) :
    infoWord (fence ++ (word ++ tail)) = word ++ tail.takeWhile fun c => !isBlank c := by
  rw [infoWord, List.drop_left, List.takeWhile_append_of_pos]
  intro c member
  simp [plain c member]

theorem not_blank_of_mem_infoWord {line : List Char} : ∀ c ∈ infoWord line, isBlank c = false := by
  intro c member
  simpa using List.mem_takeWhile_imp member

section Tag
variable {language : String}

theorem prefix_infoWord (plain : ∀ c ∈ language.toList, isBlank c = false) {line : List Char}
    (opens : Opens (openMarker language) line) : language.toList <+: infoWord line := by
  obtain ⟨tail, rfl⟩ := opens
  rw [openMarker, List.append_assoc, infoWord_append plain]
  exact List.prefix_append _ _

theorem infoWord_eq_iff (plain : ∀ c ∈ language.toList, isBlank c = false) {line : List Char}
    (opens : Opens (openMarker language) line) :
    infoWord line = language.toList ↔ ¬ RunsOn (openMarker language) line := by
  obtain ⟨tail, rfl⟩ := opens
  rw [runsOn_append_iff, openMarker, List.append_assoc, infoWord_append plain,
    List.append_right_eq_self]
  cases tail <;> simp [List.takeWhile_cons]

/-- Any word that begins with the tag opens a block, whatever it goes on with. -/
theorem exists_extract_under {word : List Char} (begins : language.toList <+: word)
    (plain : ∀ c ∈ word, isBlank c = false) :
    ∃ text file, ∃ b ∈ extract text file language,
      b.Opener (splitLines text) (fence ++ word) := by
  -- only a blank could end the line early or be trimmed off its end
  have marks : ∀ c ∈ fence ++ word, isBlank c = false :=
    List.forall_mem_append.mpr ⟨not_blank_of_all (by decide +kernel), plain⟩
  have lines : splitLines ([fence ++ word, ['x'], fence].flatMap (· ++ ['\n'])) =
      [fence ++ word, ['x'], fence] := by
    apply splitLines_flatMap
    · refine List.forall_mem_cons.mpr ⟨fun feed => ?_, by decide⟩
      simpa [isBlank_lineFeed] using marks _ feed
    · refine List.forall_mem_cons.mpr ⟨fun last => ?_, by decide⟩
      have blank : isBlank '\r' = true := by decide +kernel
      simpa [blank] using marks _ (List.mem_of_getLast? last)
  have opens : Opens (openMarker language) (fence ++ word) :=
    (opens_fence_append_iff language word).mpr begins
  have content : ∀ l ∈ [['x']], ¬ Closes l := by decide +kernel
  let file : Path := ⟨.relative, []⟩
  have found : scan (openMarker language) file ⟨.outside, [], 0, []⟩ 1 [fence ++ word, ['x'], fence] =
      ⟨.outside, [['x']], 1, (blockOf? file [['x']] 1).toList ++ []⟩ :=
    scan_fenced [] [['x']] rfl 1 (by simp) opens content closes_fence
  have block : blockOf? file [['x']] 1 = some ⟨file, "x", 1⟩ := by decide +kernel
  refine ⟨_, file, ⟨file, "x", 1⟩, ?_, by decide, congrArg (·[0]?) lines⟩
  rw [extract, lines, found, block]
  exact List.mem_singleton_self _

end Tag

/-- Each block stands under a word that begins with the tag, and under the tag itself unless its opening
line runs on behind it. Where no line of the document runs on, all blocks stand under the tag; but each
longer word opens blocks, too. -/
theorem extract_words {language : String} (plain : ∀ c ∈ language.toList, isBlank c = false) :
    (∀ text file, ∀ b ∈ extract text file language, ∃ line, b.Opener (splitLines text) line ∧
      fence <+: line ∧ language.toList <+: infoWord line ∧
      (infoWord line = language.toList ↔ ¬ RunsOn (openMarker language) line)) ∧
    (∀ text file, (∀ line ∈ splitLines text, ¬ RunsOn (openMarker language) line) →
      ∀ b ∈ extract text file language, ∃ line, b.Opener (splitLines text) line ∧
        fence <+: line ∧ infoWord line = language.toList) ∧
    ∀ word, (∃ text file, ∃ b ∈ extract text file language, ∃ line,
        b.Opener (splitLines text) line ∧ infoWord line = word) ↔
      language.toList <+: word ∧ ∀ c ∈ word, isBlank c = false := by
  have under (text : List Char) (file : Path) (b : Block) (member : b ∈ extract text file language) :
      ∃ line, b.Opener (splitLines text) line ∧ Opens (openMarker language) line :=
    (opened_of_mem_extract member).1
  have fenced {line : List Char} (opens : Opens (openMarker language) line) : fence <+: line :=
    (List.prefix_append _ _).trans opens
  refine ⟨?_, ?_, fun word => ⟨?_, ?_⟩⟩
  · intro text file b member
    obtain ⟨line, opener, opens⟩ := under text file b member
    exact ⟨line, opener, fenced opens, prefix_infoWord plain opens, infoWord_eq_iff plain opens⟩
  · intro text file ended b member
    obtain ⟨line, opener, opens⟩ := under text file b member
    have inText : line ∈ splitLines text := List.mem_of_getElem? opener.2
    exact ⟨line, opener, fenced opens, (infoWord_eq_iff plain opens).mpr (ended line inText)⟩
  · rintro ⟨text, file, b, member, line, opener, rfl⟩
    obtain ⟨line', opener', opens⟩ := under text file b member
    obtain rfl : line' = line := Option.some.inj (opener'.2.symm.trans opener.2)
    exact ⟨prefix_infoWord plain opens, not_blank_of_mem_infoWord⟩
  · rintro ⟨begins, wordPlain⟩
    obtain ⟨text, file, b, member, opener⟩ := exists_extract_under begins wordPlain
    refine ⟨text, file, b, member, _, opener, ?_⟩
    simpa using infoWord_append wordPlain []

/-- A word with more text behind it, and the longer word of another tag. -/
theorem extract_words_py :
    let text := "```py x\n1\n```\n```sh\n".toList
    let file : Path := ⟨.relative, ["a.md"]⟩
    (∀ c ∈ "py".toList, isBlank c = false) ∧
    (∀ line ∈ splitLines text, ¬ RunsOn (openMarker "py") line) ∧
    (∃ line, (⟨file, "1", 1⟩ : Block).Opener (splitLines text) line ∧ fence <+: line ∧
      infoWord line = "py".toList) ∧
    ∃ text file, ∃ b ∈ extract text file "py", ∃ line,
      b.Opener (splitLines text) line ∧ infoWord line = "pycon".toList := by
  intro text file
  have plain : ∀ c ∈ "py".toList, isBlank c = false := not_blank_of_all (by decide +kernel)
  have ended : ∀ line ∈ splitLines text, ¬ RunsOn (openMarker "py") line := by decide +kernel
  have found : ⟨file, "1", 1⟩ ∈ extract text file "py" := by decide +kernel
  obtain ⟨_, under, longer⟩ := extract_words plain
  exact ⟨plain, ended, under text file ended _ found,
    (longer "pycon".toList).mpr ⟨by decide, not_blank_of_all (by decide +kernel)⟩⟩

/-- The word of another tag opens a block, though that tag is longer. -/
theorem longer_word_opens :
    let text := "```json5\n\x7ba: 1\x7d\n```\n".toList
    let file : Path := ⟨.relative, ["a.md"]⟩
    "json".toList.all Char.isAlphanum = true ∧
    ∃ b ∈ extract text file "json", ∀ line, b.Opener (splitLines text) line →
      infoWord line ≠ "json".toList := by
  intro text file
  refine ⟨by decide, ⟨file, "\x7ba: 1\x7d", 1⟩, by decide +kernel, ?_⟩
  rintro line ⟨_, opener⟩
  have first : (splitLines text)[0]? = some "```json5".toList := by decide +kernel
  obtain rfl : "```json5".toList = line := Option.some.inj (first.symm.trans opener)
  decide +kernel

end FenceCheck.Fence
