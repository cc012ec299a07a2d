import FenceCheck.Text.Lines
import FenceCheck.Proofs.Text.Blank

/-! Lines of texts put together and trimmed. Where a text ends in a line feed its lines stay as they are
whatever follows; elsewhere its last line grows by the first of what follows. A trimmed text has the lines
of the text from the first to the last that is not blank, less the indentation of the first. -/
namespace FenceCheck.Text

theorem splitAtFeeds_eq_splitOn (text : List Char) : splitAtFeeds text = text.splitOn '\n' := by
  induction text with
  | nil => rfl
  | cons c rest ih =>
    rw [List.splitOn_cons_eq_if_modifyHead, splitAtFeeds, ih]
    by_cases feed : c = '\n'
    · simp [feed]
    · cases pieces : rest.splitOn '\n' with
      | nil => exact absurd pieces (List.splitOn_ne_nil _ _)
      | cons line more => simp [feed]

theorem splitAtFeeds_ne_nil (text : List Char) : splitAtFeeds text ≠ [] := by
  rw [splitAtFeeds_eq_splitOn]
  exact List.splitOn_ne_nil _ _

theorem splitAtFeeds_append_feed (text rest : List Char) :
    splitAtFeeds (text ++ '\n' :: rest) = splitAtFeeds text ++ splitAtFeeds rest := by
  simp only [splitAtFeeds_eq_splitOn, List.splitOn_append_cons_self]

theorem splitAtFeeds_of_notMem {text : List Char} (unbroken : '\n' ∉ text) :
    splitAtFeeds text = [text] := by
  rw [splitAtFeeds_eq_splitOn, List.splitOn_eq_singleton unbroken]

theorem splitAtFeeds_intercalate {lines : List (List Char)} (unbroken : ∀ line ∈ lines, '\n' ∉ line)
    (some_ : lines ≠ []) : splitAtFeeds (List.intercalate ['\n'] lines) = lines := by
  rw [splitAtFeeds_eq_splitOn, List.splitOn_intercalate _ unbroken some_]

theorem intercalate_splitAtFeeds (text : List Char) :
    List.intercalate ['\n'] (splitAtFeeds text) = text := by
  rw [splitAtFeeds_eq_splitOn, List.intercalate_splitOn]

theorem feed_notMem_splitAtFeeds (text : List Char) : ∀ line ∈ splitAtFeeds text, '\n' ∉ line := by
  induction text with
  | nil => simp [splitAtFeeds]
  | cons c rest ih =>
    rw [splitAtFeeds]
    split
    · simpa using ih
    · rename_i other
      cases pieces : splitAtFeeds rest with
      | nil => exact absurd pieces (splitAtFeeds_ne_nil rest)
      | cons line more =>
        rw [pieces, List.forall_mem_cons] at ih
        refine List.forall_mem_cons.mpr ⟨?_, ih.2⟩
        simpa [eq_comm, other] using ih.1

theorem feed_notMem_splitLines (text : List Char) : ∀ line ∈ splitLines text, '\n' ∉ line := by
  have pieces : ∀ line ∈ dropEmptyLast (splitAtFeeds text), '\n' ∉ line := by
    intro line member
    apply feed_notMem_splitAtFeeds text line
    rw [dropEmptyLast] at member
    split at member
    · exact List.dropLast_subset _ member
    · exact member
  intro line member feed
  obtain ⟨piece, inPieces, rfl⟩ := List.mem_map.mp member
  apply pieces piece inPieces
  rw [trimReturn] at feed
  split at feed
  · exact List.dropLast_subset _ feed
  · exact feed

theorem dropEmptyLast_append (front : List (List Char)) {lines : List (List Char)}
    (some_ : lines ≠ []) : dropEmptyLast (front ++ lines) = front ++ dropEmptyLast lines := by
  have last : (front ++ lines).getLast? = lines.getLast? := by
    rw [List.getLast?_append, List.getLast?_eq_some_getLast some_, Option.some_or]
  simp only [dropEmptyLast, last]
  split
  · exact List.dropLast_append_of_ne_nil some_
  · rfl

theorem splitLines_append_feed (text rest : List Char) :
    splitLines (text ++ '\n' :: rest) =
      (splitAtFeeds text).map trimReturn ++ splitLines rest := by
  rw [splitLines, splitAtFeeds_append_feed, dropEmptyLast_append _ (splitAtFeeds_ne_nil rest),
    List.map_append]
  rfl

/-- A text that ends its last line, if it has any, has the same lines whatever follows. -/
theorem splitLines_append {text : List Char} (ended : text = [] ∨ text.getLast? = some '\n')
    (rest : List Char) : splitLines (text ++ rest) = splitLines text ++ splitLines rest := by
  rcases ended with rfl | ended
  · rfl
  · obtain ⟨front, rfl⟩ := List.getLast?_eq_some_iff.mp ended
    have bare := splitLines_append_feed front []
    have more := splitLines_append_feed front rest
    rw [List.append_assoc, List.singleton_append, more, bare]
    simp [splitLines, splitAtFeeds, dropEmptyLast]

theorem trimReturn_eq_self {line : List Char} (noReturn : line.getLast? ≠ some '\r') :
    trimReturn line = line := by
  rw [trimReturn]
  split
  · contradiction
  · rfl

theorem blank_intercalate_iff (lines : List (List Char)) :
    (List.intercalate ['\n'] lines).all isBlank = true ↔
      ∀ line ∈ lines, ∀ c ∈ line, isBlank c = true := by
  induction lines with
  | nil => simp
  | cons line lines ih =>
    cases lines with
    | nil => simp
    | cons next more =>
      rw [List.intercalate_cons_cons, List.all_append, List.all_append, Bool.and_eq_true,
        Bool.and_eq_true, ih, List.forall_mem_cons]
      simp [isBlank_lineFeed]

/-- Lines that are all ended by a line feed are read back as they are. -/
theorem splitLines_flatMap {lines : List (List Char)} (unbroken : ∀ line ∈ lines, '\n' ∉ line)
    (noReturn : ∀ line ∈ lines, line.getLast? ≠ some '\r') :
    splitLines (lines.flatMap (· ++ ['\n'])) = lines := by
  induction lines with
  | nil => rfl
  | cons line lines ih =>
    rw [List.forall_mem_cons] at unbroken noReturn
    rw [List.flatMap_cons, List.append_assoc, List.singleton_append, splitLines_append_feed,
      splitAtFeeds_of_notMem unbroken.1, ih unbroken.2 noReturn.2, List.map_singleton,
      trimReturn_eq_self noReturn.1]
    rfl

theorem intercalate_append_intercalate (separator : List Char) (front more : List (List Char))
    (last first : List Char) :
    separator.intercalate (front ++ [last]) ++ separator.intercalate (first :: more) =
      separator.intercalate (front ++ (last ++ first) :: more) := by
  induction front with
  | nil =>
    cases more with
    | nil => simp
    | cons line more => simp [List.intercalate_cons_cons]
  | cons line front ih =>
    have some_ (tail : List (List Char)) (l : List Char) : front ++ l :: tail ≠ [] := by simp
    rw [List.cons_append, List.cons_append, List.intercalate_cons_of_ne_nil (some_ [] last),
      List.intercalate_cons_of_ne_nil (some_ more _), List.append_assoc, ih]

/-- Without a line feed between them, the last piece of one text and the first of the next are one. -/
theorem splitAtFeeds_append {text rest : List Char} (front : List (List Char))
    {more : List (List Char)} {last first : List Char} (before : splitAtFeeds text = front ++ [last])
    (after : splitAtFeeds rest = first :: more) :
    splitAtFeeds (text ++ rest) = front ++ (last ++ first) :: more := by
  have unbroken := feed_notMem_splitAtFeeds text
  have unbroken' := feed_notMem_splitAtFeeds rest
  rw [before, List.forall_mem_append, List.forall_mem_singleton] at unbroken
  rw [after, List.forall_mem_cons] at unbroken'
  rw [← intercalate_splitAtFeeds text, ← intercalate_splitAtFeeds rest, before, after,
    intercalate_append_intercalate]
  apply splitAtFeeds_intercalate _ (by simp)
  rw [List.forall_mem_append, List.forall_mem_cons, List.mem_append, not_or]
  exact ⟨unbroken.1, ⟨unbroken.2, unbroken'.1⟩, unbroken'.2⟩

/-- Blanks behind a text lengthen its lines by blanks, and lines of blanks come behind them. -/
theorem splitAtFeeds_append_blank {text back first : List Char} {rest : List (List Char)}
    (pieces : splitAtFeeds text = first :: rest) (blank : back.all isBlank = true) :
    ∃ tail more, tail.all isBlank = true ∧ splitAtFeeds (text ++ back) = (first ++ tail) :: more ∧
      ∀ line ∈ rest, ∃ tail, tail.all isBlank = true ∧ line ++ tail ∈ more := by
  obtain ⟨tail, later, behind⟩ := List.exists_cons_of_ne_nil (splitAtFeeds_ne_nil back)
  have tailBlank : tail.all isBlank = true := by
    rw [← intercalate_splitAtFeeds back, blank_intercalate_iff, behind, List.forall_mem_cons] at blank
    simpa using blank.1
  rcases List.eq_nil_or_concat rest with rfl | ⟨middle, last, rfl⟩
  · exact ⟨tail, later, tailBlank, splitAtFeeds_append [] pieces behind, by simp⟩
  · rw [List.concat_eq_append] at pieces ⊢
    refine ⟨[], middle ++ (last ++ tail) :: later, rfl, ?_, ?_⟩
    · rw [List.append_nil]
      exact splitAtFeeds_append (first :: middle) pieces behind
    · rw [List.forall_mem_append, List.forall_mem_singleton]
      exact ⟨fun line member => ⟨[], rfl, by simp [member]⟩, tail, tailBlank, by simp⟩

/-- Blanks before a text stand before its first line, and lines of blanks come before that. -/
theorem splitAtFeeds_blank_append {text front first : List Char} {rest : List (List Char)}
    (pieces : splitAtFeeds text = first :: rest) (blank : front.all isBlank = true) :
    ∃ before indent, (∀ line ∈ before, line.all isBlank = true) ∧ indent.all isBlank = true ∧
      splitAtFeeds (front ++ text) = before ++ (indent ++ first) :: rest := by
  rw [← intercalate_splitAtFeeds front, blank_intercalate_iff] at blank
  rcases List.eq_nil_or_concat (splitAtFeeds front) with none | ⟨before, indent, ahead⟩
  · exact absurd none (splitAtFeeds_ne_nil front)
  · rw [List.concat_eq_append] at ahead
    rw [ahead, List.forall_mem_append, List.forall_mem_singleton] at blank
    refine ⟨before, indent, ?_, ?_, splitAtFeeds_append before ahead pieces⟩
    · simpa using blank.1
    · simpa using blank.2

/-- The first line of a trimmed text is its start, so it is not empty and begins with no blank. -/
theorem exists_first_of_strip {s : String} {first : List Char} {rest : List (List Char)}
    (some_ : strip s ≠ "") (pieces : splitAtFeeds (strip s).toList = first :: rest) :
    ∃ c line, first = c :: line ∧ isBlank c = false := by
  have whole : (strip s).toList = List.intercalate ['\n'] (first :: rest) := by
    rw [← pieces, intercalate_splitAtFeeds]
  cases first with
  | nil =>
    cases rest with
    | nil => exact absurd whole (by simpa using some_)
    | cons line rest =>
      have blank := head?_strip (s := s) '\n' (by simp [whole, List.intercalate_cons_cons])
      simp [isBlank_lineFeed] at blank
  | cons c line =>
    refine ⟨c, line, rfl, head?_strip (s := s) c ?_⟩
    cases rest <;> simp [whole, List.intercalate_cons_cons]

/-- The lines of a trimmed text in the text itself: the first has lost its indentation, and is that of the
first line that is not blank; each later one is a line of the text, less blanks at its end. -/
theorem lines_of_strip {text line : List Char} {c : Char} {rest : List (List Char)}
    (plain : isBlank c = false)
    (pieces : splitAtFeeds (strip (String.ofList text)).toList = (c :: line) :: rest) :
    ∃ indent tail, indent.all isBlank = true ∧ tail.all isBlank = true ∧
      (splitAtFeeds text).find? (fun l => !l.all isBlank) = some (indent ++ (c :: line ++ tail)) ∧
      ∀ l ∈ rest, ∃ tail, tail.all isBlank = true ∧ l ++ tail ∈ splitAtFeeds text := by
  obtain ⟨front, back, whole, frontBlank, backBlank⟩ := exists_strip text
  obtain ⟨tail, more, tailBlank, behind, later⟩ := splitAtFeeds_append_blank pieces backBlank
  obtain ⟨before, indent, beforeBlank, indentBlank, all⟩ := splitAtFeeds_blank_append behind frontBlank
  rw [← whole] at all
  refine ⟨indent, tail, indentBlank, tailBlank, ?_, ?_⟩
  · rw [all, List.find?_append, List.find?_eq_none.mpr (by simpa using beforeBlank), Option.none_or]
    exact List.find?_cons_of_pos (by simp [plain])
  · intro l inRest
    obtain ⟨tail, blank, inMore⟩ := later l inRest
    exact ⟨tail, blank, by simp [all, inMore]⟩

end FenceCheck.Text
