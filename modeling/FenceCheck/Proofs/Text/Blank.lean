import FenceCheck.Text.Blank
import Mathlib.Data.List.TakeWhile

/-! Trimming forgets blanks at either end of a text, however many there are. -/
namespace FenceCheck.Text

theorem isBlank_lineFeed : isBlank '\n' = true := by decide +kernel

theorem not_blank_of_all {s : List Char} (plain : (s.all fun c => !isBlank c) = true) :
    ∀ c ∈ s, isBlank c = false := by
  simpa using plain

theorem stripLeft_of_blank (s : List Char) (blank : s.all isBlank = true) : stripLeft s = [] := by
  simpa [stripLeft, List.dropWhile_eq_nil_iff] using blank

theorem stripLeft_append (s t : List Char) :
    stripLeft (s ++ t) = if s.all isBlank = true then stripLeft t else stripLeft s ++ t := by
  induction s with
  | nil => rfl
  | cons c s ih =>
    by_cases hc : isBlank c = true
    · simpa [stripLeft, hc] using ih
    · simp [stripLeft, hc]

theorem stripRight_append_blank (s t : List Char) (blank : t.all isBlank = true) :
    stripRight (s ++ t) = stripRight s := by
  have dropped : (t.reverse ++ s.reverse).dropWhile isBlank = s.reverse.dropWhile isBlank :=
    List.dropWhile_append_of_pos (by simpa using blank)
  simp only [stripRight, List.reverse_append, dropped]

/-- Blanks behind a text are trimmed away, also when the text before them is all blank. -/
theorem strip_append_blank (s t : List Char) (blank : t.all isBlank = true) :
    strip (String.ofList (s ++ t)) = strip (String.ofList s) := by
  simp only [strip, String.toList_ofList, stripLeft_append]
  split
  · next hs => rw [stripLeft_of_blank t blank, stripLeft_of_blank s hs]
  · rw [stripRight_append_blank _ t blank]

theorem stripLeft_eq_self {s : List Char} (first : ∀ c ∈ s.head?, isBlank c = false) :
    stripLeft s = s := by
  cases s with
  | nil => rfl
  | cons c s => exact List.dropWhile_cons_of_neg (by simpa using first c rfl)

theorem head?_stripLeft {s : List Char} : ∀ c ∈ (stripLeft s).head?, isBlank c = false := by
  intro c first
  have kept := List.head?_dropWhile_not isBlank s
  rw [stripLeft] at first
  simpa [Option.mem_def.mp first] using kept

theorem stripRight_stripRight (s : List Char) : stripRight (stripRight s) = stripRight s := by
  have again := @stripLeft_eq_self (s.reverse.dropWhile isBlank) head?_stripLeft
  simp only [stripLeft] at again
  simp only [stripRight, List.reverse_reverse, again]

theorem exists_stripLeft (s : List Char) :
    ∃ front, s = front ++ stripLeft s ∧ front.all isBlank = true :=
  ⟨s.takeWhile isBlank, List.takeWhile_append_dropWhile.symm, List.all_takeWhile⟩

theorem exists_stripRight (s : List Char) :
    ∃ back, s = stripRight s ++ back ∧ back.all isBlank = true := by
  obtain ⟨front, whole, blank⟩ := exists_stripLeft s.reverse
  refine ⟨front.reverse, ?_, by rwa [List.all_reverse]⟩
  rw [stripRight, ← List.reverse_append, ← List.reverse_eq_iff]
  exact whole

/-- What is taken off the end of a text leaves its first character, if it leaves any. -/
theorem head?_stripRight {s : List Char} : ∀ c ∈ (stripRight s).head?, s.head? = some c := by
  intro c first
  obtain ⟨back, whole, _⟩ := exists_stripRight s
  rw [whole, List.head?_append, Option.mem_def.mp first]
  rfl

theorem head?_strip {s : String} : ∀ c ∈ (strip s).toList.head?, isBlank c = false := by
  intro c first
  rw [strip, String.toList_ofList] at first
  exact head?_stripLeft c (head?_stripRight c first)

theorem getLast?_strip {s : String} : ∀ c ∈ (strip s).toList.getLast?, isBlank c = false := by
  intro c last
  rw [strip, String.toList_ofList, stripRight, List.getLast?_reverse] at last
  exact head?_stripLeft (s := (stripLeft s.toList).reverse) c last

/-- A text that begins and ends with no blank is trimmed already. -/
theorem strip_eq_self {s : String} (first : ∀ c ∈ s.toList.head?, isBlank c = false)
    (last : ∀ c ∈ s.toList.getLast?, isBlank c = false) : strip s = s := by
  have right : stripLeft s.toList.reverse = s.toList.reverse := by
    refine stripLeft_eq_self fun c member => last c ?_
    rwa [List.head?_reverse] at member
  rw [stripLeft] at right
  rw [strip, stripLeft_eq_self first, stripRight, right, List.reverse_reverse, String.ofList_toList]

/-- A text is its trimmed form between blanks. -/
theorem exists_strip (s : List Char) :
    ∃ front back, s = front ++ ((strip (String.ofList s)).toList ++ back) ∧
      front.all isBlank = true ∧ back.all isBlank = true := by
  obtain ⟨front, left, before⟩ := exists_stripLeft s
  obtain ⟨back, right, after⟩ := exists_stripRight (stripLeft s)
  refine ⟨front, back, ?_, before, after⟩
  rw [strip, String.toList_ofList, String.toList_ofList, ← right, ← left]

/-- Trimming a trimmed text changes nothing. -/
theorem strip_strip (s : String) : strip (strip s) = strip s := by
  have first : ∀ c ∈ (stripRight (stripLeft s.toList)).head?, isBlank c = false := by
    simpa [strip] using head?_strip (s := s)
  simp only [strip, String.toList_ofList, stripLeft_eq_self first, stripRight_stripRight]

theorem strip_eq_empty_iff (s : List Char) :
    strip (String.ofList s) = "" ↔ s.all isBlank = true := by
  rw [strip, String.toList_ofList, String.ofList_eq_empty_iff]
  constructor
  · intro nothing
    have blank : (stripLeft s).all isBlank = true := by
      simpa [stripRight, List.dropWhile_eq_nil_iff] using nothing
    cases left : stripLeft s with
    | nil => simpa [stripLeft, List.dropWhile_eq_nil_iff] using left
    | cons c rest =>
      have first := head?_stripLeft (s := s) c (by simp [left])
      simp [left, first] at blank
  · intro blank
    rw [stripLeft_of_blank s blank]
    rfl

theorem stripPoints_codePoints (s : String) : stripPoints (codePoints s) = codePoints (strip s) := by
  have kept (cs : List Char) : (cs.map CodePoint.ofChar).dropWhile (·.isBlank) =
      (cs.dropWhile isBlank).map .ofChar := List.dropWhile_map ..
  simp only [stripPoints, codePoints, kept, ← List.map_reverse, strip, stripRight, stripLeft,
    String.toList_ofList]

end FenceCheck.Text
