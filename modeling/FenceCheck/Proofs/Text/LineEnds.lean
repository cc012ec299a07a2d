import FenceCheck.Proofs.Text.Lines
import FenceCheck.Proofs.Text.Utf8
import Mathlib.Data.List.Infix

/-! Two ways to treat a carriage return that stands before a line feed: it is taken away where a line ends,
or together with the line feed it is read as one line end. Both see the same lines as long as carriage
returns stand nowhere else. -/
namespace FenceCheck.Text
variable {text line rest : List Char}

/-- Every carriage return has a line feed right behind it. -/
def Paired (text : List Char) : Prop :=
  ∀ after, '\r' :: after <:+ text → after.head? = some '\n'

instance (text : List Char) : Decidable (Paired text) :=
  decidable_of_iff (∀ s ∈ text.tails, s.head? = some '\r' → s.tail.head? = some '\n') <| by
    constructor
    · intro each after ends
      exact each _ ((List.mem_tails _ _).mpr ends) rfl
    · rintro paired (_ | ⟨c, after⟩) listed first
      · contradiction
      · obtain rfl : c = '\r' := by simpa using first
        exact paired after ((List.mem_tails _ _).mp listed)

/-- The lines of a text are ended by line feeds alone, none of which a carriage return goes before. -/
def FeedsAlone (text : List Char) : Prop :=
  ¬ ['\r', '\n'] <:+: text

instance (text : List Char) : Decidable (FeedsAlone text) := inferInstanceAs (Decidable (¬ _))

/-- The text with a carriage return put before each line feed. -/
def withReturns (text : List Char) : List Char :=
  text.flatMap fun c => if c = '\n' then ['\r', '\n'] else [c]

/-- What holds of a text without a line end, and of one more line before a text, holds of all texts. -/
theorem lines_induction {P : List Char → Prop} (last : ∀ text, '\n' ∉ text → P text)
    (next : ∀ line rest, '\n' ∉ line → P rest → P (line ++ '\n' :: rest)) (text : List Char) : P text := by
  by_cases feed : '\n' ∈ text
  · obtain ⟨line, rest, whole, unbroken⟩ := List.eq_append_cons_of_mem feed
    rw [whole]
    exact next line rest unbroken (lines_induction last next rest)
  · exact last text feed
termination_by text.length
decreasing_by
  rw [whole, List.length_append, List.length_cons]
  omega

theorem splitLines_line (unbroken : '\n' ∉ line) (rest : List Char) :
    splitLines (line ++ '\n' :: rest) = trimReturn line :: splitLines rest := by
  rw [splitLines_append_feed, splitAtFeeds_of_notMem unbroken]
  rfl

@[simp] theorem trimReturn_append_return (line : List Char) : trimReturn (line ++ ['\r']) = line := by
  simp [trimReturn]

theorem unifyLineEnds_feed (rest : List Char) :
    unifyLineEnds ('\n' :: rest) = '\n' :: unifyLineEnds rest := by
  rw [unifyLineEnds, if_neg (by decide)]
  simp

theorem unifyLineEnds_append (clean : '\r' ∉ line) (rest : List Char) :
    unifyLineEnds (line ++ rest) = line ++ unifyLineEnds rest := by
  induction line with
  | nil => rfl
  | cons c line ih =>
    obtain ⟨other, later⟩ : '\r' ≠ c ∧ '\r' ∉ line := by simpa using clean
    rw [List.cons_append, unifyLineEnds, ih later, if_neg other.symm, List.cons_append]
    rintro more rfl
    exact absurd rfl other

section Paired

theorem Paired.of_suffix (paired : Paired text) (ends : rest <:+ text) : Paired rest :=
  fun after inside => paired after (inside.trans ends)

/-- Without a line feed there is no carriage return either. -/
theorem Paired.clean (paired : Paired text) (unbroken : '\n' ∉ text) : '\r' ∉ text := by
  intro return_
  obtain ⟨before, after, rfl⟩ := List.append_of_mem return_
  have next := paired after (List.suffix_append before _)
  exact unbroken (List.mem_append_right before (List.mem_cons_of_mem _ (List.mem_of_head? next)))

/-- The only carriage return of a line is its last character. -/
theorem Paired.line_cases (paired : Paired (line ++ '\n' :: rest)) (unbroken : '\n' ∉ line) :
    ∃ body, '\r' ∉ body ∧ (line = body ∨ line = body ++ ['\r']) := by
  by_cases return_ : '\r' ∈ line
  · obtain ⟨body, after, rfl, clean⟩ := List.eq_append_cons_of_mem return_
    refine ⟨body, clean, .inr ?_⟩
    have next := paired (after ++ '\n' :: rest) ⟨body, by simp⟩
    cases after with
    | nil => rfl
    | cons c after =>
      obtain rfl : c = '\n' := by simpa using next
      simp at unbroken
  · exact ⟨line, return_, .inl rfl⟩

/-- Whether line ends are unified before a text is cut into lines makes no difference. -/
theorem Paired.splitLines_unifyLineEnds (paired : Paired text) :
    splitLines (unifyLineEnds text) = splitLines text := by
  induction text using lines_induction with
  | last text unbroken => rw [unifyLineEnds_eq_self (paired.clean unbroken)]
  | next line rest unbroken ih =>
    have later := ih (paired.of_suffix ⟨line ++ ['\n'], by simp⟩)
    obtain ⟨body, clean, plain | ended⟩ := paired.line_cases unbroken
    · subst plain
      rw [unifyLineEnds_append clean, unifyLineEnds_feed, splitLines_line unbroken,
        splitLines_line unbroken, later]
    · subst ended
      have smooth : '\n' ∉ body := fun feed => unbroken (List.mem_append_left _ feed)
      have trimmed : trimReturn body = body := trimReturn_eq_self fun last =>
        clean (List.mem_of_getLast? last)
      rw [splitLines_line unbroken, trimReturn_append_return, List.append_assoc, List.singleton_append,
        unifyLineEnds_append clean, unifyLineEnds, splitLines_line smooth, trimmed, later]

end Paired

section Returns

theorem withReturns_cons_feed (rest : List Char) :
    withReturns ('\n' :: rest) = '\r' :: '\n' :: withReturns rest := rfl

theorem withReturns_cons {c : Char} (other : c ≠ '\n') (rest : List Char) :
    withReturns (c :: rest) = c :: withReturns rest := by
  simp [withReturns, other]

theorem withReturns_append (a b : List Char) : withReturns (a ++ b) = withReturns a ++ withReturns b :=
  List.flatMap_append

theorem withReturns_of_notMem (unbroken : '\n' ∉ text) : withReturns text = text := by
  induction text with
  | nil => rfl
  | cons c rest ih =>
    obtain ⟨other, later⟩ : '\n' ≠ c ∧ '\n' ∉ rest := by simpa using unbroken
    rw [withReturns_cons other.symm, ih later]

theorem FeedsAlone.of_suffix (alone : FeedsAlone text) (ends : rest <:+ text) : FeedsAlone rest :=
  fun inside => alone (inside.trans ends.isInfix)

/-- The lines are the same whether a carriage return goes before each line feed or before none. -/
theorem FeedsAlone.splitLines_withReturns (alone : FeedsAlone text) :
    splitLines (withReturns text) = splitLines text := by
  induction text using lines_induction with
  | last text unbroken => rw [withReturns_of_notMem unbroken]
  | next line rest unbroken ih =>
    have noReturn : line.getLast? ≠ some '\r' := by
      intro last
      obtain ⟨front, rfl⟩ := List.getLast?_eq_some_iff.mp last
      exact alone ⟨front, rest, by simp⟩
    have smooth : '\n' ∉ line ++ ['\r'] := by simpa using unbroken
    have split : withReturns (line ++ '\n' :: rest) = (line ++ ['\r']) ++ '\n' :: withReturns rest := by
      rw [withReturns_append, withReturns_of_notMem unbroken, withReturns_cons_feed]
      simp
    rw [split, splitLines_line smooth, splitLines_line unbroken, trimReturn_append_return,
      trimReturn_eq_self noReturn, ih (alone.of_suffix ⟨line ++ ['\n'], by simp⟩)]

theorem head?_withReturns (text : List Char) : (withReturns text).head? ≠ some '\n' := by
  cases text with
  | nil => simp [withReturns]
  | cons c rest =>
    by_cases feed : c = '\n'
    · subst feed
      simp [withReturns_cons_feed]
    · simp [withReturns_cons feed, feed]

/-- Nor does it make a difference to a reader that takes every line end for a line feed. -/
theorem FeedsAlone.unifyLineEnds_withReturns (alone : FeedsAlone text) :
    unifyLineEnds (withReturns text) = unifyLineEnds text := by
  induction text with
  | nil => rfl
  | cons c rest ih =>
    have later := ih (alone.of_suffix (List.suffix_cons c rest))
    by_cases feed : c = '\n'
    · subst feed
      rw [withReturns_cons_feed, unifyLineEnds, unifyLineEnds_feed, later]
    · -- a return that stands alone has no line feed behind it in either text
      rw [withReturns_cons feed, unifyLineEnds, unifyLineEnds, later]
      · rintro more rfl rfl
        exact alone ⟨[], more, rfl⟩
      · rintro more rfl same
        exact head?_withReturns rest (by simp [same])

end Returns
end FenceCheck.Text
