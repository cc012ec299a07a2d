import FenceCheck.Proofs.Text.Blank
import FenceCheck.Text.Lowercase

/-! Small letters stay as they are when a text is put in small letters again, and none of them is a
blank; so a text that is trimmed and put in small letters is its own trimmed form in small letters. -/
namespace FenceCheck.Text
variable {c : Char} {n : Nat} {r r' : CapitalRun} {runs : List CapitalRun} {s before : List Char}

/-- A character that small letters leave as it is. -/
def IsSmall (c : Char) : Prop :=
  lowerChar c = [c]

instance : DecidablePred IsSmall := fun _ => inferInstanceAs (Decidable (_ = _))

/-- Whether a run has a code point. -/
def CapitalRun.has (r : CapitalRun) (n : Nat) : Bool :=
  Nat.ble r.first n && (Nat.ble n r.last && Nat.beq ((n - r.first) % r.stride) 0)

/-- The small letter of a capital of a run, by their code points. -/
def CapitalRun.small (r : CapitalRun) (n : Nat) : Nat :=
  ((n : Int) + r.shift).toNat

def CapitalRun.codes (r : CapitalRun) : List Nat :=
  (List.range ((r.last - r.first) / r.stride + 1)).map (r.first + r.stride * ·)

theorem CapitalRun.has_iff :
    r.has n = true ↔ r.first ≤ n ∧ n ≤ r.last ∧ (n - r.first) % r.stride = 0 := by
  simp [has]

theorem CapitalRun.mem_codes (has : r.has n = true) : n ∈ r.codes := by
  obtain ⟨above, below, step⟩ := r.has_iff.mp has
  refine List.mem_map.mpr ⟨(n - r.first) / r.stride, ?_, ?_⟩
  · rw [List.mem_range, Nat.lt_succ_iff]
    exact Nat.div_le_div_right (by omega)
  · have whole : r.stride * ((n - r.first) / r.stride) = n - r.first :=
      Nat.mul_div_cancel' (Nat.dvd_of_mod_eq_zero step)
    rw [whole, Nat.add_sub_cancel' above]

/-- Whether no small letter of a run is a capital of another: judged by the ends of the runs where
these lie apart, since there are too many letters to look at each of them for each run. -/
def CapitalRun.avoids (r r' : CapitalRun) : Bool :=
  Nat.blt (r.small r.last) r'.first || (Nat.blt r'.last (r.small r.first) ||
    r.codes.all fun n => !r'.has (r.small n))

theorem avoids_capitalRuns :
    (capitalRuns.toList.all fun r => capitalRuns.toList.all r.avoids) = true := by
  decide +kernel

theorem CapitalRun.not_has_small (run : r ∈ capitalRuns.toList) (run' : r' ∈ capitalRuns.toList)
    (has : r.has n = true) : r'.has (r.small n) = false := by
  have avoids : r.avoids r' = true :=
    List.all_eq_true.mp (List.all_eq_true.mp avoids_capitalRuns r run) r' run'
  obtain ⟨above, below, _⟩ := r.has_iff.mp has
  rw [Bool.eq_false_iff, Ne, has_iff]
  rintro ⟨above', below', step'⟩
  simp only [CapitalRun.avoids, Bool.or_eq_true, Nat.blt_eq] at avoids
  rcases avoids with before | after | each
  · simp only [small] at before above'
    omega
  · simp only [small] at after below'
    omega
  · have apart := List.all_eq_true.mp each n (r.mem_codes has)
    simp [r'.has_iff.mpr ⟨above', below', step'⟩] at apart

/-- The small letters of the runs are characters, none of them the dotted capital or a blank. -/
theorem plain_small : ∀ r ∈ capitalRuns.toList, ∀ n ∈ r.codes, (r.small n).isValidChar ∧
    r.small n ≠ 0x130 ∧ withinBoundaries blankBoundaries (r.small n) = false := by
  decide +kernel

theorem lowerFrom_eq_self (none_ : ∀ r ∈ runs, r.has c.toNat = false) : lowerFrom c runs = c := by
  induction runs with
  | nil => rfl
  | cons r rest ih =>
    obtain ⟨here, later⟩ := List.forall_mem_cons.mp none_
    rw [Bool.eq_false_iff, Ne, r.has_iff] at here
    rw [lowerFrom]
    split
    · rfl
    · split
      · split
        · exact absurd ⟨by omega, by omega, by omega⟩ here
        · exact ih later
      · exact ih later

/-- The character itself where no run has it, else its small letter in the first run that does. -/
theorem lowerFrom_cases (c : Char) (runs : List CapitalRun) : lowerFrom c runs = c ∨
    ∃ r ∈ runs, r.has c.toNat = true ∧ lowerFrom c runs = Char.ofNat (r.small c.toNat) := by
  induction runs with
  | nil => exact .inl rfl
  | cons r rest ih =>
    have later : lowerFrom c rest = c ∨ ∃ r' ∈ r :: rest, r'.has c.toNat = true ∧
        lowerFrom c rest = Char.ofNat (r'.small c.toNat) := by
      rcases ih with same | ⟨r', listed, found⟩
      · exact .inl same
      · exact .inr ⟨r', List.mem_cons_of_mem r listed, found⟩
    rw [lowerFrom]
    split
    · exact .inl rfl
    · split
      · split
        · exact .inr ⟨r, List.mem_cons_self, r.has_iff.mpr ⟨by omega, by omega, by omega⟩, rfl⟩
        · exact later
      · exact later

/-- Small letters, and no blank among them. -/
def Lettered (letters : List Char) : Prop :=
  ∀ d ∈ letters, IsSmall d ∧ isBlank d = false

-- the members are gone through, where an instance for all characters might be found instead
instance (letters : List Char) : Decidable (Lettered letters) :=
  List.decidableBAll _ letters

theorem isSmall_ascii : ∀ n < 0x80, (capitalRuns.toList.any (·.has n) = true ∨
    IsSmall (Char.ofNat n)) ∧ (IsSmall (Char.ofNat n) ∨ Lettered (lowerChar (Char.ofNat n))) := by
  decide +kernel

theorem isSmall_of_not_has (none_ : ∀ r ∈ capitalRuns.toList, r.has c.toNat = false)
    (plain : c ≠ '\u0130') : IsSmall c := by
  by_cases ascii : c.toNat < 0x80
  · have each := (isSmall_ascii c.toNat ascii).1
    rw [Char.ofNat_toNat] at each
    refine each.resolve_left fun some => ?_
    obtain ⟨r, listed, has⟩ := List.any_eq_true.mp some
    simp [none_ r listed] at has
  · rw [IsSmall, lowerChar, if_neg ascii, if_neg plain, lowerFrom_eq_self none_]

/-- A small letter is small itself, and no blank where it differs. -/
theorem lowerChar_cases (c : Char) : IsSmall c ∨ Lettered (lowerChar c) := by
  by_cases ascii : c.toNat < 0x80
  · simpa using (isSmall_ascii c.toNat ascii).2
  · by_cases dotted : c = '\u0130'
    · subst dotted
      right
      decide +kernel
    · have one : lowerChar c = [lowerFrom c capitalRuns.toList] := by
        rw [lowerChar, if_neg ascii, if_neg dotted]
      rcases lowerFrom_cases c capitalRuns.toList with same | ⟨r, listed, has, found⟩
      · left
        rw [IsSmall, one, same]
      · right
        obtain ⟨valid, plain, inked⟩ := plain_small r listed c.toNat (r.mem_codes has)
        have code : (Char.ofNat (r.small c.toNat)).toNat = r.small c.toNat := by
          rw [Char.ofNat, dif_pos valid]
          rfl
        rw [one, found]
        refine List.forall_mem_singleton.mpr ⟨isSmall_of_not_has ?_ ?_, ?_⟩
        · intro r' listed'
          rw [code]
          exact r.not_has_small listed listed' has
        · rintro same
          exact plain (by rw [← code, same]; rfl)
        · rw [isBlank, code, inked]

/-- What stands for a character among small letters: some of them, with a blank only for a blank. -/
structure Stands (c : Char) (letters : List Char) : Prop where
  some : letters ≠ []
  small : ∀ d ∈ letters, IsSmall d
  inked : isBlank c = false → ∀ d ∈ letters, isBlank d = false

theorem Lettered.stands {letters : List Char} (lettered : Lettered letters) (some : letters ≠ [])
    (c : Char) : Stands c letters :=
  ⟨some, fun d member => (lettered d member).1, fun _ d member => (lettered d member).2⟩

theorem stands_lowerChar (c : Char) : Stands c (lowerChar c) := by
  have some : lowerChar c ≠ [] := by
    unfold lowerChar
    split
    · exact List.cons_ne_nil _ _
    · split <;> exact List.cons_ne_nil _ _
  rcases lowerChar_cases c with small | lettered
  · have one : lowerChar c = [c] := small
    refine ⟨some, ?_, ?_⟩
    · simpa [one] using small
    · simp [one]
  · exact lettered.stands some c

theorem exists_lowerAfter_cons (before : List Char) (c : Char) (rest : List Char) :
    ∃ letters, Stands c letters ∧
      lowerAfter before (c :: rest) = letters ++ lowerAfter (c :: before) rest := by
  refine ⟨_, ?_, rfl⟩
  split
  · split
    · exact Lettered.stands (by decide +kernel) (List.cons_ne_nil _ _) c
    · exact Lettered.stands (by decide +kernel) (List.cons_ne_nil _ _) c
  · exact stands_lowerChar c

theorem lowerAfter_eq_nil_iff : lowerAfter before s = [] ↔ s = [] := by
  cases s with
  | nil => simp [lowerAfter]
  | cons c rest =>
    obtain ⟨letters, stands, whole⟩ := exists_lowerAfter_cons before c rest
    simp [whole, stands.some]

theorem isSmall_of_mem_lowerAfter : ∀ d ∈ lowerAfter before s, IsSmall d := by
  induction s generalizing before with
  | nil => simp [lowerAfter]
  | cons c rest ih =>
    obtain ⟨letters, stands, whole⟩ := exists_lowerAfter_cons before c rest
    rw [whole]
    intro d member
    rcases List.mem_append.mp member with here | later
    · exact stands.small d here
    · exact ih d later

theorem lowerAfter_eq_self (small : ∀ c ∈ s, IsSmall c) : lowerAfter before s = s := by
  induction s generalizing before with
  | nil => rfl
  | cons c rest ih =>
    obtain ⟨here, later⟩ := List.forall_mem_cons.mp small
    have noSigma : c ≠ 'Σ' := by
      rintro rfl
      exact absurd here (by decide +kernel)
    have one : lowerChar c = [c] := here
    rw [lowerAfter, if_neg noSigma, one, ih later]
    rfl

theorem lower_eq_empty_iff (s : String) : lower s = "" ↔ s = "" := by
  rw [lower, String.ofList_eq_empty_iff, lowerAfter_eq_nil_iff, String.toList_eq_nil_iff]

/-- A text in small letters stays as it is. -/
theorem lower_lower (s : String) : lower (lower s) = lower s := by
  simp only [lower, String.toList_ofList]
  rw [lowerAfter_eq_self isSmall_of_mem_lowerAfter]

theorem head?_lowerAfter (first : ∀ c ∈ s.head?, isBlank c = false) :
    ∀ d ∈ (lowerAfter before s).head?, isBlank d = false := by
  cases s with
  | nil => simp [lowerAfter]
  | cons c rest =>
    obtain ⟨letters, stands, whole⟩ := exists_lowerAfter_cons before c rest
    obtain ⟨d, more, rfl⟩ := List.exists_cons_of_ne_nil stands.some
    rw [whole]
    simpa using stands.inked (first c rfl) d List.mem_cons_self

theorem getLast?_lowerAfter (last : ∀ c ∈ s.getLast?, isBlank c = false) :
    ∀ d ∈ (lowerAfter before s).getLast?, isBlank d = false := by
  induction s generalizing before with
  | nil => simp [lowerAfter]
  | cons c rest ih =>
    obtain ⟨letters, stands, whole⟩ := exists_lowerAfter_cons before c rest
    intro d member
    rw [whole, List.getLast?_append] at member
    cases rest with
    | nil =>
      have inked := stands.inked (last c rfl)
      exact inked d (List.mem_of_getLast? (by simpa [lowerAfter] using member))
    | cons c' rest =>
      obtain ⟨letters', stands', whole'⟩ := exists_lowerAfter_cons (c :: before) c' rest
      have some : lowerAfter (c :: before) (c' :: rest) ≠ [] := by
        simp [whole', stands'.some]
      have ending : d ∈ (lowerAfter (c :: before) (c' :: rest)).getLast? := by
        simpa [List.getLast?_eq_some_getLast some] using member
      exact ih (fun e member => last e (by rwa [List.getLast?_cons_cons])) d ending

/-- Trimmed texts stay trimmed in small letters. -/
theorem strip_lower (s : String) : strip (lower (strip s)) = lower (strip s) := by
  apply strip_eq_self
  · rw [lower, String.toList_ofList]
    exact head?_lowerAfter head?_strip
  · rw [lower, String.toList_ofList]
    exact getLast?_lowerAfter getLast?_strip

end FenceCheck.Text
