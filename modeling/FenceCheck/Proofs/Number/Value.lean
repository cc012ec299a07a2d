import FenceCheck.Number.Reading
import Mathlib.Algebra.Order.Field.Power
import Mathlib.Data.List.Induction
import Mathlib.Data.Nat.Digits.Defs
import Mathlib.Data.Rat.Floor
import Mathlib.Tactic.Positivity

/-! What numbers are worth: a bit pattern as a rational number, and a text by its digits. Cutting a
fraction off rounds toward zero, and a text is read as the integer that it writes. -/
namespace FenceCheck.Number

namespace Binary64
variable {x : Binary64} {n : Int} {q : ℚ}

/-- The number that a finite bit pattern stands for. -/
def value? (x : Binary64) : Option ℚ :=
  match x.form with
  | .finite negative m e => some ((if negative then -(m : ℚ) else m) * 2 ^ e)
  | _ => none

/-- Above zero, finite or not. -/
def Positive (x : Binary64) : Prop :=
  x.form = .infinite false ∨ ∃ q, x.value? = some q ∧ 0 < q

theorem isNonPositive_eq_false_iff : x.isNonPositive = false ↔ x.form = .nan ∨ x.Positive := by
  rw [isNonPositive, Positive, value?]
  split
  · rename_i isNan
    simp [isNan]
  · rename_i negative isInfinite
    simp [isInfinite]
  · rename_i negative m e isFinite
    have power : (0 : ℚ) < 2 ^ e := by positivity
    cases negative with
    | true =>
      have below : -(m : ℚ) * 2 ^ e ≤ 0 := by
        rw [neg_mul, neg_nonpos]
        positivity
      simpa [isFinite] using below
    | false =>
      simp [isFinite, mul_pos_iff_of_pos_right power, Nat.pos_iff_ne_zero]

/-- A rational number without its fraction. -/
def towardZero (q : ℚ) : Int :=
  if 0 ≤ q then ⌊q⌋ else ⌈q⌉

theorem towardZero_neg (q : ℚ) : towardZero (-q) = -towardZero q := by
  rcases lt_trichotomy q 0 with below | rfl | above
  · simp [towardZero, below.le, not_le.mpr below, Int.floor_neg]
  · simp [towardZero]
  · simp [towardZero, above.le, not_le.mpr above, Int.ceil_neg]

theorem towardZero_intCast (n : Int) : towardZero n = n := by
  simp [towardZero]

theorem towardZero_magnitude (m : Nat) (e : Int) : towardZero ((m : ℚ) * 2 ^ e) =
    ((if 0 ≤ e then m * pow2 e.toNat else m / pow2 (-e).toNat : Nat) : Int) := by
  have notNegative : (0 : ℚ) ≤ m * 2 ^ e := by positivity
  rw [towardZero, if_pos notNegative]
  split
  · rename_i whole
    obtain ⟨k, rfl⟩ := Int.eq_ofNat_of_zero_le whole
    have same : (m : ℚ) * 2 ^ (k : Int) = ((m * pow2 k : Nat) : Int) := by
      simp [pow2]
    rw [same, Int.floor_intCast]
    rfl
  · rename_i fractional
    obtain ⟨k, rfl⟩ : ∃ k : Nat, e = -(k : Int) := ⟨(-e).toNat, by omega⟩
    have same : (m : ℚ) * 2 ^ (-(k : Int)) = ((m : Int) : ℚ) / ((pow2 k : Nat) : ℚ) := by
      simp [pow2, div_eq_mul_inv]
    rw [same, Rat.floor_intCast_div_natCast]
    simp

/-- The integer part of a finite number. -/
theorem truncate_eq (x : Binary64) : x.truncate = x.value?.map towardZero := by
  rw [truncate, value?]
  cases x.form with
  | nan => rfl
  | infinite negative => rfl
  | finite negative m e =>
    simp only [Option.map_some, ← towardZero_magnitude]
    cases negative with
    | true => simp [neg_mul, towardZero_neg]
    | false => rfl

end Binary64

section Numerals
open FenceCheck.Text
variable {c d : Char} {cs ds : List Char} {s : String} {n : Int}

/-- The values of the digits in a text, of any script. -/
def digits (cs : List Char) : List Nat :=
  cs.filterMap digitValue?

/-- A text that writes an integer in base ten: digits of any script with low lines between them, after a
sign or none, and blanks around it all. -/
inductive Numeral : List Char → Int → Prop where
  | written {front sign body back : List Char} : front.all isBlank = true → back.all isBlank = true →
      sign ∈ [[], ['+'], ['-']] → (∀ c ∈ body, c = '_' ∨ (digitValue? c).isSome) → digits body ≠ [] →
      Numeral (front ++ (sign ++ (body ++ back)))
        (if sign = ['-'] then -(Nat.ofDigits 10 (digits body).reverse : Nat)
          else (Nat.ofDigits 10 (digits body).reverse : Nat))

theorem plain_ascii : ∀ n < 0x80, (isAsciiBlank (Char.ofNat n) = true → isBlank (Char.ofNat n) = true) ∧
    ((Char.ofNat n).isDigit = true → digitValue? (Char.ofNat n) = some (n - 48)) := by
  decide +kernel

theorem plain_digit : ∀ n < 10, (Char.ofNat (48 + n)).toNat = 48 + n ∧
    isAsciiBlank (Char.ofNat (48 + n)) = false ∧ (Char.ofNat (48 + n)).isDigit = true := by
  decide

/-- A plain character is the character itself if that is ASCII; else it tells a blank or a digit. -/
theorem plainChar_cases (c : Char) : (c.toNat < 0x80 ∧ plainChar c = c) ∨
    (isBlank c = true ∧ plainChar c = ' ') ∨
    (∃ n < 10, digitValue? c = some n ∧ plainChar c = Char.ofNat (48 + n)) ∨ plainChar c = '?' := by
  rw [plainChar]
  split
  · rename_i ascii
    exact .inl ⟨ascii, rfl⟩
  · split
    · rename_i blank
      exact .inr (.inl ⟨blank, rfl⟩)
    · split
      · rename_i n value
        refine .inr (.inr (.inl ⟨n, ?_, value, rfl⟩))
        simp only [digitValue?] at value
        split at value
        · rw [← Option.some.inj value]
          exact Nat.mod_lt _ (by decide)
        · contradiction
      · exact .inr (.inr (.inr rfl))

theorem isBlank_of_plainChar (blank : isAsciiBlank (plainChar c) = true) : isBlank c = true := by
  rcases plainChar_cases c with ⟨ascii, same⟩ | ⟨isBlank, _⟩ | ⟨n, small, _, same⟩ | same
  · rw [same] at blank
    have each := (plain_ascii c.toNat ascii).1
    rw [Char.ofNat_toNat] at each
    exact each blank
  · exact isBlank
  · rw [same, (plain_digit n small).2.1] at blank
    contradiction
  · rw [same] at blank
    exact absurd blank (by decide)

theorem digitValue?_of_plainChar (digit : (plainChar c).isDigit = true) :
    digitValue? c = some ((plainChar c).toNat - 48) := by
  rcases plainChar_cases c with ⟨ascii, same⟩ | ⟨_, same⟩ | ⟨n, small, value, same⟩ | same
  · rw [same] at digit ⊢
    have each := (plain_ascii c.toNat ascii).2
    rw [Char.ofNat_toNat] at each
    exact each digit
  · rw [same] at digit
    exact absurd digit (by decide)
  · rw [value, same, (plain_digit n small).1, Nat.add_sub_cancel_left]
  · rw [same] at digit
    exact absurd digit (by decide)

/-- Signs and low lines come from themselves only. -/
theorem eq_of_plainChar (same : plainChar c = d) (mark : d ∈ ['+', '-', '_']) : c = d := by
  subst same
  rcases plainChar_cases c with ⟨_, same⟩ | ⟨_, same⟩ | ⟨n, small, _, same⟩ | same
  · exact same.symm
  · rw [same] at mark
    exact absurd mark (by decide)
  · have noMark : ∀ n < 10, Char.ofNat (48 + n) ∉ ['+', '-', '_'] := by decide
    exact absurd (same ▸ mark) (noMark n small)
  · rw [same] at mark
    exact absurd mark (by decide)

theorem joinDigits_eq_filter {after : Bool} (joined : joinDigits after cs = some ds) :
    ds = cs.filter (· ≠ '_') := by
  induction after, cs using joinDigits.induct generalizing ds with
  | case1 after => simpa [joinDigits] using joined.symm
  | case2 after d rest fits ih =>
    rw [joinDigits, if_pos fits] at joined
    obtain ⟨more, others, rfl⟩ := Option.map_eq_some_iff.mp joined
    obtain ⟨_, digit⟩ := Bool.and_eq_true_iff.mp fits
    have other : d ≠ '_' := by
      rintro rfl
      exact absurd digit (by decide)
    simp [other, ih others]
  | case3 after d rest misfit => simp [joinDigits, misfit] at joined
  | case4 after rest => simp [joinDigits] at joined
  | case5 after c rest noPair other ih =>
    have step : joinDigits after (c :: rest) = (joinDigits c.isDigit rest).map (c :: ·) := by
      rw [joinDigits, if_neg other]
      exact noPair
    rw [step] at joined
    obtain ⟨more, others, rfl⟩ := Option.map_eq_some_iff.mp joined
    simp [other, ih others]

theorem ofDigits_eq (ds : List Char) :
    ofDigits ds = Nat.ofDigits 10 (ds.map (·.toNat - 48)).reverse := by
  induction ds using List.reverseRecOn with
  | nil => rfl
  | append_singleton ds d ih =>
    simp only [ofDigits, List.foldl_append, List.foldl_cons, List.foldl_nil] at ih ⊢
    rw [ih]
    simp [Nat.ofDigits_cons]
    ring

/-- Where only digits are left once the low lines are taken out, these are the digits of the text. -/
theorem digits_eq (numeric : ∀ d ∈ (cs.map plainChar).filter (· ≠ '_'), d.isDigit = true) :
    (∀ c ∈ cs, c = '_' ∨ (digitValue? c).isSome) ∧
      digits cs = ((cs.map plainChar).filter (· ≠ '_')).map (·.toNat - 48) := by
  induction cs with
  | nil => simp [digits]
  | cons c rest ih =>
    rw [List.map_cons, List.filter_cons] at numeric ⊢
    by_cases line : plainChar c = '_'
    · obtain rfl : c = '_' := eq_of_plainChar line (by decide)
      have noDigit : digitValue? '_' = none := by decide +kernel
      have plain : plainChar '_' = '_' := by decide
      simp only [plain] at numeric ⊢
      obtain ⟨each, whole⟩ := ih numeric
      refine ⟨List.forall_mem_cons.mpr ⟨.inl rfl, each⟩, ?_⟩
      rw [digits, List.filterMap_cons, noDigit]
      exact whole
    · rw [if_pos (by simpa using line)] at numeric ⊢
      obtain ⟨here, later⟩ := List.forall_mem_cons.mp numeric
      obtain ⟨each, whole⟩ := ih later
      have value := digitValue?_of_plainChar here
      refine ⟨List.forall_mem_cons.mpr ⟨.inr (by rw [value]; rfl), each⟩, ?_⟩
      rw [digits, List.filterMap_cons, value, List.map_cons, ← whole]
      rfl

theorem exists_trimmed (p : Char → Bool) (cs : List Char) : ∃ front back,
    cs = front ++ (((cs.dropWhile p).reverse.dropWhile p).reverse ++ back) ∧
      front.all p = true ∧ back.all p = true := by
  refine ⟨cs.takeWhile p, ((cs.dropWhile p).reverse.takeWhile p).reverse, ?_, List.all_takeWhile, ?_⟩
  · rw [← List.reverse_append, List.takeWhile_append_dropWhile, List.reverse_reverse,
      List.takeWhile_append_dropWhile]
  · rw [List.all_reverse]
    exact List.all_takeWhile

theorem exists_sign (cs : List Char) : ∃ sign rest, cs = sign ++ rest ∧ sign ∈ [[], ['+'], ['-']] ∧
    takeSign cs = (decide (sign = ['-']), rest) := by
  unfold takeSign
  split
  · exact ⟨['-'], _, rfl, by decide, rfl⟩
  · exact ⟨['+'], _, rfl, by decide, rfl⟩
  · exact ⟨[], _, rfl, by decide, rfl⟩

theorem sign_of_plain {sign : List Char} (signed : cs.map plainChar = sign)
    (known : sign ∈ [[], ['+'], ['-']]) : cs = sign := by
  simp only [List.mem_cons, List.not_mem_nil, or_false] at known
  rcases known with rfl | rfl | rfl
  · exact List.map_eq_nil_iff.mp signed
  · obtain ⟨c, rfl, same⟩ := List.map_eq_singleton_iff.mp signed
    rw [eq_of_plainChar same (by decide)]
  · obtain ⟨c, rfl, same⟩ := List.map_eq_singleton_iff.mp signed
    rw [eq_of_plainChar same (by decide)]

theorem blank_of_plain (blank : (cs.map plainChar).all isAsciiBlank = true) :
    cs.all isBlank = true := by
  rw [List.all_eq_true] at blank ⊢
  intro c member
  exact isBlank_of_plainChar (blank _ (List.mem_map_of_mem member))

/-- What is read of a text without its sign and the blanks around it. -/
theorem body_of_joinDigits {body : List Char} (joined : joinDigits false (body.map plainChar) = some ds)
    (some : ds ≠ []) (numeric : ∀ d ∈ ds, d.isDigit = true) :
    (∀ c ∈ body, c = '_' ∨ (digitValue? c).isSome) ∧ digits body ≠ [] ∧
      ofDigits ds = Nat.ofDigits 10 (digits body).reverse := by
  obtain rfl := joinDigits_eq_filter joined
  obtain ⟨each, whole⟩ := digits_eq numeric
  refine ⟨each, ?_, ?_⟩
  · rw [whole]
    simpa using some
  · rw [whole, ofDigits_eq]

/-- A text that is read as an integer writes it. -/
theorem numeral_of_readInt? (read : readInt? s = some n) : Numeral s.toList n := by
  simp only [readInt?, Option.bind_eq_bind, Option.bind_eq_some_iff] at read
  obtain ⟨ds, joined, read⟩ := read
  split at read
  · contradiction
  · rename_i usable
    simp only [not_or, List.any_eq_true, Bool.not_eq_true', not_exists, not_and,
      Bool.not_eq_false] at usable
    obtain ⟨some, numeric, _⟩ := usable
    obtain ⟨front', back', whole, blankFront, blankBack⟩ :=
      exists_trimmed isAsciiBlank (s.toList.map plainChar)
    obtain ⟨front, rest, text, rfl, others⟩ := List.map_eq_append_iff.mp whole
    obtain ⟨middle, back, rfl, trimmed, rfl⟩ := List.map_eq_append_iff.mp others
    have before := blank_of_plain blankFront
    have after := blank_of_plain blankBack
    have plain : plainText s = middle.map plainChar := by rw [plainText, trimmed]
    rw [plain] at joined read
    rw [text]
    obtain ⟨sign, rest, signed, known, taken⟩ := exists_sign (middle.map plainChar)
    obtain ⟨sign', body, rfl, same, rfl⟩ := List.map_eq_append_iff.mp signed
    obtain rfl := sign_of_plain same known
    rw [taken] at joined read
    obtain ⟨each, nonempty, value⟩ := body_of_joinDigits joined some numeric
    rw [← Option.some.inj read, value, List.append_assoc]
    simp only [decide_eq_true_eq]
    exact .written before after known each nonempty

end Numerals
end FenceCheck.Number
