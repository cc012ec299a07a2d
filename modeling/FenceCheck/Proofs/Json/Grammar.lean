import FenceCheck.Proofs.Json.RoundTrip
import FenceCheck.Proofs.Number.Value

/-! The numbers and the strings of the JSON grammar, and what their readers take of it: a reader takes a piece
of the grammar, and the whole of a piece that the text does not go on with. Where none is taken, none stands
there, or an integer of too many digits. -/
namespace FenceCheck.Json
open FenceCheck.Text FenceCheck.Number

namespace Grammar

def Blank (w : List Char) : Prop :=
  ∀ c ∈ w, isSpace c = true

def Digits (ds : List Char) : Prop :=
  ∀ c ∈ ds, c.isDigit = true

/-- An integer without its sign. -/
inductive Whole : List Char → Prop where
  | zero : Whole ['0']
  | digits {c ds} : c.isDigit = true → c ≠ '0' → Digits ds → Whole (c :: ds)

inductive Fraction : List Char → Prop where
  | digits {ds} : ds ≠ [] → Digits ds → Fraction ('.' :: ds)

inductive Exponent : List Char → Prop where
  | digits {mark sign ds} : mark = 'e' ∨ mark = 'E' → sign ∈ [[], ['+'], ['-']] → ds ≠ [] →
      Digits ds → Exponent (mark :: (sign ++ ds))

/-- A part that may be missing. -/
def Maybe (part : List Char → Prop) (t : List Char) : Prop :=
  t = [] ∨ part t

inductive Numeric : List Char → Prop where
  | parts {sign whole fraction exponent} : Maybe (· = ['-']) sign → Whole whole →
      Maybe Fraction fraction → Maybe Exponent exponent →
      Numeric (sign ++ (whole ++ (fraction ++ exponent)))

/-- What stands behind an integer that is the whole of a number. -/
structure Finished (rest : List Char) : Prop where
  digit : ∀ c ∈ rest.head?, c.isDigit = false
  fraction : ∀ t, Fraction t → ¬ t <+: rest
  exponent : ∀ t, Exponent t → ¬ t <+: rest

/-- A text that begins with an integer of so many digits. -/
inductive BeginsInteger : Nat → List Char → Prop where
  | front {sign whole rest} : Maybe (· = ['-']) sign → Whole whole → Finished rest →
      BeginsInteger whole.length (sign ++ (whole ++ rest))

def IsHex (c : Char) : Prop :=
  '0' ≤ c ∧ c ≤ '9' ∨ 'a' ≤ c ∧ c ≤ 'f' ∨ 'A' ≤ c ∧ c ≤ 'F'

/-- What may stand between the marks of a string. -/
inductive Inside : List Char → Prop where
  | nil : Inside []
  | plain {c rest} : 0x20 ≤ c.toNat → c ≠ '"' → c ≠ '\\' → Inside rest → Inside (c :: rest)
  | escaped {c rest} : c ∈ ['"', '\\', '/', 'b', 'f', 'n', 'r', 't'] → Inside rest →
      Inside ('\\' :: c :: rest)
  | unit {h₁ h₂ h₃ h₄ rest} : IsHex h₁ → IsHex h₂ → IsHex h₃ → IsHex h₄ → Inside rest →
      Inside ('\\' :: 'u' :: h₁ :: h₂ :: h₃ :: h₄ :: rest)

inductive Quoted : List Char → Prop where
  | marks {body} : Inside body → Quoted ('"' :: (body ++ ['"']))

end Grammar

open Grammar

/-- The stops that say nothing about the grammar. -/
def Stop.AtLimit : Stop → Prop
  | .fault _ _ => False
  | .longInteger _ => True
  | .tooDeep _ => True

/-- A value is read and this is left, unless a limit is met. -/
def Passes (outcome : Except Stop (Json × List Char)) (rest : List Char) : Prop :=
  (∃ v, outcome = .ok (v, rest)) ∨ ∃ stop, outcome = .error stop ∧ stop.AtLimit

section Strings
variable {opened : Nat} {done v : List CodePoint} {s rest : List Char}

theorem hexValue?_isSome {c : Char} : (hexValue? c).isSome ↔ IsHex c := by
  simp only [hexValue?, IsHex]
  split
  · simp_all
  · split
    · simp_all
    · split <;> simp_all

theorem hex4?_isSome {a b c d : Char} :
    (hex4? a b c d).isSome ↔ IsHex a ∧ IsHex b ∧ IsHex c ∧ IsHex d := by
  simp only [← hexValue?_isSome, hex4?, hexNumber?, List.foldl_cons, List.foldl_nil]
  cases hexValue? a <;> cases hexValue? b <;> cases hexValue? c <;> cases hexValue? d <;> simp

theorem simpleEscape?_isSome {c : Char} :
    (simpleEscape? c).isSome ↔ c ∈ ['"', '\\', '/', 'b', 'f', 'n', 'r', 't'] := by
  unfold simpleEscape?
  split <;> simp_all

theorem pairedLow?_unit {n : Nat} (paired : pairedLow? s = some (n, rest)) :
    ∃ h₁ h₂ h₃ h₄, IsHex h₁ ∧ IsHex h₂ ∧ IsHex h₃ ∧ IsHex h₄ ∧
      s = '\\' :: 'u' :: h₁ :: h₂ :: h₃ :: h₄ :: rest := by
  unfold pairedLow? at paired
  split at paired
  · split at paired
    · rename_i h₁ h₂ h₃ h₄ e after _ low digits
      split at paired
      · obtain ⟨rfl, rfl⟩ := Prod.mk.inj (Option.some.inj paired)
        obtain ⟨hex₁, hex₂, hex₃, hex₄⟩ := hex4?_isSome.mp (Option.isSome_of_eq_some digits)
        exact ⟨h₁, h₂, h₃, h₄, hex₁, hex₂, hex₃, hex₄, rfl⟩
      · contradiction
    · contradiction
  · contradiction

/-- An escape, or a pair of them, can stand in a string. -/
theorem readEscape_inside {p : CodePoint} (reads : readEscape s = .ok (p, rest)) :
    ∃ body, s = body ++ rest ∧ ∀ tail, Inside tail → Inside ('\\' :: (body ++ tail)) := by
  unfold readEscape at reads
  split at reads
  · contradiction
  · rename_i c after
    split at reads
    · rename_i isUnit
      subst isUnit
      split at reads
      · rename_i h₁ h₂ h₃ h₄ e after
        split at reads
        · contradiction
        · rename_i n digits
          obtain ⟨hex₁, hex₂, hex₃, hex₄⟩ := hex4?_isSome.mp (Option.isSome_of_eq_some digits)
          split at reads
          · rename_i low rest' paired
            obtain ⟨rfl, rfl⟩ := Prod.mk.inj (Except.ok.inj reads)
            split at paired
            · obtain ⟨l₁, l₂, l₃, l₄, low₁, low₂, low₃, low₄, begins⟩ := pairedLow?_unit paired
              refine ⟨['u', h₁, h₂, h₃, h₄, '\\', 'u', l₁, l₂, l₃, l₄], by simp [begins], ?_⟩
              exact fun tail inside =>
                .unit hex₁ hex₂ hex₃ hex₄ (.unit low₁ low₂ low₃ low₄ inside)
            · contradiction
          · obtain ⟨rfl, rfl⟩ := Prod.mk.inj (Except.ok.inj reads)
            exact ⟨['u', h₁, h₂, h₃, h₄], rfl, fun tail inside => .unit hex₁ hex₂ hex₃ hex₄ inside⟩
      · contradiction
    · split at reads
      · rename_i x simple
        obtain ⟨rfl, rfl⟩ := Prod.mk.inj (Except.ok.inj reads)
        have letter := simpleEscape?_isSome.mp (Option.isSome_of_eq_some simple)
        exact ⟨[c], rfl, fun tail inside => .escaped letter inside⟩
      · contradiction

theorem fault_of_readEscape {stop : Stop} (stops : readEscape s = .error stop) :
    ∃ cause left, stop = .fault cause left ∧ left ≤ s.length + 1 := by
  unfold readEscape at stops
  split at stops
  · exact ⟨_, _, (Except.error.inj stops).symm, by simp⟩
  · split at stops
    · split at stops
      · split at stops
        · exact ⟨_, _, (Except.error.inj stops).symm, by simp⟩
        · split at stops <;> contradiction
      · exact ⟨_, _, (Except.error.inj stops).symm, by simp⟩
    · split at stops
      · contradiction
      · exact ⟨_, _, (Except.error.inj stops).symm, by simp⟩

theorem readString_inside (reads : readString opened done s = .ok (v, rest)) :
    ∃ body, Inside body ∧ s = body ++ '"' :: rest := by
  fun_induction readString opened done s with
  | case1 => contradiction
  | case2 done after =>
    obtain ⟨rfl, rfl⟩ := Prod.mk.inj (Except.ok.inj reads)
    exact ⟨[], .nil, rfl⟩
  | case3 => contradiction
  | case4 done escaped _ p after escape _ _ ih =>
    obtain ⟨body, inside, rfl⟩ := ih reads
    obtain ⟨letters, rfl, closed⟩ := readEscape_inside escape
    exact ⟨_, closed body inside, by simp⟩
  | case5 => contradiction
  | case6 => contradiction
  | case7 done c after notMark notBackslash printable ih =>
    obtain ⟨body, inside, rfl⟩ := ih reads
    exact ⟨c :: body, .plain (by omega) notMark notBackslash inside, rfl⟩

theorem fault_of_readString {stop : Stop} (stops : readString opened done s = .error stop)
    (behind : s.length ≤ opened) : ∃ cause left, stop = .fault cause left ∧ left ≤ opened := by
  fun_induction readString opened done s with
  | case1 => exact ⟨_, _, (Except.error.inj stops).symm, Nat.le_refl _⟩
  | case2 => contradiction
  | case3 => exact ⟨_, _, (Except.error.inj stops).symm, Nat.le_refl _⟩
  | case4 done escaped _ _ p after _ shorter ih =>
    exact ih stops (by simp only [List.length_cons] at behind; omega)
  | case5 done escaped _ e escape =>
    obtain ⟨cause, left, rfl, near⟩ := fault_of_readEscape escape
    refine ⟨cause, left, (Except.error.inj stops).symm, ?_⟩
    simp only [List.length_cons] at behind
    omega
  | case6 => exact ⟨_, _, (Except.error.inj stops).symm, by simpa using behind⟩
  | case7 done c after notMark notBackslash printable ih =>
    exact ih stops (by simp only [List.length_cons] at behind; omega)

/-- An escape of four digits is read, alone or with the one behind it. -/
theorem readEscape_unit_cases {h₁ h₂ h₃ h₄ : Char} (hex₁ : IsHex h₁) (hex₂ : IsHex h₂)
    (hex₃ : IsHex h₃) (hex₄ : IsHex h₄) (more : s ≠ []) :
    ∃ p after, readEscape ('u' :: h₁ :: h₂ :: h₃ :: h₄ :: s) = .ok (p, after) ∧
      (after = s ∨ ∃ n, pairedLow? s = some (n, after)) := by
  obtain ⟨e, s, rfl⟩ := List.exists_cons_of_ne_nil more
  obtain ⟨n, digits⟩ := Option.isSome_iff_exists.mp (hex4?_isSome.mpr ⟨hex₁, hex₂, hex₃, hex₄⟩)
  cases paired : if isHighSurrogate n then pairedLow? (e :: s) else none with
  | none => exact ⟨.ofNat n, _, by simp [readEscape, digits, paired], Or.inl rfl⟩
  | some found =>
    obtain ⟨low, after⟩ := found
    refine ⟨.ofNat (joinSurrogates n low), after, by simp [readEscape, digits, paired],
      Or.inr ⟨low, ?_⟩⟩
    split at paired
    · exact paired
    · contradiction

theorem Grammar.Inside.unit_front {body after : List Char} {h₁ h₂ h₃ h₄ : Char} (inside : Inside body)
    (begins : body ++ '"' :: rest = '\\' :: 'u' :: h₁ :: h₂ :: h₃ :: h₄ :: after) :
    ∃ tail, Inside tail ∧ body = '\\' :: 'u' :: h₁ :: h₂ :: h₃ :: h₄ :: tail ∧
      after = tail ++ '"' :: rest := by
  cases inside with
  | nil => simp at begins
  | plain _ _ notBackslash => exact absurd (List.cons.inj begins).1 notBackslash
  | @escaped c tail letter =>
    obtain rfl : c = 'u' := (List.cons.inj (List.cons.inj begins).2).1
    simp at letter
  | @unit _ _ _ _ tail _ _ _ _ inside =>
    simp only [List.cons_append, List.cons.injEq, true_and] at begins
    obtain ⟨rfl, rfl, rfl, rfl, rfl⟩ := begins
    exact ⟨tail, inside, rfl, rfl⟩

/-- What may stand in a string is read up to the closing mark. -/
theorem Grammar.Inside.reads {body : List Char} (inside : Inside body) (opened : Nat)
    (done : List CodePoint) (rest : List Char) :
    ∃ v, readString opened done (body ++ '"' :: rest) = .ok (v, rest) := by
  -- on the length of the body, since the escapes of a pair are read together
  induction h : body.length using Nat.strongRecOn generalizing body done with
  | ind n ih =>
    subst h
    cases inside with
    | nil => exact ⟨done.reverse, by simp [readString]⟩
    | @plain c tail printable notMark notBackslash inside =>
      obtain ⟨v, reads⟩ := ih tail.length (by simp) inside (.ofChar c :: done) rfl
      refine ⟨v, ?_⟩
      rw [List.cons_append, readString, if_neg notMark, if_neg notBackslash, if_neg (by omega)]
      exact reads
    | @escaped c tail letter inside =>
      obtain ⟨x, simple⟩ := Option.isSome_iff_exists.mp (simpleEscape?_isSome.mpr letter)
      obtain ⟨v, reads⟩ := ih tail.length (by simp) inside (.ofChar x :: done) rfl
      exact ⟨v, by rw [List.cons_append, List.cons_append, readString_simple simple]; exact reads⟩
    | @unit h₁ h₂ h₃ h₄ tail hex₁ hex₂ hex₃ hex₄ inside =>
      obtain ⟨p, after, escape, place⟩ :=
        readEscape_unit_cases hex₁ hex₂ hex₃ hex₄ (s := tail ++ '"' :: rest) (by simp)
      simp only [List.cons_append]
      rw [readString_escaped escape]
      rcases place with rfl | ⟨low, paired⟩
      · exact ih tail.length (by simp; omega) inside (p :: done) rfl
      · obtain ⟨l₁, l₂, l₃, l₄, low₁, low₂, low₃, low₄, begins⟩ := pairedLow?_unit paired
        obtain ⟨later, insideLater, rfl, rfl⟩ := inside.unit_front begins
        exact ih later.length (by simp; omega) insideLater (p :: done) rfl

end Strings

section Numbers
variable {s rest ds : List Char} {left : Nat} {negative : Bool}

theorem digits_of_takeDigits (taken : takeDigits s = (ds, rest)) :
    Digits ds ∧ s = ds ++ rest ∧ ∀ c ∈ rest.head?, c.isDigit = false := by
  obtain ⟨rfl, rfl⟩ := Prod.mk.inj taken
  refine ⟨fun c member => List.mem_takeWhile_imp member, List.takeWhile_append_dropWhile.symm, ?_⟩
  intro c first
  have stops := List.head?_dropWhile_not Char.isDigit s
  rw [Option.mem_def.mp first] at stops
  simpa using stops

theorem whole_of_readWhole? (reads : readWhole? s = some (ds, rest)) :
    Whole ds ∧ s = ds ++ rest ∧ (ds = ['0'] ∨ ∀ c ∈ rest.head?, c.isDigit = false) := by
  unfold readWhole? at reads
  split at reads
  · contradiction
  · rename_i c after
    split at reads
    · rename_i zero
      subst zero
      obtain ⟨rfl, rfl⟩ := Prod.mk.inj (Option.some.inj reads)
      exact ⟨.zero, rfl, Or.inl rfl⟩
    · rename_i other
      split at reads
      · rename_i digit
        obtain ⟨rfl, rfl⟩ := Prod.mk.inj (Option.some.inj reads)
        obtain ⟨digits, whole, stops⟩ := digits_of_takeDigits (s := after) rfl
        exact ⟨.digits digit other digits, by rw [List.cons_append, ← whole], Or.inr stops⟩
      · contradiction

theorem not_digits_prefix (some_ : ds ≠ []) (digits : Digits ds)
    (other : ∀ c ∈ s.head?, c.isDigit = false) : ¬ ds <+: s := by
  rintro ⟨rest, rfl⟩
  obtain ⟨c, more, rfl⟩ := List.exists_cons_of_ne_nil some_
  have digit := digits c List.mem_cons_self
  rw [other c rfl] at digit
  contradiction

/-- A fraction is taken, or none can be. -/
theorem fraction_of_readFraction (reads : readFraction s = (ds, rest)) :
    ∃ f, Maybe Fraction f ∧ s = f ++ rest ∧
      (ds = [] → rest = s ∧ ∀ t, Fraction t → ¬ t <+: s) := by
  unfold readFraction at reads
  split at reads
  · split at reads
    · rename_i taken
      obtain ⟨rfl, rfl⟩ := Prod.mk.inj reads
      refine ⟨[], Or.inl rfl, rfl, fun _ => ⟨rfl, ?_⟩⟩
      obtain ⟨_, rfl, other⟩ := digits_of_takeDigits taken
      rintro _ ⟨some_, digits⟩ front
      exact not_digits_prefix some_ digits other (List.cons_prefix_cons.mp front).2
    · rename_i some_ taken
      obtain ⟨rfl, rfl⟩ := Prod.mk.inj reads
      obtain ⟨digits, rfl, _⟩ := digits_of_takeDigits taken
      exact ⟨_, Or.inr (.digits some_ digits), rfl, fun none_ => absurd none_ some_⟩
  · rename_i noPoint
    obtain ⟨rfl, rfl⟩ := Prod.mk.inj reads
    refine ⟨[], Or.inl rfl, rfl, fun _ => ⟨rfl, ?_⟩⟩
    rintro _ ⟨_, _⟩ ⟨after, rfl⟩
    exact noPoint _ rfl

theorem takeSign_append {sign : List Char} (known : sign ∈ [[], ['+'], ['-']]) (some_ : ds ≠ [])
    (digits : Digits ds) (rest : List Char) : ∃ minus, takeSign (sign ++ (ds ++ rest)) = (minus, ds ++ rest) := by
  obtain ⟨c, more, rfl⟩ := List.exists_cons_of_ne_nil some_
  have apart := ne_of_isDigit (digits c List.mem_cons_self)
  simp only [List.mem_cons, List.not_mem_nil, or_false] at known
  rcases known with rfl | rfl | rfl
  · exact ⟨false, by simp [takeSign, apart '-' rfl, apart '+' rfl]⟩
  · exact ⟨false, rfl⟩
  · exact ⟨true, rfl⟩

/-- An exponent is taken, or none can be. -/
theorem exponent_of_readExponent {x : Option Int} (reads : readExponent s = (x, rest)) :
    ∃ e, Maybe Exponent e ∧ s = e ++ rest ∧
      (x = none → rest = s ∧ ∀ t, Exponent t → ¬ t <+: s) := by
  unfold readExponent at reads
  split at reads
  · rename_i mark after
    split at reads
    · rename_i isMark
      obtain ⟨sign, unsigned, rfl, known, signed⟩ := exists_sign after
      rw [signed] at reads
      dsimp only at reads
      split at reads
      · rename_i taken
        obtain ⟨rfl, rfl⟩ := Prod.mk.inj reads
        refine ⟨[], Or.inl rfl, rfl, fun _ => ⟨rfl, ?_⟩⟩
        obtain ⟨_, rfl, other⟩ := digits_of_takeDigits taken
        rintro _ ⟨_, known', some_, digits⟩ ⟨more, whole⟩
        -- the digits of an exponent stand behind its sign, which the reader has taken off
        obtain ⟨minus, signed'⟩ := takeSign_append known' some_ digits more
        simp only [List.cons_append, List.append_assoc, List.cons.injEq] at whole
        rw [whole.2] at signed'
        obtain ⟨_, same⟩ := Prod.mk.inj (signed.symm.trans signed')
        exact not_digits_prefix some_ digits other ⟨more, same.symm⟩
      · rename_i some_ taken
        obtain ⟨rfl, rfl⟩ := Prod.mk.inj reads
        obtain ⟨digits, rfl, _⟩ := digits_of_takeDigits taken
        exact ⟨_, Or.inr (.digits isMark known some_ digits), by simp, nofun⟩
    · rename_i noMark
      obtain ⟨rfl, rfl⟩ := Prod.mk.inj reads
      refine ⟨[], Or.inl rfl, rfl, fun _ => ⟨rfl, ?_⟩⟩
      rintro _ ⟨isMark, _, _, _⟩ front
      exact noMark ((List.cons_prefix_cons.mp front).1 ▸ isMark)
  · obtain ⟨rfl, rfl⟩ := Prod.mk.inj reads
    refine ⟨[], Or.inl rfl, rfl, fun _ => ⟨rfl, ?_⟩⟩
    rintro _ ⟨_, _, _, _⟩ front
    simp at front

variable {w f e : List Char} {v : Json}

theorem parts_of_readNumber (reads : readNumber left negative s = .ok (v, rest)) :
    ∃ w f e, Whole w ∧ Maybe Fraction f ∧ Maybe Exponent e ∧ s = w ++ (f ++ (e ++ rest)) := by
  unfold readNumber at reads
  split at reads
  · contradiction
  · rename_i w behind read
    obtain ⟨ds, after, fractionRead⟩ : ∃ ds after, readFraction behind = (ds, after) := ⟨_, _, rfl⟩
    obtain ⟨x, after', exponentRead⟩ : ∃ x after', readExponent after = (x, after') := ⟨_, _, rfl⟩
    obtain ⟨whole, rfl, _⟩ := whole_of_readWhole? read
    obtain ⟨f, fraction, rfl, _⟩ := fraction_of_readFraction fractionRead
    obtain ⟨e, exponent, rfl, _⟩ := exponent_of_readExponent exponentRead
    obtain rfl : after' = rest := by
      simp only [fractionRead, exponentRead] at reads
      split at reads
      · split at reads
        · contradiction
        · exact (Prod.mk.inj (Except.ok.inj reads)).2
      · exact (Prod.mk.inj (Except.ok.inj reads)).2
    exact ⟨w, f, e, whole, fraction, exponent, rfl⟩

/-- Where no number is read, none stands in front, or an integer of too many digits. -/
theorem integer_of_readNumber {stop : Stop} (stops : readNumber left negative s = .error stop) :
    stop = .fault .expectingValue left ∨ ∃ w rest, stop = .longInteger w.length ∧
      digitLimit < w.length ∧ Whole w ∧ Finished rest ∧ s = w ++ rest := by
  unfold readNumber at stops
  split at stops
  · exact Or.inl (Except.error.inj stops).symm
  · rename_i w behind read
    obtain ⟨ds, after, fractionRead⟩ : ∃ ds after, readFraction behind = (ds, after) := ⟨_, _, rfl⟩
    obtain ⟨x, after', exponentRead⟩ : ∃ x after', readExponent after = (x, after') := ⟨_, _, rfl⟩
    obtain ⟨whole, rfl, digit⟩ := whole_of_readWhole? read
    obtain ⟨_, _, _, fraction⟩ := fraction_of_readFraction fractionRead
    obtain ⟨_, _, _, exponent⟩ := exponent_of_readExponent exponentRead
    simp only [fractionRead, exponentRead] at stops
    split at stops
    · rename_i bare
      split at stops
      · rename_i long
        have notZero : w ≠ ['0'] := by
          rintro rfl
          exact absurd long (by decide)
        obtain ⟨rfl, fraction⟩ := fraction bare.1
        exact Or.inr ⟨w, after, (Except.error.inj stops).symm, long, whole,
          ⟨digit.resolve_left notZero, fraction, (exponent bare.2).2⟩, rfl⟩
      · contradiction
    · contradiction

theorem readWhole?_append (whole : Whole w) (other : ∀ c ∈ rest.head?, c.isDigit = false) :
    readWhole? (w ++ rest) = some (w, rest) := by
  cases whole with
  | zero => rfl
  | digits digit notZero digits =>
    rw [List.cons_append, readWhole?, if_neg notZero, if_pos digit, takeDigits_append digits other]

theorem readFraction_append (fraction : Maybe Fraction f) (other : ∀ c ∈ rest.head?, c.isDigit = false)
    (noPoint : ∀ c ∈ rest.head?, c ≠ '.') : ∃ ds, readFraction (f ++ rest) = (ds, rest) := by
  rcases fraction with rfl | ⟨some_, digits⟩
  · exact ⟨[], readFraction_none noPoint⟩
  · rename_i ds
    refine ⟨ds, ?_⟩
    simp only [List.cons_append, readFraction, takeDigits_append digits other]

theorem readExponent_append (exponent : Maybe Exponent e) (ends : Ends rest) :
    ∃ x, readExponent (e ++ rest) = (x, rest) := by
  rcases exponent with rfl | ⟨isMark, known, some_, digits⟩
  · exact ⟨none, readExponent_none fun c member => (ends c member).2.2⟩
  · rename_i mark sign ds
    obtain ⟨minus, signed⟩ := takeSign_append known some_ digits rest
    have taken := takeDigits_append digits fun c member => (ends c member).1
    refine ⟨some (if minus then -(ofDigits ds : Int) else ofDigits ds), ?_⟩
    simp only [List.cons_append, List.append_assoc, readExponent, if_pos isMark, signed, taken]

theorem head_exponent (exponent : Maybe Exponent e) (ends : Ends rest) :
    ∀ c ∈ (e ++ rest).head?, c.isDigit = false ∧ c ≠ '.' := by
  rcases exponent with rfl | ⟨isMark, _, _, _⟩
  · exact fun c member => ⟨(ends c member).1, (ends c member).2.1⟩
  · rintro c ⟨⟩
    rcases isMark with rfl | rfl <;> exact ⟨rfl, by decide⟩

theorem head_fraction (fraction : Maybe Fraction f) (other : ∀ c ∈ rest.head?, c.isDigit = false) :
    ∀ c ∈ (f ++ rest).head?, c.isDigit = false := by
  rcases fraction with rfl | ⟨_, _⟩
  · exact other
  · rintro c ⟨⟩
    rfl

theorem readNumber_passes (left : Nat) (negative : Bool) (whole : Whole w) (fraction : Maybe Fraction f)
    (exponent : Maybe Exponent e) (ends : Ends rest) : Passes (readNumber left negative (w ++ (f ++ (e ++ rest)))) rest := by
  have behind := head_exponent exponent ends
  have noDigit := fun c member => (behind c member).1
  obtain ⟨ds, fractionRead⟩ := readFraction_append fraction noDigit fun c member => (behind c member).2
  obtain ⟨x, exponentRead⟩ := readExponent_append exponent ends
  have wholeRead := readWhole?_append whole (head_fraction fraction noDigit)
  simp only [readNumber, wholeRead, fractionRead, exponentRead]
  split
  · split
    · exact Or.inr ⟨_, rfl, trivial⟩
    · exact Or.inl ⟨_, rfl⟩
  · exact Or.inl ⟨_, rfl⟩

end Numbers
end FenceCheck.Json
