import Mathlib
import FenceCheck.Json.Printer
import FenceCheck.Json.Reader

/-! Strings in JSON texts: what the printer writes of a string the reader takes for that string, and goes
on behind its closing mark. An escape is always followed by a further character, which the reader of
escapes asks for. -/
namespace FenceCheck

namespace Text

theorem CodePoint.ext_val {p q : CodePoint} (same : p.val = q.val) : p = q := by
  cases p
  cases q
  simpa using same

namespace CodePoint
variable {p : CodePoint}

theorem isSurrogate_eq_false : p.isSurrogate = false ↔ p.val < 0xD800 ∨ 0xE000 ≤ p.val := by
  simp [isSurrogate, Decidable.imp_iff_not_or]

theorem toNat_toChar (scalar : p.isSurrogate = false) : p.toChar.toNat = p.val := by
  have valid : p.val.isValidChar := by
    have := p.lt
    rw [isSurrogate_eq_false] at scalar
    simp only [Nat.isValidChar]
    omega
  simp only [toChar, Char.ofNat, dif_pos valid]
  rfl

theorem ofChar_toChar (scalar : p.isSurrogate = false) : ofChar p.toChar = p :=
  ext_val (toNat_toChar scalar)

theorem isSurrogate_ofChar (c : Char) : (ofChar c).isSurrogate = false := by
  have := c.valid
  simp only [UInt32.isValidChar, Nat.isValidChar] at this
  simp only [isSurrogate_eq_false, val_ofChar, Char.toNat]
  omega

theorem ofNat_val (p : CodePoint) : ofNat p.val = p := by
  rw [ofNat, dif_pos p.lt]

end CodePoint

theorem isSurrogate_of_mem_codePoints (s : String) : ∀ p ∈ codePoints s, p.isSurrogate = false := by
  intro p member
  obtain ⟨c, _, rfl⟩ := List.mem_map.mp member
  exact CodePoint.isSurrogate_ofChar c

/-- The characters of code points. -/
def chars (ps : List CodePoint) : List Char :=
  ps.map CodePoint.toChar

@[simp] theorem chars_nil : chars [] = [] := rfl

@[simp] theorem chars_cons (p : CodePoint) (ps : List CodePoint) :
    chars (p :: ps) = p.toChar :: chars ps := rfl

@[simp] theorem chars_append (ps qs : List CodePoint) : chars (ps ++ qs) = chars ps ++ chars qs := by
  simp [chars]

theorem hexValue?_hexDigit {n : Nat} (small : n < 16) : hexValue? (hexDigit n) = some n := by
  have all : ∀ i : Fin 16, hexValue? (hexDigit i) = some i.val := by decide
  exact all ⟨n, small⟩

theorem hexNumber?_concat (cs : List Char) (c : Char) :
    hexNumber? (cs ++ [c]) = (hexNumber? cs).bind fun n => (hexValue? c).map (n * 16 + ·) := by
  simp only [hexNumber?, List.foldl_append, List.foldl_cons, List.foldl_nil]
  cases List.foldl _ (some 0) cs with
  | none => rfl
  | some n => cases hexValue? c <;> rfl

/-- The last digits of a number are read as the number they leave. -/
theorem hexNumber?_hexFixed (width n : Nat) :
    hexNumber? (hexFixed width n) = some (n % 16 ^ width) := by
  induction width generalizing n with
  | zero => simp [hexFixed, hexNumber?, Nat.mod_one]
  | succ width ih =>
    have digit := hexValue?_hexDigit (Nat.mod_lt n (by decide : 0 < 16))
    rw [hexFixed, hexNumber?_concat, ih, digit, Nat.pow_succ', Nat.mod_mul]
    simp [Nat.mul_comm, Nat.add_comm]

theorem mem_hexFixed {width n : Nat} {c : Char} (member : c ∈ hexFixed width n) :
    ∃ i : Fin 16, c = hexDigit i := by
  induction width generalizing n with
  | zero => simp [hexFixed] at member
  | succ width ih =>
    rcases List.mem_append.mp member with earlier | last
    · exact ih earlier
    · exact ⟨⟨n % 16, Nat.mod_lt n (by decide)⟩, List.mem_singleton.mp last⟩

end Text

namespace Json
open FenceCheck.Text

@[simp] theorem chars_points (cs : List Char) : chars (points cs) = cs := by
  simp [chars, points, Function.comp_def]

variable {p : CodePoint} {opened : Nat} {done : List CodePoint} {after : List Char}

theorem exists_hexFixed_four {n : Nat} (small : n < 0x10000) :
    ∃ a b c d, hexFixed 4 n = [a, b, c, d] ∧ hex4? a b c d = some n := by
  refine ⟨_, _, _, _, rfl, ?_⟩
  have number := hexNumber?_hexFixed 4 n
  rw [Nat.mod_eq_of_lt (by omega)] at number
  exact number

theorem readEscape_unit {n : Nat} (small : n < 0x10000) (single : isHighSurrogate n = false)
    (more : after ≠ []) : readEscape ('u' :: (hexFixed 4 n ++ after)) = .ok (.ofNat n, after) := by
  obtain ⟨a, b, c, d, digits, number⟩ := exists_hexFixed_four small
  obtain ⟨e, rest, rfl⟩ := List.exists_cons_of_ne_nil more
  simp [readEscape, digits, number, single]

/-- The escapes of the two halves of a point are read as one point. -/
theorem readEscape_pair {high low : Nat} (isHigh : isHighSurrogate high = true)
    (isLow : isLowSurrogate low = true) (more : after ≠ []) :
    readEscape ('u' :: (hexFixed 4 high ++ (unitEscape low ++ after))) =
      .ok (.ofNat (joinSurrogates high low), after) := by
  have bounds : high < 0x10000 ∧ low < 0x10000 := by
    simp only [isHighSurrogate, isLowSurrogate, Bool.and_eq_true, decide_eq_true_eq] at isHigh isLow
    omega
  obtain ⟨a, b, c, d, digits, number⟩ := exists_hexFixed_four bounds.1
  obtain ⟨a', b', c', d', digits', number'⟩ := exists_hexFixed_four bounds.2
  obtain ⟨e, rest, rfl⟩ := List.exists_cons_of_ne_nil more
  simp [readEscape, pairedLow?, unitEscape, digits, digits', number, number', isHigh, isLow]

/-- The halves of a point beyond the first plane. -/
theorem joinSurrogates_halves {n : Nat} (large : 0x10000 ≤ n) (small : n < 0x110000) :
    ∃ high low, isHighSurrogate high = true ∧ isLowSurrogate low = true ∧
      joinSurrogates high low = n ∧ high = 0xD800 + (n - 0x10000) / 0x400 ∧
      low = 0xDC00 + (n - 0x10000) % 0x400 := by
  refine ⟨_, _, ?_, ?_, ?_, rfl, rfl⟩
  · simp only [isHighSurrogate, Bool.and_eq_true, decide_eq_true_eq]
    omega
  · simp only [isLowSurrogate, Bool.and_eq_true, decide_eq_true_eq]
    omega
  · unfold joinSurrogates
    omega

theorem readString_escaped {rest : List Char} (reads : readEscape rest = .ok (p, after)) :
    readString opened done ('\\' :: rest) = readString opened (p :: done) after := by
  have some_ : rest ≠ [] := by
    rintro rfl
    simp [readEscape] at reads
  rw [readString, if_neg (by decide), if_pos rfl, if_neg some_]
  split
  · rename_i found
    obtain ⟨rfl, rfl⟩ := Prod.mk.inj (Except.ok.inj (reads.symm.trans found))
    rfl
  · rename_i found
    rw [reads] at found
    contradiction

theorem readString_simple {c x : Char} (simple : simpleEscape? c = some x) (rest : List Char) :
    readString opened done ('\\' :: c :: rest) = readString opened (.ofChar x :: done) rest := by
  refine readString_escaped ?_
  have other : c ≠ 'u' := by
    rintro rfl
    contradiction
  simp [readEscape, other, simple]

theorem readString_number (scalar : p.isSurrogate = false) (more : after ≠ []) :
    readString opened done (numberEscape p.val ++ after) = readString opened (p :: done) after := by
  rw [CodePoint.isSurrogate_eq_false] at scalar
  simp only [numberEscape]
  split
  · rename_i small
    have single : isHighSurrogate p.val = false := by
      simp only [isHighSurrogate, Bool.and_eq_false_iff, decide_eq_false_iff_not]
      omega
    have reads := readEscape_unit small single more
    rw [CodePoint.ofNat_val] at reads
    exact readString_escaped reads
  · rename_i large
    obtain ⟨high, low, isHigh, isLow, joined, sameHigh, sameLow⟩ :=
      joinSurrogates_halves (by omega) p.lt
    have reads := readEscape_pair isHigh isLow more
    rw [joined, CodePoint.ofNat_val] at reads
    rw [← sameHigh, ← sameLow, List.append_assoc]
    exact readString_escaped reads

theorem readString_plain (scalar : p.isSurrogate = false) (notMark : p.val ≠ 0x22)
    (notBackslash : p.val ≠ 0x5C) (printable : ¬ p.val < 0x20) (rest : List Char) :
    readString opened done (p.toChar :: rest) = readString opened (p :: done) rest := by
  have number := CodePoint.toNat_toChar scalar
  have apart (c : Char) (differs : p.val ≠ c.toNat) : p.toChar ≠ c := by
    intro same
    rw [same] at number
    exact differs number.symm
  rw [readString, if_neg (apart '"' notMark), if_neg (apart '\\' notBackslash), number,
    if_neg printable, CodePoint.ofChar_toChar scalar]

/-- A code point is written by a letter that stands for it, by its number, or as it is. -/
theorem escape_cases (ascii : Bool) (p : CodePoint) :
    (∃ c x, escape ascii p = points ['\\', c] ∧ 0x20 ≤ c.toNat ∧ p.val = x.toNat ∧
      simpleEscape? c = some x) ∨
    escape ascii p = points (numberEscape p.val) ∨
    escape ascii p = [p] ∧ p.val ≠ 0x22 ∧ p.val ≠ 0x5C ∧ ¬ p.val < 0x20 := by
  by_cases mark : p.val = 0x22
  · exact Or.inl ⟨'"', '"', by simp [escape, mark], by decide, mark, rfl⟩
  by_cases backslash : p.val = 0x5C
  · exact Or.inl ⟨'\\', '\\', by simp [escape, backslash], by decide, backslash, rfl⟩
  by_cases backspace : p.val = 0x08
  · exact Or.inl ⟨'b', '\x08', by simp [escape, backspace], by decide, backspace, rfl⟩
  by_cases feed : p.val = 0x0C
  · exact Or.inl ⟨'f', '\x0c', by simp [escape, feed], by decide, feed, rfl⟩
  by_cases line : p.val = 0x0A
  · exact Or.inl ⟨'n', '\n', by simp [escape, line], by decide, line, rfl⟩
  by_cases back : p.val = 0x0D
  · exact Or.inl ⟨'r', '\r', by simp [escape, back], by decide, back, rfl⟩
  by_cases tab : p.val = 0x09
  · exact Or.inl ⟨'t', '\t', by simp [escape, tab], by decide, tab, rfl⟩
  simp only [escape, mark, backslash, backspace, feed, line, back, tab, if_false]
  split
  · exact Or.inr (Or.inl rfl)
  · rename_i plain
    exact Or.inr (Or.inr ⟨rfl, mark, backslash, fun control => plain (Or.inl control)⟩)

/-- What is written of a code point is read as that code point. -/
theorem readString_escape (ascii : Bool) (scalar : p.isSurrogate = false) (more : after ≠ []) :
    readString opened done (chars (escape ascii p) ++ after) =
      readString opened (p :: done) after := by
  rcases escape_cases ascii p with
    ⟨c, x, written, _, same, simple⟩ | written | ⟨written, notMark, notBackslash, printable⟩
  · obtain rfl : p = .ofChar x := CodePoint.ext_val same
    simp [written, readString_simple simple]
  · rw [written, chars_points]
    exact readString_number scalar more
  · rw [written]
    exact readString_plain scalar notMark notBackslash printable after

/-- What is written of a string is read as that string, up to its closing mark. -/
theorem readString_render (opened : Nat) (done : List CodePoint) (ascii : Bool) {s : List CodePoint}
    (scalar : ∀ p ∈ s, p.isSurrogate = false) (rest : List Char) :
    readString opened done (chars (s.flatMap (escape ascii)) ++ '"' :: rest) =
      .ok (done.reverse ++ s, rest) := by
  induction s generalizing done with
  | nil =>
    rw [List.flatMap_nil, chars_nil, List.nil_append, readString, if_pos rfl, List.append_nil]
  | cons p s ih =>
    have first := scalar p List.mem_cons_self
    have later := fun q member => scalar q (List.mem_cons_of_mem p member)
    rw [List.flatMap_cons, chars_append, List.append_assoc,
      readString_escape ascii first (by simp), ih (p :: done) later]
    simp

/-- Escapes are printable, and so is what needs no escape. -/
theorem printable_of_escape (ascii : Bool) (scalar : p.isSurrogate = false) {c : Char}
    (member : c ∈ chars (escape ascii p)) : 0x20 ≤ c.toNat := by
  have unit (n : Nat) (d : Char) (inside : d ∈ unitEscape n) : 0x20 ≤ d.toNat := by
    have digits : ∀ i : Fin 16, 0x20 ≤ (hexDigit i).toNat := by decide
    simp only [unitEscape, List.mem_cons] at inside
    rcases inside with rfl | rfl | inside
    · decide
    · decide
    · obtain ⟨i, rfl⟩ := mem_hexFixed inside
      exact digits i
  rcases escape_cases ascii p with ⟨d, _, written, printable, _⟩ | written | ⟨written, _, _, printable⟩
  · rw [written, chars_points, List.mem_cons, List.mem_singleton] at member
    rcases member with rfl | rfl
    · decide
    · exact printable
  · rw [written, chars_points, numberEscape] at member
    split at member
    · exact unit _ c member
    · rcases List.mem_append.mp member with first | second
      · exact unit _ c first
      · exact unit _ c second
  · obtain rfl : c = p.toChar := by simpa [written] using member
    rw [CodePoint.toNat_toChar scalar]
    omega

end Json
end FenceCheck
