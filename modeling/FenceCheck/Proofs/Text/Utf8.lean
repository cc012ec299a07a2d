import FenceCheck.Text.Lines
import FenceCheck.Text.Utf8

/-! Texts in files: what was written as bytes is read back as it was. Each character is the front of its
own bytes, whatever follows, and where no carriage return stands the line ends stay as they are. -/
namespace FenceCheck.Text

namespace Utf8
variable {a b c d : UInt8}

/-- A byte that continues a character. -/
def Continues (b : UInt8) : Prop :=
  0x80 ≤ b.toNat ∧ b.toNat < 0xC0

theorem isContinuation_iff : isContinuation b = true ↔ Continues b := by
  simp [isContinuation, Continues, UInt8.le_iff_toNat_le, UInt8.lt_iff_toNat_lt]

theorem mayFollow_iff : mayFollow a b = true ↔ Continues b ∧
    (a.toNat = 0xE0 → 0xA0 ≤ b.toNat) ∧ (a.toNat = 0xED → b.toNat < 0xA0) ∧
    (a.toNat = 0xF0 → 0x90 ≤ b.toNat) ∧ (a.toNat = 0xF4 → b.toNat < 0x90) := by
  simp [mayFollow, isContinuation_iff, UInt8.le_iff_toNat_le, UInt8.lt_iff_toNat_lt,
    ← UInt8.toNat_inj, Decidable.imp_iff_not_or, and_assoc]

theorem front_one (small : a.toNat < 0x80) (rest : List UInt8) :
    front a rest = .char (Char.ofNat a.toNat) rest := by
  simp [front, UInt8.lt_iff_toNat_lt, small]

section Several
variable (least : 0xC2 ≤ a.toNat) (most : a.toNat < 0xF5) (follows : mayFollow a b = true)
include least most follows

theorem front_two (two : a.toNat < 0xE0) (rest : List UInt8) :
    front a (b :: rest) = .char (Char.ofNat ((a.toNat - 0xC0) * 64 + low b)) rest := by
  have large : ¬ a.toNat < 0x80 := by omega
  have proper : ¬ (a.toNat < 0xC2 ∨ 0xF5 ≤ a.toNat) := by omega
  simp [front, UInt8.le_iff_toNat_le, UInt8.lt_iff_toNat_lt, large, proper, follows, two]

theorem front_three (third : Continues c) (more : ¬ a.toNat < 0xE0) (three : a.toNat < 0xF0)
    (rest : List UInt8) : front a (b :: c :: rest) =
      .char (Char.ofNat (((a.toNat - 0xE0) * 64 + low b) * 64 + low c)) rest := by
  have large : ¬ a.toNat < 0x80 := by omega
  have proper : ¬ (a.toNat < 0xC2 ∨ 0xF5 ≤ a.toNat) := by omega
  simp [front, UInt8.le_iff_toNat_le, UInt8.lt_iff_toNat_lt, large, proper, follows, more, three,
    isContinuation_iff.mpr third]

theorem front_four (third : Continues c) (fourth : Continues d) (more : ¬ a.toNat < 0xF0)
    (rest : List UInt8) : front a (b :: c :: d :: rest) =
      .char (Char.ofNat ((((a.toNat - 0xF0) * 64 + low b) * 64 + low c) * 64 + low d)) rest := by
  have large : ¬ a.toNat < 0x80 := by omega
  have proper : ¬ (a.toNat < 0xC2 ∨ 0xF5 ≤ a.toNat) := by omega
  have several : ¬ a.toNat < 0xE0 := by omega
  simp [front, UInt8.le_iff_toNat_le, UInt8.lt_iff_toNat_lt, large, proper, follows, several, more,
    isContinuation_iff.mpr third, isContinuation_iff.mpr fourth]

end Several

theorem toNat_ofNat {n : Nat} (small : n < 256) : (UInt8.ofNat n).toNat = n := by
  simp [Nat.mod_eq_of_lt small]

/-- The byte that continues a character by the last six bits of a number. -/
theorem continues_ofNat (n : Nat) : Continues (UInt8.ofNat (n % 64 + 128)) := by
  rw [Continues, toNat_ofNat (by omega)]
  omega

theorem low_ofNat (n : Nat) : low (UInt8.ofNat (n % 64 + 128)) = n % 64 := by
  rw [low, toNat_ofNat (by omega)]
  omega

/-- The bytes of a character are read as that character. -/
theorem front_utf8EncodeChar (x : Char) (rest : List UInt8) : ∃ a more,
    String.utf8EncodeChar x = a :: more ∧ front a (more ++ rest) = .char x rest := by
  have valid : x.toNat < 0xD800 ∨ 0xDFFF < x.toNat ∧ x.toNat < 0x110000 := by
    have := x.valid
    simpa only [UInt32.isValidChar, Nat.isValidChar, Char.toNat] using this
  have back : Char.ofNat x.toNat = x := Char.ofNat_toNat x
  have number : x.val.toNat = x.toNat := rfl
  simp only [String.utf8EncodeChar, number]
  -- by the number of bytes; the bounds of each case rule out overlong forms and surrogates
  by_cases one : x.toNat ≤ 127
  · rw [if_pos one]
    refine ⟨_, _, rfl, ?_⟩
    have small := toNat_ofNat (n := x.toNat) (by omega)
    rw [List.nil_append, front_one (by omega), small, back]
  by_cases two : x.toNat ≤ 2047
  · rw [if_neg one, if_pos two]
    refine ⟨_, _, rfl, ?_⟩
    have first := toNat_ofNat (n := x.toNat / 64 % 32 + 192) (by omega)
    have follows : mayFollow (.ofNat (x.toNat / 64 % 32 + 192)) (.ofNat (x.toNat % 64 + 128)) = true :=
      mayFollow_iff.mpr ⟨continues_ofNat x.toNat, by omega, by omega, by omega, by omega⟩
    rw [List.cons_append, List.nil_append, front_two (by omega) (by omega) follows (by omega), first,
      low_ofNat]
    rw [show (x.toNat / 64 % 32 + 192 - 0xC0) * 64 + x.toNat % 64 = x.toNat by omega, back]
  by_cases three : x.toNat ≤ 65535
  · rw [if_neg one, if_neg two, if_pos three]
    refine ⟨_, _, rfl, ?_⟩
    have first := toNat_ofNat (n := x.toNat / 4096 % 16 + 224) (by omega)
    have second := toNat_ofNat (n := x.toNat / 64 % 64 + 128) (by omega)
    have follows : mayFollow (.ofNat (x.toNat / 4096 % 16 + 224))
        (.ofNat (x.toNat / 64 % 64 + 128)) = true := mayFollow_iff.mpr
      ⟨continues_ofNat (x.toNat / 64), by omega, by omega, by omega, by omega⟩
    rw [List.cons_append, List.cons_append, List.nil_append,
      front_three (by omega) (by omega) follows (continues_ofNat x.toNat) (by omega) (by omega), first,
      low_ofNat, low_ofNat]
    rw [show ((x.toNat / 4096 % 16 + 224 - 0xE0) * 64 + x.toNat / 64 % 64) * 64 + x.toNat % 64 = x.toNat
      by omega, back]
  · rw [if_neg one, if_neg two, if_neg three]
    refine ⟨_, _, rfl, ?_⟩
    have first := toNat_ofNat (n := x.toNat / 262144 % 8 + 240) (by omega)
    have second := toNat_ofNat (n := x.toNat / 4096 % 64 + 128) (by omega)
    have follows : mayFollow (.ofNat (x.toNat / 262144 % 8 + 240))
        (.ofNat (x.toNat / 4096 % 64 + 128)) = true := mayFollow_iff.mpr
      ⟨continues_ofNat (x.toNat / 4096), by omega, by omega, by omega, by omega⟩
    rw [List.cons_append, List.cons_append, List.cons_append, List.nil_append,
      front_four (by omega) (by omega) follows (continues_ofNat (x.toNat / 64))
        (continues_ofNat x.toNat) (by omega), first, low_ofNat, low_ofNat, low_ofNat]
    rw [show (((x.toNat / 262144 % 8 + 240 - 0xF0) * 64 + x.toNat / 4096 % 64) * 64 +
      x.toNat / 64 % 64) * 64 + x.toNat % 64 = x.toNat by omega, back]

theorem decodeFrom_encode (s : List Char) (offset : Nat) (done : List Char) :
    decodeFrom offset done (encode s) = .ok (done.reverse ++ s) := by
  induction s generalizing offset done with
  | nil => simp [encode, decodeFrom]
  | cons x s ih =>
    obtain ⟨a, more, bytes, reads⟩ := front_utf8EncodeChar x (encode s)
    have split : encode (x :: s) = a :: (more ++ encode s) := by
      rw [encode, List.flatMap_cons, bytes]
      rfl
    rw [split, decodeFrom]
    split
    · rename_i y rest found
      obtain ⟨rfl, rfl⟩ : x = y ∧ encode s = rest := by simpa [reads] using found
      rw [ih]
      simp
    · rename_i found
      rw [reads] at found
      contradiction

/-- What was written is read back. -/
theorem decode_encode (s : List Char) : decode (encode s) = .ok s :=
  decodeFrom_encode s 0 []

end Utf8

theorem unifyLineEnds_eq_self {s : List Char} (none_ : '\r' ∉ s) : unifyLineEnds s = s := by
  induction s with
  | nil => rfl
  | cons c s ih =>
    obtain ⟨other, rest⟩ : '\r' ≠ c ∧ '\r' ∉ s := by simpa using none_
    rw [unifyLineEnds, ih rest, if_neg other.symm]
    rintro more rfl
    exact absurd rfl other

end FenceCheck.Text
