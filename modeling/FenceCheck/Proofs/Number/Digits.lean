import FenceCheck.Number.Notation
import FenceCheck.Number.Reading
import Mathlib.Algebra.Order.Ring.Nat
import Mathlib.Data.List.Induction

/-! How many digits numbers have. An integer that was read from so many digits can be written with as
many, and so can the integer part of a floating-point number. -/
namespace FenceCheck.Number

/-- Whether an integer can be written in base ten. -/
def Writable (n : Int) : Prop :=
  (renderInt? n).isSome = true

theorem writable_iff {n : Int} : Writable n ↔ n.natAbs < 10 ^ digitLimit := by
  have digits : (toString n.natAbs).length = (Nat.toDigits 10 n.natAbs).length := by
    rw [Nat.toString_eq_ofList_toDigits, String.length_ofList]
  have short := Nat.length_toDigits_le_iff (b := 10) (n := n.natAbs) (k := digitLimit)
    (by decide) (by decide)
  rw [← short, ← digits, Writable, renderInt?]
  split
  · rename_i long
    simpa using long
  · rename_i short
    simpa using short

theorem ofDigits_append_singleton (ds : List Char) (d : Char) :
    ofDigits (ds ++ [d]) = ofDigits ds * 10 + (d.toNat - 48) := by
  simp [ofDigits]

theorem isDigit_value {d : Char} (digit : d.isDigit = true) : d.toNat - 48 < 10 := by
  simp only [Char.isDigit, Bool.and_eq_true, decide_eq_true_eq] at digit
  have upper : d.toNat ≤ 57 := digit.2
  omega

theorem ofDigits_lt {ds : List Char} (digits : ∀ d ∈ ds, d.isDigit = true) :
    ofDigits ds < 10 ^ ds.length := by
  induction ds using List.reverseRecOn with
  | nil => decide
  | append_singleton ds d ih =>
    have front := ih fun c member => digits c (List.mem_append_left _ member)
    have last := isDigit_value (digits d (by simp))
    rw [ofDigits_append_singleton, List.length_append, List.length_singleton, Nat.pow_succ]
    omega

/-- An integer of few digits, with or without a sign. -/
theorem writable_ofDigits {ds : List Char} (digits : ∀ d ∈ ds, d.isDigit = true)
    (short : ds.length ≤ digitLimit) (negative : Bool) :
    Writable (if negative then -(ofDigits ds : Int) else ofDigits ds) := by
  have bounded : ofDigits ds < 10 ^ digitLimit :=
    (ofDigits_lt digits).trans_le (Nat.pow_le_pow_right (by decide) short)
  rw [writable_iff]
  cases negative with
  | true => simpa using bounded
  | false => simpa using bounded

theorem writable_readInt? {s : String} {n : Int} (read : readInt? s = some n) : Writable n := by
  simp only [readInt?, Option.bind_eq_bind, Option.bind_eq_some_iff] at read
  obtain ⟨ds, _, read⟩ := read
  split at read
  · contradiction
  · rename_i usable
    simp only [not_or, List.any_eq_true, Bool.not_eq_true', not_exists, not_and,
      Bool.not_eq_false] at usable
    obtain ⟨_, digits, short⟩ := usable
    rw [← Option.some.inj read]
    exact writable_ofDigits digits (Nat.le_of_not_lt short) _

namespace Binary64

/-- The finite numbers stay below the power of two at which the infinite begin. -/
theorem form_bounded {x : Binary64} {negative : Bool} {m : Nat} {e : Int}
    (finite : x.form = .finite negative m e) : m < 2 ^ 53 ∧ e ≤ 971 := by
  have fraction : x.bits.toNat % pow2 52 < 2 ^ 52 := Nat.mod_lt _ (by decide)
  have biased : x.bits.toNat / pow2 52 % pow2 11 < 2 ^ 11 := Nat.mod_lt _ (by decide)
  have unit : pow2 52 = 2 ^ 52 := rfl
  simp only [form] at finite
  split at finite
  · split at finite <;> contradiction
  · split at finite
    · obtain ⟨_, rfl, rfl⟩ := Form.finite.inj finite
      omega
    · obtain ⟨_, rfl, rfl⟩ := Form.finite.inj finite
      omega

theorem mul_pow2_lt {m k a b c : Nat} (small : m < 2 ^ a) (within : k ≤ b) (fits : a + b ≤ c) :
    m * pow2 k < 10 ^ c :=
  calc m * pow2 k < 2 ^ a * pow2 k := Nat.mul_lt_mul_of_pos_right small (Nat.two_pow_pos k)
    _ = 2 ^ (a + k) := (Nat.pow_add 2 a k).symm
    _ ≤ 10 ^ (a + k) := Nat.pow_le_pow_left (by decide) _
    _ ≤ 10 ^ c := Nat.pow_le_pow_right (by decide) (by omega)

theorem writable_truncate {x : Binary64} {n : Int} (whole : x.truncate = some n) : Writable n := by
  rw [truncate] at whole
  split at whole
  · rename_i negative m e finite
    obtain ⟨mantissa, exponent⟩ := form_bounded finite
    have bounded : (if 0 ≤ e then m * pow2 e.toNat else m / pow2 (-e).toNat) < 10 ^ digitLimit := by
      split
      · exact mul_pow2_lt (b := 971) mantissa (by omega) (by decide)
      · calc m / pow2 (-e).toNat ≤ m := Nat.div_le_self _ _
          _ = m * pow2 0 := (Nat.mul_one m).symm
          _ < 10 ^ digitLimit := mul_pow2_lt mantissa (Nat.le_refl 0) (by decide)
    rw [← Option.some.inj whole, writable_iff]
    generalize (if 0 ≤ e then m * pow2 e.toNat else m / pow2 (-e).toNat) = k at bounded ⊢
    cases negative with
    | true => simpa using bounded
    | false => simpa using bounded
  · contradiction

end Binary64
end FenceCheck.Number
