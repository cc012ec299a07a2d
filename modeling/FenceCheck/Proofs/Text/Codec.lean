import FenceCheck.Proofs.Json.Strings
import FenceCheck.Text.Codec

/-! Which texts can be encoded. An encoding refuses a text for the code points that it cannot write, and
for nothing else; UTF-8 writes all but surrogates, and so every text of characters. -/
namespace FenceCheck.Text
variable {codec : Codec} {text : List CodePoint}

namespace Codec

theorem refusalFrom_eq_none_iff {position : Nat} :
    codec.refusalFrom position text = none ↔ ∀ p ∈ text, codec.writes p = true := by
  induction text generalizing position with
  | nil => simp [refusalFrom]
  | cons p rest ih =>
    rw [refusalFrom]
    split
    · rename_i writes
      simp [ih, writes]
    · rename_i refuses
      simp [refuses]

theorem refusal?_eq_none_iff : codec.refusal? text = none ↔ ∀ p ∈ text, codec.writes p = true :=
  refusalFrom_eq_none_iff

theorem refusal?_utf8_eq_none_iff :
    utf8.refusal? text = none ↔ ∀ p ∈ text, p.isSurrogate = false := by
  simp [refusal?_eq_none_iff, utf8]

@[simp] theorem refusal?_utf8_codePoints (s : String) : utf8.refusal? (codePoints s) = none :=
  refusal?_utf8_eq_none_iff.mpr (isSurrogate_of_mem_codePoints s)

end Codec

theorem codePoints_ofCodePoints (scalar : ∀ p ∈ text, p.isSurrogate = false) :
    codePoints (ofCodePoints text) = text := by
  have kept : text.map (fun p => CodePoint.ofChar p.toChar) = text.map id :=
    List.map_congr_left fun p member => CodePoint.ofChar_toChar (scalar p member)
  rw [List.map_id] at kept
  simpa [codePoints, ofCodePoints, Function.comp_def] using kept

@[simp] theorem escaped_codePoints (s : String) : escaped (codePoints s) = s := by
  simp [escaped, codePoints, List.flatMap_map, CodePoint.isSurrogate_ofChar]

namespace Utf8

theorem encodePoints_eq_ok_iff {bytes : List UInt8} : encodePoints text = .ok bytes ↔
    (∀ p ∈ text, p.isSurrogate = false) ∧ bytes = encode (chars text) := by
  rw [← Codec.refusal?_utf8_eq_none_iff, encodePoints, chars]
  cases Codec.utf8.refusal? text with
  | none => simpa using eq_comm
  | some e => simp

end Utf8
end FenceCheck.Text
