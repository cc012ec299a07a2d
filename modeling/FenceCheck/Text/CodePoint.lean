/-!
Code points, the surrogates among them. A text of the data formats can name a lone surrogate, which
no `Char` is, so their strings are lists of code points.
-/
namespace FenceCheck.Text

/-- A Unicode code point, surrogates included. -/
structure CodePoint where
  val : Nat
  lt : val < 0x110000
  deriving DecidableEq

namespace CodePoint

instance : Inhabited CodePoint := ⟨⟨0, by decide⟩⟩

def ofChar (c : Char) : CodePoint :=
  ⟨c.toNat, by
    have h := c.valid
    simp only [UInt32.isValidChar, Nat.isValidChar] at h
    simp only [Char.toNat]
    omega⟩

/-- The code point of a number, the last one for numbers that are none. -/
def ofNat (n : Nat) : CodePoint :=
  if h : n < 0x110000 then ⟨n, h⟩ else ⟨0x10FFFF, by decide⟩

def isSurrogate (p : CodePoint) : Bool :=
  0xD800 ≤ p.val && p.val < 0xE000

/-- The character of a code point; a surrogate gives the replacement of an invalid one. -/
def toChar (p : CodePoint) : Char :=
  Char.ofNat p.val

@[simp] theorem val_ofChar (c : Char) : (ofChar c).val = c.toNat := rfl

@[simp] theorem toChar_ofChar (c : Char) : (ofChar c).toChar = c :=
  Char.ofNat_toNat c

end CodePoint

def codePoints (s : String) : List CodePoint :=
  s.toList.map .ofChar

def ofCodePoints (ps : List CodePoint) : String :=
  String.ofList (ps.map CodePoint.toChar)

@[simp] theorem ofCodePoints_codePoints (s : String) : ofCodePoints (codePoints s) = s := by
  simp [ofCodePoints, codePoints, Function.comp_def]

theorem codePoints_inj {s t : String} : codePoints s = codePoints t ↔ s = t := by
  constructor
  · intro same
    have back := congrArg ofCodePoints same
    simpa using back
  · rintro rfl
    rfl

end FenceCheck.Text
