import FenceCheck.Text.CodePoint
import FenceCheck.Text.Quoted
import FenceCheck.Text.Utf8

/-!
Encodings of texts. An encoding has some code points that it can write; a text with others is refused as
a whole, before any of it is written.
-/
namespace FenceCheck.Text

/-- An encoding: its name, the code points that it can write, and what it says of others. -/
structure Codec where
  name : String
  writes : CodePoint → Bool
  reason : String

/-- The code points at fault: the first of them, its position, and how many follow each other. -/
structure EncodeError where
  codec : String
  first : CodePoint
  position : Nat
  count : Nat
  reason : String
  deriving DecidableEq

/-- One code point is shown by its number, several by their positions. -/
def EncodeError.message (e : EncodeError) : String :=
  "'" ++ e.codec ++ "' codec can't encode "
    ++ (if e.count = 1 then
      "character '" ++ String.ofList (numbered e.first) ++ "' in position " ++ toString e.position
    else
      "characters in position " ++ toString e.position ++ "-" ++ toString (e.position + e.count - 1))
    ++ ": " ++ e.reason

namespace Codec

def utf8 : Codec :=
  ⟨"utf-8", fun p => !p.isSurrogate, "surrogates not allowed"⟩

def ascii : Codec :=
  ⟨"ascii", fun p => p.val < 0x80, "ordinal not in range(128)"⟩

/-- The first code points at fault in a text whose first one stands at `position`. -/
def refusalFrom (codec : Codec) (position : Nat) : List CodePoint → Option EncodeError
  | [] => none
  | p :: rest =>
    if codec.writes p then codec.refusalFrom (position + 1) rest
    else
      let run := (p :: rest).takeWhile (!codec.writes ·)
      some ⟨codec.name, p, position, run.length, codec.reason⟩

/-- Why a text cannot be written, if it cannot. -/
def refusal? (codec : Codec) (text : List CodePoint) : Option EncodeError :=
  codec.refusalFrom 0 text

end Codec

/-- The bytes of a text; a surrogate has none. -/
def Utf8.encodePoints (text : List CodePoint) : Except EncodeError (List UInt8) :=
  match Codec.utf8.refusal? text with
  | none => .ok (Utf8.encode (text.map CodePoint.toChar))
  | some e => .error e

end FenceCheck.Text
