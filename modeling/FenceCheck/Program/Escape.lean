import FenceCheck.Program.Token
import FenceCheck.Text.Hex

/-!
Escapes in texts. A character that is no ASCII is first written as an escape of its own, and so is a
backslash before it; places are counted in that form.
-/
namespace FenceCheck.Program
open FenceCheck.Text

/-- What is wrong with an escape, and where: the first character and the one after the last. -/
structure BadEscape where
  first : Nat
  after : Nat
  reason : String

def BadEscape.message (e : BadEscape) : String :=
  "(unicode error) 'unicodeescape' codec can't decode bytes in position " ++ toString e.first ++ "-"
    ++ toString (e.after - 1) ++ ": " ++ e.reason

def spellOut : List Char → List Char
  | [] => []
  | '\\' :: c :: rest =>
    if c.toNat ≥ 128 then "\\u005c".toList ++ ("\\U".toList ++ hexFixed 8 c.toNat) ++ spellOut rest
    else '\\' :: c :: spellOut rest
  | '\\' :: [] => "\\u005c".toList
  | c :: rest =>
    if c.toNat ≥ 128 then "\\U".toList ++ hexFixed 8 c.toNat ++ spellOut rest else c :: spellOut rest

def isNameLetter (c : Char) : Bool := c.isAlphanum || c = ' ' || c = '-'

/-- The number of characters of an escape after its letter, or what is wrong with it. `taken` is the
number of characters from the backslash to the letter. -/
def hexEscape (width : Nat) (reason : String) (place : Nat) (rest : List Char) : Except BadEscape Nat :=
  let digits := (rest.take width).takeWhile fun c => (hexValue? c).isSome
  if digits.length < width then .error ⟨place, place + 2 + digits.length, reason⟩
  else if (hexNumber? digits).getD 0 > 0x10ffff then
    .error ⟨place, place + 2 + width, "illegal Unicode character"⟩
  else .ok width

/-- The number of characters of an escape by name after its letter, or what is wrong with it. -/
def nameEscape (place : Nat) (rest : List Char) : Except BadEscape Nat :=
  let malformed (n : Nat) : BadEscape := ⟨place, place + 2 + n, "malformed \\N character escape"⟩
  match rest with
  | '{' :: inner =>
    let name := inner.takeWhile (· ≠ '}')
    if name.length = inner.length then .error (malformed (1 + name.length))
    else if name = [] then .error (malformed 1)
    else if name.all isNameLetter then .ok (name.length + 2)
    else .error ⟨place, place + 4 + name.length, "unknown Unicode character name"⟩
  | _ => .error (malformed 0)

def badEscape : Nat → Nat → List Char → Option BadEscape
  | 0, _, _ => none
  | fuel + 1, place, s =>
    match s with
    | [] => none
    | '\\' :: c :: rest =>
      let size : Except BadEscape Nat :=
        match c with
        | 'x' => hexEscape 2 "truncated \\xXX escape" place rest
        | 'u' => hexEscape 4 "truncated \\uXXXX escape" place rest
        | 'U' => hexEscape 8 "truncated \\UXXXXXXXX escape" place rest
        | 'N' => nameEscape place rest
        | _ => .ok 0
      match size with
      | .error e => some e
      | .ok n => badEscape fuel (place + 2 + n) (rest.drop n)
    | _ :: rest => badEscape fuel (place + 1) rest

def textComplaint? (s : List Char) : Option String :=
  if s.contains '\\' then
    let spelled := spellOut s
    (badEscape (spelled.length + 1) 0 spelled).map (·.message)
  else none

def bytesComplaint? : Nat → Nat → List Char → Option String
  | 0, _, _ => none
  | fuel + 1, place, s =>
    match s with
    | [] => none
    | '\\' :: 'x' :: rest =>
      if ((rest.take 2).takeWhile fun c => (hexValue? c).isSome).length < 2 then
        some ("(value error) invalid \\x escape at position " ++ toString place)
      else bytesComplaint? fuel (place + 4) (rest.drop 2)
    | '\\' :: _ :: rest => bytesComplaint? fuel (place + 2) rest
    | _ :: rest => bytesComplaint? fuel (place + 1) rest

end FenceCheck.Program
