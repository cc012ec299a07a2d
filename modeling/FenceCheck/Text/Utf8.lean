import FenceCheck.Text.Hex

/-!
Text as UTF-8 bytes. Reading refuses overlong forms, surrogates and numbers above U+10FFFF, and says
which bytes are at fault: a byte that begins no character, a character that is broken off by a byte
that does not continue it, or one that the end of the data breaks off.
-/
namespace FenceCheck.Text.Utf8

inductive Cause where
  | invalidStart
  | invalidContinuation
  | unexpectedEnd
  deriving DecidableEq, Repr

/-- The bytes at fault: the first of them, its offset, and their number. -/
structure DecodeError where
  byte : UInt8
  offset : Nat
  count : Nat
  cause : Cause
  deriving DecidableEq

def Cause.message : Cause → String
  | .invalidStart => "invalid start byte"
  | .invalidContinuation => "invalid continuation byte"
  | .unexpectedEnd => "unexpected end of data"

/-- One bad byte is shown by value, several by their offsets. -/
def DecodeError.message (e : DecodeError) : String :=
  (if e.count = 1 then
    "'utf-8' codec can't decode byte 0x" ++ String.ofList (hexFixed 2 e.byte.toNat)
      ++ " in position " ++ toString e.offset
  else
    "'utf-8' codec can't decode bytes in position " ++ toString e.offset ++ "-"
      ++ toString (e.offset + e.count - 1))
  ++ ": " ++ e.cause.message

def isContinuation (b : UInt8) : Bool :=
  0x80 ≤ b && b < 0xC0

/-- Whether `b` may be the second byte after the first byte `a`. -/
def mayFollow (a b : UInt8) : Bool :=
  isContinuation b &&
    (a ≠ 0xE0 || 0xA0 ≤ b) && (a ≠ 0xED || b < 0xA0) && (a ≠ 0xF0 || 0x90 ≤ b) && (a ≠ 0xF4 || b < 0x90)

def low (b : UInt8) : Nat :=
  b.toNat % 64

/-- What stands at the front of the bytes. -/
inductive Front where
  | char (c : Char) (rest : List UInt8)
  | bad (count : Nat) (cause : Cause)

/-- The first character of `a :: rest`. -/
def front (a : UInt8) (rest : List UInt8) : Front :=
  if a < 0x80 then .char (Char.ofNat a.toNat) rest
  else if a < 0xC2 || 0xF5 ≤ a then .bad 1 .invalidStart
  else match rest with
    | [] => .bad 1 .unexpectedEnd
    | b :: rest =>
      if !mayFollow a b then .bad 1 .invalidContinuation
      else if a < 0xE0 then .char (Char.ofNat ((a.toNat - 0xC0) * 64 + low b)) rest
      else match rest with
        | [] => .bad 2 .unexpectedEnd
        | c :: rest =>
          if !isContinuation c then .bad 2 .invalidContinuation
          else if a < 0xF0 then
            .char (Char.ofNat (((a.toNat - 0xE0) * 64 + low b) * 64 + low c)) rest
          else match rest with
            | [] => .bad 3 .unexpectedEnd
            | d :: rest =>
              if !isContinuation d then .bad 3 .invalidContinuation
              else .char (Char.ofNat ((((a.toNat - 0xF0) * 64 + low b) * 64 + low c) * 64 + low d)) rest

theorem front_shorter {a : UInt8} {rest r : List UInt8} {c : Char} (h : front a rest = .char c r) :
    r.length ≤ rest.length := by
  unfold front at h
  repeat' split at h
  all_goals
    first
      | (injection h with _ h; subst h; simp; done)
      | (injection h with _ h; subst h; simp; omega)
      | cases h

/-- Reads bytes from `offset` on, after the characters of `done` in reverse. -/
def decodeFrom (offset : Nat) (done : List Char) : List UInt8 → Except DecodeError (List Char)
  | [] => .ok done.reverse
  | a :: rest =>
    match h : front a rest with
    | .char c r =>
      have := front_shorter h
      decodeFrom (offset + (rest.length + 1 - r.length)) (c :: done) r
    | .bad count cause => .error ⟨a, offset, count, cause⟩
termination_by bs => bs.length
decreasing_by simp only [List.length_cons]; omega

def decode (bytes : List UInt8) : Except DecodeError (List Char) :=
  decodeFrom 0 [] bytes

def encode (s : List Char) : List UInt8 :=
  s.flatMap String.utf8EncodeChar

end FenceCheck.Text.Utf8
