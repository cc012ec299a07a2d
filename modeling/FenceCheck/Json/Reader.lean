import FenceCheck.Json.Value
import FenceCheck.Number.Reading
import FenceCheck.Text.Hex
import FenceCheck.Text.Lines

/-!
Reading JSON texts. A reader takes what is left of the text and gives a value with what is left after
it, or a fault with the number of characters from the fault to the end of the text. Beside the grammar,
the words `NaN`, `Infinity` and `-Infinity` are numbers. Containers nest down to a limit, which is also
what the recursion descends on.
-/
namespace FenceCheck.Json
open FenceCheck.Text FenceCheck.Number

/-- Why a text is no JSON text, where a place can be shown. -/
inductive Cause where
  | expectingValue
  | expectingName
  | expectingColon
  | expectingComma
  | extraData
  | unterminatedString
  | controlCharacter
  | badEscape
  | badUnicodeEscape
  | byteOrderMark
  deriving DecidableEq, Repr

def Cause.message : Cause → String
  | .expectingValue => "Expecting value"
  | .expectingName => "Expecting property name enclosed in double quotes"
  | .expectingColon => "Expecting ':' delimiter"
  | .expectingComma => "Expecting ',' delimiter"
  | .extraData => "Extra data"
  | .unterminatedString => "Unterminated string starting at"
  | .controlCharacter => "Invalid control character at"
  | .badEscape => "Invalid \\escape"
  | .badUnicodeEscape => "Invalid \\uXXXX escape"
  | .byteOrderMark => "Unexpected UTF-8 BOM (decode using utf-8-sig)"

inductive Container where
  | array
  | object
  deriving DecidableEq, Repr

/-- Why reading stopped: a fault with `left` characters before the end of the text, an integer of too
many digits, or too deep a nesting. -/
inductive Stop where
  | fault (cause : Cause) (left : Nat)
  | longInteger (digits : Nat)
  | tooDeep (container : Container)
  deriving DecidableEq, Repr

def isSpace (c : Char) : Bool :=
  c = ' ' || c = '\t' || c = '\n' || c = '\r'

def skipSpace (s : List Char) : List Char :=
  s.dropWhile isSpace

def hex4? (a b c d : Char) : Option Nat :=
  hexNumber? [a, b, c, d]

def simpleEscape? : Char → Option Char
  | '"' => some '"'
  | '\\' => some '\\'
  | '/' => some '/'
  | 'b' => some '\x08'
  | 'f' => some '\x0c'
  | 'n' => some '\n'
  | 'r' => some '\r'
  | 't' => some '\t'
  | _ => none

def isHighSurrogate (n : Nat) : Bool :=
  0xD800 ≤ n && n < 0xDC00

def isLowSurrogate (n : Nat) : Bool :=
  0xDC00 ≤ n && n < 0xE000

def joinSurrogates (high low : Nat) : Nat :=
  0x10000 + (high - 0xD800) * 0x400 + (low - 0xDC00)

/-- The second half of a pair, if an escape for one and a character after it stand in front. -/
def pairedLow? : List Char → Option (Nat × List Char)
  | '\\' :: 'u' :: a :: b :: c :: d :: e :: rest =>
    match hex4? a b c d with
    | some low => if isLowSurrogate low then some (low, e :: rest) else none
    | none => none
  | _ => none

/-- What stands after the backslash of an escape. A Unicode escape needs a character after its four
digits; an escaped high surrogate takes an escaped low one with it. -/
def readEscape : List Char → Except Stop (CodePoint × List Char)
  | [] => .error (.fault .unterminatedString 0)
  | c :: rest =>
    if c = 'u' then
      match rest with
      | h1 :: h2 :: h3 :: h4 :: e :: after =>
        match hex4? h1 h2 h3 h4 with
        | none => .error (.fault .badUnicodeEscape (rest.length + 1))
        | some n =>
          match if isHighSurrogate n then pairedLow? (e :: after) else none with
          | some (low, after) => .ok (.ofNat (joinSurrogates n low), after)
          | none => .ok (.ofNat n, e :: after)
      | _ => .error (.fault .badUnicodeEscape (rest.length + 1))
    else match simpleEscape? c with
      | some x => .ok (.ofChar x, rest)
      | none => .error (.fault .badEscape (rest.length + 2))

theorem pairedLow?_shorter {s r : List Char} {n : Nat} (h : pairedLow? s = some (n, r)) :
    r.length < s.length := by
  unfold pairedLow? at h
  split at h
  · split at h
    · split at h
      · injection h with h
        injection h with _ h
        subst h
        simp only [List.length_cons]
        omega
      · cases h
    · cases h
  · cases h

theorem readEscape_shorter {s r : List Char} {p : CodePoint} (h : readEscape s = .ok (p, r)) :
    r.length < s.length := by
  unfold readEscape at h
  split at h
  · cases h
  · split at h
    · split at h
      · split at h
        · cases h
        · split at h
          · rename_i found
            injection h with h
            injection h with _ h
            subst h
            split at found
            · have := pairedLow?_shorter found
              simp only [List.length_cons] at *
              omega
            · cases found
          · injection h with h
            injection h with _ h
            subst h
            simp only [List.length_cons]
            omega
      · cases h
    · split at h
      · injection h with h
        injection h with _ h
        subst h
        simp
      · cases h

/-- The rest of a string after its points `done` in reverse; `opened` characters were left at its
opening mark. -/
def readString (opened : Nat) (done : List CodePoint) :
    List Char → Except Stop (List CodePoint × List Char)
  | [] => .error (.fault .unterminatedString opened)
  | c :: rest =>
    if c = '"' then .ok (done.reverse, rest)
    else if c = '\\' then
      if rest = [] then .error (.fault .unterminatedString opened)
      else match h : readEscape rest with
        | .ok (p, after) =>
          have := readEscape_shorter h
          readString opened (p :: done) after
        | .error e => .error e
    else if c.toNat < 0x20 then .error (.fault .controlCharacter (rest.length + 1))
    else readString opened (.ofChar c :: done) rest
termination_by s => s.length
decreasing_by
  · simp only [List.length_cons]; omega
  · simp

def takeDigits (s : List Char) : List Char × List Char :=
  (s.takeWhile Char.isDigit, s.dropWhile Char.isDigit)

/-- The digits before the point: one zero, or digits that do not start with one. -/
def readWhole? : List Char → Option (List Char × List Char)
  | [] => none
  | c :: rest =>
    if c = '0' then some (['0'], rest)
    else if c.isDigit then
      let (ds, after) := takeDigits rest
      some (c :: ds, after)
    else none

/-- The digits after a point, if the point is followed by one. -/
def readFraction : List Char → List Char × List Char
  | '.' :: rest =>
    match takeDigits rest with
    | ([], _) => ([], '.' :: rest)
    | (ds, after) => (ds, after)
  | s => ([], s)

/-- The exponent, if its mark is followed by digits, with or without a sign. -/
def readExponent (s : List Char) : Option Int × List Char :=
  match s with
  | c :: rest =>
    if c = 'e' ∨ c = 'E' then
      let (negative, unsigned) := takeSign rest
      match takeDigits unsigned with
      | ([], _) => (none, s)
      | (ds, after) => (some (if negative then -(ofDigits ds : Int) else ofDigits ds), after)
    else (none, s)
  | [] => (none, s)

/-- A number with its sign taken off; `left` characters were left at its start. -/
def readNumber (left : Nat) (negative : Bool) (s : List Char) : Except Stop (Json × List Char) :=
  match readWhole? s with
  | none => .error (.fault .expectingValue left)
  | some (whole, rest) =>
    let (fraction, rest) := readFraction rest
    let (exponent, rest) := readExponent rest
    if fraction = [] ∧ exponent = none then
      if digitLimit < whole.length then .error (.longInteger whole.length)
      else .ok (.int (if negative then -(ofDigits whole : Int) else ofDigits whole), rest)
    else
      let x := Binary64.ofDecimal negative (ofDigits (whole ++ fraction))
        (exponent.getD 0 - fraction.length)
      .ok (.float x, rest)

def readScalar (s : List Char) : Except Stop (Json × List Char) :=
  match s with
  | 'n' :: 'u' :: 'l' :: 'l' :: rest => .ok (.null, rest)
  | 't' :: 'r' :: 'u' :: 'e' :: rest => .ok (.bool true, rest)
  | 'f' :: 'a' :: 'l' :: 's' :: 'e' :: rest => .ok (.bool false, rest)
  | 'N' :: 'a' :: 'N' :: rest => .ok (.float .nan, rest)
  | 'I' :: 'n' :: 'f' :: 'i' :: 'n' :: 'i' :: 't' :: 'y' :: rest => .ok (.float (.infinity false), rest)
  | '-' :: 'I' :: 'n' :: 'f' :: 'i' :: 'n' :: 'i' :: 't' :: 'y' :: rest =>
    .ok (.float (.infinity true), rest)
  | '-' :: rest => readNumber s.length true rest
  | _ => readNumber s.length false s

/-- The items after the opening of a list, `done` in reverse before them, each read by `one`. -/
def readItems (one : List Char → Except Stop (Json × List Char)) (done : List Json) : Nat → List Char → Except Stop (Json × List Char)
  | 0, s => .error (.fault .expectingValue s.length)
  | fuel + 1, s => do
    let (v, rest) ← one s
    match skipSpace rest with
    | ']' :: after => .ok (.array (v :: done).reverse, after)
    | ',' :: after => readItems one (v :: done) fuel (skipSpace after)
    | other => .error (.fault .expectingComma other.length)

/-- The members after the opening of an object, `done` before them, each value read by `one`. -/
def readMembers (one : List Char → Except Stop (Json × List Char)) (done : List (List CodePoint × Json)) :
    Nat → List Char → Except Stop (Json × List Char)
  | 0, s => .error (.fault .expectingName s.length)
  | fuel + 1, s =>
    match s with
    | '"' :: quotedKey => do
      let (key, rest) ← readString s.length [] quotedKey
      match skipSpace rest with
      | ':' :: afterColon =>
        let (v, rest) ← one (skipSpace afterColon)
        match skipSpace rest with
        | '}' :: after => .ok (.object (bind key v done), after)
        | ',' :: after => readMembers one (bind key v done) fuel (skipSpace after)
        | other => .error (.fault .expectingComma other.length)
      | other => .error (.fault .expectingColon other.length)
    | other => .error (.fault .expectingName other.length)

/-- A value at the front of the text, with containers nested at most `depth` deep. -/
def readValue : Nat → List Char → Except Stop (Json × List Char)
  | depth, s =>
    match depth, s with
    | _, '"' :: rest => do
      let (v, rest) ← readString s.length [] rest
      .ok (.string v, rest)
    | 0, '[' :: _ => .error (.tooDeep .array)
    | 0, '{' :: _ => .error (.tooDeep .object)
    | depth + 1, '[' :: rest =>
      match skipSpace rest with
      | ']' :: after => .ok (.array [], after)
      | inner => readItems (readValue depth) [] (inner.length + 1) inner
    | depth + 1, '{' :: rest =>
      match skipSpace rest with
      | '}' :: after => .ok (.object [], after)
      | inner => readMembers (readValue depth) [] (inner.length + 1) inner
    | _, _ => readScalar s

def depthLimit : Nat := 990

def readAll (s : List Char) : Except Stop Json :=
  match s with
  | '\uFEFF' :: _ => .error (.fault .byteOrderMark s.length)
  | _ => do
    let (v, rest) ← readValue depthLimit (skipSpace s)
    match skipSpace rest with
    | [] => .ok v
    | other => .error (.fault .extraData other.length)

/-- Why a text has no value, with the place of the fault. -/
inductive ReadError where
  | fault (cause : Cause) (place : Place)
  | longInteger (digits : Nat)
  | tooDeep (container : Container)
  deriving DecidableEq, Repr

def Stop.locate (s : List Char) : Stop → ReadError
  | .fault cause left => .fault cause (placeAt s (s.length - left))
  | .longInteger n => .longInteger n
  | .tooDeep c => .tooDeep c

def ReadError.message : ReadError → String
  | .fault cause place =>
    cause.message ++ ": line " ++ toString place.line ++ " column " ++ toString place.column
      ++ " (char " ++ toString place.offset ++ ")"
  | .longInteger n =>
    "Exceeds the limit (4300 digits) for integer string conversion: value has " ++ toString n
      ++ " digits; use sys.set_int_max_str_digits() to increase the limit"
  | .tooDeep .array =>
    "maximum recursion depth exceeded while decoding a JSON array from a unicode string"
  | .tooDeep .object =>
    "maximum recursion depth exceeded while decoding a JSON object from a unicode string"

def read (s : String) : Except ReadError Json :=
  (readAll s.toList).mapError (·.locate s.toList)

end FenceCheck.Json
