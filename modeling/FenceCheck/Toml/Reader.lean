import FenceCheck.Number.Reading
import FenceCheck.Text.Hex
import FenceCheck.Text.Lines
import FenceCheck.Toml.Document

/-!
Reading TOML documents. A reader takes what is left of the text and gives a result with what is left
after it, or a fault with the number of characters from the fault to the end of the text. Statements are
read one by one; a document that declares or changes a key twice is refused where it does so.
-/
namespace FenceCheck.Toml
open FenceCheck.Text FenceCheck.Number

/-- Why a text is no TOML document. -/
inductive Cause where
  | invalidStatement
  | expectedLineEnd
  | expected (delimiter : String)
  | invalidCharacter (c : Char)
  | illegalCharacter (c : Char)
  | declaredTwice (key : Key)
  | overwritten
  | immutable (key : Key)
  | redefined (key : Key)
  | expectedTableEnd
  | expectedListEnd
  | expectedEquals
  | invalidKeyStart
  | unclosedArray
  | unclosedTable
  | duplicateKey (name : String)
  | strayBackslash
  | invalidHex
  | notScalar
  | unterminatedString
  | invalidMoment
  | invalidValue
  deriving DecidableEq, Repr

def quotedChar (c : Char) : String :=
  quoted (String.singleton c)

def Cause.message : Cause → String
  | .invalidStatement => "Invalid statement"
  | .expectedLineEnd => "Expected newline or end of document after a statement"
  | .expected d => "Expected " ++ quoted d
  | .invalidCharacter c => "Found invalid character " ++ quotedChar c
  | .illegalCharacter c => "Illegal character " ++ quotedChar c
  | .declaredTwice k => "Cannot declare " ++ k.literal ++ " twice"
  | .overwritten => "Cannot overwrite a value"
  | .immutable k => "Cannot mutate immutable namespace " ++ k.literal
  | .redefined k => "Cannot redefine namespace " ++ k.literal
  | .expectedTableEnd => "Expected ']' at the end of a table declaration"
  | .expectedListEnd => "Expected ']]' at the end of an array declaration"
  | .expectedEquals => "Expected '=' after a key in a key/value pair"
  | .invalidKeyStart => "Invalid initial character for a key part"
  | .unclosedArray => "Unclosed array"
  | .unclosedTable => "Unclosed inline table"
  | .duplicateKey k => "Duplicate inline table key " ++ quoted k
  | .strayBackslash => "Unescaped '\\' in a string"
  | .invalidHex => "Invalid hex value"
  | .notScalar => "Escaped character is not a Unicode scalar value"
  | .unterminatedString => "Unterminated string"
  | .invalidMoment => "Invalid date or datetime"
  | .invalidValue => "Invalid value"

/-- Why reading stopped: a fault with `left` characters before the end of the text, an integer of too
many digits, or too deep a nesting. -/
inductive Stop where
  | fault (cause : Cause) (left : Nat)
  | longInteger (digits : Nat)
  | tooDeep
  deriving DecidableEq, Repr

/-- A fault at the front of `s`. -/
def stopAt {α : Type} (cause : Cause) (s : List Char) : Except Stop α :=
  .error (.fault cause s.length)

def isInlineBlank (c : Char) : Bool :=
  c = ' ' || c = '\t'

def isAnyBlank (c : Char) : Bool :=
  isInlineBlank c || c = '\n'

def skipInline (s : List Char) : List Char :=
  s.dropWhile isInlineBlank

def isIllegal (c : Char) : Bool :=
  (c.toNat < 0x20 && c ≠ '\t') || c.toNat = 0x7F

def isIllegalInLines (c : Char) : Bool :=
  isIllegal c && c ≠ '\n'

def isBareKeyChar (c : Char) : Bool :=
  c.isAlphanum || c = '-' || c = '_'

/-- What stands before `delimiter`, and the text from there on. -/
def cutAt (delimiter : List Char) : List Char → Option (List Char × List Char)
  | [] => none
  | c :: rest =>
    if delimiter.isPrefixOf (c :: rest) then some ([], c :: rest)
    else (cutAt delimiter rest).map fun (before, after) => (c :: before, after)

/-- Refuses the first bad character of `before`, which stands in front of `after`. -/
def refuse (bad : Char → Bool) (before after : List Char) : Except Stop Unit :=
  match before.dropWhile (!bad ·) with
  | [] => .ok ()
  | c :: rest => .error (.fault (.invalidCharacter c) (rest.length + 1 + after.length))

def skipComment (s : List Char) : Except Stop (List Char) :=
  match s with
  | '#' :: rest => do
    let after := rest.dropWhile (· ≠ '\n')
    refuse isIllegal (rest.takeWhile (· ≠ '\n')) after
    return after
  | _ => .ok s

def skipFill : Nat → List Char → Except Stop (List Char)
  | 0, s => .ok s
  | fuel + 1, s => do
    let after ← skipComment (s.dropWhile isAnyBlank)
    if after.length = s.length then return after else skipFill fuel after

/-- A string up to a closing delimiter, nothing in it being escaped. -/
def readLiteral (delimiter : List Char) (bad : Char → Bool) (s : List Char) :
    Except Stop (List Char × List Char) :=
  match cutAt delimiter s with
  | none => stopAt (.expected (String.ofList delimiter)) []
  | some (before, after) => do
    refuse bad before after
    return (before, after.drop delimiter.length)

/-- The character that `width` hexadecimal digits name. -/
def readHexChar (width : Nat) (s : List Char) : Except Stop (List Char × List Char) :=
  let ds := s.take width
  match if ds.length = width then hexNumber? ds else none with
  | none => stopAt .invalidHex s
  | some n =>
    if n < 0xD800 ∨ (0xE000 ≤ n ∧ n < 0x110000) then .ok ([Char.ofNat n], s.drop width)
    else stopAt .notScalar (s.drop width)

def simpleEscape? : Char → Option Char
  | 'b' => some '\x08'
  | 't' => some '\t'
  | 'n' => some '\n'
  | 'f' => some '\x0c'
  | 'r' => some '\r'
  | '"' => some '"'
  | '\\' => some '\\'
  | _ => none

/-- What the escape after a backslash stands for. In strings of several lines a backslash at the end of
a line takes the blanks that follow with it. -/
def readEscape (multiline : Bool) (s : List Char) : Except Stop (List Char × List Char) :=
  match s with
  | [] => stopAt .strayBackslash []
  | c :: rest =>
    if multiline && isAnyBlank c then
      if c = '\n' then .ok ([], rest.dropWhile isAnyBlank)
      else match skipInline rest with
        | [] => .ok ([], [])
        | '\n' :: after => .ok ([], after.dropWhile isAnyBlank)
        | other => stopAt .strayBackslash other
    else if c = 'u' then readHexChar 4 rest
    else if c = 'U' then readHexChar 8 rest
    else match simpleEscape? c with
      | some x => .ok ([x], rest)
      | none => stopAt .strayBackslash rest

/-- The rest of a basic string, after the characters `done` in reverse. -/
def readBasic (multiline : Bool) (done : List Char) : Nat → List Char →
    Except Stop (List Char × List Char)
  | 0, s => stopAt .unterminatedString s
  | fuel + 1, s =>
    match s with
    | [] => stopAt .unterminatedString []
    | '\\' :: rest => do
      let (cs, after) ← readEscape multiline rest
      readBasic multiline (cs.reverse ++ done) fuel after
    | '"' :: rest =>
      if !multiline then .ok (done.reverse, rest)
      else match rest with
        | '"' :: '"' :: after => .ok (done.reverse, after)
        | _ => readBasic multiline ('"' :: done) fuel rest
    | c :: rest =>
      if (if multiline then isIllegalInLines c else isIllegal c) then stopAt (.illegalCharacter c) s
      else readBasic multiline (c :: done) fuel rest

/-- Up to two more quotes, which belong to the string in front of them. -/
def readExtraQuotes (quote : Char) (r : List Char × List Char) : List Char × List Char :=
  match r.2 with
  | a :: b :: rest =>
    if a = quote then
      if b = quote then (r.1 ++ [quote, quote], rest) else (r.1 ++ [quote], b :: rest)
    else r
  | [a] => if a = quote then (r.1 ++ [quote], []) else r
  | [] => r

def skipFeed (s : List Char) : List Char :=
  match s with
  | '\n' :: rest => rest
  | _ => s

def readLines (quote : Char) (s : List Char) : Except Stop (List Char × List Char) := do
  let s := skipFeed s
  let r ← if quote = '\'' then readLiteral ['\'', '\'', '\''] isIllegalInLines s
    else readBasic true [] (s.length + 1) s
  return readExtraQuotes quote r

def readKeyPart (s : List Char) : Except Stop (String × List Char) :=
  match s with
  | '\'' :: rest => do
    let (cs, after) ← readLiteral ['\''] isIllegal rest
    return (String.ofList cs, after)
  | '"' :: rest => do
    let (cs, after) ← readBasic false [] (rest.length + 1) rest
    return (String.ofList cs, after)
  | c :: _ =>
    if isBareKeyChar c then
      .ok (String.ofList (s.takeWhile isBareKeyChar), s.dropWhile isBareKeyChar)
    else stopAt .invalidKeyStart s
  | [] => stopAt .invalidKeyStart s

/-- A key and the blanks after it, after the parts `done` in reverse. -/
def readKeyFrom (done : Key) : Nat → List Char → Except Stop (Key × List Char)
  | 0, s => stopAt .invalidKeyStart s
  | fuel + 1, s => do
    let (part, rest) ← readKeyPart s
    match skipInline rest with
    | '.' :: after => readKeyFrom (part :: done) fuel (skipInline after)
    | other => return ((part :: done).reverse, other)

def readKey (s : List Char) : Except Stop (Key × List Char) :=
  readKeyFrom [] (s.length + 1) s

/-- Digits with single low lines between them, the low lines left out. -/
def takeGrouped (digit : Char → Bool) : List Char → List Char × List Char
  | [] => ([], [])
  | '_' :: d :: rest =>
    if digit d then
      let (ds, after) := takeGrouped digit rest
      (d :: ds, after)
    else ([], '_' :: d :: rest)
  | c :: rest =>
    if digit c then
      let (ds, after) := takeGrouped digit rest
      (c :: ds, after)
    else ([], c :: rest)

/-- At least one digit, and more with low lines between them. -/
def readGrouped? (digit : Char → Bool) (s : List Char) : Option (List Char × List Char) :=
  match s with
  | c :: rest =>
    if digit c then
      let (ds, after) := takeGrouped digit rest
      some (c :: ds, after)
    else none
  | [] => none

def inBase (base : Nat) (ds : List Char) : Nat :=
  ds.foldl (fun n d => n * base + (hexValue? d).getD 0) 0

def readMarked? (s : List Char) : Option (Toml × List Char) :=
  let read (base : Nat) (digit : Char → Bool) (rest : List Char) :=
    (readGrouped? digit rest).map fun (ds, after) => (Toml.int (inBase base ds), after)
  match s with
  | '0' :: 'x' :: rest => read 16 (fun c => (hexValue? c).isSome) rest
  | '0' :: 'b' :: rest => read 2 (fun c => c = '0' || c = '1') rest
  | '0' :: 'o' :: rest => read 8 (fun c => '0' ≤ c && c ≤ '7') rest
  | _ => none

/-- The digits before the point: one zero, or digits that do not start with one. -/
def readWhole? (s : List Char) : Option (List Char × List Char) :=
  match s with
  | '0' :: rest => some (['0'], rest)
  | _ => readGrouped? Char.isDigit s

/-- The digits after a point, if the point is followed by one. -/
def readFraction (s : List Char) : List Char × List Char :=
  match s with
  | '.' :: rest => (readGrouped? Char.isDigit rest).getD ([], s)
  | _ => ([], s)

/-- The exponent, if its mark is followed by digits, with or without a sign. -/
def readExponent (s : List Char) : Option Int × List Char :=
  match s with
  | c :: rest =>
    if c = 'e' ∨ c = 'E' then
      let (negative, unsigned) := takeSign rest
      match readGrouped? Char.isDigit unsigned with
      | none => (none, s)
      | some (ds, after) => (some (if negative then -(ofDigits ds : Int) else ofDigits ds), after)
    else (none, s)
  | [] => (none, s)

/-- A number with or without a sign, none if none stands here. -/
def readNumber? (s : List Char) : Option (Except Stop (Toml × List Char)) :=
  match readMarked? s with
  | some r => some (.ok r)
  | none =>
    let (negative, unsigned) := takeSign s
    match readWhole? unsigned with
    | none => none
    | some (whole, rest) =>
      let (fraction, rest) := readFraction rest
      let (exponent, rest) := readExponent rest
      if fraction = [] ∧ exponent = none then
        if digitLimit < whole.length then some (.error (.longInteger whole.length))
        else some (.ok (.int (if negative then -(ofDigits whole : Int) else ofDigits whole), rest))
      else
        some (.ok (.float (.ofDecimal negative (ofDigits (whole ++ fraction))
          (exponent.getD 0 - fraction.length)), rest))

/-- Two digits that write a number from `low` to `high`. -/
def readTwo? (low high : Nat) (s : List Char) : Option (Nat × List Char) :=
  match s with
  | a :: b :: rest =>
    let n := ofDigits [a, b]
    if a.isDigit && b.isDigit && low ≤ n && n ≤ high then some (n, rest) else none
  | _ => none

def readChar? (c : Char) (s : List Char) : Option (List Char) :=
  match s with
  | d :: rest => if d = c then some rest else none
  | [] => none

/-- The microseconds after a point; digits beyond the sixth are dropped. -/
def readMicro (s : List Char) : Nat × List Char :=
  match s with
  | '.' :: rest =>
    let ds := rest.takeWhile Char.isDigit
    if ds = [] then (0, s)
    else (ofDigits ((ds ++ zeros 6).take 6), rest.dropWhile Char.isDigit)
  | _ => (0, s)

def readTime? (s : List Char) : Option (Time × List Char) := do
  let (hour, s) ← readTwo? 0 23 s
  let (minute, s) ← readTwo? 0 59 (← readChar? ':' s)
  let (second, s) ← readTwo? 0 59 (← readChar? ':' s)
  let (micro, s) := readMicro s
  return (⟨hour, minute, second, micro⟩, s)

/-- A date by its digits; whether the calendar has it is not asked. -/
def readDate? (s : List Char) : Option (Date × List Char) :=
  match s with
  | a :: b :: c :: d :: rest => do
    guard ([a, b, c, d].all Char.isDigit)
    let (month, s) ← readTwo? 1 12 (← readChar? '-' rest)
    let (day, s) ← readTwo? 1 31 (← readChar? '-' s)
    return (⟨ofDigits [a, b, c, d], month, day⟩, s)
  | _ => none

def readOffset? (s : List Char) : Option (Int × List Char) :=
  match s with
  | c :: rest =>
    if c = 'Z' ∨ c = 'z' then some (0, rest)
    else if c = '+' ∨ c = '-' then do
      let (hours, s) ← readTwo? 0 23 rest
      let (minutes, s) ← readTwo? 0 59 (← readChar? ':' s)
      let total : Int := hours * 60 + minutes
      return (if c = '-' then -total else total, s)
    else none
  | [] => none

/-- A date, with a time and an offset where they follow. -/
def readMoment? (s : List Char) : Option (Except Stop (Toml × List Char)) := do
  let (day, rest) ← readDate? s
  let clock := match rest with
    | c :: after => if c = 'T' ∨ c = 't' ∨ c = ' ' then readTime? after else none
    | [] => none
  if !day.isValid then return stopAt .invalidMoment s
  match clock with
  | none => return .ok (.date day, rest)
  | some (t, rest) =>
    match readOffset? rest with
    | none => return .ok (.dateTime ⟨day, t, none⟩, rest)
    | some (offset, rest) => return .ok (.dateTime ⟨day, t, some offset⟩, rest)

def readWord? (s : List Char) : Option (Toml × List Char) :=
  let (negative, unsigned) := takeSign s
  match unsigned with
  | 'i' :: 'n' :: 'f' :: rest => some (.float (.infinity negative), rest)
  | 'n' :: 'a' :: 'n' :: rest => some (.float .nan, rest)
  | _ => none

def readScalar (s : List Char) : Except Stop (Toml × List Char) :=
  let asText (r : Except Stop (List Char × List Char)) : Except Stop (Toml × List Char) := do
    let (cs, rest) ← r
    return (.string (String.ofList cs), rest)
  match s with
  | '"' :: '"' :: '"' :: rest => asText (readLines '"' rest)
  | '"' :: rest => asText (readBasic false [] (rest.length + 1) rest)
  | '\'' :: '\'' :: '\'' :: rest => asText (readLines '\'' rest)
  | '\'' :: rest => asText (readLiteral ['\''] isIllegal rest)
  | 't' :: 'r' :: 'u' :: 'e' :: rest => .ok (.bool true, rest)
  | 'f' :: 'a' :: 'l' :: 's' :: 'e' :: rest => .ok (.bool false, rest)
  | _ =>
    match readMoment? s with
    | some r => r
    | none => match readTime? s with
      | some (t, rest) => .ok (.time t, rest)
      | none => match readNumber? s with
        | some r => r
        | none => match readWord? s with
          | some r => .ok r
          | none => stopAt .invalidValue s

/-- A key, the equals sign, and a value read by `one`. -/
def readPair (one : List Char → Except Stop (Toml × List Char)) (s : List Char) :
    Except Stop ((Key × Toml) × List Char) := do
  let (key, rest) ← readKey s
  match rest with
  | '=' :: after =>
    let (v, rest) ← one (skipInline after)
    return ((key, v), rest)
  | other => stopAt .expectedEquals other

/-- The items of an array, after `done` in reverse. -/
def readItems (one : List Char → Except Stop (Toml × List Char)) (done : List Toml) :
    Nat → List Char → Except Stop (Toml × List Char)
  | 0, s => stopAt .unclosedArray s
  | fuel + 1, s => do
    let (v, rest) ← one s
    match ← skipFill (rest.length + 1) rest with
    | ']' :: after => return (.array (v :: done).reverse, after)
    | ',' :: after =>
      match ← skipFill (after.length + 1) after with
      | ']' :: after => return (.array (v :: done).reverse, after)
      | other => readItems one (v :: done) fuel other
    | other => stopAt .unclosedArray other

def isContainer : Toml → Bool
  | .array _ => true
  | .table _ => true
  | _ => false

/-- The entries of an inline table, after `done`, whose finished values are marked. -/
def readEntries (one : List Char → Except Stop (Toml × List Char)) (done : Entries) (marks : Marks) :
    Nat → List Char → Except Stop (Toml × List Char)
  | 0, s => stopAt .unclosedTable s
  | fuel + 1, s => do
    let ((key, v), rest) ← readPair one s
    let (parent, name) := key.split
    if marks.covers key .frozen then stopAt (.immutable key) rest
    else match done.within false some parent with
      | none => stopAt .overwritten rest
      | some _ =>
        match done.within false (Entries.bindNew name v) parent with
        | none => stopAt (.duplicateKey name) rest
        | some done =>
          match skipInline rest with
          | '}' :: after => return (.table done, after)
          | ',' :: after =>
            let marks := if isContainer v then ⟨key, .frozen, true⟩ :: marks else marks
            readEntries one done marks fuel (skipInline after)
          | other => stopAt .unclosedTable other

/-- A value at the front of the text, with containers nested at most `depth` deep. -/
def readValue : Nat → List Char → Except Stop (Toml × List Char)
  | depth, s =>
    match depth, s with
    | 0, '[' :: _ => .error .tooDeep
    | 0, '{' :: _ => .error .tooDeep
    | depth + 1, '[' :: rest => do
      match ← skipFill (rest.length + 1) rest with
      | ']' :: after => return (.array [], after)
      | inner => readItems (readValue depth) [] (inner.length + 1) inner
    | depth + 1, '{' :: rest =>
      match skipInline rest with
      | '}' :: after => .ok (.table [], after)
      | inner => readEntries (readValue depth) [] [] (inner.length + 1) inner
    | _, _ => readScalar s

def depthLimit : Nat := 480

def readAssignment (doc : Document) (s : List Char) : Except Stop (Document × List Char) := do
  let ((key, v), rest) ← readPair (readValue depthLimit) s
  let (parent, name) := key.split
  let inner := key.beginnings.map (doc.header ++ ·)
  match inner.find? (doc.marks.covers · .declared) with
  | some k => stopAt (.redefined k) rest
  | none =>
    let place := doc.header ++ parent
    if doc.marks.covers place .frozen then stopAt (.immutable place) rest
    else match doc.root.within true (Entries.bindNew name v) place with
      | none => stopAt .overwritten rest
      | some root =>
        let marks := if isContainer v then ⟨doc.header ++ key, .frozen, true⟩ :: doc.marks else doc.marks
        let pending := inner.map (⟨·, .declared, false⟩) ++ doc.pending
        return ({ doc with root, marks, pending }, rest)

def readTableHeader (doc : Document) (s : List Char) : Except Stop (Document × List Char) := do
  let (key, rest) ← readKey (skipInline s)
  if doc.marks.covers key .declared || doc.marks.covers key .frozen then
    stopAt (.declaredTwice key) rest
  else match doc.root.within true some key with
    | none => stopAt .overwritten rest
    | some root =>
      match rest with
      | ']' :: after =>
        return ({ doc with root, marks := ⟨key, .declared, false⟩ :: doc.marks, header := key }, after)
      | other => stopAt .expectedTableEnd other

def readListHeader (doc : Document) (s : List Char) : Except Stop (Document × List Char) := do
  let (key, rest) ← readKey (skipInline s)
  let (parent, name) := key.split
  if doc.marks.covers key .frozen then stopAt (.immutable key) rest
  else match doc.root.within true (Entries.appendTable name) parent with
    | none => stopAt .overwritten rest
    | some root =>
      match rest with
      | ']' :: ']' :: after =>
        let marks := ⟨key, .declared, false⟩ :: doc.marks.clear key
        return ({ doc with root, marks, header := key }, after)
      | other => stopAt .expectedListEnd other

/-- A statement, if one stands here, without what follows it on its line. -/
def readStatement (doc : Document) (s : List Char) : Except Stop (Document × List Char) :=
  let opened := { doc with marks := doc.pending ++ doc.marks, pending := [] }
  match s with
  | '[' :: '[' :: rest => readListHeader opened rest
  | '[' :: rest => readTableHeader opened rest
  | '#' :: _ => .ok (doc, s)
  | c :: _ =>
    if isBareKeyChar c || c = '"' || c = '\'' then readAssignment doc s
    else stopAt .invalidStatement s
  | [] => .ok (doc, [])

/-- The statements of the rest of a document, a line each. -/
def readStatements (doc : Document) : Nat → List Char → Except Stop Document
  | 0, _ => .ok doc
  | fuel + 1, s =>
    match skipInline s with
    | [] => .ok doc
    | '\n' :: rest => readStatements doc fuel rest
    | front => do
      let (doc, rest) ← readStatement doc front
      match ← skipComment (skipInline rest) with
      | [] => return doc
      | '\n' :: rest => readStatements doc fuel rest
      | other => stopAt .expectedLineEnd other

/-- Why a text has no value: a fault at a place, at the end of the document if there is none. -/
inductive ReadError where
  | fault (cause : Cause) (place : Option Place)
  | longInteger (digits : Nat)
  | tooDeep
  deriving DecidableEq, Repr

def Stop.locate (s : List Char) : Stop → ReadError
  | .fault cause 0 => .fault cause none
  | .fault cause left => .fault cause (some (placeAt s (s.length - left)))
  | .longInteger n => .longInteger n
  | .tooDeep => .tooDeep

def faultMessage (cause : Cause) (place : Option Place) : String :=
  cause.message ++ " (at " ++ (match place with
    | none => "end of document"
    | some p => "line " ++ toString p.line ++ ", column " ++ toString p.column) ++ ")"

def unifyFeeds : List Char → List Char
  | [] => []
  | '\r' :: '\n' :: rest => '\n' :: unifyFeeds rest
  | c :: rest => c :: unifyFeeds rest

/-- Reads a TOML document: its root table. -/
def read (source : List Char) : Except ReadError Entries :=
  let s := unifyFeeds source
  match readStatements ⟨[], [], [], []⟩ (s.length + 1) s with
  | .ok doc => .ok doc.root
  | .error e => .error (e.locate s)

end FenceCheck.Toml
