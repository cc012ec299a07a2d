import FenceCheck.Number.Reading
import FenceCheck.Text.Hex
import FenceCheck.Yaml.Problem

/-!
Tokens of YAML streams, one reader for each kind that takes more than its indicator. Only what the
structure of a stream depends on is kept of a token: names of anchors and aliases, handles of tags, and
the content of directives. The text of scalars is passed over.
-/
namespace FenceCheck.Yaml
open FenceCheck.Text

/-- What a token says beside its kind. -/
inductive Payload where
  | none
  | name (s : String)
  | version (major : Nat)
  | handle (s : String)
  /-- A tag without a handle. -/
  | bare
  deriving DecidableEq, Repr

/-- A token with its first and last place. -/
structure Token where
  kind : TokenKind
  payload : Payload
  first : Mark
  last : Mark
  deriving DecidableEq, Repr

def failAt {α : Type} (p : Problem) (c : Cursor) : Except Stop α :=
  .error (.problem p c.mark)

def isHex (c : Char) : Bool :=
  (hexValue? c).isSome

def readWord (c : Cursor) : Except Stop (String × Cursor) :=
  let n := c.span isWordChar
  if n = 0 then failAt (.expectedWord c.peek) c
  else .ok (String.ofList (c.ahead n), c.forward n)

def readName (c : Cursor) : Except Stop (String × Cursor) := do
  let (name, c) ← readWord c.next
  if isBlankOrEnd c.peek || "?:,]\x7d%@`".toList.contains c.peek then return (name, c)
  else failAt (.expectedWord c.peek) c

def readHandle (c : Cursor) : Except Stop (String × Cursor) :=
  if c.peek ≠ '!' then failAt (.expectedMark c.peek) c
  else if c.peekAt 1 = ' ' then .ok ("!", c.next)
  else
    let n := 1 + c.next.span isWordChar
    if c.peekAt n ≠ '!' then failAt (.expectedMark (c.peekAt n)) (c.forward n)
    else .ok (String.ofList (c.ahead (n + 1)), c.forward (n + 1))

def isUriChar (c : Char) : Bool :=
  c.isAlphanum || "-;/?:@&=+$,_.!~*'()[]".toList.contains c

/-- The bytes of escapes in a row, after `done` in reverse. -/
def readUriBytes (done : List UInt8) : Nat → Cursor → Except Stop (List UInt8 × Cursor)
  | 0, c => .ok (done.reverse, c)
  | fuel + 1, c =>
    if c.peek ≠ '%' then .ok (done.reverse, c)
    else
      let c := c.next
      match hexValue? c.peek, hexValue? (c.peekAt 1) with
      | some a, some b => readUriBytes (UInt8.ofNat (a * 16 + b) :: done) fuel (c.forward 2)
      | none, _ => failAt (.expectedUriEscape c.peek) c
      | _, none => failAt (.expectedUriEscape (c.peekAt 1)) c

/-- The characters of a tag; `any` says that there have been some. -/
def skipUri (any : Bool) : Nat → Cursor → Except Stop Cursor
  | 0, c => .ok c
  | fuel + 1, c => do
    let after := c.skipWhile isUriChar
    if after.peek = '%' then
      let (bytes, next) ← readUriBytes [] (after.size + 1) after
      match Utf8.decode bytes with
      | .ok _ => skipUri true fuel next
      | .error e => failAt (.badUriBytes e) after
    else if any || after.index ≠ c.index then return after
    else failAt (.expectedUri c.peek) c

def readTag (c : Cursor) : Except Stop (Payload × Cursor) := do
  let fuel := c.size + 1
  let second := c.peekAt 1
  let (payload, after) ←
    if second = '<' then do
      let inner ← skipUri false fuel (c.forward 2)
      if inner.peek ≠ '>' then failAt (.expectedTagEnd inner.peek) inner
      else pure (Payload.bare, inner.next)
    else if isBlankOrEnd second then pure (Payload.bare, c.next)
    else if ((c.rest.drop 1).takeWhile (!isSpaceOrEnd ·)).contains '!' then do
      let (handle, inner) ← readHandle c
      pure (Payload.handle handle, ← skipUri false fuel inner)
    else do
      pure (Payload.handle "!", ← skipUri false fuel c.next)
  if isSpaceOrEnd after.peek then return (payload, after)
  else failAt (.expectedSpace after.peek) after

def readVersionPart (c : Cursor) : Except Stop (Nat × Cursor) :=
  let n := c.span Char.isDigit
  if n = 0 then failAt (.expectedDigit c.peek) c
  else if Number.digitLimit < n then .error (.longNumeral n)
  else .ok (Number.ofDigits (c.ahead n), c.forward n)

/-- The number of a version directive, of which the major part counts. -/
def readVersion (c : Cursor) : Except Stop (Nat × Cursor) := do
  let (major, c) ← readVersionPart c.skipSpaces
  if c.peek ≠ '.' then failAt (.expectedDigitOrDot c.peek) c
  else
    let (_, c) ← readVersionPart c.next
    if isSpaceOrEnd c.peek then return (major, c)
    else failAt (.expectedDigitOrSpace c.peek) c

/-- The handle of a tag directive, whose prefix is passed over. -/
def readTagDirective (c : Cursor) : Except Stop (String × Cursor) := do
  let (handle, c) ← readHandle c.skipSpaces
  if c.peek ≠ ' ' then failAt (.expectedSpace c.peek) c
  else
    let c ← skipUri false (c.size + 1) c.skipSpaces
    if isSpaceOrEnd c.peek then return (handle, c)
    else failAt (.expectedSpace c.peek) c

/-- The rest of a line that may hold a comment only, and its end. -/
def skipLineRest (c : Cursor) : Except Stop Cursor :=
  let c := c.skipSpaces.skipComment
  if isBreakOrEnd c.peek then .ok c.skipBreak else failAt (.expectedCommentOrBreak c.peek) c

def readDirective (c : Cursor) : Except Stop (Payload × Cursor) := do
  let (name, c) ← readWord c.next
  if !isSpaceOrEnd c.peek then failAt (.expectedWord c.peek) c
  else if name = "YAML" then
    let (major, c) ← readVersion c
    return (.version major, ← skipLineRest c)
  else if name = "TAG" then
    let (handle, c) ← readTagDirective c
    return (.handle handle, ← skipLineRest c)
  else return (.none, ← skipLineRest (c.skipWhile (!isBreakOrEnd ·)))

def skipQuotedBreaks : Nat → Cursor → Except Stop Cursor
  | 0, c => .ok c
  | fuel + 1, c =>
    if c.isAnySeparator then failAt .separatorInQuotes c
    else
      let c := c.skipWhile fun x => x = ' ' || x = '\t'
      if isBreak c.peek then skipQuotedBreaks fuel c.skipBreak else .ok c

def escapeWidth? : Char → Option Nat
  | 'x' => some 2
  | 'u' => some 4
  | 'U' => some 8
  | _ => none

def isEscapeLetter (c : Char) : Bool :=
  "0abt\tnvfre \"\\/N_LP".toList.contains c

def skipEscape (c : Cursor) : Except Stop Cursor :=
  if isEscapeLetter c.peek then .ok c.next
  else match escapeWidth? c.peek with
    | some width =>
      let c := c.next
      let n := min width (c.span isHex)
      if n < width then failAt (.expectedHex width (c.peekAt n)) c
      else
        let code := (hexNumber? (c.ahead width)).getD 0
        if code < 0x110000 then .ok (c.forward width)
        else if code < 0x80000000 then .error .beyondUnicode
        else .error .beyondWords
    | none =>
      if isBreak c.peek then skipQuotedBreaks (c.size + 1) c.skipBreak
      else failAt (.unknownEscape c.peek) c

/-- Past text inside quotes up to a blank, a line end, the end of the stream or the closing quote. -/
def skipQuotedText (double : Bool) : Nat → Cursor → Except Stop Cursor
  | 0, c => .ok c
  | fuel + 1, c => do
    let c := c.skipWhile fun x => !(isBlankOrEnd x || x = '\'' || x = '"' || x = '\\')
    if !double && c.peek = '\'' && c.peekAt 1 = '\'' then skipQuotedText double fuel (c.forward 2)
    else if (double && c.peek = '\'') || (!double && (c.peek = '"' || c.peek = '\\')) then
      skipQuotedText double fuel c.next
    else if double && c.peek = '\\' then skipQuotedText double fuel (← skipEscape c.next)
    else return c

/-- Past blanks inside quotes, and the line ends that follow them. -/
def skipQuotedSpaces (c : Cursor) : Except Stop Cursor :=
  let c := c.skipWhile fun x => x = ' ' || x = '\t'
  if c.peek = endMark then failAt .endInQuotes c
  else if isBreak c.peek then skipQuotedBreaks (c.size + 1) c.skipBreak
  else .ok c

def skipQuotedRest (double : Bool) : Nat → Cursor → Except Stop Cursor
  | 0, c => .ok c
  | fuel + 1, c => do
    let c ← skipQuotedText double (c.size + 1) c
    if c.peek = (if double then '"' else '\'') then return c.next
    else skipQuotedRest double fuel (← skipQuotedSpaces c)

def skipQuoted (double : Bool) (c : Cursor) : Except Stop Cursor :=
  skipQuotedRest double (c.size + 2) c.next

/-- The indentation that a digit asks for, and the place after it. -/
def readIndentDigit (c : Cursor) : Except Stop (Option Nat × Cursor) :=
  if c.peek = '0' then failAt .zeroIndent c
  else if c.peek.isDigit then .ok (some (c.peek.toNat - 48), c.next)
  else .ok (none, c)

/-- The indicators after the sign of a block scalar: the indentation asked for. -/
def readBlockIndicators (c : Cursor) : Except Stop (Option Nat × Cursor) := do
  let isChomp (x : Char) := x = '+' || x = '-'
  let (indent, c) ←
    if isChomp c.peek then readIndentDigit c.next
    else do
      let (indent, after) ← readIndentDigit c
      pure (indent, if indent.isSome && isChomp after.peek then after.next else after)
  if isSpaceOrEnd c.peek then return (indent, c)
  else failAt (.expectedIndicators c.peek) c

/-- Past empty lines at the start of a block scalar, with the widest indentation seen. -/
def skipLeadingLines (widest : Nat) : Nat → Cursor → Nat × Cursor
  | 0, c => (widest, c)
  | fuel + 1, c =>
    if c.peek = ' ' then
      let c := c.next
      skipLeadingLines (max widest c.column) fuel c
    else if isBreak c.peek then skipLeadingLines widest fuel c.skipBreak
    else (widest, c)

def skipToColumn (column : Nat) (c : Cursor) : Cursor :=
  c.forward (min (column - c.column) (c.span (· = ' ')))

def skipBlockBreaks (column : Nat) : Nat → Cursor → Cursor
  | 0, c => c
  | fuel + 1, c =>
    let c := skipToColumn column c
    if isBreak c.peek then skipBlockBreaks column fuel c.skipBreak else c

def skipBlockLines (column : Nat) : Nat → Cursor → Cursor
  | 0, c => c
  | fuel + 1, c =>
    if c.column = column ∧ c.peek ≠ endMark then
      let after := (c.skipWhile (!isBreakOrEnd ·)).skipBreak
      skipBlockLines column fuel (skipBlockBreaks column (after.size + 1) after)
    else c

/-- A block scalar inside the indentation `indent`. -/
def skipBlockScalar (indent : Int) (c : Cursor) : Except Stop Cursor := do
  let (asked, c) ← readBlockIndicators c.next
  let c ← skipLineRest c
  let least := (max (indent + 1) 1).toNat
  let fuel := c.size + 1
  let (column, c) := match asked with
    | none =>
      let (widest, c) := skipLeadingLines 0 fuel c
      (max least widest, c)
    | some n => (least + n - 1, skipBlockBreaks (least + n - 1) fuel c)
  return skipBlockLines column fuel c

/-- What passing over a plain scalar tells: the place after it, and whether it ended at the start of a
line, where a key may stand. -/
structure PlainEnd where
  cursor : Cursor
  atLineStart : Bool

/-- Past the line ends between two lines of a plain scalar; none where documents are separated. -/
def skipPlainBreaks : Nat → Cursor → Option Unit × Cursor
  | 0, c => (some (), c)
  | fuel + 1, c =>
    if c.peek = ' ' then skipPlainBreaks fuel c.next
    else if isBreak c.peek then
      let c := c.skipBreak
      if c.isAnySeparator then (none, c) else skipPlainBreaks fuel c
    else (some (), c)

/-- Whether a plain scalar stops at `x`, which `y` follows. -/
def stopsPlain (inFlow : Bool) (x y : Char) : Bool :=
  isBlankOrEnd x || (x = ':' && (isBlankOrEnd y || (inFlow && ",[]\x7b\x7d".toList.contains y)))
    || (inFlow && ",?[]\x7b\x7d".toList.contains x)

def plainLength (inFlow : Bool) : List Char → Nat
  | [] => 0
  | x :: rest => if stopsPlain inFlow x (rest.headD endMark) then 0 else plainLength inFlow rest + 1

/-- A plain scalar inside the indentation `indent`, line by line. -/
def skipPlain (inFlow : Bool) (indent : Int) (atLineStart : Bool) : Nat → Cursor → PlainEnd
  | 0, c => ⟨c, atLineStart⟩
  | fuel + 1, c =>
    let n := if c.peek = '#' then 0 else plainLength inFlow c.rest
    if n = 0 then ⟨c, atLineStart⟩
    else
      let text := c.forward n
      let spaced := text.skipSpaces
      if isBreak spaced.peek then
        let broken := spaced.skipBreak
        if broken.isAnySeparator then ⟨broken, true⟩
        else match skipPlainBreaks (broken.size + 1) broken with
          | (none, c) => ⟨c, true⟩
          | (some (), c) =>
            if c.peek = '#' || (!inFlow && c.column < indent + 1) then ⟨c, true⟩
            else skipPlain inFlow indent true fuel c
      else if spaced.index = text.index then ⟨spaced, false⟩
      else if spaced.peek = '#' || (!inFlow && spaced.column < indent + 1) then ⟨spaced, false⟩
      else skipPlain inFlow indent false fuel spaced

end FenceCheck.Yaml
