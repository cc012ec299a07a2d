import FenceCheck.Yaml.Token

/-!
The tokens of a YAML stream, fetched as they are asked for. A colon can turn what stands before it on
its line into a key, so the scanner remembers where simple keys may have started and puts key tokens in
front of them later; a token is given out only when it can no longer become a key.
-/
namespace FenceCheck.Yaml

/-- A place where a simple key may have started. A required one must turn out to be a key. -/
structure SimpleKey where
  number : Nat
  required : Bool
  index : Nat
  line : Nat
  column : Nat
  deriving DecidableEq, Repr

def SimpleKey.mark (k : SimpleKey) : Mark := ⟨k.line, k.column⟩

/-- The state of the scanner: its place, the tokens that wait, how many have been taken, the depth of
flow collections, the columns of block collections, and the possible simple keys by depth. -/
structure Scanner where
  cursor : Cursor
  finished : Bool
  flow : Int
  tokens : List Token
  taken : Nat
  indent : Int
  outer : List Int
  keyAllowed : Bool
  keys : List (Int × SimpleKey)

namespace Scanner

def start (text : List Char) : Scanner :=
  let m := (Cursor.start text).mark
  { cursor := .start text, finished := false, flow := 0, tokens := [⟨.streamStart, .none, m, m⟩]
    taken := 0, indent := -1, outer := [], keyAllowed := true, keys := [] }

def inFlow (s : Scanner) : Bool := s.flow ≠ 0

def column (s : Scanner) : Int := s.cursor.column

def push (s : Scanner) (t : Token) : Scanner :=
  { s with tokens := s.tokens ++ [t] }

def pushEmpty (s : Scanner) (kind : TokenKind) (m : Mark) : Scanner :=
  s.push ⟨kind, .none, m, m⟩

/-- Adds a token that ends at `after`, where the scanner goes on. -/
def pushTo (s : Scanner) (kind : TokenKind) (payload : Payload) (after : Cursor) : Scanner :=
  { s.push ⟨kind, payload, s.cursor.mark, after.mark⟩ with cursor := after }

/-- Drops the possible keys that the line or the distance has ruled out. -/
def dropStale (s : Scanner) : Except Stop Scanner :=
  let stale (k : SimpleKey) : Bool :=
    k.line ≠ s.cursor.line || 1024 < s.cursor.index - k.index
  if s.keys.any fun (_, k) => stale k && k.required then failAt .missingColon s.cursor
  else .ok { s with keys := s.keys.filter fun (_, k) => !stale k }

def dropKey (s : Scanner) : Except Stop Scanner :=
  match s.keys.lookup s.flow with
  | none => .ok s
  | some k =>
    if k.required then failAt .missingColon s.cursor
    else .ok { s with keys := s.keys.filter fun (level, _) => level ≠ s.flow }

def saveKey (s : Scanner) : Except Stop Scanner := do
  let required := !s.inFlow && s.indent = s.column
  if !s.keyAllowed then return s
  else
    let s ← s.dropKey
    let c := s.cursor
    let key : SimpleKey := ⟨s.taken + s.tokens.length, required, c.index, c.line, c.column⟩
    return { s with keys := s.keys ++ [(s.flow, key)] }

/-- Ends the block collections that stand further right than `column`. -/
def unwind (s : Scanner) (column : Int) : List Int → Scanner
  | [] => s
  | i :: rest =>
    if s.inFlow || s.indent ≤ column then s
    else unwind { s.pushEmpty .blockEnd s.cursor.mark with indent := i, outer := rest } column rest

/-- Ends the block collections down to `column`. -/
def unwindTo (s : Scanner) (column : Int) : Scanner :=
  s.unwind column s.outer

/-- A block collection that starts at `column`, if it stands further right than the current one. -/
def indentTo? (s : Scanner) (column : Int) : Option Scanner :=
  if s.indent < column then some { s with outer := s.indent :: s.outer, indent := column } else none

/-- Past blanks, comments and line ends to the next token. A line end allows a simple key in block
context. -/
def skipToToken (s : Scanner) : Nat → Scanner
  | 0 => s
  | fuel + 1 =>
    let c := s.cursor.skipSpaces.skipComment
    if isBreak c.peek then
      skipToToken { s with cursor := c.skipBreak, keyAllowed := s.keyAllowed || !s.inFlow } fuel
    else { s with cursor := c }

def fetchEnd (s : Scanner) : Except Stop Scanner := do
  let s ← (s.unwindTo (-1)).dropKey
  return { s.pushEmpty .streamEnd s.cursor.mark with keyAllowed := false, keys := [], finished := true }

def fetchDirective (s : Scanner) : Except Stop Scanner := do
  let s ← (s.unwindTo (-1)).dropKey
  let (payload, after) ← readDirective s.cursor
  return { s.pushTo .directive payload after with keyAllowed := false }

def fetchSeparator (s : Scanner) (kind : TokenKind) : Except Stop Scanner := do
  let s ← (s.unwindTo (-1)).dropKey
  return { s.pushTo kind .none (s.cursor.forward 3) with keyAllowed := false }

/-- The opening of a flow collection, which may be a simple key itself. -/
def fetchFlowStart (s : Scanner) (kind : TokenKind) : Except Stop Scanner := do
  let s ← s.saveKey
  return { s.pushTo kind .none s.cursor.next with flow := s.flow + 1, keyAllowed := true }

def fetchFlowEnd (s : Scanner) (kind : TokenKind) : Except Stop Scanner := do
  let s ← s.dropKey
  return { s.pushTo kind .none s.cursor.next with flow := s.flow - 1, keyAllowed := false }

def fetchFlowEntry (s : Scanner) : Except Stop Scanner := do
  let s ← s.dropKey
  return { s.pushTo .flowEntry .none s.cursor.next with keyAllowed := true }

/-- Starts a block collection of a kind at the current column, where one may start. -/
def openBlock (s : Scanner) (kind : TokenKind) (misplaced : Problem) : Except Stop Scanner :=
  if s.inFlow then .ok s
  else if !s.keyAllowed then failAt misplaced s.cursor
  else match s.indentTo? s.column with
    | some s => .ok (s.pushEmpty kind s.cursor.mark)
    | none => .ok s

def fetchBlockEntry (s : Scanner) : Except Stop Scanner := do
  let s ← s.openBlock .blockSequenceStart .misplacedEntry
  let s ← dropKey { s with keyAllowed := true }
  return s.pushTo .blockEntry .none s.cursor.next

def fetchKey (s : Scanner) : Except Stop Scanner := do
  let s ← s.openBlock .blockMappingStart .misplacedKey
  let s ← dropKey { s with keyAllowed := !s.inFlow }
  return s.pushTo .key .none s.cursor.next

def insertAt (s : Scanner) (number : Nat) (t : Token) : Scanner :=
  { s with tokens := s.tokens.insertIdx (number - s.taken) t }

/-- A colon before a value. A possible key at this depth has turned out to be one. -/
def fetchValue (s : Scanner) : Except Stop Scanner := do
  let s ← match s.keys.lookup s.flow with
    | some k =>
      let s := { s with keys := s.keys.filter fun (level, _) => level ≠ s.flow }
      let s := s.insertAt k.number ⟨.key, .none, k.mark, k.mark⟩
      let s := if s.inFlow then s
        else match s.indentTo? k.column with
          | some s => s.insertAt k.number ⟨.blockMappingStart, .none, k.mark, k.mark⟩
          | none => s
      pure { s with keyAllowed := false }
    | none => do
      let s ← s.openBlock .blockMappingStart .misplacedValue
      dropKey { s with keyAllowed := !s.inFlow }
  return s.pushTo .value .none s.cursor.next

/-- An anchor or an alias, which may be a simple key. -/
def fetchName (s : Scanner) (kind : TokenKind) : Except Stop Scanner := do
  let s ← s.saveKey
  let (name, after) ← readName s.cursor
  return { s.pushTo kind (.name name) after with keyAllowed := false }

def fetchTag (s : Scanner) : Except Stop Scanner := do
  let s ← s.saveKey
  let (payload, after) ← readTag s.cursor
  return { s.pushTo .tag payload after with keyAllowed := false }

def fetchBlockScalar (s : Scanner) : Except Stop Scanner := do
  let s ← dropKey { s with keyAllowed := true }
  return s.pushTo .scalar .none (← skipBlockScalar s.indent s.cursor)

def fetchQuoted (s : Scanner) (double : Bool) : Except Stop Scanner := do
  let s ← s.saveKey
  return { s.pushTo .scalar .none (← skipQuoted double s.cursor) with keyAllowed := false }

def fetchPlain (s : Scanner) : Except Stop Scanner := do
  let s ← s.saveKey
  let stop := skipPlain s.inFlow s.indent false (s.cursor.size + 1) s.cursor
  return { s.pushTo .scalar .none stop.cursor with keyAllowed := stop.atLineStart }

def startsPlain (s : Scanner) : Bool :=
  let c := s.cursor.peek
  !(isBlankOrEnd c || "-?:,[]\x7b\x7d#&*!|>'\"%@`".toList.contains c)
    || (!isBlankOrEnd (s.cursor.peekAt 1) && (c = '-' || (!s.inFlow && (c = '?' || c = ':'))))

def fetchHere (s : Scanner) : Except Stop Scanner :=
  let c := s.cursor.peek
  let blankFollows := isBlankOrEnd (s.cursor.peekAt 1)
  let atStart := s.cursor.column = 0
  if s.cursor.rest = [] then s.fetchEnd
  else if c = '%' && atStart then s.fetchDirective
  else if atStart && s.cursor.isSeparator '-' then s.fetchSeparator .documentStart
  else if atStart && s.cursor.isSeparator '.' then s.fetchSeparator .documentEnd
  else if c = '[' then s.fetchFlowStart .flowSequenceStart
  else if c = '\x7b' then s.fetchFlowStart .flowMappingStart
  else if c = ']' then s.fetchFlowEnd .flowSequenceEnd
  else if c = '\x7d' then s.fetchFlowEnd .flowMappingEnd
  else if c = ',' then s.fetchFlowEntry
  else if c = '-' && blankFollows then s.fetchBlockEntry
  else if c = '?' && (s.inFlow || blankFollows) then s.fetchKey
  else if c = ':' && (s.inFlow || blankFollows) then s.fetchValue
  else if c = '*' then s.fetchName .alias
  else if c = '&' then s.fetchName .anchor
  else if c = '!' then s.fetchTag
  else if (c = '|' || c = '>') && !s.inFlow then s.fetchBlockScalar
  else if c = '\'' then s.fetchQuoted false
  else if c = '"' then s.fetchQuoted true
  else if s.startsPlain then s.fetchPlain
  else failAt (.cannotStart c) s.cursor

/-- Fetches a token, with the block ends that its column calls for before it. -/
def fetch (s : Scanner) : Except Stop Scanner := do
  let s := if s.cursor.index = 0 && s.cursor.peek = '\uFEFF' then { s with cursor := s.cursor.next } else s
  let s ← (s.skipToToken (s.cursor.size + 1)).dropStale
  fetchHere (s.unwindTo s.column)

def firstKey? (s : Scanner) : Option Nat :=
  (s.keys.map fun (_, k) => k.number).min?

/-- Fetches tokens until the first that waits can no longer become a key. -/
def settle (s : Scanner) : Nat → Except Stop Scanner
  | 0 => .ok s
  | fuel + 1 => do
    if s.finished then return s
    else if s.tokens = [] then settle (← s.fetch) fuel
    else
      let s ← s.dropStale
      if s.firstKey? = some s.taken then settle (← s.fetch) fuel else return s

def ready (s : Scanner) : Except Stop (Token × Scanner) := do
  let s ← s.settle (s.cursor.size + 2)
  return (s.tokens.headD ⟨.streamEnd, .none, s.cursor.mark, s.cursor.mark⟩, s)

def take (s : Scanner) : Scanner :=
  { s with tokens := s.tokens.drop 1, taken := s.taken + 1 }

end Scanner
end FenceCheck.Yaml
