import FenceCheck.Shell.Input

/-!
Words of a shell script: quotes, braces, brackets and parentheses that belong together, and the
expansions between them. The reader of command substitutions is a parameter, since it needs the whole
grammar.
-/
namespace FenceCheck.Shell

abbrev Text := List Char

def refuseAt {α : Type} (number : Nat) (message : String) : ShellM α := do
  complainAt number message
  modify fun s => { s with failed := true }
  throw .stop

/-- A construct that ends with a closing character, and what is special in it. -/
structure Pair where
  opening : Char
  closing : Char
  /-- The quote that the construct is. -/
  quote : Option Char := none
  escapes : Bool := false
  doubleQuoted : Bool := false
  subscript : Bool := false
  brace : Bool := false
  arithmetic : Bool := false
  firstClose : Bool := false

namespace Pair

def quoted (c : Char) : Pair := { opening := c, closing := c, quote := some c }

def escaped (c : Char) : Pair := { quoted c with escapes := true }

def parameter : Pair := { opening := '{', closing := '}', firstClose := true, brace := true }

def bracket : Pair := { opening := '[', closing := ']', arithmetic := true }

def index : Pair := { opening := '[', closing := ']', subscript := true }

def arithmeticParens : Pair := { opening := '(', closing := ')', arithmetic := true }

def pattern : Pair := { opening := '(', closing := ')' }

/-- The same construct inside another one, which may stand in double quotes. -/
def inside (inner outer : Pair) : Pair :=
  { inner with doubleQuoted := outer.quote = some '"' || outer.doubleQuoted }

end Pair

/-- What has been read of a construct. -/
structure PairState where
  depth : Nat := 1
  done : Text := []
  escaped : Bool := false
  dollar : Bool := false
  angle : Bool := false

def isMarked (c : Char) : Bool := c = '\x01' || c = '\x7f'

def isQuote (c : Char) : Bool := c = '\'' || c = '"' || c = '`'

def PairState.depthAfter (p : Pair) (s : PairState) (c : Char) : Nat :=
  if c = p.closing then s.depth - 1
  else if c = p.opening && (!p.firstClose || (p.opening = '{' && s.dollar)) then s.depth + 1
  else s.depth

/-- The construct that begins inside another one with a character, if one does. -/
inductive Nested where
  | pair (p : Pair)
  | parens
  | nothing

/-- What the character `c` begins inside the construct `p`. -/
def nestedAt (p : Pair) (s : PairState) (c : Char) : Nested :=
  let opener : Nested :=
    if c = '(' then .parens
    else if c = '{' then .pair (Pair.parameter.inside p)
    else .pair (Pair.bracket.inside p)
  let isOpener := c = '(' || c = '{' || c = '['
  if p.opening ≠ p.closing then
    if isQuote c then
      .pair ((if s.dollar && c = '\'' then Pair.escaped c else Pair.quoted c).inside p)
    else if (p.subscript || p.brace) && s.dollar && isOpener then opener
    else if p.arithmetic && s.dollar && c = '(' then .parens
    else if (p.subscript || p.brace) && s.angle && c = '(' then .parens
    else .nothing
  else if p.opening = '"' && c = '`' then .pair ({ opening := '`', closing := '`' : Pair }.inside p)
  else if p.opening ≠ '`' && s.dollar && isOpener then opener
  else .nothing

/-- Reads a construct up to its closing character, which is part of the result. -/
def readPair (substitution : ShellM Text) (start : Nat) : Nat → Pair → PairState → ShellM Text
  | 0, _, _ => throw .stop
  | fuel + 1, p, s => do
    let some c ← getChar (p.quote ≠ some '\'' && !s.escaped)
      | refuseAt start ("unexpected EOF while looking for matching `" ++ p.closing.toString ++ "'")
    if s.escaped then
      if p.quote ≠ some '\'' && c = '\n' then
        readPair substitution start fuel p { s with escaped := false, done := s.done.drop 1 }
      else
        let done := if c = '\x01' then c :: '\x01' :: s.done else c :: s.done
        readPair substitution start fuel p { s with escaped := false, done }
    else if isMarked c then
      readPair substitution start fuel p { s with done := c :: '\x01' :: s.done }
    else
      let depth := s.depthAfter p c
      let done := c :: s.done
      if depth = 0 then return done.reverse
      if p.opening = '\'' then
        readPair substitution start fuel p { s with depth, done, escaped := p.escapes && c = '\\' }
      else
        let after : PairState :=
          { depth, done, escaped := c = '\\', dollar := c = '$' && !s.dollar
            angle := (c = '<' || c = '>') && !s.angle }
        let number := (← get).number
        match nestedAt p s c with
        | .nothing => readPair substitution start fuel p after
        | .pair inner =>
          let depth := if c = p.opening then depth - 1 else depth
          let text ← readPair substitution number fuel inner {}
          readPair substitution start fuel p { after with depth, done := text.reverse ++ done }
        | .parens =>
          let depth := if c = p.opening then depth - 1 else depth
          let text ← if (← peekChar true) = some '(' then
              readPair substitution number fuel Pair.arithmeticParens {}
            else substitution
          readPair substitution start fuel p { after with depth, done := text.reverse ++ done }

def takePair (substitution : ShellM Text) (fuel : Nat) (p : Pair) : ShellM Text := do
  readPair substitution (← get).number fuel p {}

/-- Reads what a parenthesis after a dollar sign opens: arithmetic or a command. -/
def takeParens (substitution : ShellM Text) (fuel : Nat) : ShellM Text := do
  if (← peekChar true) = some '(' then takePair substitution fuel Pair.arithmeticParens
  else substitution

/-- What has been read of a word. -/
structure WordState where
  done : Text := []
  digitsOnly : Bool := true
  dollar : Bool := false
  quoted : Bool := false
  keepNext : Bool := false

def isBreak (c : Char) : Bool := " \t\n()<>;&|".toList.contains c

def isOperator (c : Char) : Bool := "()<>;&|".toList.contains c

def isNameStart (c : Char) : Bool := c.isAlpha || c = '_'

def isNameChar (c : Char) : Bool := c.isAlphanum || c = '_'

def isName : Text → Bool
  | [] => false
  | c :: rest => isNameStart c && rest.all isNameChar

def afterSubscript : Nat → Text → Option Text
  | _, [] => none
  | depth, '\\' :: rest => afterSubscript depth (rest.drop 1)
  | depth, '[' :: rest => afterSubscript (depth + 1) rest
  | 0, ']' :: rest => some rest
  | depth + 1, ']' :: rest => afterSubscript depth rest
  | depth, _ :: rest => afterSubscript depth rest
  termination_by _ s => s.length
  decreasing_by all_goals simp_wf; try omega

def startsAssignment : Text → Bool
  | '=' :: _ => true
  | '+' :: '=' :: _ => true
  | _ => false

/-- Whether the rest of a word, after the start of a name, assigns. -/
def assignsAfterName : Text → Bool
  | [] => false
  | '=' :: _ => true
  | '+' :: '=' :: _ => true
  | '[' :: rest => ((afterSubscript 0 rest).map startsAssignment).getD false
  | c :: rest => isNameChar c && assignsAfterName rest

/-- Whether a word assigns to a variable, or to an element where `elements` are allowed. -/
def assigns (elements : Bool) : Text → Bool
  | [] => false
  | c :: rest =>
    if isNameStart c then assignsAfterName rest
    else if elements && c = '[' then ((afterSubscript 0 rest).map startsAssignment).getD false
    else false

/-- Reads a word from its first character on; answers the character that ends it. The circumstances say
whether an assignment may stand here. -/
def readWord (substitution compound : ShellM Text) (assignable : Bool) :
    Nat → WordState → Option Char → ShellM (WordState × Option Char)
  | 0, _, _ => throw .stop
  | _ + 1, w, none => return (w, none)
  | fuel + 1, w, some c => do
    let k ← context
    let plain (w : WordState) : ShellM (WordState × Option Char) := do
      let done := if isMarked c && !w.keepNext then c :: '\x01' :: w.done else c :: w.done
      let keepNext := c = '\\' && !w.keepNext
      let w := { w with done, keepNext, digitsOnly := w.digitsOnly && c.isDigit, dollar := w.dollar || c = '$' }
      readWord substitution compound assignable fuel w (← getChar (!keepNext))
    let piece (text : Text) (quoted dollar : Bool) : ShellM (WordState × Option Char) := do
      let w := { w with done := text.reverse ++ c :: w.done, digitsOnly := false
                        quoted := w.quoted || quoted, dollar := w.dollar || dollar }
      readWord substitution compound assignable fuel w (← getChar true)
    if w.keepNext then plain w
    else if c = '\\' then
      if k.inSubstitution then plain { w with quoted := true }
      else
        let after ← getChar false
        if after = some '\n' then
          readWord substitution compound assignable fuel w (← getChar true)
        else
          unget after
          plain { w with quoted := true }
    else if isQuote c then
      let text ← takePair substitution fuel (Pair.quoted c)
      piece text (c ≠ '`') (c = '"' && text.contains '$')
    else if k.inRegexp && (c = '(' || c = '|') then
      if c = '|' then plain w
      else piece (← takePair substitution fuel Pair.pattern) false false
    else
      let after ← if (k.inPattern && "@*+?!".toList.contains c) || c = '$' || c = '<' || c = '>' then
          getChar true
        else pure none
      if k.inPattern && "@*+?!".toList.contains c && after = some '(' then
        piece ('(' :: (← takePair substitution fuel Pair.pattern)) false false
      else if (c = '$' || c = '<' || c = '>') && after = some '(' then
        piece ('(' :: (← takeParens substitution fuel)) false true
      else if c = '$' && after = some '{' then
        piece ('{' :: (← takePair substitution fuel Pair.parameter)) false true
      else if c = '$' && after = some '[' then
        piece ('[' :: (← takePair substitution fuel Pair.bracket)) false true
      else if c = '$' && (after = some '\'' || after = some '"') then
        let quote := if after = some '"' then '"' else '\''
        let text ← takePair substitution fuel
          (if quote = '\'' then Pair.escaped quote else Pair.quoted quote)
        let w := { w with done := text.reverse ++ quote :: w.done, digitsOnly := false, quoted := true }
        readWord substitution compound assignable fuel w (← getChar true)
      else if c = '$' && after = some '$' then piece ['$'] false true
      else
        unget after
        let before := w.done.reverse
        let mayAssign := c = '=' && before ≠ [] && (assignable || k.assignmentsOk)
          && assigns k.inCompound (before ++ ['='])
        let next ← if mayAssign then peekChar true else pure none
        if c = '[' && ((assignable && isName before) || (before = [] && k.inCompound)) then
          piece (← takePair substitution fuel Pair.index) false false
        else if next = some '(' then
          let _ ← getChar true
          piece ('(' :: (← compound)) false false
        else if isBreak c then
          unget (some c)
          return (w, some c)
        else plain w

end FenceCheck.Shell
