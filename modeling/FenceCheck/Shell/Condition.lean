import FenceCheck.Shell.Trouble

/-!
Conditions between double brackets. The reader of tokens is a parameter; after a condition the token
that follows it has been read.
-/
namespace FenceCheck.Shell

def isUnaryTest (w : Text) : Bool :=
  match w with
  | ['-', c] => "abcdefghkpnorstuvwxzGLOSNR".toList.contains c
  | _ => false

def isBinaryTest (w : String) : Bool :=
  ["=", "<", ">", "==", "!=", "-nt", "-ot", "-lt", "-gt", "-eq", "-ef", "-ne", "-ge", "-le"].contains w

/-- The spelling of a token in messages about conditions, where words have none. -/
def Token.operatorSpelling? : Token → Option String
  | .op s | .reserved s => some s
  | .newline => some "newline"
  | .eof => some "EOF"
  | _ => none

/-- Refuses a condition with a message about a line; the text that is at fault is told as well. -/
def refuseCondition {α : Type} (number : Nat) (message : String) : ShellM α := do
  complainAt number message
  remember fun c => { c with current := .nothing }
  refuseToken

/-- Refuses a token, which is named if it has a spelling. -/
def refuseIn {α : Type} (number : Nat) (t : Token) (named : String → String) (unnamed : String) :
    ShellM α :=
  refuseCondition number (match t.operatorSpelling? with | some s => named s | none => unnamed)

def skipLines (read : ShellM Token) : Nat → ShellM Token
  | 0 => throw .stop
  | fuel + 1 => do
    let t ← read
    if t = .newline then skipLines read fuel else return t

def refuseArgument {α : Type} (t : Token) (operator : String) : ShellM α := do
  let message := "unexpected argument"
  let number := (← get).number
  refuseIn number t (fun s => message ++ " `" ++ s ++ "' to conditional " ++ operator ++ " operator")
    (message ++ " to conditional " ++ operator ++ " operator")

/-- What joins terms of a condition: `or` binds less than `and`. -/
inductive Join where
  | or
  | and

mutual

/-- Reads a condition from its first term on; answers the token after it. -/
def readJoined (read : ShellM Token) : Nat → Join → ShellM Token
  | 0, _ => throw .stop
  | fuel + 1, .or => do
    let t ← readJoined read fuel .and
    if t = .op "||" then readJoined read fuel .or else return t
  | fuel + 1, .and => do
    let t ← readTerm read fuel
    if t = .op "&&" then readJoined read fuel .and else return t

/-- Reads a term of a condition; answers the token after it. -/
def readTerm (read : ShellM Token) : Nat → ShellM Token
  | 0 => throw .stop
  | fuel + 1 => do
    let t ← skipLines read fuel
    let number := (← get).number
    match t with
    | .op "(" =>
      let after ← readJoined read fuel .or
      if after ≠ .op ")" then
        if after = .eof then refuseAt number "unexpected token `EOF', expected `)'"
        refuseIn number after (fun s => "unexpected token `" ++ s ++ "', expected `)'") "expected `)'"
      skipLines read fuel
    | .reserved "]]" =>
      remember fun c => { c with current := .nothing }
      refuseToken
    | .reserved "!" => readTerm read fuel
    | .word "!" => readTerm read fuel
    | .word text =>
      if isUnaryTest text.toList then
        let argument ← read
        match argument with
        | .word _ => skipLines read fuel
        | _ => refuseArgument argument "unary"
      else readOperator read fuel
    | _ =>
      refuseIn number t (fun s => "unexpected token `" ++ s ++ "' in conditional command")
        "unexpected token in conditional command"

def readOperator (read : ShellM Token) : Nat → ShellM Token
  | 0 => throw .stop
  | fuel + 1 => do
    let operator ← read
    let right (pattern regexp : Bool) : ShellM Token := do
      remember fun c => { c with inPattern := pattern, inRegexp := regexp }
      let argument ← read
      remember fun c => { c with inPattern := false, inRegexp := false }
      match argument with
      | .word _ => skipLines read fuel
      | _ => refuseArgument argument "binary"
    match operator with
    | .word w =>
      if w = "=~" then right false true
      else if isBinaryTest w then right (w = "=" || w = "==" || w = "!=") false
      else refuseCondition (← get).number "conditional binary operator expected"
    | .op "<" | .op ">" => right false false
    | .reserved "]]" | .op "&&" | .op "||" | .op ")" => return operator
    | _ =>
      let number := (← get).number
      refuseIn number operator
        (fun s => "unexpected token `" ++ s ++ "', conditional binary operator expected")
        "conditional binary operator expected"

end

/-- Reads a condition and its closing brackets; `start` is the line of the opening ones. -/
def readCondition (read : ShellM Token) (start fuel : Nat) : ShellM Unit := do
  let t ← readJoined read fuel .or
  if t = .reserved "]]" then return
  if t = .eof then refuseAt start "unexpected EOF while looking for `]]'"
  refuseIn start t (fun s => "syntax error in conditional expression: unexpected token `" ++ s ++ "'")
    "syntax error in conditional expression"

end FenceCheck.Shell
