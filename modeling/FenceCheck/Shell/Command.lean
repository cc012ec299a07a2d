import FenceCheck.Shell.Lexer

/-!
The grammar of shell commands: lists, pipelines, simple and compound commands, function definitions and
redirections. Every function reads one construct; the token after it stays. The reader of tokens is a
parameter.
-/
namespace FenceCheck.Shell

def peek (read : ShellM Token) : ShellM Token := do
  match (← context).ahead with
  | some t => return t
  | none =>
    let t ← read
    remember fun c => { c with ahead := some t }
    return t

def take : ShellM Unit := remember fun c => { c with ahead := none }

def expect (read : ShellM Token) (t : Token) : ShellM Unit := do
  if (← peek read) = t then take else refuseToken

def expectWord (read : ShellM Token) : ShellM Text := do
  match ← peek read with
  | .word text =>
    take
    return text.toList
  | _ => refuseToken

def skipNewlines (read : ShellM Token) : Nat → ShellM Unit
  | 0 => throw .stop
  | fuel + 1 => do
    if (← peek read) = .newline then
      take
      skipNewlines read fuel

def Token.redirects : Token → Bool
  | .number _ | .redirectName => true
  | .op s => ["<", ">", ">>", "<<", "<<-", "<<<", "<&", ">&", "&>", "&>>", ">|", "<>"].contains s
  | _ => false

def Token.opensCompound : Token → Bool
  | .reserved s => ["for", "case", "while", "until", "select", "if", "\x7b", "[["].contains s
  | .op "(" | .arithmetic _ => true
  | _ => false

def Token.opensPipeline : Token → Bool
  | .word _ | .assignment _ => true
  | .reserved "function" | .reserved "coproc" | .reserved "!" | .reserved "time" => true
  | t => t.opensCompound || t.redirects

def unquoted : Text → Text
  | '\\' :: c :: rest => c :: unquoted rest
  | c :: rest => if c = '\'' || c = '"' then unquoted rest else c :: unquoted rest
  | [] => []

def awaitDocument (delimiter : Text) (stripsTabs : Bool) : ShellM Unit := do
  if (← context).documents.length ≥ 16 then
    refuseAt (← get).number "maximum here-document count exceeded"
  let bare := unquoted delimiter
  remember fun c => { c with documents := c.documents ++ [⟨bare, bare = delimiter, stripsTabs⟩] }

def readTarget (read : ShellM Token) (operator : String) : ShellM Unit := do
  let t ← peek read
  if (operator = "<&" || operator = ">&") && (t = .op "-" || (match t with | .number _ => true | _ => false)) then
    take
  else
    let text ← expectWord read
    if operator = "<<" then awaitDocument text false
    if operator = "<<-" then awaitDocument text true

def readRedirection (read : ShellM Token) : ShellM Unit := do
  match ← peek read with
  | .number _ | .redirectName =>
    take
    match ← peek read with
    | .op s =>
      if ["<", ">", ">>", "<<", "<<-", "<<<", "<&", ">&", ">|", "<>"].contains s then
        take
        readTarget read s
      else refuseToken
    | _ => refuseToken
  | .op s =>
    take
    readTarget read s
  | _ => refuseToken

def readRedirections (read : ShellM Token) : Nat → ShellM Unit
  | 0 => throw .stop
  | fuel + 1 => do
    if (← peek read).redirects then
      readRedirection read
      readRedirections read fuel

def readElements' (read : ShellM Token) : Nat → ShellM Unit
  | 0 => throw .stop
  | fuel + 1 => do
    match ← peek read with
    | .word _ | .assignment _ =>
      take
      remember fun c => { c with onlyRedirections := false }
      readElements' read fuel
    | t =>
      if t.redirects then
        readRedirection read
        readElements' read fuel

def readSimple (read : ShellM Token) (fuel : Nat) : ShellM Unit := do
  let t ← peek read
  if t.redirects then
    readRedirection read
    remember fun c => { c with onlyRedirections := true }
  else take
  readElements' read fuel
  remember fun c => { c with onlyRedirections := false }

def skipWords (read : ShellM Token) : Nat → ShellM Unit
  | 0 => throw .stop
  | fuel + 1 => do
    if (← peek read).isWord then
      take
      skipWords read fuel

def expectListEnd (read : ShellM Token) : ShellM Unit := do
  match ← peek read with
  | .newline | .op ";" | .eof => take
  | _ => refuseToken

/-- The three parts of a loop's header, cut at semicolons outside quotes and brackets. -/
def headerParts : Nat → Option Char → Text → Nat
  | _, _, [] => 1
  | depth, quote, '\\' :: rest =>
    match rest with
    | [] => 1
    | _ :: rest => headerParts depth quote rest
  | depth, some q, c :: rest => headerParts depth (if c = q then none else some q) rest
  | depth, none, c :: rest =>
    if c = '\'' || c = '"' || c = '`' then headerParts depth (some c) rest
    else if c = ';' && depth = 0 then headerParts depth none rest + 1
    else headerParts depth none rest

/-- Tells what is wrong with the header of a loop that begins in some line. -/
def checkHeader (number : Nat) (header : String) : ShellM Unit := do
  let parts := headerParts 0 none header.toList
  if parts ≠ 3 then
    complainAt number (if parts < 3 then "syntax error: arithmetic expression required"
      else "syntax error: `;' unexpected")
    complainAt number ("syntax error: `((" ++ header ++ "))'")
    modify fun s => { s with failed := true }

mutual

/-- Reads a list of commands that stands inside a construct; line ends may come before it. -/
def readList (read : ShellM Token) : Nat → ShellM Unit
  | 0 => throw .stop
  | fuel + 1 => do
    skipNewlines read fuel
    readPipelines read fuel

/-- Reads pipelines with what joins them; one is needed. -/
def readPipelines (read : ShellM Token) : Nat → ShellM Unit
  | 0 => throw .stop
  | fuel + 1 => do
    readPipeline read fuel
    match ← peek read with
    | .op "&&" | .op "||" =>
      take
      skipNewlines read fuel
      readPipelines read fuel
    | .op "&" | .op ";" | .newline =>
      take
      skipNewlines read fuel
      if (← peek read).opensPipeline then readPipelines read fuel
    | _ => return

def readPipeline (read : ShellM Token) : Nat → ShellM Unit
  | 0 => throw .stop
  | fuel + 1 => do
    match ← peek read with
    | .reserved "!" =>
      take
      readAfterWord read fuel
    | .reserved "time" =>
      take
      if (← peek read) = .reserved "-p" then take
      if (← peek read) = .reserved "--" then take
      readAfterWord read fuel
    | _ => readCommands read fuel

/-- Reads what follows a negation or `time`: a pipeline, or nothing before the end of a list. -/
def readAfterWord (read : ShellM Token) : Nat → ShellM Unit
  | 0 => throw .stop
  | fuel + 1 => do
    match ← peek read with
    | .newline | .op ";" | .eof => return
    | _ => readPipeline read fuel

def readCommands (read : ShellM Token) : Nat → ShellM Unit
  | 0 => throw .stop
  | fuel + 1 => do
    readCommand read fuel
    match ← peek read with
    | .op "|" | .op "|&" =>
      take
      skipNewlines read fuel
      readCommands read fuel
    | _ => return

def readCommand (read : ShellM Token) : Nat → ShellM Unit
  | 0 => throw .stop
  | fuel + 1 => do
    let t ← peek read
    match t with
    | .word _ =>
      take
      if (← peek read) = .op "(" then
        take
        expect read (.op ")")
        skipNewlines read fuel
        readBody read fuel
      else readElements' read fuel
    | .reserved "function" =>
      take
      let _ ← expectWord read
      if (← peek read) = .op "(" then
        take
        if (← peek read) = .op ")" then
          take
          skipNewlines read fuel
          readBody read fuel
        else
          readList read fuel
          expect read (.op ")")
          readRedirections read fuel
      else
        skipNewlines read fuel
        readBody read fuel
    | .reserved "coproc" =>
      take
      let next ← peek read
      if next.opensCompound then readBody read fuel
      else if next.isWord then
        take
        if (← peek read).opensCompound then readBody read fuel
        else readElements' read fuel
      else if next.redirects || (match next with | .assignment _ => true | _ => false) then
        readSimple read fuel
      else refuseToken
    | .assignment _ => readSimple read fuel
    | _ =>
      if t.redirects then readSimple read fuel
      else readBody read fuel

def readBody (read : ShellM Token) : Nat → ShellM Unit
  | 0 => throw .stop
  | fuel + 1 => do
    readCompoundCommand read fuel
    readRedirections read fuel

def readCompoundCommand (read : ShellM Token) : Nat → ShellM Unit
  | 0 => throw .stop
  | fuel + 1 => do
    match ← peek read with
    | .reserved "for" =>
      take
      match ← peek read with
      | .loopHeader header =>
        let number := (← get).number
        take
        match ← peek read with
        | .newline | .op ";" | .eof =>
          take
          skipNewlines read fuel
        | _ => pure ()
        readLoopBody read fuel
        checkHeader number header
      | _ => readNamedLoop read fuel
    | .reserved "select" =>
      take
      readNamedLoop read fuel
    | .reserved "case" =>
      take
      let _ ← expectWord read
      skipNewlines read fuel
      expect read (.reserved "in")
      readClauses read fuel
    | .reserved "while" | .reserved "until" =>
      take
      readList read fuel
      expect read (.reserved "do")
      readList read fuel
      expect read (.reserved "done")
    | .reserved "if" =>
      take
      readList read fuel
      expect read (.reserved "then")
      readList read fuel
      readAlternatives read fuel
    | .reserved "\x7b" =>
      take
      readList read fuel
      expect read (.reserved "\x7d")
    | .op "(" =>
      take
      readList read fuel
      expect read (.op ")")
    | .arithmetic _ => take
    | .reserved "[[" =>
      take
      expect read .condition
      expect read (.reserved "]]")
    | _ => refuseToken

def readAlternatives (read : ShellM Token) : Nat → ShellM Unit
  | 0 => throw .stop
  | fuel + 1 => do
    match ← peek read with
    | .reserved "elif" =>
      take
      readList read fuel
      expect read (.reserved "then")
      readList read fuel
      readAlternatives read fuel
    | .reserved "else" =>
      take
      readList read fuel
      expect read (.reserved "fi")
    | _ => expect read (.reserved "fi")

def readNamedLoop (read : ShellM Token) : Nat → ShellM Unit
  | 0 => throw .stop
  | fuel + 1 => do
    let _ ← expectWord read
    if (← peek read) = .op ";" then
      take
      skipNewlines read fuel
      readLoopBody read fuel
    else
      skipNewlines read fuel
      if (← peek read) = .reserved "in" then
        take
        skipWords read fuel
        expectListEnd read
        skipNewlines read fuel
      readLoopBody read fuel

def readLoopBody (read : ShellM Token) : Nat → ShellM Unit
  | 0 => throw .stop
  | fuel + 1 => do
    match ← peek read with
    | .reserved "do" =>
      take
      readList read fuel
      expect read (.reserved "done")
    | .reserved "\x7b" =>
      take
      readList read fuel
      expect read (.reserved "\x7d")
    | _ => refuseToken

/-- Reads the clauses of a `case` command and its end. -/
def readClauses (read : ShellM Token) : Nat → ShellM Unit
  | 0 => throw .stop
  | fuel + 1 => do
    skipNewlines read fuel
    match ← peek read with
    | .reserved "esac" => take
    | t =>
      if t = .op "(" then take
      readPatterns read fuel
      expect read (.op ")")
      skipNewlines read fuel
      if (← peek read).opensPipeline then readPipelines read fuel
      match ← peek read with
      | .op ";;" | .op ";&" | .op ";;&" =>
        take
        readClauses read fuel
      | _ => expect read (.reserved "esac")

def readPatterns (read : ShellM Token) : Nat → ShellM Unit
  | 0 => throw .stop
  | fuel + 1 => do
    let _ ← expectWord read
    if (← peek read) = .op "|" then
      take
      readPatterns read fuel

end

/-- Reads the commands of a line, and the line end. Whether the script goes on is the answer. -/
def readLine (read : ShellM Token) : Nat → ShellM Bool
  | 0 => throw .stop
  | fuel + 1 => do
    readPipeline read fuel
    match ← peek read with
    | .op "&&" | .op "||" =>
      take
      skipNewlines read fuel
      readLine read fuel
    | .op "&" | .op ";" =>
      take
      match ← peek read with
      | .newline =>
        take
        return true
      | .eof => return false
      | t => if t.opensPipeline then readLine read fuel else refuseToken
    | .newline =>
      take
      return true
    | .eof => return false
    | _ => refuseToken

end FenceCheck.Shell
