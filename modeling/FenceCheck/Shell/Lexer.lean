import FenceCheck.Shell.Condition

/-!
Tokens of a shell script. What a word is depends on the two tokens before it: reserved words count only
where a command may begin, and some words only after `for`, `case`, `function` or `time`.
-/
namespace FenceCheck.Shell

def Token.isWord : Token → Bool
  | .word _ => true
  | _ => false

def Token.allowsReserved : Token → Bool
  | .nothing | .newline | .arithmetic _ | .substitution => true
  | .op s => [";", "(", ")", "|", "&", "&&", "||", "|&", ";;", ";&", ";;&"].contains s
  | .reserved s =>
    ["\x7b", "\x7d", "!", "do", "done", "elif", "else", "esac", "fi", "if", "then", "time", "-p", "--", "coproc",
      "until", "while"].contains s
  | _ => false

def Context.reservedAllowed (c : Context) : Bool :=
  c.last.allowsReserved
    || (c.last.isWord && (c.before = .reserved "coproc" || c.before = .reserved "function"))

/-- Whether the word here is the first of a command, so that it may assign. -/
def Context.commandPosition (c : Context) : Bool :=
  match c.last with
  | .assignment _ => true
  | .op ";;" | .op ";&" | .op ";;&" => false
  | .word _ => c.onlyRedirections || c.reservedAllowed
  | _ => c.reservedAllowed

def Context.assignable (c : Context) : Bool := c.commandPosition && !c.casePattern

/-- Whether `time` may stand here. -/
def Context.timeAllowed (c : Context) : Bool :=
  match c.last with
  | .nothing | .newline | .op ";" => c.before ≠ .op "|"
  | .substitution => true
  | .op s => ["&&", "||", "&", "(", ")"].contains s
  | .reserved s =>
    ["while", "do", "until", "if", "then", "elif", "else", "\x7b", "!", "time", "-p", "--"].contains s
  | _ => false

def reservedWords : List String :=
  ["if", "then", "else", "elif", "fi", "case", "esac", "for", "select", "while", "until", "do", "done", "in",
    "function", "time", "\x7b", "\x7d", "!", "[[", "]]", "coproc"]

def assigningBuiltins : List String :=
  ["alias", "declare", "export", "local", "readonly", "typeset", "eval", "let"]

def specialWord (word : String) : ShellM (Option Token) := do
  let c ← context
  let expectsLess (c : Context) : Context := { c with inExpected := c.inExpected - 1 }
  let inCase (c : Context) : Context := { c with casePattern := true, esacsNeeded := c.esacsNeeded + 1 }
  let afterLoop := c.before = .reserved "for" || c.before = .reserved "select"
  let take (word : String) (f : Context → Context) : ShellM (Option Token) := do
    remember f
    return some (.reserved word)
  if word = "in" && c.last.isWord && (afterLoop || c.before = .reserved "case") then
    take word (expectsLess ∘ if c.before = .reserved "case" then inCase else id)
  else if word = "in" && c.inExpected > 0 && (c.last.isWord || c.last = .newline) then
    take word (expectsLess ∘ if c.caseCommand then inCase else id)
  else if word = "do" && c.inExpected > 0 && (c.last = .newline || c.last = .op ";") then
    take word expectsLess
  else if word = "do" && c.last.isWord && afterLoop then
    take word expectsLess
  else if word = "esac" && c.esacsNeeded > 0 && c.last = .reserved "in" then
    take word fun c => { c with esacsNeeded := c.esacsNeeded - 1, casePattern := false }
  else
    let braceAllowed := c.allowBrace
    remember fun c => { c with allowBrace := false }
    let openBrace (c : Context) : Context := { c with openBraces := c.openBraces + 1 }
    let afterHeader := match c.last with | .loopHeader _ => true | _ => false
    if braceAllowed && word = "\x7b" then take word openBrace
    else if afterHeader && word = "do" then take word id
    else if afterHeader && word = "\x7b" then take word openBrace
    else if c.openBraces > 0 && c.reservedAllowed && word = "\x7d" then
      take word fun c => { c with openBraces := c.openBraces - 1 }
    else if c.last = .reserved "time" && (word = "-p" || word = "--") then take word id
    else if c.last = .reserved "-p" && word = "--" then take word id
    else if c.inCondition && word = "]]" then take word id
    else return none

def reservedWord (word : String) : ShellM (Option Token) := do
  let c ← context
  let excluded := !c.reservedAllowed || !reservedWords.contains word
    || (c.casePattern && word ≠ "esac") || (word = "time" && !c.timeAllowed)
    || (c.casePattern && word = "esac" && (c.last = .op "|" || c.last = .op "("))
  if excluded then return none
  remember fun c =>
    match word with
    | "esac" => { c with casePattern := false, caseCommand := false, esacsNeeded := c.esacsNeeded - 1 }
    | "case" => { c with caseCommand := true }
    | "]]" => { c with conditionNext := false, inCondition := false }
    | "[[" => { c with conditionNext := true }
    | "\x7b" => { c with openBraces := c.openBraces + 1 }
    | "\x7d" => { c with openBraces := c.openBraces - 1 }
    | _ => c
  return some (.reserved word)

/-- The token that a text in front of a redirection names, if it is a name in braces. -/
def isRedirectName (word : Text) : Bool :=
  match word, word.getLast? with
  | '{' :: rest, some '}' =>
    let name := rest.dropLast
    isName name || (isName (name.takeWhile (· ≠ '[')) && name.getLast? = some ']')
  | _, _ => false

/-- The token that a word is, given the character that ended it. -/
def tokenOfWord (w : WordState) (ended : Option Char) : ShellM Token := do
  let c ← context
  let text := w.done.reverse
  let word := String.ofList text
  let redirects := ended = some '<' || ended = some '>'
  let value := word.toNat?.getD 0
  if w.digitsOnly && text ≠ [] && value < 2147483648
      && (redirects || c.last = .op "<&" || c.last = .op ">&") then
    return .number word
  if let some t := ← specialWord word then return t
  if !w.dollar && !w.quoted then
    if let some t := ← reservedWord word then return t
  let c ← context
  let isAssignment := (c.assignable || c.inCompound) && assigns c.inCompound text
  if c.commandPosition && assigningBuiltins.contains word then
    remember fun c => { c with assignmentsOk := true }
  if redirects && isRedirectName text then return .redirectName
  remember fun k =>
    match c.last with
    | .reserved "function" => { k with allowBrace := true }
    | .reserved "case" | .reserved "select" | .reserved "for" => { k with inExpected := k.inExpected + 1 }
    | _ => k
  return if isAssignment then .assignment word else .word word

def skipBlanks : Nat → ShellM (Option Char)
  | 0 => throw .stop
  | fuel + 1 => do
    match ← getChar true with
    | some ' ' => skipBlanks fuel
    | some '\t' => skipBlanks fuel
    | c => return c

def skipComment : Nat → ShellM Unit
  | 0 => throw .stop
  | fuel + 1 => do
    match ← getChar false with
    | some '\n' => return
    | none => return
    | some _ => skipComment fuel

def operatorAfter (c d : Char) : ShellM (Option String) := do
  let onThird (options : List (Char × String)) (otherwise : String) : ShellM (Option String) := do
    let third ← getChar true
    match third.bind fun e => options.lookup e with
    | some s => return some s
    | none =>
      unget third
      return some otherwise
  let beginsPattern : ShellM Unit := remember fun c => { c with casePattern := true }
  match c, d with
  | '<', '<' => onThird [('-', "<<-"), ('<', "<<<")] "<<"
  | '>', '>' => return some ">>"
  | ';', ';' =>
    beginsPattern
    onThird [('&', ";;&")] ";;"
  | '&', '&' => return some "&&"
  | '|', '|' => return some "||"
  | '<', '&' => return some "<&"
  | '>', '&' => return some ">&"
  | '<', '>' => return some "<>"
  | '>', '|' => return some ">|"
  | '&', '>' => onThird [('>', "&>>")] "&>"
  | '|', '&' => return some "|&"
  | ';', '&' =>
    beginsPattern
    return some ";&"
  | _, _ => return none

/-- What two opening parentheses begin: arithmetic, the header of a loop, or just two groups. -/
def readDoubleParens (substitution : ShellM Text) (fuel : Nat) : ShellM (Option Token) := do
  let c ← context
  let isLoop := c.last = .reserved "for"
  if !isLoop && !c.reservedAllowed then
    return none
  let text ← takePair substitution fuel Pair.arithmeticParens
  let after ← getChar false
  let inner := text.dropLast
  if after = some ')' then
    return some (if isLoop then .loopHeader (String.ofList inner) else .arithmetic (String.ofList inner))
  else if isLoop then throw .stop
  else
    push ('(' :: text ++ after.toList)
    return some (.op "(")

mutual

def readToken (substitution : ShellM Text) : Nat → ShellM Token
  | 0 => throw .stop
  | fuel + 1 => do
    let c ← context
    if let some t := c.pushed then
      remember fun c => { c with pushed := none }
      return t
    if c.conditionNext && !c.inCondition then
      remember fun c => { c with inCondition := true }
      readCondition (readToken substitution fuel) (← get).number fuel
      remember fun c => { c with pushed := some (.reserved "]]"), inCondition := false, conditionNext := false }
      return .condition
    let first ← skipBlanks fuel
    let endLine : ShellM Token := do
      gatherDocuments
      remember fun c => { c with assignmentsOk := false }
      return .newline
    let word : ShellM Token := do
      let (w, ended) ← readWord substitution (readCompound substitution fuel) c.assignable fuel {} first
      tokenOfWord w ended
    match first with
    | none => return .eof
    | some '#' =>
      skipComment fuel
      endLine
    | some '\n' => endLine
    | some d =>
      if !c.inRegexp && isOperator d then
        remember fun c => { c with assignmentsOk := false }
        let after ← getChar (!(c.inSubstitution && c.closer = some d))
        let two ← match after with
          | some e => operatorAfter d e
          | none => pure none
        if let some s := two then return .op s
        if d = '(' && after = some '(' then
          if let some t := ← readDoubleParens substitution fuel then return t
        unget after
        if d = ')' && c.last = .op "(" && c.before.isWord then
          remember fun c => { c with allowBrace := true }
        if c.casePattern && d = ')' then
          remember fun c => { c with casePattern := false }
        if (d = '<' || d = '>') && after = some '(' then word
        else return .op d.toString
      else if d = '-' && (c.last = .op "<&" || c.last = .op ">&") then return .op "-"
      else word

def readCompound (substitution : ShellM Text) : Nat → ShellM Text
  | 0 => throw .stop
  | fuel + 1 => do
    let s ← get
    let outer := s.context
    let start := s.seen.length
    remember fun c => { c with last := .word "", inCompound := true, esacsNeeded := 0, inExpected := 0 }
    readElements substitution s.number fuel
    remember fun _ => outer
    let s ← get
    return (s.seen.take (s.seen.length - start)).reverse

def readElements (substitution : ShellM Text) (start : Nat) : Nat → ShellM Unit
  | 0 => throw .stop
  | fuel + 1 => do
    let t ← readToken substitution fuel
    match t with
    | .op ")" => return
    | .newline | .word _ | .assignment _ => readElements substitution start fuel
    | .eof =>
      complainAt start "unexpected EOF while looking for matching `)'"
      modify fun s => { s with failed := true }
      throw .discard
    | _ =>
      remember fun c => { c with current := t }
      let given ← get
      let (_, s) := ((refuseToken : ShellM Unit).run given).run
      set s
      throw .discard

end

def lex (substitution : ShellM Text) (fuel : Nat) : ShellM Token := do
  remember fun c => { c with before := c.last, last := c.current }
  let t ← readToken substitution fuel
  remember fun c => { c with current := t }
  return t

end FenceCheck.Shell
