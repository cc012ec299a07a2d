import FenceCheck.Text.Lines

/-!
The input of a shell script, read line by line, and the messages written about it. A backslash at the
end of a line joins it with the next one where the reader asks for it. A text can be pushed in front of
the current line to be read again.
-/
namespace FenceCheck.Shell
open FenceCheck.Text

/-- Tokens of the shell grammar. Operators and reserved words carry their spelling. -/
inductive Token where
  | nothing
  | word (text : String)
  | assignment (text : String)
  | number (digits : String)
  | redirectName
  | arithmetic (text : String)
  | loopHeader (text : String)
  | condition
  | substitution
  | newline
  | eof
  | op (spelling : String)
  | reserved (spelling : String)
  deriving DecidableEq, Repr, Inhabited

/-- A here-document that is still to be read. -/
structure HereDocument where
  delimiter : List Char
  joins : Bool
  stripsTabs : Bool

/-- What the lexer remembers between tokens. -/
structure Context where
  current : Token := .nothing
  last : Token := .nothing
  before : Token := .nothing
  pushed : Option Token := none
  ahead : Option Token := none
  casePattern : Bool := false
  caseCommand : Bool := false
  allowBrace : Bool := false
  assignmentsOk : Bool := false
  onlyRedirections : Bool := false
  conditionNext : Bool := false
  inCondition : Bool := false
  inPattern : Bool := false
  inRegexp : Bool := false
  inCompound : Bool := false
  inSubstitution : Bool := false
  esacsNeeded : Nat := 0
  inExpected : Nat := 0
  openBraces : Nat := 0
  closer : Option Char := none
  documents : List HereDocument := []

/-- The script being read: the current line and what is left of it, the lines after it, the number of
the line, lines that a pushed text covers, everything read so far in reverse, and the messages. -/
structure Script where
  line : List Char
  rest : List Char
  more : List (List Char)
  number : Nat
  covered : List (List Char × List Char)
  seen : List Char
  ended : Bool
  silent : Bool
  failed : Bool
  messages : List String
  context : Context

/-- Why reading a command is given up. -/
inductive Halt where
  /-- Nothing more is read. -/
  | stop
  /-- Reading goes on with the next command. -/
  | discard
  deriving DecidableEq, Repr

/-- Reading with a script as state. What has been read and written stays when a command is given up. -/
abbrev ShellM := ExceptT Halt (StateM Script)

/-- The script at the start of a source. NUL characters are not seen. -/
def Script.start (source : List Char) : Script :=
  { line := [], rest := [], more := dropEmptyLast (splitAtFeeds (source.filter (· ≠ '\x00')))
    number := 0, covered := [], seen := [], ended := false, silent := false, failed := false
    messages := [], context := {} }

def remember (f : Context → Context) : ShellM Unit :=
  modify fun s => { s with context := f s.context }

def context : ShellM Context := do
  return (← get).context

def complainAt (number : Nat) (message : String) : ShellM Unit :=
  modify fun s => { s with messages := ("bash: line " ++ toString number ++ ": " ++ message) :: s.messages }

def complain (message : String) : ShellM Unit := do
  complainAt (← get).number message

/-- Makes the next line the current one; the end of the script has an empty line. -/
def Script.loadLine (s : Script) : Script :=
  match s.more with
  | [] => { s with line := [], rest := [] }
  | l :: more => { s with line := l ++ ['\n'], rest := l ++ ['\n'], more }

/-- One step towards the next character: either the character, or a script that is closer to it. -/
def Script.step (s : Script) (joinLines : Bool) : Script × Option (Option Char) :=
  match s.rest with
  | [] =>
    match s.covered with
    | (line, rest) :: covered => ({ s with line, rest, covered }, none)
    | [] =>
      let atEnd := s.more.isEmpty
      let s := { s.loadLine with number := s.number + 1 }
      (s, if atEnd then some none else none)
  | c :: rest =>
    if c = '\\' && joinLines && rest.head? = some '\n' && s.covered.isEmpty then
      let atEnd := s.more.isEmpty
      let s := { s.loadLine with number := s.number + 1 }
      (s, if atEnd then some none else none)
    else ({ s with rest, seen := c :: s.seen }, some (some c))

def Script.next (s : Script) (joinLines : Bool) : Nat → Option Char × Script
  | 0 => (none, s)
  | fuel + 1 =>
    match s.step joinLines with
    | (s, some c) => (c, s)
    | (s, none) => s.next joinLines fuel

def getChar (joinLines : Bool) : ShellM (Option Char) := do
  let s ← get
  let (c, s) := s.next joinLines (s.more.length + s.covered.length + 3)
  set s
  return c

def unget (c : Option Char) : ShellM Unit :=
  modify fun s =>
    match c with
    | some c => { s with rest := c :: s.rest, seen := s.seen.drop 1 }
    | none => s

def peekChar (joinLines : Bool) : ShellM (Option Char) := do
  let c ← getChar joinLines
  unget c
  return c

def push (text : List Char) : ShellM Unit :=
  modify fun s => { s with line := text, rest := text, covered := (s.line, s.rest) :: s.covered }

/-- Whether `s` begins with the delimiter and ends there. -/
def isDelimiterLine (delimiter s : List Char) : Bool := s = delimiter

/-- A line of a here-document: with joined lines where the document allows them. -/
def takeDocumentLine (joins : Bool) : ShellM (Option (List Char)) := do
  let s ← get
  let rec go (done : List Char) (number : Nat) : List (List Char) → Option (List Char) × List (List Char) × Nat
    | [] => (if done = [] then none else some done, [], number)
    | l :: more =>
      let slashes := (l.reverse.takeWhile (· = '\\')).length
      if joins && slashes % 2 = 1 then go (done ++ l.dropLast) (number + 1) more
      else (some (done ++ l), more, number)
  let (line, more, number) := go [] s.number s.more
  set { s with more, number }
  return line

def takeDocument (start : Nat) (d : HereDocument) : Nat → ShellM Unit
  | 0 => pure ()
  | fuel + 1 => do
    match ← takeDocumentLine d.joins with
    | none =>
      complain ("warning: here-document at line " ++ toString start
        ++ " delimited by end-of-file (wanted `" ++ String.ofList d.delimiter ++ "')")
    | some line =>
      modify fun s => { s with number := s.number + 1 }
      let stripped := if d.stripsTabs then line.dropWhile (· = '\t') else line
      if isDelimiterLine d.delimiter line || isDelimiterLine d.delimiter stripped then pure ()
      else takeDocument start d fuel

def takeDocuments : List HereDocument → ShellM Unit
  | [] => pure ()
  | d :: rest => do
    let s ← get
    takeDocument s.number d (s.more.length + 1)
    takeDocuments rest

def gatherDocuments : ShellM Unit := do
  let waiting := (← context).documents
  remember fun c => { c with documents := [] }
  takeDocuments waiting

end FenceCheck.Shell
