import FenceCheck.Shell.Command
import FenceCheck.Text.Blank

/-!
A shell script is read command by command. Only its form is checked; what is said about it is what a
shell would write that reads the script without running it.
-/
namespace FenceCheck.Shell

/-- Reads a command substitution up to its closing parenthesis, within a depth of nesting and a number
of steps. -/
def readSubstitution (fuel : Nat) : Nat → ShellM Text
  | 0 => throw .stop
  | depth + 1 => do
    let s ← get
    let outer := s.context
    let start := s.seen.length
    remember fun c =>
      { c with
        current := .substitution, pushed := none, ahead := none, conditionNext := false, inCondition := false
        inPattern := false, inRegexp := false, inCompound := false, casePattern := false
        onlyRedirections := false, inSubstitution := true, esacsNeeded := 0, inExpected := 0
        closer := some ')', documents := [] }
    let read := lex (readSubstitution fuel depth) fuel
    skipNewlines read fuel
    if (← peek read) ≠ .op ")" then readPipelines read fuel
    expect read (.op ")")
    let waiting := (← context).documents.length
    if waiting > 0 then
      complain ("warning: command substitution: " ++ toString waiting ++ " unterminated here-document"
        ++ (if waiting = 1 then "" else "s"))
    remember fun _ => outer
    let s ← get
    return (s.seen.take (s.seen.length - start)).reverse

def recover : ShellM Unit :=
  modify fun s => { s with line := [], rest := [], covered := [], context := { current := .newline, last := .newline } }

/-- Reads a line of commands, which may be empty. Whether the script goes on is the answer. -/
def readInput (read : ShellM Token) (fuel : Nat) : ShellM Bool := do
  match ← peek read with
  | .eof => return false
  | .newline =>
    take
    return true
  | _ => readLine read fuel

def readScript (read : ShellM Token) (fuel : Nat) : Nat → ShellM Unit
  | 0 => return
  | commands + 1 => do
    let given ← get
    let (result, s) := ((readInput read fuel).run given).run
    set s
    match result with
    | .ok true => readScript read fuel commands
    | .ok false => return
    | .error .stop => throw .stop
    | .error .discard =>
      recover
      readScript read fuel commands

def complaint? (source : String) : Option String :=
  let text := source.toList
  let bound := 24 * (text.length + 16)
  let read := lex (readSubstitution bound text.length) bound
  let (_, s) := ((readScript read bound (text.length + 2)).run (Script.start text)).run
  if s.failed then
    let said := String.join (s.messages.reverse.map (· ++ "\n"))
    some (Text.strip (String.ofList (FenceCheck.Text.unifyLineEnds said.toList)))
  else none

end FenceCheck.Shell
