import FenceCheck.Cli.Help
import FenceCheck.Cli.Output
import FenceCheck.Cli.Switch
import FenceCheck.Settings.Basic

/-!
The command line: switches of the program, a command, and what the command takes. A word that the
program or the command does not know is told only after everything else was read without a fault.
-/
namespace FenceCheck.Cli
open FenceCheck.Number FenceCheck.Text FenceCheck.Settings

/-- What the switches of the program say. -/
structure Globals where
  json : Bool := false
  format : Option String := none
  runId : Option String := none
  config : Option String := none
  logJson : Bool := false
  verbose : Bool := false
  quiet : Bool := false
  deriving DecidableEq, Repr

/-- What a scan is asked for. -/
structure ScanArguments where
  json : Bool := false
  paths : List String := []
  language : Option Given := none
  out : Option Given := none
  jobs : Option Given := none
  onReadError : Option Given := none
  timeout : Option Given := none
  exclude : List Value := []
  deriving DecidableEq

/-- What a validation is asked for. -/
structure ValidateArguments where
  json : Bool := false
  file : Option Value := none
  deriving DecidableEq, Repr

/-- A command with what it takes. -/
inductive Command where
  | scan (a : ScanArguments)
  | languages (json : Bool)
  | validateReport (json : Bool) (file : Value)
  | version (json : Bool)
  deriving DecidableEq

def Command.word : Command → String
  | .scan _ => "scan"
  | .languages _ => "languages"
  | .validateReport _ _ => "validate-report"
  | .version _ => "version"

def commandWords : List String := ["scan", "languages", "validate-report", "version"]

/-- A command line that was read. -/
structure Invocation where
  globals : Globals
  command : Command
  deriving DecidableEq

/-- Who reads the words, with the texts that explain its part of the command line. -/
structure Speaker where
  name : String
  usage : String
  details : String

def Speaker.refuse (who : Speaker) (message : String) : Exit :=
  ⟨2, "", who.usage ++ who.name ++ ": error: " ++ message ++ "\n"⟩

def Speaker.explain (who : Speaker) : Exit :=
  ⟨0, who.usage ++ who.details, ""⟩

def version : String := "0.1.0"

def program : Speaker := ⟨"snippetctl", Help.programUsage, Help.programDetails⟩

def helpSwitch : Switch := ⟨["-h", "--help"], false⟩

def plain (name : String) : Switch := ⟨[name], false⟩

def valued (name : String) : Switch := ⟨[name], true⟩

def programSwitches : List Switch :=
  [helpSwitch, plain "--version", plain "--json", valued "--format", valued "--run-id",
    valued "--config", plain "--log-json", plain "--verbose", plain "--quiet"]

def scanSwitches : List Switch :=
  [helpSwitch, valued "--language", valued "--out", valued "--jobs", valued "--on-read-error",
    valued "--timeout", valued "--exclude", plain "--json"]

def validateSwitches : List Switch :=
  [helpSwitch, valued "--file", plain "--json"]

def plainSwitches : List Switch :=
  [helpSwitch, plain "--json"]

def Value.text? : Value → Option String
  | .nothing => none
  | .given s => some s

/-- A value as it is given for a setting; a value that was taken away is an empty list. -/
def Value.asGiven : Value → Given
  | .nothing => .texts []
  | .given s => .text s

def checkChoice (s : Switch) (words : List String) (v : Value) : Except String Unit :=
  match v with
  | .nothing => .ok ()
  | .given text =>
    if words.contains text then .ok ()
    else .error (switchFault s ("invalid choice: " ++ quoted text ++ " (choose from "
      ++ String.intercalate ", " (words.map quoted) ++ ")"))

def readValue (s : Switch) (type : String) (read : String → Option Given) (v : Value) :
    Except String Given :=
  match v with
  | .nothing => .ok (.texts [])
  | .given text =>
    match read text with
    | some given => .ok given
    | none => .error (switchFault s ("invalid " ++ type ++ " value: " ++ quoted text))

def conflict (s other : String) : String :=
  switchFault (plain s) ("not allowed with argument " ++ other)

def applyGlobal (g : Globals) (s : Switch) (v : Value) : Except Exit Globals :=
  match s.names.getLastD "" with
  | "--help" => .error program.explain
  | "--version" => .error ⟨0, "snippetctl " ++ version ++ "\n", ""⟩
  | "--json" => .ok { g with json := true }
  | "--format" => do
    (checkChoice s ["text", "json"] v).mapError program.refuse
    return { g with format := v.text? }
  | "--run-id" => .ok { g with runId := v.text? }
  | "--config" => .ok { g with config := v.text? }
  | "--log-json" => .ok { g with logJson := true }
  | "--verbose" =>
    if g.quiet then .error (program.refuse (conflict "--verbose" "--quiet"))
    else .ok { g with verbose := true }
  | _ =>
    if g.verbose then .error (program.refuse (conflict "--quiet" "--verbose"))
    else .ok { g with quiet := true }

/-- The part of the command line that a command reads. -/
structure Part (σ : Type) where
  speaker : Speaker
  switches : List Switch
  /-- What a switch other than that for the help does. -/
  apply : σ → Switch → Value → Except String σ
  /-- What operands do, if the command takes any. -/
  takeOperands : Option (σ → List String → σ)

def scanPart : Part ScanArguments where
  speaker := ⟨"snippetctl scan", Help.scanUsage, Help.scanDetails⟩
  switches := scanSwitches
  apply a s v :=
    match s.names.getLastD "" with
    | "--language" => .ok { a with language := some v.asGiven }
    | "--out" => .ok { a with out := some v.asGiven }
    | "--jobs" => do
      return { a with jobs := some (← readValue s "int" (fun t => (readInt? t).map .whole) v) }
    | "--on-read-error" => do
      checkChoice s Report.ReadPolicy.words v
      return { a with onReadError := some v.asGiven }
    | "--timeout" => do
      return { a with timeout := some (← readValue s "float" (fun t => (readFloat? t).map .real) v) }
    | "--exclude" => .ok { a with exclude := a.exclude ++ [v] }
    | _ => .ok { a with json := true }
  takeOperands := some fun a words => { a with paths := words }

def validatePart : Part ValidateArguments where
  speaker := ⟨"snippetctl validate-report", Help.validateUsage, Help.validateDetails⟩
  switches := validateSwitches
  apply a s v :=
    if s.takesValue then .ok { a with file := some v } else .ok { a with json := true }
  takeOperands := none

def plainPart (name usage : String) : Part Bool where
  speaker := ⟨"snippetctl " ++ name, usage, Help.plainDetails⟩
  switches := plainSwitches
  apply _ _ _ := .ok true
  takeOperands := none

/-- How far a command is with its words. -/
structure Progress (σ : Type) where
  state : σ
  operandsTaken : Bool
  extras : List String

theorem takeOperands_length (words : List (String × Reading)) :
    (Cli.takeOperands words).2.length ≤ words.length := by
  fun_induction Cli.takeOperands words with
  | case1 word rest more left h ih => simp_all; omega
  | case2 word rest more left h ih => simp_all; omega
  | case3 => exact Nat.le_refl _

/-- Reads the words of a command. The first operands that stand together are the operands of a command
that takes any; a double hyphen among them is dropped. -/
def Part.read {σ : Type} (part : Part σ) (p : Progress σ) (words : List (String × Reading)) :
    Except Exit (Progress σ) :=
  match words with
  | [] => .ok p
  | (word, .unknown) :: rest => part.read { p with extras := p.extras ++ [word] } rest
  | (_, .switch s spelled attached) :: rest =>
    match _h : takeValue part.switches s spelled attached rest with
    | .error message => .error (part.speaker.refuse message)
    | .ok (v, left) =>
      if s = helpSwitch then .error part.speaker.explain
      else match part.apply p.state s v with
        | .error message => .error (part.speaker.refuse message)
        | .ok state => part.read { p with state } left
  | (word, _) :: rest =>
    let run := word :: (Cli.takeOperands rest).1
    match part.takeOperands, p.operandsTaken with
    | some take, false =>
      part.read { p with state := take p.state (run.erase "--"), operandsTaken := true }
        (Cli.takeOperands rest).2
    | _, _ => part.read { p with extras := p.extras ++ run } (Cli.takeOperands rest).2
termination_by words.length
decreasing_by
  · simp
  · have := takeValue_length _h
    simp only [List.length_cons]
    omega
  · have := takeOperands_length rest
    simp only [List.length_cons]
    omega
  · have := takeOperands_length rest
    simp only [List.length_cons]
    omega

/-- What a command takes, with the words it does not know. -/
def Part.readAll {σ : Type} (part : Part σ) (start : σ) (words : List String) :
    Except Exit (σ × List String) := do
  let readings ← (readWords part.switches words).mapError part.speaker.refuse
  let done ← part.read ⟨start, false, []⟩ readings
  return (done.state, done.extras)

def readCommand (name : String) (words : List String) : Except Exit (Command × List String) :=
  match name with
  | "scan" => do
    let (a, extras) ← scanPart.readAll {} words
    return (.scan a, extras)
  | "languages" => do
    let (json, extras) ← (plainPart name Help.languagesUsage).readAll false words
    return (.languages json, extras)
  | "validate-report" => do
    let (a, extras) ← validatePart.readAll {} words
    match a.file with
    | some file => return (.validateReport a.json file, extras)
    | none =>
      throw (validatePart.speaker.refuse "the following arguments are required: --file")
  | "version" => do
    let (json, extras) ← (plainPart name Help.versionUsage).readAll false words
    return (.version json, extras)
  | _ =>
    .error (program.refuse ("argument cmd: invalid choice: " ++ quoted name ++ " (choose from "
      ++ String.intercalate ", " (commandWords.map quoted) ++ ")"))

def readProgram (g : Globals) (extras : List String) (words : List (String × Reading)) :
    Except Exit (Invocation × List String) :=
  match words with
  | [] => .error (program.refuse "the following arguments are required: cmd")
  | (word, .unknown) :: rest => readProgram g (extras ++ [word]) rest
  | (_, .switch s spelled attached) :: rest =>
    match _h : takeValue programSwitches s spelled attached rest with
    | .error message => .error (program.refuse message)
    | .ok (v, left) =>
      match applyGlobal g s v with
      | .error exit => .error exit
      | .ok g => readProgram g extras left
  | [(_, .separator)] => .error (program.refuse "the following arguments are required: cmd")
  | (word, _) :: rest => do
    let (command, more) ← readCommand word (rest.map Prod.fst)
    return (⟨g, command⟩, extras ++ more)
termination_by words.length
decreasing_by
  · simp
  · have := takeValue_length _h
    simp only [List.length_cons]
    omega

def readArguments (argv : List String) : Except Exit Invocation := do
  let readings ← (readWords programSwitches argv).mapError program.refuse
  let (invocation, extras) ← readProgram {} [] readings
  if extras = [] then return invocation
  else throw (program.refuse ("unrecognized arguments: " ++ String.intercalate " " extras))

def ScanArguments.layer (a : ScanArguments) : Layer :=
  let exclude : Given :=
    match Given.textsOf Value.text? a.exclude with
    | some patterns => .texts patterns
    | none => .other none
  [("language", a.language), ("paths", if a.paths = [] then none else some (.texts a.paths)),
    ("out", a.out), ("jobs", a.jobs), ("on_read_error", a.onReadError), ("timeout", a.timeout),
    ("exclude", if a.exclude = [] then none else some exclude)].filterMap
    fun (key, v?) => v?.map (key, ·)

end FenceCheck.Cli
