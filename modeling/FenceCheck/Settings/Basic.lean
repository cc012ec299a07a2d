import FenceCheck.Failure
import FenceCheck.Report.Collection
import FenceCheck.Settings.Given
import FenceCheck.Text.Lowercase

/-!
Settings, and the layers that they come from. A layer gives values for some of the keys; each is read on
its own, and only the settings that all layers together come to are checked.
-/
namespace FenceCheck
open FenceCheck.Number

/-- What a run is set to. -/
structure Settings where
  language : String := "python"
  paths : List String := ["."]
  out : String := "snippetctl-report.json"
  jobs : Int := 1
  onReadError : String := "abort"
  timeout : Option Binary64 := none
  exclude : List String := []
  deriving DecidableEq

namespace Settings

/-- A layer: keys with the values given for them. -/
abbrev Layer := List (String × Given)

inductive Change where
  | language (s : String)
  | paths (ps : List String)
  | out (s : String)
  | jobs (n : Int)
  | onReadError (s : String)
  | timeout (x : Binary64)
  | exclude (ps : List String)
  deriving DecidableEq

def Change.apply (s : Settings) : Change → Settings
  | .language v => { s with language := v }
  | .paths v => { s with paths := v }
  | .out v => { s with out := v }
  | .jobs v => { s with jobs := v }
  | .onReadError v => { s with onReadError := v }
  | .timeout v => { s with timeout := some v }
  | .exclude v => { s with exclude := v }

def keys : List String :=
  ["language", "paths", "out", "jobs", "on_read_error", "timeout", "exclude"]

/-- A fault of the settings, with the layer it lies in. -/
def invalid (source message : String) : Failure :=
  .run (.config ("invalid configuration in " ++ source ++ ": " ++ message))

def unfit (source key wanted : String) (v : Given) : Failure :=
  match v.literal? with
  | some literal => invalid source ("`" ++ key ++ "` must be " ++ wanted ++ ", got " ++ literal)
  | none => .fault .longInteger

/-- A list of texts; a single text is a list of one. -/
def readTexts (source key : String) : Given → Outcome (List String)
  | .text s => .ok [s]
  | .texts items => .ok items
  | _ => .error (invalid source ("`" ++ key ++ "` must be a string or a list of strings"))

def readText (source key : String) : Given → Outcome String
  | .text s => .ok s
  | _ => .error (invalid source ("`" ++ key ++ "` must be a string"))

/-- An integer; a fractional number loses its fraction. -/
def readWhole (source key : String) (v : Given) : Outcome Int :=
  let unfit : Outcome Int := .error (unfit source key "an integer" v)
  match v with
  | .whole n => .ok n
  | .flag b => .ok (if b then 1 else 0)
  | .text s => (readInt? s).elim unfit .ok
  | .real x =>
    match x.form with
    | .nan => unfit
    | .infinite _ => .error (.fault .infiniteInteger)
    | .finite _ _ _ => x.truncate.elim unfit .ok
  | _ => unfit

/-- A number; an integer beyond the floating-point numbers is a fault. -/
def readReal (source key : String) (v : Given) : Outcome Binary64 :=
  let unfit : Outcome Binary64 := .error (unfit source key "a number" v)
  let ofInt (n : Int) : Outcome Binary64 := (Binary64.ofInt? n).elim (.error (.fault .hugeInteger)) .ok
  match v with
  | .whole n => ofInt n
  | .flag b => ofInt (if b then 1 else 0)
  | .real x => .ok x
  | .text s => (readFloat? s).elim unfit .ok
  | _ => unfit

def readChange (source key : String) (v : Given) : Outcome Change :=
  match key with
  | "paths" => return .paths (← readTexts source key v)
  | "exclude" => return .exclude (← readTexts source key v)
  | "jobs" => return .jobs (← readWhole source key v)
  | "timeout" => return .timeout (← readReal source key v)
  | "out" => return .out (← readText source key v)
  | "on_read_error" => return .onReadError (← readText source key v)
  | _ => return .language (← readText source key v)

def readChanges (source : String) : Layer → Outcome (List Change)
  | [] => .ok []
  | (key, v) :: rest => do
    let change ← readChange source key v
    return change :: (← readChanges source rest)

/-- The changes that a layer makes; keys that are not known are told before anything else. -/
def coerce (source : String) (layer : Layer) : Outcome (List Change) :=
  match (layer.map Prod.fst).filter (!keys.contains ·) with
  | [] => readChanges source layer
  | unknown =>
    let sorted := unknown.eraseDups.mergeSort fun a b => a ≤ b
    .error (invalid source ("unknown key(s): " ++ String.intercalate ", " sorted))

def applyAll (s : Settings) (changes : List Change) : Settings :=
  changes.foldl Change.apply s

def normalizeLanguage (tag : String) : String :=
  Text.lower (Text.strip tag)

/-- Settings that a run can use: at least one job, no time limit that is over before it begins, a known
policy, and a language, whose tag is normalized. -/
def checked (s : Settings) : Outcome Settings :=
  let fail (message : String) : Outcome Settings := .error (invalid "settings" message)
  let language := normalizeLanguage s.language
  if s.jobs < 1 then
    match renderInt? s.jobs with
    | some jobs => fail ("`jobs` must be >= 1, got " ++ jobs)
    | none => .error (.fault .longInteger)
  else match s.timeout.filter (·.isNonPositive) with
    | some x => fail ("`timeout` must be positive, got " ++ x.render)
    | none =>
      if !Report.ReadPolicy.words.contains s.onReadError then
        fail ("`on_read_error` must be one of " ++ String.intercalate ", " Report.ReadPolicy.words)
      else if language = "" then fail "`language` must not be empty"
      else .ok { s with language }

def override (s : Settings) (layer : Layer) : Outcome Settings := do
  checked (s.applyAll (← coerce "command line" layer))

def policy (s : Settings) : Report.ReadPolicy :=
  if s.onReadError = Report.ReadPolicy.skip.word then .skip else .abort

end Settings
end FenceCheck
