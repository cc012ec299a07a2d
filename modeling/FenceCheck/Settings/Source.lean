import FenceCheck.Environment
import FenceCheck.FileTree.Canonical
import FenceCheck.Language.Toml
import FenceCheck.Settings.Basic

/-!
Where settings come from: defaults, then a file, then environment variables. The file is the one that is
asked for, else `snippetctl.toml`, else a table of `pyproject.toml`.
-/
namespace FenceCheck.Settings

def ownFile : String := "snippetctl.toml"

def sharedFile : String := "pyproject.toml"

def sharedTable : List String := ["tool", "snippetctl"]

def ownVariables : List (String × String) :=
  [("language", "SNIPPETCTL_LANGUAGE"), ("out", "SNIPPETCTL_OUT"), ("jobs", "SNIPPETCTL_JOBS"),
    ("on_read_error", "SNIPPETCTL_ON_READ_ERROR"), ("timeout", "SNIPPETCTL_TIMEOUT")]

def findFile (w : Workspace) (directory : Path) : Except Fault (Option Path) := do
  let own := directory.join (.ofText ownFile)
  if ← w.isFile own then return some own
  let shared := directory.join (.ofText sharedFile)
  if ← w.isFile shared then return some shared
  return none

def readDocument (w : Workspace) (p : Path) : Outcome Toml.Entries :=
  match w.readText p with
  | .error (.system e) => .error (.run (.config ("cannot read config " ++ p.text ++ ": " ++ e.message)))
  | .error f => .error (.fault f)
  | .ok text =>
    match Toml.read text with
    | .ok entries => .ok entries
    | .error (.fault cause place) => .error (invalid p.text (Toml.faultMessage cause place))
    | .error e => .error (.fault (Language.tomlFault e))

/-- The value at the end of a way through tables; where a table is missing an empty one stands in. -/
def valueAt (v : Toml) : List String → Toml
  | [] => v
  | key :: rest =>
    match v with
    | .table entries => valueAt ((entries.lookup key).getD (.table [])) rest
    | _ => valueAt (.table []) rest

def fileValues (w : Workspace) (p : Path) : Outcome Toml.Entries := do
  let document ← readDocument w p
  if p.name ≠ sharedFile then return document
  match valueAt (.table document) sharedTable with
  | .table entries => return entries
  | _ => throw (invalid p.text "[tool.snippetctl] must be a table")

def environmentValues (env : Environment) : List (String × String) :=
  env.read ownVariables

def fileLayer (w : Workspace) (p : Path) : Outcome Layer := do
  return (← fileValues w p).map fun (k, v) => (k, .ofToml v)

def environmentLayer (env : Environment) : Layer :=
  (environmentValues env).map fun (k, v) => (k, .text v)

/-- The settings file to use: the one asked for, else that of the directory. -/
def chooseFile (w : Workspace) (asked : Option Path) (directory : Path) : Except Fault (Option Path) :=
  match asked with
  | some p => .ok (some p)
  | none => do findFile w (← w.tree.canonical w.cwd directory)

def load (w : Workspace) (env : Environment) (asked : Option Path) (directory : Path) :
    Outcome Settings := do
  let fromFile ← match ← (chooseFile w asked directory).mapError .fault with
    | none => pure []
    | some p => coerce p.text (← fileLayer w p)
  let fromEnvironment ← coerce "environment" (environmentLayer env)
  checked ((({} : Settings).applyAll fromFile).applyAll fromEnvironment)

end FenceCheck.Settings
