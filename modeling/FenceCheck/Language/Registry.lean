import FenceCheck.Environment
import FenceCheck.Language.Json
import FenceCheck.Language.Program
import FenceCheck.Language.Seconds
import FenceCheck.Language.Shell
import FenceCheck.Language.Toml
import FenceCheck.Language.Yaml
import FenceCheck.Text.Lowercase

/-!
The languages that samples can be checked in. A language is found by any of its tags, whatever their
case and the blanks around them; its checker is given out only if the tools it needs are there.
-/
namespace FenceCheck

/-- A language with its tags and its checker. -/
structure Language where
  name : String
  aliases : List String
  description : String
  requires : List String
  checker : Option Seconds → Checker

namespace Language

def tags (l : Language) : List String :=
  l.name :: l.aliases

def all : List Language := [
  ⟨"python", ["py", "python3"], "python grammar via ast.parse", [], fun _ => checkProgram⟩,
  ⟨"json", [], "strict JSON via json.loads", [], fun _ => checkJson⟩,
  ⟨"yaml", ["yml"], "YAML node composition via PyYAML SafeLoader", [], fun _ => checkYaml⟩,
  ⟨"toml", [], "TOML via tomllib", [], fun _ => checkToml⟩,
  ⟨"bash", ["sh", "shell"], "POSIX shell via `bash -n`", ["bash"], checkShell⟩]

def sorted : List Language :=
  all.mergeSort fun a b => a.name ≤ b.name

def normalizeTag (tag : String) : String :=
  Text.lower (Text.strip tag)

def find (tag : String) : Except RunError Language :=
  let wanted := normalizeTag tag
  match all.find? fun l => l.tags.contains wanted with
  | some l => .ok l
  | none =>
    let known := (all.flatMap tags).mergeSort fun a b => a ≤ b
    .error (.language ("unknown language `" ++ tag ++ "` (known: " ++ String.intercalate ", " known ++ ")"))

def resolve (env : Environment) (tag : String) (limit : Option Seconds) : Except RunError Checker := do
  let l ← find tag
  let missing := l.requires.filter fun tool => !env.hasTool tool
  if missing = [] then return l.checker limit
  else throw (.prerequisite ("language `" ++ l.name ++ "` requires missing tool(s): "
    ++ String.intercalate ", " missing))

end Language
end FenceCheck
