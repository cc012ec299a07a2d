import FenceCheck.Path
import FenceCheck.Text.Blank

/-!
Environment variables, and the tools that the search path leads to.
-/
namespace FenceCheck

/-- Variables with their values; an earlier binding of a name wins. -/
abbrev Environment := List (String × String)

namespace Environment

def get? (env : Environment) (name : String) : Option String :=
  env.lookup name

def set (env : Environment) (name value : String) : Environment :=
  (name, value) :: env

/-- For each key the stripped value of its variable, where that is set and not blank. -/
def read (env : Environment) (names : List (String × String)) : List (String × String) :=
  names.filterMap fun (key, name) =>
    match env.get? name with
    | some value => if Text.isBlankText value then none else some (key, Text.strip value)
    | none => none

def searchPath (env : Environment) : List String :=
  match env.get? "PATH" with
  | some path => (path.splitOn ":").filter (· ≠ "")
  | none => ["/bin", "/usr/bin"]

def toolDirectories : List Path :=
  ["/bin", "/usr/bin"].map Path.ofText

def systemTools : List String := ["bash"]

def hasTool (env : Environment) (tool : String) : Bool :=
  systemTools.contains tool
    && env.searchPath.any fun dir => toolDirectories.contains (Path.ofText dir)

end Environment
end FenceCheck
