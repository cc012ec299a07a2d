import FenceCheck.FileTree.Canonical
import FenceCheck.FileTree.Workspace
import FenceCheck.Glob
import FenceCheck.Text.Lowercase

/-!
Which documents a list of paths stands for. A directory stands for the Markdown files below it, in the
order of their components, without those in tool directories and those that a pattern excludes; any
other path stands for itself. A document that was met before under another name is left out.
-/
namespace FenceCheck.Discovery

def markdownSuffixes : List String := [".md", ".markdown"]

def toolDirectories : List String :=
  [".git", ".venv", "__pycache__", ".mypy_cache", ".ruff_cache", ".hypothesis", ".pytest_cache",
    "node_modules"]

/-- Whether a name is that of a Markdown file, whatever the case of its suffix. -/
def isMarkdown (p : Path) : Bool :=
  markdownSuffixes.contains (Text.lower p.suffix)

/-- Whether a path below a directory is left out: by a tool directory on the way, or by a pattern that
fits the path or its last component. -/
def isExcluded (exclude : List String) (below : Path) : Bool :=
  below.parts.any toolDirectories.contains
    || exclude.any fun pattern => fitsPattern pattern below.text || fitsPattern pattern below.name

/-- The order of paths: component by component. -/
def componentsLE : List String → List String → Bool
  | [], _ => true
  | _ :: _, [] => false
  | a :: s, b :: t => a < b || (a = b && componentsLE s t)

/-- The names that lead from a directory to what lies below it: to each thing that it holds, and where
that is a directory itself, and no link to one, on to what lies below. -/
def namesBelow (t : FileTree) (directory : Location) : List (List String) :=
  (t.children directory).attach.flatMap fun ⟨(name, node), _⟩ =>
    [name] :: match node with
      | .directory _ => (namesBelow t (directory ++ [name])).map (name :: ·)
      | _ => []
termination_by t.depth - directory.length
decreasing_by exact FileTree.depth_of_child ‹_›

/-- The names that lead on from a path to what lies below it, in order. -/
def orderedNames (w : Workspace) (root : Path) : Except Fault (List (List String)) := do
  if ← w.isDirectory root then
    return (namesBelow w.tree (← w.find root)).mergeSort componentsLE
  else return []

def markdownFiles (w : Workspace) (root : Path) (exclude : List String) : Except Fault (List Path) := do
  let names ← orderedNames w root
  let kept ← names.filterM fun parts => do
    let below : Path := ⟨.relative, parts⟩
    return (← w.isFile (root.join below)) && isMarkdown below && !isExcluded exclude below
  return kept.map fun parts => root.join ⟨.relative, parts⟩

def expand (w : Workspace) (exclude : List String) (p : Path) : Except Fault (List Path) := do
  if ← w.isDirectory p then markdownFiles w p exclude else return [p]

/-- The paths that lead to a place where none before led, with the places `seen` so far. -/
def keepNew (w : Workspace) (seen : List Path) : List Path → Except Fault (List Path × List Path)
  | [] => .ok ([], seen)
  | p :: rest => do
    let place ← w.tree.canonical w.cwd p
    if seen.contains place then keepNew w seen rest
    else
      let (kept, seen) ← keepNew w (place :: seen) rest
      return (p :: kept, seen)

/-- The documents that paths stand for, after the places `seen`. -/
def documentsFrom (w : Workspace) (exclude : List String) (seen : List Path) :
    List Path → Except Fault (List Path)
  | [] => .ok []
  | p :: rest => do
    let (kept, seen) ← keepNew w seen (← expand w exclude p)
    return kept ++ (← documentsFrom w exclude seen rest)

def documents (w : Workspace) (paths : List Path) (exclude : List String) : Except Fault (List Path) :=
  documentsFrom w exclude [] paths

end FenceCheck.Discovery
