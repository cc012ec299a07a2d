import FenceCheck.Proofs.Discovery.Names
import FenceCheck.Proofs.FileTree.Alike

/-! Which documents a list of paths stands for hangs on no more than the outline of a file tree: its nodes
in the order in which they are listed, but for what files hold. Names are listed from it, kinds are told by
it, and paths are made canonical within it. -/
namespace FenceCheck

theorem Node.shape_shape (n : Node) : n.shape.shape = n.shape := by
  cases n <;> rfl

namespace FileTree
variable {t u : FileTree}

/-- A tree without what its files hold. -/
def outline (t : FileTree) : FileTree :=
  ⟨t.entries.map fun e => (e.1, e.2.shape)⟩

theorem alike_outline (t : FileTree) : t.outline.Alike t := by
  intro l
  rw [get?, get?]
  split
  · rfl
  · rw [outline, Bindings.lookup_map, Option.map_map]
    exact congrArg (Option.map · _) (funext Node.shape_shape)

theorem Alike.settle_eq (alike : t.Alike u) (cwd : Location) (depth : Nat) (opened : List Named)
    (here : Named) (rest : List String) :
    t.settle cwd depth opened here rest = u.settle cwd depth opened here rest := by
  match rest with
  | [] => rw [settle, settle]
  | name :: rest =>
    have onward (here : Named) := alike.settle_eq cwd depth opened here rest
    conv_lhs => rw [settle]
    conv_rhs => rw [settle]
    rcases Node.shape_cases (alike (here.down [name]).place) with same | ⟨mode, bytes, bytes', file, file'⟩
    · cases depth with
      | zero => simp only [same, onward]
      | succ depth =>
        have through (target : String) := alike.settle_eq cwd depth (here.down [name] :: opened)
          (here.toward target) (targetParts target)
        simp only [same, onward, through]
    · simp only [file, file', onward]
termination_by (depth, rest.length)

theorem canonical_outline (t : FileTree) (cwd : Location) (p : Path) :
    t.outline.canonical cwd p = t.canonical cwd p := by
  have entries : t.outline.openLimit cwd = t.openLimit cwd :=
    congrArg (· * (cwd.length + 2)) (List.length_map _)
  have spots (cwd : Location) (p : Path) : t.outline.spot cwd true p = t.spot cwd true p := by
    simp only [spot, t.alike_outline.walk_eq]
  simp only [canonical, entries, t.alike_outline.settle_eq, spots]

theorem children_outline (t : FileTree) (at_ : Location) :
    t.outline.children at_ = (t.children at_).map fun c => (c.1, c.2.shape) := by
  rw [children, children, outline, List.filterMap_map, List.map_filterMap]
  congr 1
  funext e
  obtain ⟨l, n⟩ := e
  dsimp only [Function.comp]
  split <;> rfl

end FileTree

/-- A workspace without what its files hold. -/
def Workspace.outline (w : Workspace) : Workspace :=
  { w with tree := w.tree.outline }

theorem Workspace.alike_outline (w : Workspace) : w.outline.Alike w :=
  ⟨rfl, w.tree.alike_outline⟩

theorem Workspace.alike_of_outline {v w : Workspace} (same : v.outline = w.outline) : v.Alike w where
  cwd := by
    rw [← v.alike_outline.cwd, same, w.alike_outline.cwd]
  tree l := by
    rw [← v.alike_outline.tree l, same, w.alike_outline.tree l]

namespace Discovery

theorem namesBelow_outline (t : FileTree) (d : Location) : namesBelow t.outline d = namesBelow t d := by
  rw [namesBelow_eq, namesBelow_eq, FileTree.children_outline, List.flatMap_map]
  refine List.flatMap_congr fun c listed => ?_
  obtain ⟨name, n⟩ := c
  cases n with
  | directory mode =>
    have deeper := namesBelow_outline t (d ++ [name])
    exact congrArg (fun names => [name] :: names.map (name :: ·)) deeper
  | file mode bytes => rfl
  | link target => rfl
termination_by t.depth - d.length
decreasing_by exact FileTree.depth_of_child listed

variable (w : Workspace)

theorem expand_outline (exclude : List String) (p : Path) : expand w.outline exclude p = expand w exclude p := by
  have names (p : Path) : orderedNames w.outline p = orderedNames w p := by
    have tree : w.outline.tree = w.tree.outline := rfl
    simp only [orderedNames, w.alike_outline.isDirectory_eq, w.alike_outline.find_eq, tree,
      namesBelow_outline]
  simp only [expand, markdownFiles, names, w.alike_outline.isDirectory_eq, w.alike_outline.isFile_eq]

theorem keepNew_outline (seen ps : List Path) : keepNew w.outline seen ps = keepNew w seen ps := by
  have places (p : Path) : w.outline.tree.canonical w.outline.cwd p = w.tree.canonical w.cwd p :=
    w.tree.canonical_outline w.cwd p
  induction ps generalizing seen with
  | nil => rfl
  | cons p rest ih => simp only [keepNew, places, ih]

theorem documentsFrom_outline (exclude : List String) (seen ps : List Path) :
    documentsFrom w.outline exclude seen ps = documentsFrom w exclude seen ps := by
  induction ps generalizing seen with
  | nil => rfl
  | cons p rest ih => simp only [documentsFrom, expand_outline, keepNew_outline, ih]

/-- What files hold does not decide which documents there are. -/
theorem documents_of_outline {v w : Workspace} (same : v.outline = w.outline) (ps : List Path)
    (exclude : List String) : documents v ps exclude = documents w ps exclude := by
  rw [documents, documents, ← documentsFrom_outline v, same, documentsFrom_outline]

end Discovery
end FenceCheck
