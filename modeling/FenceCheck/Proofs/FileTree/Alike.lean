import FenceCheck.Proofs.FileTree.Workspace

/-! File trees that differ in what their files hold, and in nothing else. What a file holds leads no path
elsewhere and is no reason to refuse an operation; so an operation on either tree is refused for the same
reason, or leaves two trees that again differ in what their files hold and in nothing else. -/
namespace FenceCheck

/-- A node but for what a file holds. -/
def Node.shape : Node → Node
  | .file mode _ => .file mode []
  | n => n

theorem Node.shape_cases {o o' : Option Node} (same : o.map shape = o'.map shape) :
    o = o' ∨ ∃ mode bytes bytes', o = some (.file mode bytes) ∧ o' = some (.file mode bytes') := by
  cases o with
  | none =>
    left
    exact (Option.map_eq_none_iff.mp same.symm).symm
  | some n =>
    obtain ⟨n', rfl, shapes⟩ := Option.map_eq_some_iff.mp same.symm
    cases n with
    | file mode bytes =>
      cases n' with
      | file mode' bytes' =>
        obtain rfl : mode' = mode := by simpa [shape] using shapes
        exact Or.inr ⟨_, bytes, bytes', rfl, rfl⟩
      | _ => simp [shape] at shapes
    | directory mode => cases n' <;> simp_all [shape]
    | link target => cases n' <;> simp_all [shape]

namespace FileTree
variable {t u : FileTree} {l : Location} {n n' : Node}

def Alike (t u : FileTree) : Prop :=
  ∀ l, (t.get? l).map Node.shape = (u.get? l).map Node.shape

theorem Alike.isDirectoryAt_eq (alike : t.Alike u) (l : Location) :
    t.isDirectoryAt l = u.isDirectoryAt l := by
  rcases Node.shape_cases (alike l) with same | ⟨mode, bytes, bytes', file, file'⟩
  · rw [isDirectoryAt, isDirectoryAt, same]
  · rw [isDirectoryAt, isDirectoryAt, file, file']

theorem Alike.walk_eq (alike : t.Alike u) (follow : Bool) (links : Nat) (at_ : Location)
    (rest : List String) : t.walk follow links at_ rest = u.walk follow links at_ rest := by
  match rest with
  | [] => rw [walk, walk]
  | name :: rest =>
    have stay := alike.walk_eq follow links at_ rest
    have up := alike.walk_eq follow links at_.dropLast rest
    have down := alike.walk_eq follow links (at_ ++ [name]) rest
    conv_lhs => rw [walk]
    conv_rhs => rw [walk]
    rcases Node.shape_cases (alike (at_ ++ [name])) with same | ⟨mode, bytes, bytes', file, file'⟩
    · cases links with
      | zero => simp only [alike.isDirectoryAt_eq, same, stay, up, down]
      | succ more =>
        have through (target : String) := alike.walk_eq follow more (targetStart at_ target)
          (targetParts target ++ rest)
        simp only [alike.isDirectoryAt_eq, same, stay, up, down, through]
    · simp only [alike.isDirectoryAt_eq, file, file', stay, up, down]
termination_by (links, rest.length)

theorem Alike.put (alike : t.Alike u) (l : Location) (same : n.shape = n'.shape) :
    (t.put l n).Alike (u.put l n') := by
  intro m
  have there := alike m
  by_cases root : m = []
  · rw [root, get?_root, get?_root]
  · simp only [get?, if_neg root, FileTree.put, lookup_putEntry] at there ⊢
    split
    · exact congrArg some same
    · exact there

theorem Alike.erase (alike : t.Alike u) (l : Location) : (t.erase l).Alike (u.erase l) := by
  intro m
  have there := alike m
  by_cases root : m = []
  · rw [root, get?_root, get?_root]
  · simp only [get?, if_neg root, FileTree.erase, lookup_filter_ne] at there ⊢
    split
    · rfl
    · exact there

end FileTree

namespace Workspace
variable {v w : Workspace} {p q : Path} {l : Location} {n n' : Node} {mode : Nat}

/-- Workspaces with the same working directory, and with trees that differ in what files hold. -/
structure Alike (v w : Workspace) : Prop where
  cwd : v.cwd = w.cwd
  tree : v.tree.Alike w.tree

/-- Two operations are refused for the same reason, or they leave alike workspaces. -/
def AlikeOutcomes (r r' : Except Fault Workspace) : Prop :=
  (∃ f, r = .error f ∧ r' = .error f) ∨ ∃ v w, r = .ok v ∧ r' = .ok w ∧ v.Alike w

/-- Alike workspaces, with the same beside each of them. -/
structure Abreast {α : Type} (x y : Workspace × α) : Prop where
  alike : x.1.Alike y.1
  beside : x.2 = y.2

namespace Alike

theorem refl (v : Workspace) : v.Alike v :=
  ⟨rfl, fun _ => rfl⟩

theorem put (alike : v.Alike w) (l : Location) (same : n.shape = n'.shape) :
    (v.put l n).Alike (w.put l n') :=
  ⟨alike.cwd, alike.tree.put l same⟩

theorem spot_eq (alike : v.Alike w) (follow : Bool) (p : Path) : v.spot follow p = w.spot follow p := by
  simp only [spot, FileTree.spot, alike.cwd, alike.tree.walk_eq]

theorem find_eq (alike : v.Alike w) (p : Path) : v.find p = w.find p := by
  rw [Workspace.find_eq, Workspace.find_eq, alike.spot_eq]

/-- What a path leads to differs in what a file holds, or not at all. -/
theorem node_cases (alike : v.Alike w) (p : Path) : v.node p = w.node p ∨
    ∃ mode bytes bytes', v.node p = .ok (.file mode bytes) ∧ w.node p = .ok (.file mode bytes') := by
  simp only [node, alike.find_eq]
  cases w.find p with
  | error f => exact Or.inl rfl
  | ok l =>
    rcases Node.shape_cases (alike.tree l) with same | ⟨mode, bytes, bytes', file, file'⟩
    · left
      simp only [ok_bind, same]
    · right
      exact ⟨mode, bytes, bytes', by simp [file], by simp [file']⟩

/-- Whether a path leads to a thing of some kind, if the kind does not hang on what a file holds. -/
theorem isKind_eq (alike : v.Alike w) {kind : Node → Bool} (same : ∀ n, kind n.shape = kind n)
    (p : Path) : v.isKind kind p = w.isKind kind p := by
  rcases alike.node_cases p with there | ⟨mode, bytes, bytes', file, file'⟩
  · simp only [isKind, there]
  · simp only [isKind, file, file']
    rw [← same (.file mode bytes), ← same (.file mode bytes')]
    rfl

theorem isFile_eq (alike : v.Alike w) (p : Path) : v.isFile p = w.isFile p :=
  alike.isKind_eq (fun n => by cases n <;> rfl) p

theorem isDirectory_eq (alike : v.Alike w) (p : Path) : v.isDirectory p = w.isDirectory p :=
  alike.isKind_eq (fun n => by cases n <;> rfl) p

theorem makeDirectory (alike : v.Alike w) (p : Path) (umask : Nat) :
    AlikeOutcomes (v.makeDirectory p umask) (w.makeDirectory p umask) := by
  simp only [Workspace.makeDirectory, alike.spot_eq]
  cases w.spot false p with
  | error f => exact Or.inl ⟨f, rfl, rfl⟩
  | ok s =>
    cases s with
    | taken l => exact Or.inl ⟨_, rfl, rfl⟩
    | vacant l => exact Or.inr ⟨_, _, rfl, rfl, alike.put l rfl⟩

theorem makeDirectories (alike : v.Alike w) (p : Path) (umask : Nat) :
    Abreast (v.makeDirectories p umask) (w.makeDirectories p umask) := by
  rw [Workspace.makeDirectories.eq_def v, Workspace.makeDirectories.eq_def w]
  rcases alike.makeDirectory p umask with ⟨f, refused, refused'⟩ | ⟨v₁, w₁, made, made', alike₁⟩
  · simp only [refused, refused']
    cases f with
    | system e =>
      dsimp only
      split
      · rw [alike.isDirectory_eq]
        split <;> exact ⟨alike, rfl⟩
      · split
        · exact ⟨alike, rfl⟩
        · obtain ⟨alike₁, same⟩ := makeDirectories alike p.parent umask
          generalize v.makeDirectories p.parent umask = above at alike₁ same
          generalize w.makeDirectories p.parent umask = above' at alike₁ same
          obtain ⟨v₁, r⟩ := above
          obtain ⟨w₁, r'⟩ := above'
          obtain rfl : r = r' := same
          cases r with
          | error f => exact ⟨alike₁, rfl⟩
          | ok _ =>
            dsimp only at alike₁ ⊢
            rcases alike₁.makeDirectory p umask with
              ⟨f, refused, refused'⟩ | ⟨v₂, w₂, made, made', alike₂⟩
            · simp only [refused, refused']
              cases f with
              | system e =>
                dsimp only
                split
                · exact ⟨alike₁, rfl⟩
                · rw [alike₁.isDirectory_eq]
                  split <;> exact ⟨alike₁, rfl⟩
              | _ => exact ⟨alike₁, rfl⟩
            · simp only [made, made']
              exact ⟨alike₂, rfl⟩
    | _ => exact ⟨alike, rfl⟩
  · simp only [made, made']
    exact ⟨alike₁, rfl⟩
termination_by p.parts.length
decreasing_by
  have := List.length_pos_iff.mpr ‹¬p.parts = []›
  simp only [Path.parent, List.length_dropLast]
  omega

theorem createFile (alike : v.Alike w) (p : Path) (mode : Nat) :
    (∃ f, v.createFile p mode = .error f ∧ w.createFile p mode = .error f) ∨
      ∃ v' w' l, v.createFile p mode = .ok (v', l) ∧ w.createFile p mode = .ok (w', l) ∧
        v'.Alike w' := by
  simp only [Workspace.createFile, alike.spot_eq]
  cases w.spot false p with
  | error f => exact Or.inl ⟨f, rfl, rfl⟩
  | ok s =>
    cases s with
    | taken l => exact Or.inl ⟨_, rfl, rfl⟩
    | vacant l => exact Or.inr ⟨_, _, l, rfl, rfl, alike.put l rfl⟩

theorem fill (alike : v.Alike w) (l : Location) (bytes bytes' : List UInt8) :
    (v.fill l bytes).Alike (w.fill l bytes') := by
  rcases Node.shape_cases (alike.tree l) with same | ⟨mode, old, old', file, file'⟩
  · simp only [Workspace.fill, same]
    split
    · exact alike.put l rfl
    · exact alike
  · simp only [Workspace.fill, file, file']
    exact alike.put l rfl

theorem setMode (alike : v.Alike w) (p : Path) (mode : Nat) :
    AlikeOutcomes (v.setMode p mode) (w.setMode p mode) := by
  simp only [Workspace.setMode, alike.find_eq]
  cases w.find p with
  | error f => exact Or.inl ⟨f, rfl, rfl⟩
  | ok l =>
    rw [ok_bind, ok_bind]
    rcases Node.shape_cases (alike.tree l) with same | ⟨mode', old, old', file, file'⟩
    · simp only [same]
      split
      · exact Or.inr ⟨_, _, rfl, rfl, alike.put l rfl⟩
      · exact Or.inr ⟨_, _, rfl, rfl, alike.put l rfl⟩
      · exact Or.inl ⟨_, rfl, rfl⟩
    · simp only [file, file']
      exact Or.inr ⟨_, _, rfl, rfl, alike.put l rfl⟩

theorem unlink (alike : v.Alike w) (p : Path) : AlikeOutcomes (v.unlink p) (w.unlink p) := by
  simp only [Workspace.unlink, alike.spot_eq, alike.tree.isDirectoryAt_eq]
  cases w.spot false p with
  | error f => exact Or.inl ⟨f, rfl, rfl⟩
  | ok s =>
    cases s with
    | vacant l => exact Or.inl ⟨_, rfl, rfl⟩
    | taken l =>
      rw [ok_bind, ok_bind]
      dsimp only
      split
      · exact Or.inl ⟨_, rfl, rfl⟩
      · exact Or.inr ⟨_, _, rfl, rfl, alike.cwd, alike.tree.erase l⟩

theorem rename (alike : v.Alike w) (p q : Path) : AlikeOutcomes (v.rename p q) (w.rename p q) := by
  have spots (p : Path) : v.tree.spot v.cwd false p = w.tree.spot w.cwd false p := by
    simp only [FileTree.spot, alike.cwd, alike.tree.walk_eq]
  simp only [Workspace.rename, spots, alike.tree.isDirectoryAt_eq]
  split
  · exact Or.inl ⟨_, rfl, rfl⟩
  · cases w.tree.spot w.cwd false p with
    | error r => exact Or.inl ⟨_, rfl, rfl⟩
    | ok source =>
      cases w.tree.spot w.cwd false q with
      | error r => exact Or.inl ⟨_, rfl, rfl⟩
      | ok target =>
        dsimp only
        have shapes := alike.tree source.location
        split
        · exact Or.inl ⟨_, rfl, rfl⟩
        · cases here : w.tree.get? source.location with
          | none =>
            rw [here] at shapes
            rw [Option.map_eq_none_iff.mp shapes]
            exact Or.inl ⟨_, rfl, rfl⟩
          | some n =>
            rw [here] at shapes
            obtain ⟨n', here', same⟩ := Option.map_eq_some_iff.mp shapes
            rw [here']
            dsimp only
            split
            · exact Or.inl ⟨_, rfl, rfl⟩
            · split
              · exact Or.inr ⟨_, _, rfl, rfl, alike⟩
              · exact Or.inr ⟨_, _, rfl, rfl, alike.cwd, (alike.tree.erase _).put _ same⟩

end Alike
end Workspace
end FenceCheck
