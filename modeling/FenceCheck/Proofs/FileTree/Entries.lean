import FenceCheck.Proofs.FileTree.Directories
import FenceCheck.Proofs.FileTree.Kinds

/-! Entries of directories that are there. A path to an entry leads to its place whatever the name of the
entry is, as long as the name is no longer; and a directory that is there is not made again. -/
namespace FenceCheck

namespace Path

/-- The text of a path to an entry ends with the name of the entry. -/
theorem exists_text_child (p : Path) : ∃ front, ∀ name, (p.child name).text = front ++ name := by
  have joined (parts : List String) :
      ∃ front, ∀ name, String.intercalate "/" (parts ++ [name]) = front ++ name := by
    by_cases none_ : parts = []
    · exact ⟨"", fun name => by simp [none_]⟩
    · refine ⟨String.intercalate "/" parts ++ "/", fun name => ?_⟩
      rw [String.intercalate_append_of_ne_nil none_ (by simp), String.intercalate_singleton]
  obtain ⟨front, same⟩ := joined p.parts
  refine ⟨p.anchor.text ++ front, fun name => ?_⟩
  have some_ : ¬ ((p.child name).parts = [] ∧ (p.child name).anchor = .relative) := by
    simp [child]
  rw [text, if_neg some_]
  simp only [child, same, String.append_assoc]

theorem hasNul_child (p : Path) (name : String) :
    (p.child name).hasNul = (p.hasNul || name.toList.contains '\x00') := by
  simp [hasNul, child]

end Path

namespace FileTree
variable {t : FileTree} {links : Nat} {at_ : Location} {front : List String} {name other : String}
variable {s : Spot}

/-- Each entry of a directory has a place there, and so has each name that could be one. -/
theorem walk_sibling (notDot : name ≠ ".") (notDots : name ≠ "..") (plain : Plain other)
    (found : t.walk false links at_ (front ++ [name]) = .ok s) :
    ∃ s', t.walk false links at_ (front ++ [other]) = .ok s' := by
  obtain ⟨left, directory, leads, inside, _, _⟩ := walk_last notDot notDots found
  rw [leads.walk_append false [other] (Or.inl (by simp))]
  cases there : t.get? (directory ++ [other]) with
  | none => exact ⟨_, walk_free inside plain there⟩
  | some n =>
    by_cases link : ∃ target, n = .link target
    · obtain ⟨target, rfl⟩ := link
      exact ⟨_, walk_link_end inside plain there⟩
    · refine ⟨.taken (directory ++ [other]), ?_⟩
      rw [walk_down inside plain there fun target same => link ⟨target, same⟩, walk_here]

/-- An entry that is not there is free, whether links are followed or not. -/
theorem walk_free_entry (notDot : name ≠ ".") (notDots : name ≠ "..")
    (found : t.walk false links at_ (front ++ [name]) = .ok s) (free : t.get? s.location = none)
    (follow : Bool) : t.walk follow links at_ (front ++ [name]) = .ok (.vacant s.location) := by
  obtain ⟨left, directory, leads, inside, plain, place⟩ := walk_last notDot notDots found
  rw [place] at free ⊢
  rw [leads.walk_append follow [name] (Or.inl (by simp)), walk_free inside plain free, if_pos rfl]

end FileTree

namespace Workspace
variable {w v u : Workspace} {p : Path} {l : Location} {kind : Node → Bool} {umask : Nat}

theorem isKind_true_iff_look : w.isKind kind p = .ok true ↔ ∃ n, w.look p = some n ∧ kind n = true := by
  simp only [isKind, look]
  cases w.node p with
  | ok n => simp [Except.toOption]
  | error f =>
    apply iff_of_false
    · cases f with
      | system e =>
        dsimp only
        split <;> simp
      | _ => simp
    · simp [Except.toOption]

/-- A directory that is there is not made again. -/
theorem makeDirectories_of_directory (there : w.isDirectory p = .ok true) :
    w.makeDirectories p umask = (w, .ok ()) := by
  obtain ⟨left, l, leads⟩ := isDirectory_reached there
  obtain ⟨d, _, found, _⟩ := isKind_true_iff.mp there
  obtain ⟨m, walked⟩ := leads.exists_taken
  have taken : w.spot false p = .ok (.taken m) := by
    rw [find_eq] at found
    cases spot : w.spot true p with
    | error f => simp [spot, Except.bind] at found
    | ok s =>
      obtain ⟨named, short, _⟩ := spot_eq_ok.mp spot
      exact spot_eq_ok.mpr ⟨named, short, walked⟩
  have present : w.makeDirectory p umask = .error (refused p .exists) := by
    simp [makeDirectory, taken]
  rw [makeDirectories, present]
  simp [refused, there]

/-- A path to another place shows what it showed. -/
theorem Patched.look_eq {o : Option Node} (patched : Patched v l o u)
    (same : Passage.of o = v.tree.passage l) (other : v.place true p ≠ some l) :
    u.look p = v.look p := by
  rw [Workspace.look_eq, Workspace.look_eq, patched.place_eq same]
  cases there : v.place true p with
  | none => rfl
  | some m =>
    apply patched.elsewhere
    rintro rfl
    exact other there

end Workspace
end FenceCheck
