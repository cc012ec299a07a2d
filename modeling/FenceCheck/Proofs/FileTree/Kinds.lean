import FenceCheck.Proofs.FileTree.Alike

/-! What kind of thing a path leads to. Nearly every path has an answer: one that leads nowhere leads to
no file and to no directory. Only a path with a name that is too long, its own or that of a link's target,
has none. And all of it depends on what stands where, and on nothing else about the tree. -/
namespace FenceCheck

namespace Path
variable {s : List Char}

theorem splitAtSlashes_of_notMem (none_ : '/' ∉ s) : splitAtSlashes s = [s] := by
  induction s with
  | nil => rfl
  | cons c rest ih =>
    obtain ⟨other, none_⟩ := not_or.mp (mt List.mem_cons.mpr none_)
    rw [splitAtSlashes, if_neg (Ne.symm other), ih none_]

/-- A text without slashes is one component. -/
theorem componentsOf_of_notMem (none_ : '/' ∉ s) (some_ : s ≠ []) (notDot : s ≠ ['.']) :
    componentsOf s = [String.ofList s] := by
  rw [componentsOf, splitAtSlashes_of_notMem none_]
  simp [some_, notDot]

theorem anchorOf_of_notMem (none_ : '/' ∉ s) : anchorOf s = .relative := by
  unfold anchorOf
  split <;> simp_all

end Path

namespace FileTree
variable {t u : FileTree} {follow : Bool} {links : Nat} {at_ : Location} {rest : List String}

theorem refusal_of_walk {r : Refusal} (failed : t.walk follow links at_ rest = .error r) :
    r = .nameTooLong ∨ Workspace.meansAbsent r = true := by
  fun_induction walk t follow links at_ rest with
  | case1 => contradiction
  | _ => cases r <;> simp_all [Workspace.meansAbsent]

theorem walk_congr (same : t.get? = u.get?) (follow : Bool) (links : Nat) (at_ : Location)
    (rest : List String) : t.walk follow links at_ rest = u.walk follow links at_ rest :=
  Alike.walk_eq (fun l => by rw [same]) follow links at_ rest

section Instances

/-- A name with one character more than a name may have. -/
def longName : String := String.ofList ('A' :: List.replicate 255 'A')

theorem toList_longName : longName.toList = 'A' :: List.replicate 255 'A' := String.toList_ofList

theorem mem_longName {c : Char} : c ∈ longName.toList ↔ c = 'A' := by
  rw [toList_longName, List.mem_cons, List.mem_replicate]
  exact or_iff_left_of_imp And.right

theorem slash_notMem_longName : '/' ∉ longName.toList := by
  rw [mem_longName]
  decide

theorem targetParts_longName : targetParts longName = [longName] := by
  have closed : (longName.endsWith "/" || longName.endsWith "/.") = false := by decide +kernel
  have parts : Path.componentsOf longName.toList = [longName] := by
    rw [Path.componentsOf_of_notMem slash_notMem_longName, String.ofList_toList]
    · rw [toList_longName]
      exact List.cons_ne_nil _ _
    · rw [toList_longName]
      exact fun same => absurd (List.cons.inj same).1 (by decide)
  rw [targetParts, parts, closed]
  rfl

theorem targetStart_longName (at_ : Location) : targetStart at_ longName = at_ := by
  rw [targetStart, Path.anchorOf_of_notMem slash_notMem_longName]

theorem walk_longName {t : FileTree} {at_ : Location} (inside : t.isDirectoryAt at_ = true)
    (follow : Bool) (links : Nat) (rest : List String) :
    t.walk follow links at_ (longName :: rest) = .error .nameTooLong := by
  have notDot : longName ≠ "." := by decide +kernel
  have notDots : longName ≠ ".." := by decide +kernel
  have long : nameLimit < longName.utf8ByteSize := by decide +kernel
  rw [walk]
  simp [inside, notDot, notDots, long]

end Instances
end FileTree

namespace Workspace
variable {w v : Workspace} {p : Path} {l : Location} {f : Fault} {kind : Node → Bool}

/-- A path that cannot be followed since a name is too long. -/
def TooLong (w : Workspace) (p : Path) : Prop :=
  w.find p = .error (refused p .nameTooLong)

theorem find_of_walk (named : p.hasNul = false) (short : ¬ FileTree.pathLimit < p.text.utf8ByteSize)
    (walked : w.tree.walk true FileTree.linkLimit (FileTree.startOf w.cwd p) p.parts =
      .ok (.taken l)) : w.find p = .ok l := by
  rw [find_eq, spot_eq_ok.mpr ⟨named, short, walked⟩]
  rfl

theorem tooLong_of_walk (named : p.hasNul = false)
    (short : ¬ FileTree.pathLimit < p.text.utf8ByteSize)
    (walked : w.tree.walk true FileTree.linkLimit (FileTree.startOf w.cwd p) p.parts =
      .error .nameTooLong) : TooLong w p := by
  rw [TooLong, find, if_neg (by simp [named]), FileTree.find, FileTree.spot, if_neg short, walked]
  rfl

/-- How finding a path fails. -/
theorem fault_of_find (failed : w.find p = .error f) :
    TooLong w p ∨ f = .nulInName ∨ ∃ r, f = refused p r ∧ meansAbsent r = true := by
  have whole := failed
  rw [find] at failed
  split at failed
  · exact .inr (.inl (Except.error.inj failed).symm)
  · simp only [FileTree.find, FileTree.spot] at failed
    by_cases long : FileTree.pathLimit < p.text.utf8ByteSize
    · rw [if_pos long] at failed
      left
      rw [TooLong, whole, ← Except.error.inj failed]
    · rw [if_neg long] at failed
      cases walked : w.tree.walk true FileTree.linkLimit (FileTree.startOf w.cwd p) p.parts with
      | error r =>
        rw [walked] at failed
        obtain rfl := (Except.error.inj failed).symm
        rcases FileTree.refusal_of_walk walked with rfl | absent
        · exact .inl whole
        · exact .inr (.inr ⟨r, rfl, absent⟩)
      | ok s =>
        rw [walked] at failed
        cases s with
        | taken l => contradiction
        | vacant l => exact .inr (.inr ⟨.notFound, (Except.error.inj failed).symm, rfl⟩)

theorem isKind_of_find (found : w.find p = .ok l) :
    w.isKind kind p = .ok ((w.tree.get? l).elim false kind) := by
  simp only [isKind, node, found, ok_bind]
  cases w.tree.get? l <;> rfl

theorem isKind_of_tooLong (long : TooLong w p) :
    w.isKind kind p = .error (refused p .nameTooLong) := by
  have failed : w.find p = .error (refused p .nameTooLong) := long
  simp only [isKind, node, failed, error_bind, refused, meansAbsent]
  rfl

/-- Where a path leads nowhere, and not for the length of a name, there is no thing of any kind. -/
theorem isKind_of_absent (failed : w.find p = .error f) (short : ¬ TooLong w p) :
    w.isKind kind p = .ok false := by
  rcases fault_of_find failed with long | rfl | ⟨r, rfl, absent⟩
  · contradiction
  · simp only [isKind, node, failed, error_bind]
  · simp only [isKind, node, failed, error_bind, refused, absent, if_true]

theorem isKind_cases (w : Workspace) (kind : Node → Bool) (p : Path) :
    TooLong w p ∧ w.isKind kind p = .error (refused p .nameTooLong) ∨
      ¬ TooLong w p ∧ ∃ b, w.isKind kind p = .ok b := by
  by_cases long : TooLong w p
  · left
    exact ⟨long, isKind_of_tooLong long⟩
  · right
    refine ⟨long, ?_⟩
    cases found : w.find p with
    | ok l => exact ⟨_, isKind_of_find found⟩
    | error f => exact ⟨false, isKind_of_absent found long⟩

theorem exists_isKind_iff : (∃ b, w.isKind kind p = .ok b) ↔ ¬ TooLong w p := by
  rcases isKind_cases w kind p with ⟨long, failed⟩ | ⟨short, given⟩
  · exact iff_of_false (by simp [failed]) (not_not_intro long)
  · exact iff_of_true given short

theorem isKind_true_iff : w.isKind kind p = .ok true ↔
    ∃ l n, w.find p = .ok l ∧ w.tree.get? l = some n ∧ kind n = true := by
  cases found : w.find p with
  | error f =>
    apply iff_of_false
    · intro answered
      by_cases long : TooLong w p
      · simp [isKind_of_tooLong long] at answered
      · simp [isKind_of_absent found long] at answered
    · simp
  | ok l =>
    rw [isKind_of_find found]
    cases there : w.tree.get? l <;> simp [there]

theorem find_congr (sameCwd : v.cwd = w.cwd) (same : v.tree.get? = w.tree.get?) (p : Path) :
    v.find p = w.find p := by
  simp only [find, FileTree.find, FileTree.spot, sameCwd, FileTree.walk_congr same]

theorem isKind_congr (sameCwd : v.cwd = w.cwd) (same : v.tree.get? = w.tree.get?)
    (kind : Node → Bool) (p : Path) : v.isKind kind p = w.isKind kind p := by
  simp only [isKind, node, find_congr sameCwd same, same]

end Workspace
end FenceCheck
