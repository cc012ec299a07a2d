import FenceCheck.FileTree.Basic
import FenceCheck.Proofs.Bindings
import Mathlib.Data.List.Basic

/-! A file tree as a function of locations: what stands where after a node was put or taken away, and
what of it matters to a path that only passes. -/
namespace FenceCheck

namespace FileTree
variable {t u : FileTree} {l m : Location} {n : Node}

@[simp] theorem get?_root (t : FileTree) : t.get? [] = some (.directory 0o755) := rfl

theorem ne_root (free : t.get? l = none) : l ≠ [] := by
  rintro rfl
  simp at free

theorem ne_root_of_no_directory (outside : t.isDirectoryAt l = false) : l ≠ [] := by
  rintro rfl
  simp [isDirectoryAt] at outside

theorem lookup_cons_if (at_ : Location) (node : Node) (entries : List (Location × Node))
    (m : Location) :
    ((at_, node) :: entries).lookup m = if m = at_ then some node else entries.lookup m := by
  by_cases same : m = at_
  · rw [if_pos same, same, List.lookup_cons_self]
  · have differs : (m == at_) = false := by simpa using same
    rw [List.lookup_cons, differs, if_neg same]

theorem lookup_putEntry (entries : List (Location × Node)) (l m : Location) (n : Node) :
    (putEntry l n entries).lookup m = if m = l then some n else entries.lookup m := by
  induction entries with
  | nil => exact lookup_cons_if l n [] m
  | cons e rest ih =>
    obtain ⟨at_, node⟩ := e
    by_cases here : at_ = l
    · subst here
      simp only [putEntry, if_true, lookup_cons_if]
      split <;> rfl
    · simp only [putEntry, if_neg here, lookup_cons_if, ih]
      by_cases same : m = at_
      · simp [same, here]
      · simp [same]

theorem get?_put (t : FileTree) (proper : l ≠ []) (n : Node) (m : Location) :
    (t.put l n).get? m = if m = l then some n else t.get? m := by
  by_cases root : m = []
  · subst root
    simp [Ne.symm proper]
  · simp only [get?, if_neg root, put, lookup_putEntry]

theorem lookup_filter_ne (entries : List (Location × Node)) (l m : Location) :
    (entries.filter fun e => e.1 ≠ l).lookup m = if m = l then none else entries.lookup m := by
  induction entries with
  | nil => simp
  | cons e rest ih =>
    obtain ⟨at_, node⟩ := e
    by_cases here : at_ = l
    · subst here
      rw [List.filter_cons_of_neg (by simp), ih, lookup_cons_if]
      split <;> rfl
    · rw [List.filter_cons_of_pos (by simpa using here), lookup_cons_if, lookup_cons_if, ih]
      by_cases same : m = at_
      · simp [same, here]
      · simp [same]

theorem get?_erase (t : FileTree) (proper : l ≠ []) (m : Location) :
    (t.erase l).get? m = if m = l then none else t.get? m := by
  by_cases root : m = []
  · subst root
    simp [Ne.symm proper]
  · simp only [get?, if_neg root, erase, lookup_filter_ne]

theorem isDirectoryAt_iff : t.isDirectoryAt l = true ↔ ∃ mode, t.get? l = some (.directory mode) := by
  simp only [isDirectoryAt]
  cases t.get? l with
  | none => simp
  | some n => cases n <;> simp

theorem isDirectoryAt_congr (same : t.get? = u.get?) (l : Location) :
    t.isDirectoryAt l = u.isDirectoryAt l := by
  rw [isDirectoryAt, isDirectoryAt, same]

theorem mem_entries_iff (formed : t.WellFormed) :
    (l, n) ∈ t.entries ↔ l ≠ [] ∧ t.get? l = some n := by
  constructor
  · intro listed
    have proper := formed.proper (l, n) listed
    rw [get?, if_neg proper, Bindings.lookup_eq_some_iff formed.distinct]
    exact ⟨proper, listed⟩
  · rintro ⟨proper, there⟩
    rwa [get?, if_neg proper, Bindings.lookup_eq_some_iff formed.distinct] at there

/-- A tree that lists its nodes in another order holds the same. -/
theorem get?_of_perm (formed : t.WellFormed) (same : t.entries.Perm u.entries) : t.get? = u.get? := by
  have distinct : (u.entries.map Prod.fst).Nodup := (same.map Prod.fst).nodup_iff.mp formed.distinct
  funext l
  rw [get?, get?]
  split
  · rfl
  · apply Option.ext
    intro n
    rw [Bindings.lookup_eq_some_iff formed.distinct, Bindings.lookup_eq_some_iff distinct,
      same.mem_iff]

theorem WellFormed.of_perm (formed : t.WellFormed) (same : t.entries.Perm u.entries) :
    u.WellFormed where
  distinct := (same.map Prod.fst).nodup_iff.mp formed.distinct
  proper e listed := formed.proper e (same.mem_iff.mpr listed)
  rooted e listed := by
    have rooted := formed.rooted e (same.mem_iff.mpr listed)
    rwa [isDirectoryAt_congr (get?_of_perm formed same)] at rooted

/-- Whatever stands in a tree stands in a directory. -/
def Rooted (t : FileTree) : Prop :=
  ∀ l n, l ≠ [] → t.get? l = some n → t.isDirectoryAt l.dropLast = true

theorem WellFormed.rooted_get? (formed : t.WellFormed) : t.Rooted := by
  intro l n proper there
  simp only [get?, if_neg proper] at there
  obtain ⟨before, after, same, _⟩ := List.lookup_eq_some_iff.mp there
  exact formed.rooted (l, n) (by simp [same])

/-- A directory that was made where nothing was stands in a directory. -/
theorem Rooted.put_directory (rooted : t.Rooted) (free : t.get? l = none)
    (inside : t.isDirectoryAt l.dropLast = true) (mode : Nat) :
    (t.put l (.directory mode)).Rooted := by
  have proper := ne_root free
  have kept (m : Location) (there : t.isDirectoryAt m = true) :
      (t.put l (.directory mode)).isDirectoryAt m = true := by
    obtain ⟨mode', at_⟩ := isDirectoryAt_iff.mp there
    rw [isDirectoryAt_iff, get?_put t proper]
    split
    · exact ⟨mode, rfl⟩
    · exact ⟨mode', at_⟩
  intro m n properM there
  rw [get?_put t proper] at there
  split at there
  · rename_i same
    exact same ▸ kept _ inside
  · exact kept _ (rooted m n properM there)

theorem Rooted.nothing_below (rooted : t.Rooted) (free : t.get? l = none) (name : String) :
    t.get? (l ++ [name]) = none := by
  cases there : t.get? (l ++ [name]) with
  | none => rfl
  | some n =>
    have inside := rooted _ n (by simp) there
    simp [isDirectoryAt, free] at inside

end FileTree

/-- What a path that leads on meets at a location. -/
inductive Passage where
  | closed
  | directory
  | link (target : String)
  deriving DecidableEq

/-- No path leads on from a file, as none does from where nothing is. -/
def Passage.of : Option Node → Passage
  | none | some (.file _ _) => .closed
  | some (.directory _) => .directory
  | some (.link target) => .link target

namespace FileTree
variable {t u : FileTree} {l : Location}

/-- What a path that leads on meets. -/
def passage (t : FileTree) (l : Location) : Passage :=
  .of (t.get? l)

theorem passage_directory : t.passage l = .directory ↔ t.isDirectoryAt l = true := by
  simp only [isDirectoryAt_iff, passage]
  cases t.get? l with
  | none => simp [Passage.of]
  | some n => cases n <;> simp [Passage.of]

theorem passage_closed : t.passage l = .closed ↔
    t.get? l = none ∨ ∃ mode bytes, t.get? l = some (.file mode bytes) := by
  simp only [passage]
  cases t.get? l with
  | none => simp [Passage.of]
  | some n => cases n <;> simp [Passage.of]

theorem passage_link {target : String} :
    t.passage l = .link target ↔ t.get? l = some (.link target) := by
  simp only [passage]
  cases t.get? l with
  | none => simp [Passage.of]
  | some n => cases n <;> simp [Passage.of]

end FileTree
end FenceCheck
