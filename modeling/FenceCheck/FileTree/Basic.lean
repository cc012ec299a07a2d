import FenceCheck.Path

/-!
File trees as values: nodes by their location, which is the list of names on the way from the root. A
location leads through no link, so what lies below a directory are the locations that extend its own.
-/
namespace FenceCheck

abbrev Location := List String

inductive Node where
  | file (mode : Nat) (bytes : List UInt8)
  | directory (mode : Nat)
  | link (target : String)
  deriving DecidableEq, Repr

/-- A file tree. The root itself is always a directory and has no entry. -/
structure FileTree where
  entries : List (Location × Node)
  deriving DecidableEq, Repr

namespace FileTree

def empty : FileTree := ⟨[]⟩

def get? (t : FileTree) (at_ : Location) : Option Node :=
  if at_ = [] then some (.directory 0o755) else t.entries.lookup at_

/-- The entries after `node` is put at a location. -/
def putEntry (at_ : Location) (node : Node) : List (Location × Node) → List (Location × Node)
  | [] => [(at_, node)]
  | (l, n) :: rest => if l = at_ then (at_, node) :: rest else (l, n) :: putEntry at_ node rest

/-- The tree after `node` is put at a location. -/
def put (t : FileTree) (at_ : Location) (node : Node) : FileTree :=
  ⟨putEntry at_ node t.entries⟩

def erase (t : FileTree) (at_ : Location) : FileTree :=
  ⟨t.entries.filter fun e => e.1 ≠ at_⟩

def prune (t : FileTree) (at_ : Location) : FileTree :=
  ⟨t.entries.filter fun e => !at_.isPrefixOf e.1⟩

def isDirectoryAt (t : FileTree) (at_ : Location) : Bool :=
  match t.get? at_ with
  | some (.directory _) => true
  | _ => false

/-- What lies below a location, by the names that lead there from it. -/
def below (t : FileTree) (at_ : Location) : List (List String × Node) :=
  t.entries.filterMap fun (l, n) =>
    if at_.isPrefixOf l ∧ l ≠ at_ then some (l.drop at_.length, n) else none

/-- What a directory holds, by its names, in the order in which it is listed. -/
def children (t : FileTree) (at_ : Location) : List (String × Node) :=
  t.entries.filterMap fun (l, n) =>
    if l ≠ [] ∧ l.dropLast = at_ then some (l.getLastD "", n) else none

/-- The number of names in the longest location. -/
def depth (t : FileTree) : Nat :=
  t.entries.foldr (fun e longest => max e.1.length longest) 0

theorem length_le_depth {t : FileTree} {e : Location × Node} (listed : e ∈ t.entries) :
    e.1.length ≤ t.depth := by
  rw [depth]
  generalize t.entries = entries at listed
  induction entries with
  | nil => contradiction
  | cons first rest ih =>
    rcases List.mem_cons.mp listed with rfl | later
    · exact Nat.le_max_left _ _
    · exact Nat.le_trans (ih later) (Nat.le_max_right _ _)

theorem mem_children {t : FileTree} {at_ : Location} {name : String} {n : Node} :
    (name, n) ∈ t.children at_ ↔ (at_ ++ [name], n) ∈ t.entries := by
  simp only [children, List.mem_filterMap, Prod.exists]
  constructor
  · rintro ⟨l, n', listed, found⟩
    split at found
    · rename_i inside
      obtain ⟨rfl, rfl⟩ := Prod.mk.inj (Option.some.inj found)
      obtain ⟨proper, rfl⟩ := inside
      rw [List.getLastD_eq_getLast?, List.getLast?_eq_some_getLast proper, Option.getD_some,
        List.dropLast_concat_getLast]
      exact listed
    · contradiction
  · intro listed
    exact ⟨_, n, listed, by simp⟩

/-- Locations end, so that going down from directory to directory does. -/
theorem depth_of_child {t : FileTree} {at_ : Location} {c : String × Node}
    (listed : c ∈ t.children at_) : t.depth - (at_ ++ [c.1]).length < t.depth - at_.length := by
  have bounded := length_le_depth (mem_children.mp listed)
  rw [List.length_append, List.length_singleton] at bounded ⊢
  omega

/-- A tree whose nodes stand in directories of the tree, each at one place. -/
structure WellFormed (t : FileTree) : Prop where
  distinct : (t.entries.map Prod.fst).Nodup
  proper : ∀ e ∈ t.entries, e.1 ≠ []
  rooted : ∀ e ∈ t.entries, t.isDirectoryAt e.1.dropLast = true

end FileTree
end FenceCheck
