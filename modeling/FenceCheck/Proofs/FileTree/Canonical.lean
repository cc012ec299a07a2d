import FenceCheck.FileTree.Canonical
import FenceCheck.Proofs.Bindings
import FenceCheck.Proofs.FileTree.Workspace
import Mathlib.Data.List.Induction
import Mathlib.Data.List.Nodup

/-! Canonical paths of what is there. A path that leads somewhere is resolved all the way, and its
canonical form names the place to which it leads. The links that are open at a time all differ, since
the way through a link is longer than the way through any link that its target goes by. -/
namespace FenceCheck

namespace FileTree
variable {t : FileTree} {links left mid links' left' : Nat} {at_ goal goal' middle : Location}
variable {name : String} {rest front back parts : List String}

/-- What the first component of a way can be. -/
theorem Leads.cons_cases (leads : Leads t links at_ (name :: rest) left goal) :
    (name = "." ∧ Leads t links at_ rest left goal) ∨
    (name = ".." ∧ Leads t links at_.dropLast rest left goal) ∨
    (Plain name ∧ (∃ n, t.get? (at_ ++ [name]) = some n ∧ ∀ target, n ≠ .link target) ∧
      Leads t links (at_ ++ [name]) rest left goal) ∨
    (Plain name ∧ ∃ target more, t.get? (at_ ++ [name]) = some (.link target) ∧ links = more + 1 ∧
      Leads t more (targetStart at_ target) (targetParts target ++ rest) left goal) := by
  generalize whole : name :: rest = parts at leads
  cases leads with
  | here => contradiction
  | stay _ on =>
    obtain ⟨rfl, rfl⟩ := List.cons.inj whole
    exact .inl ⟨rfl, on⟩
  | up _ on =>
    obtain ⟨rfl, rfl⟩ := List.cons.inj whole
    exact .inr (.inl ⟨rfl, on⟩)
  | down _ plain there noLink on =>
    obtain ⟨rfl, rfl⟩ := List.cons.inj whole
    exact .inr (.inr (.inl ⟨plain, ⟨_, there, noLink⟩, on⟩))
  | follow _ plain there _ on =>
    obtain ⟨rfl, rfl⟩ := List.cons.inj whole
    exact .inr (.inr (.inr ⟨plain, _, _, there, rfl, on⟩))

/-- A way ends at one place and takes one number of links. -/
theorem Leads.unique (first : Leads t links at_ parts left goal)
    (second : Leads t links' at_ parts left' goal') :
    links + left' = links' + left ∧ goal = goal' := by
  induction first generalizing links' left' goal' with
  | here =>
    cases second
    exact ⟨Nat.add_comm _ _, rfl⟩
  | stay _ _ ih =>
    rcases second.cons_cases with ⟨_, on⟩ | ⟨dots, _⟩ | ⟨plain, _⟩ | ⟨plain, _⟩
    · exact ih on
    · exact absurd dots (by decide)
    · exact absurd rfl plain.notDot
    · exact absurd rfl plain.notDot
  | up _ _ ih =>
    rcases second.cons_cases with ⟨dot, _⟩ | ⟨_, on⟩ | ⟨plain, _⟩ | ⟨plain, _⟩
    · exact absurd dot (by decide)
    · exact ih on
    · exact absurd rfl plain.notDots
    · exact absurd rfl plain.notDots
  | down _ plain there noLink _ ih =>
    rcases second.cons_cases with ⟨dot, _⟩ | ⟨dots, _⟩ | ⟨_, _, on⟩ | ⟨_, target, _, link, _⟩
    · exact absurd dot plain.notDot
    · exact absurd dots plain.notDots
    · exact ih on
    · exact absurd (Option.some.inj (there.symm.trans link)) (noLink target)
  | follow _ plain there _ _ ih =>
    rcases second.cons_cases with
      ⟨dot, _⟩ | ⟨dots, _⟩ | ⟨_, ⟨n, other, noLink⟩, _⟩ | ⟨_, target, more, link, rfl, on⟩
    · exact absurd dot plain.notDot
    · exact absurd dots plain.notDots
    · exact absurd (Option.some.inj (other.symm.trans there)) (noLink _)
    · obtain rfl := Node.link.inj (Option.some.inj (there.symm.trans link))
      obtain ⟨same, sameGoal⟩ := ih on
      exact ⟨by omega, sameGoal⟩

theorem Leads.left_le (leads : Leads t links at_ parts left goal) : left ≤ links := by
  induction leads with
  | here => exact Nat.le_refl _
  | stay _ _ ih => exact ih
  | up _ _ ih => exact ih
  | down _ _ _ _ _ ih => exact ih
  | follow _ _ _ _ _ ih => exact Nat.le_succ_of_le ih

/-- A way falls apart wherever its components do. -/
theorem Leads.split (leads : Leads t links at_ (front ++ back) left goal) :
    ∃ mid middle, Leads t links at_ front mid middle ∧ Leads t mid middle back left goal := by
  obtain ⟨mid, middle, first⟩ := leads.of_append
  have walked : t.walk true mid middle (back ++ []) = .ok (.taken goal) := by
    rw [List.append_nil]
    exact (first.walk_append true back (.inr rfl)).symm.trans leads.walk
  obtain ⟨left', goal', second⟩ := exists_leads (.inr ⟨rfl, goal, rfl⟩) walked
  obtain ⟨same, rfl⟩ := leads.unique (first.trans second)
  obtain rfl : left' = left := by omega
  exact ⟨mid, middle, first, second⟩

/-- The links that are open while a way of so many links is resolved: each link once, and none of them
can be resolved by a shorter way. -/
structure Open (t : FileTree) (cost : Nat) (opened : List Location) : Prop where
  distinct : opened.Nodup
  link : ∀ o ∈ opened, ∃ target, t.get? o = some (.link target)
  long : ∀ o ∈ opened, ∀ target links left goal, t.get? o = some (.link target) →
    Leads t links (targetStart o.dropLast target) (targetParts target) left goal → cost ≤ links - left

variable {cost cost' : Nat} {opened : List Location}

@[simp] theorem Named.down_place (here : Named) (names : List String) :
    (here.down names).place = here.place ++ names := rfl

theorem Open.nil (t : FileTree) (cost : Nat) : Open t cost [] where
  distinct := List.nodup_nil
  link := by simp
  long := by simp

theorem Open.mono (open_ : Open t cost opened) (lower : cost' ≤ cost) : Open t cost' opened where
  distinct := open_.distinct
  link := open_.link
  long o member target links left goal there leads :=
    Nat.le_trans lower (open_.long o member target links left goal there leads)

/-- There are no more open links than links. -/
theorem Open.length_le (open_ : Open t cost opened) : opened.length ≤ t.entries.length := by
  have listed : opened ⊆ t.entries.map Prod.fst := by
    intro o member
    obtain ⟨target, there⟩ := open_.link o member
    rw [get?] at there
    split at there
    · simp at there
    · exact List.mem_map_of_mem (Bindings.mem_of_lookup there)
  calc opened.length ≤ (t.entries.map Prod.fst).length := open_.distinct.length_le_of_subset listed
    _ = t.entries.length := List.length_map _

/-- A link on the way can be opened, and its target is a shorter way. -/
theorem Open.cons {target : String} (open_ : Open t cost opened)
    (there : t.get? (at_ ++ [name]) = some (.link target))
    (leads : Leads t links (targetStart at_ target) (targetParts target) left goal)
    (shorter : links - left < cost) : Open t (links - left) ((at_ ++ [name]) :: opened) where
  distinct := by
    apply List.nodup_cons.mpr
    constructor
    · intro again
      have long := open_.long _ again target links left goal there (by simpa using leads)
      omega
    · exact open_.distinct
  link o member := by
    rcases List.mem_cons.mp member with rfl | old
    · exact ⟨target, there⟩
    · exact open_.link o old
  long o member target' links' left' goal' there' leads' := by
    rcases List.mem_cons.mp member with rfl | old
    · obtain rfl := Node.link.inj (Option.some.inj (there.symm.trans there'))
      rw [List.dropLast_concat] at leads'
      have same := (leads.unique leads').1
      have := leads.left_le
      have := leads'.left_le
      omega
    · apply Nat.le_trans (Nat.le_of_lt shorter)
      exact open_.long o old target' links' left' goal' there' leads'

/-- Components that lead somewhere are resolved all the way. By whatever text a link is met again, it would
be met at a place that is open. -/
theorem settle_of_leads (cwd : Location) {goal : Location} {links left : Nat} (here : Named)
    {rest : List String} (leads : Leads t links here.place rest left goal) (depth : Nat)
    (opened : List Named) (open_ : Open t (links - left) (opened.map Named.place))
    (enough : t.entries.length < depth + opened.length) :
    ∃ there, there.place = goal ∧ settle t cwd depth opened here rest = (true, there) := by
  match rest with
  | [] =>
    cases leads
    rw [settle]
    exact ⟨here, rfl, rfl⟩
  | name :: rest =>
    rw [settle]
    rcases leads.cons_cases with ⟨rfl, on⟩ | ⟨rfl, on⟩ | ⟨plain, ⟨n, there, noLink⟩, on⟩ |
      ⟨plain, target, more, there, rfl, on⟩
    · rw [if_pos rfl]
      exact settle_of_leads cwd here on depth opened open_ enough
    · rw [if_neg (by decide), if_pos rfl]
      exact settle_of_leads cwd (here.up cwd) on depth opened open_ enough
    · rw [if_neg plain.notDot, if_neg plain.notDots]
      dsimp only [Named.down_place]
      rw [there]
      have deeper := settle_of_leads cwd (here.down [name]) on depth opened open_ enough
      cases n with
      | link target => exact absurd rfl (noLink target)
      | file mode bytes => exact deeper
      | directory mode => exact deeper
    · obtain ⟨mid, middle, inner, outer⟩ := on.split
      have notAbove := inner.left_le
      have notBelow := outer.left_le
      have inside : Open t (more - mid) (((here.down [name]) :: opened).map Named.place) :=
        open_.cons there inner (by omega)
      have fresh : here.down [name] ∉ opened := fun again =>
        (List.nodup_cons.mp inside.distinct).1 (List.mem_map_of_mem again)
      have room := open_.length_le
      rw [List.length_map] at room
      obtain ⟨depth, rfl⟩ := Nat.exists_eq_succ_of_ne_zero (n := depth) (by omega)
      obtain ⟨across, rfl, resolved⟩ := settle_of_leads cwd (here.toward target) inner depth _ inside
        (by rw [List.length_cons]; omega)
      have further := settle_of_leads cwd across outer (depth + 1) opened (open_.mono (by omega)) enough
      rw [if_neg plain.notDot, if_neg plain.notDots]
      dsimp only [Named.down_place]
      rw [there]
      dsimp only
      rw [if_neg fresh, resolved]
      exact further
termination_by (links - left, rest.length)

/-- A location of something that is no link, with names that are no dots. -/
structure Standing (t : FileTree) (l : Location) : Prop where
  there : ∃ n, t.get? l = some n ∧ ∀ target, n ≠ .link target
  named : ∀ name ∈ l, name ≠ "." ∧ name ≠ ".."

theorem Standing.root (t : FileTree) : Standing t [] where
  there := ⟨_, get?_root t, by simp⟩
  named := by simp

theorem Standing.of_directory (inside : t.isDirectoryAt at_ = true)
    (named : ∀ name ∈ at_, name ≠ "." ∧ name ≠ "..") : Standing t at_ where
  there := by
    obtain ⟨mode, there⟩ := isDirectoryAt_iff.mp inside
    exact ⟨_, there, by simp⟩
  named := named

theorem Rooted.dropLast (rooted : t.Rooted) (inside : t.isDirectoryAt at_ = true) :
    t.isDirectoryAt at_.dropLast = true := by
  by_cases top : at_ = []
  · rw [top]
    rfl
  · obtain ⟨mode, there⟩ := isDirectoryAt_iff.mp inside
    exact rooted at_ _ top there

/-- Where a way ends there is something that is no link. -/
theorem Leads.standing (rooted : t.Rooted) (leads : Leads t links at_ parts left goal)
    (start : Standing t at_) : Standing t goal := by
  induction leads with
  | here => exact start
  | stay _ _ ih => exact ih start
  | up inside _ ih =>
    apply ih
    apply Standing.of_directory (rooted.dropLast inside)
    intro name member
    exact start.named name ((List.dropLast_sublist _).subset member)
  | down _ plain there noLink _ ih =>
    apply ih
    constructor
    · exact ⟨_, there, noLink⟩
    · intro name member
      rcases List.mem_append.mp member with old | new
      · exact start.named name old
      · rw [List.mem_singleton.mp new]
        exact ⟨plain.notDot, plain.notDots⟩
  | @follow _ at_ _ target _ _ _ _ _ _ _ _ ih =>
    apply ih
    rw [targetStart]
    split
    · exact start
    · exact .root t

theorem Rooted.directory_of_append (rooted : t.Rooted) {n : Node}
    (there : t.get? (front ++ back) = some n) (more : back ≠ []) : t.isDirectoryAt front = true := by
  induction back using List.reverseRecOn generalizing n with
  | nil => contradiction
  | append_singleton back name ih =>
    rw [← List.append_assoc] at there
    have above := rooted _ n (by simp) there
    rw [List.dropLast_concat] at above
    by_cases last : back = []
    · rwa [last, List.append_nil] at above
    · obtain ⟨mode, there⟩ := isDirectoryAt_iff.mp above
      exact ih there last

/-- The names of a location never lead round in a circle. -/
theorem walk_ne_loop (rooted : t.Rooted) (standing : Standing t (at_ ++ rest)) :
    t.walk true links at_ rest ≠ .error .loop := by
  induction rest generalizing at_ with
  | nil =>
    rw [walk]
    simp
  | cons name rest ih =>
    obtain ⟨n, there, noLink⟩ := standing.there
    have inside := rooted.directory_of_append there (by simp)
    have named := standing.named name (by simp)
    have split : at_ ++ name :: rest = at_ ++ [name] ++ rest := by simp
    by_cases long : nameLimit < name.utf8ByteSize
    · rw [walk]
      simp [inside, named.1, named.2, long]
    · have plain : Plain name := ⟨named.1, named.2, long⟩
      obtain ⟨m, next, noLink'⟩ : ∃ m, t.get? (at_ ++ [name]) = some m ∧
          ∀ target, m ≠ .link target := by
        by_cases last : rest = []
        · subst last
          exact ⟨n, there, noLink⟩
        · rw [split] at there
          obtain ⟨mode, directory⟩ := isDirectoryAt_iff.mp (rooted.directory_of_append there last)
          exact ⟨_, directory, by simp⟩
      rw [walk_down inside plain next noLink']
      exact ih (by rwa [← split])

theorem collapse_of_named {l : Location} (named : ∀ name ∈ l, name ≠ "." ∧ name ≠ "..") :
    collapse l = l := by
  have step (done : Location) :
      l.foldl (fun done name => if name = ".." then done.dropLast else done ++ [name]) done =
        done ++ l := by
    induction l generalizing done with
    | nil => simp
    | cons name rest ih =>
      obtain ⟨first, others⟩ := List.forall_mem_cons.mp named
      rw [List.foldl_cons, if_neg first.2, ih others, List.append_assoc, List.singleton_append]
  exact (step []).trans (List.nil_append l)

end FileTree

namespace Workspace
variable {w : Workspace} {p q : Path} {l : Location}

/-- A workspace whose working directory is there, under its own names. -/
structure Homed (w : Workspace) : Prop where
  formed : w.tree.WellFormed
  inside : w.tree.isDirectoryAt w.cwd = true
  named : ∀ name ∈ w.cwd, name ≠ "." ∧ name ≠ ".."

/-- The canonical form of a path that leads somewhere names the place. -/
theorem canonical_of_find (homed : w.Homed) (found : w.find p = .ok l) :
    w.tree.canonical w.cwd p = .ok ⟨.root, l⟩ := by
  have rooted := homed.formed.rooted_get?
  have spotted : w.spot true p = .ok (.taken l) := by
    rw [find_eq] at found
    cases spot : w.spot true p with
    | error f => simp [spot, Except.bind] at found
    | ok s =>
      cases s with
      | taken m => simpa [spot, Except.bind] using found
      | vacant m => simp [spot, Except.bind] at found
  obtain ⟨named, _, walked⟩ := spot_eq_ok.mp spotted
  obtain ⟨left, goal, leads⟩ : ∃ left goal, FileTree.Leads w.tree FileTree.linkLimit
      (FileTree.startOf w.cwd p) p.parts left goal :=
    FileTree.exists_leads (.inr ⟨rfl, l, rfl⟩) (by rwa [List.append_nil])
  obtain rfl : goal = l := Spot.taken.inj (Except.ok.inj (leads.walk.symm.trans walked))
  have start : FileTree.Standing w.tree (FileTree.startOf w.cwd p) := by
    rw [FileTree.startOf]
    split
    · exact .of_directory homed.inside homed.named
    · exact .root _
  have standing := leads.standing rooted start
  have enough : w.tree.entries.length ≤ w.tree.openLimit w.cwd := Nat.le_mul_of_pos_right _ (by omega)
  obtain ⟨there, rfl, settled⟩ := FileTree.settle_of_leads w.cwd (.start w.cwd p) leads
    (w.tree.openLimit w.cwd + 1) [] (.nil _ _) (Nat.lt_succ_of_le enough)
  rw [FileTree.canonical, if_neg (by simp [named])]
  dsimp only
  rw [settled]
  dsimp only
  rw [FileTree.collapse_of_named standing.named]
  split
  · rename_i loops
    rw [FileTree.spot] at loops
    split at loops
    · simp at loops
    · exact absurd loops (FileTree.walk_ne_loop rooted (by simpa [FileTree.startOf] using standing))
  · rfl

end Workspace
end FenceCheck
