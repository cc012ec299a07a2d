import FenceCheck.Proofs.FileTree.Directories
import FenceCheck.Report.Writing

/-! The ground on which reports are exchanged. Whoever writes a report first sees to the directories
above it. That shows nothing at the report's path that was not there before, as long as no component
leads up again out of a directory that was missing. -/
namespace FenceCheck

theorem dot_not_mem_ofText (text : String) : "." ∉ (Path.ofText text).parts := by
  intro member
  simp only [Path.ofText, Path.componentsOf] at member
  obtain ⟨piece, kept, same⟩ := List.mem_map.mp member
  have dot : piece = ['.'] := by
    have := congrArg String.toList same
    simpa using this
  simp [dot] at kept

namespace Path
variable {out : Path}

/-- A path has a component more than the directory above it. -/
theorem parts_eq_take_append (out : Path) (depth : Nat) (some_ : out.parts ≠ []) :
    ∃ more, out.parts = out.parent.parts.take depth ++ more ∧ more ≠ [] := by
  refine ⟨out.parts.drop (min depth (out.parts.length - 1)), ?_, ?_⟩
  · simp only [parent, List.dropLast_eq_take, List.take_take, List.take_append_drop]
  · have := List.length_pos_iff.mpr some_
    simp only [ne_eq, List.drop_eq_nil_iff]
    omega

end Path

namespace Workspace

/-- Where a path ends that names an entry. -/
theorem place_last {w : Workspace} {p : Path} {l : Location} (there : w.place false p = some l)
    (split : p.parts = front ++ [name]) (notDot : name ≠ ".") (notDots : name ≠ "..") :
    l.getLast? = some name := by
  obtain ⟨s, found, rfl⟩ := place_eq_some.mp there
  have walked := (spot_eq_ok.mp found).2.2
  rw [split] at walked
  obtain ⟨_, directory, _, _, _, at_⟩ := FileTree.walk_last notDot notDots walked
  rw [at_]
  simp

theorem look_of_not_reached {w : Workspace} {p : Path} (split : p.parts = front ++ more)
    (goes : more ≠ []) (missing : ¬ w.Reached p.anchor front) : w.look p = none := by
  rw [look_eq]
  cases there : w.place true p with
  | none => rfl
  | some l =>
    obtain ⟨s, found, _⟩ := place_eq_some.mp there
    exact absurd (reached_of_spot found split goes) missing

end Workspace

namespace Report
open Workspace
variable {w v : Workspace} {out : Path} {umask : Nat}

/-- The double dots of a path come before the part of it that is not there yet. -/
def Settled (w : Workspace) (out : Path) : Prop :=
  ∃ known fresh, out.parts = known ++ fresh ∧ ".." ∉ fresh ∧
    ∃ l, w.find ⟨out.anchor, known⟩ = .ok l

/-- A workspace to which directories above a path were added, and nothing to be seen at the path. -/
structure Grown (w : Workspace) (out : Path) (v : Workspace) : Prop where
  cwd : v.cwd = w.cwd
  rooted : v.tree.Rooted
  kept : ∀ l, v.tree.get? l = w.tree.get? l ∨
    w.tree.get? l = none ∧ v.tree.isDirectoryAt l = true
  unseen : v = w ∨ w.look out = none ∧ ∀ follow l, v.place follow out = some l →
    v.tree.get? l = none ∧ l.getLast? = some out.name

theorem Grown.refl (rooted : w.tree.Rooted) : Grown w out w :=
  ⟨rfl, rooted, fun _ => Or.inl rfl, Or.inl rfl⟩

theorem Grown.keeps (grown : Grown w out v) {l : Location} {n : Node}
    (there : w.tree.get? l = some n) : v.tree.get? l = some n := by
  rcases grown.kept l with same | ⟨free, _⟩
  · rw [same, there]
  · rw [free] at there
    contradiction

theorem Grown.look_eq (grown : Grown w out v) : v.look out = w.look out := by
  rcases grown.unseen with rfl | ⟨nothing, free⟩
  · rfl
  · rw [nothing, Workspace.look_eq]
    cases there : v.place true out with
    | none => rfl
    | some l => exact (free true l there).1

/-- Behind the part of a path that is there no component leads up again: it would be known otherwise. -/
theorem Grown.noDots (grown : Grown w out v) (settled : Settled w out)
    (split : out.parts = front ++ more) (missing : ¬ v.Reached out.anchor front) : ".." ∉ more := by
  obtain ⟨known, fresh, parts, noDots, _, reached⟩ := settled
  rw [split] at parts
  rcases List.append_eq_append_iff.mp parts with ⟨rest, toKnown, _⟩ | ⟨rest, _, toFresh⟩
  · refine absurd ?_ missing
    have known' := (reached_of_find reached).mono grown.cwd fun _ _ => grown.keeps
    rw [toKnown] at known'
    exact known'.of_append
  · exact fun member => noDots (by simp [toFresh, member])

theorem Grown.kept_put (grown : Grown w out v) {l : Location} (free : v.tree.get? l = none) (mode : Nat)
    (m : Location) : (v.put l (.directory mode)).tree.get? m = w.tree.get? m ∨
      w.tree.get? m = none ∧ (v.put l (.directory mode)).tree.isDirectoryAt m = true := by
  have proper := FileTree.ne_root free
  by_cases new : m = l
  · subst new
    refine Or.inr ⟨?_, FileTree.isDirectoryAt_iff.mpr ⟨mode, get?_put_self v proper _⟩⟩
    rcases grown.kept m with same | ⟨free, _⟩
    · rw [← same, free]
    · exact free
  · have same := get?_put_of_ne v proper (.directory mode) new
    simp only [FileTree.isDirectoryAt, same]
    exact grown.kept m

/-- A path through an empty directory finds a free place at best, under its own name. -/
theorem vacant_of_empty {follow : Bool} {left : Nat} {l m : Location}
    (leads : v.Leads out.anchor front left l) (split : out.parts = front ++ more) (goes : more ≠ [])
    (entered : v.tree.isDirectoryAt l = true) (holds : ∀ name, v.tree.get? (l ++ [name]) = none)
    (noDot : "." ∉ more) (noDots : ".." ∉ more) (there : v.place follow out = some m) :
    v.tree.get? m = none ∧ m.getLast? = some out.name := by
  obtain ⟨s, found, rfl⟩ := place_eq_some.mp there
  have walked := (spot_eq_ok.mp found).2.2
  rw [split] at walked
  have further := leads.walk_append follow more (Or.inl goes)
  obtain ⟨name, rfl, rfl⟩ := FileTree.walk_in_empty entered holds noDot noDots
    (further.symm.trans walked) goes
  exact ⟨holds name, by simp [Path.name, split, Spot.location]⟩

/-- A further directory above the path is empty, so nothing is to be seen through it. -/
theorem Grown.makeDirectory (settled : Settled w out) (noDot : "." ∉ out.parts)
    (grown : Grown w out v) {v' : Workspace} {depth : Nat}
    (made : v.makeDirectory { out.parent with parts := out.parent.parts.take depth } umask = .ok v') :
    Grown w out v' := by
  obtain ⟨left, l, leads, free, inside, rfl⟩ := makeDirectory_leads made
  have missing : ¬ v.Reached out.anchor (out.parent.parts.take depth) :=
    fun reached => reached.makeDirectory_ne_ok made
  have some_ : out.parts ≠ [] := by
    intro nothing
    have top : out.parent.parts.take depth = [] := by simp [Path.parent, nothing]
    rw [top] at missing
    exact missing ⟨_, _, .here⟩
  obtain ⟨more, split, goes⟩ := out.parts_eq_take_append depth some_
  have proper := FileTree.ne_root free
  have entered : (v.put l (.directory (masked umask 0o777))).tree.isDirectoryAt l = true :=
    FileTree.isDirectoryAt_iff.mpr ⟨_, get?_put_self v proper _⟩
  have holds (name : String) : (v.put l (.directory (masked umask 0o777))).tree.get? (l ++ [name]) = none := by
    rw [get?_put_of_ne v proper _ (by simp)]
    exact grown.rooted.nothing_below free name
  have noDot' : "." ∉ more := fun member => noDot (by rw [split]; simp [member])
  have noDots := grown.noDots settled split missing
  refine ⟨grown.cwd, grown.rooted.put_directory free inside _, grown.kept_put free _, Or.inr ⟨?_, ?_⟩⟩
  · rcases grown.unseen with rfl | ⟨nothing, _⟩
    · exact look_of_not_reached split goes missing
    · exact nothing
  · intro follow m there
    exact vacant_of_empty leads split goes entered holds noDot' noDots there

theorem Grown.makeDirectories (settled : Settled w out) (noDot : "." ∉ out.parts)
    (grown : Grown w out v) : Grown w out (v.makeDirectories out.parent umask).1 :=
  makeDirectories_induction (Grown w out)
    (fun _ _ _ grown made => grown.makeDirectory settled noDot made) grown

/-- Where the directory is there already, no further one is made. -/
theorem makeDirectory_ne_ok_of_reached (reached : v.Reached out.anchor out.parent.parts)
    (depth : Nat) (v' : Workspace) :
    v.makeDirectory { out.parent with parts := out.parent.parts.take depth } umask ≠ .ok v' := by
  refine Reached.makeDirectory_ne_ok ?_
  rw [← List.take_append_drop depth out.parent.parts] at reached
  exact reached.of_append

theorem makeDirectories_eq_of_reached (reached : v.Reached out.anchor out.parent.parts) :
    (v.makeDirectories out.parent umask).1 = v := by
  refine makeDirectories_induction (· = v) ?_ rfl
  rintro u u' depth rfl made
  exact absurd made (makeDirectory_ne_ok_of_reached reached depth u')

/-- The names of fresh files differ from that of the report. -/
def Beside (out : Path) (temps : Path → Prop) : Prop :=
  ∀ p, temps p → ∃ front name, p.parts = front ++ [name] ∧ name ≠ "." ∧ name ≠ ".." ∧
    name ≠ out.name

theorem Beside.apart {temps : Path → Prop} (beside : Beside out temps) (noDot : "." ∉ out.parts)
    (entry : namesEntry out = true) {l : Location} (there : v.place false out = some l) (p : Path)
    (temp : temps p) : v.place false p ≠ some l := by
  intro at_
  obtain ⟨front, name, split, notDot, notDots, other⟩ := beside p temp
  have last := place_last at_ split notDot notDots
  simp only [namesEntry] at entry
  cases named : out.parts.getLast? with
  | none => simp [named] at entry
  | some name' =>
    obtain ⟨front', split'⟩ := List.getLast?_eq_some_iff.mp named
    have notDots' : name' ≠ ".." := by simpa [named] using entry
    have notDot' : name' ≠ "." := by
      rintro rfl
      exact noDot (by simp [split'])
    rw [place_last there split' notDot' notDots'] at last
    apply other
    simp [Path.name, split', Option.some.inj last]

/-- A link that stands at the path is not on the way to the path, nor to a fresh file. -/
def Aside (w : Workspace) (out : Path) (temps : Path → Prop) : Prop :=
  ∀ l target, w.place false out = some l → w.tree.get? l = some (.link target) →
    ∀ p, p = out ∨ temps p → (w.without l).place false p = w.place false p

/-- Where the path leads to nothing, no fresh file is made at that place. -/
def Unclaimed (w : Workspace) (out : Path) (temps : Path → Prop) : Prop :=
  ∀ l, w.place true out = some l → w.tree.get? l = none → ∀ p, temps p → w.place false p ≠ some l

theorem Grown.aside {temps : Path → Prop} (grown : Grown w out v) (aside : Aside w out temps) :
    Aside v out temps := by
  rcases grown.unseen with rfl | ⟨_, unseen⟩
  · exact aside
  · intro l target there link
    rw [(unseen false l there).1] at link
    contradiction

theorem Grown.unclaimed {temps : Path → Prop} (grown : Grown w out v) (beside : Beside out temps)
    (unclaimed : Unclaimed w out temps) : Unclaimed v out temps := by
  rcases grown.unseen with rfl | ⟨_, unseen⟩
  · exact unclaimed
  · intro l there _ p temp at_
    obtain ⟨front, name, split, notDot, notDots, other⟩ := beside p temp
    have last := place_last at_ split notDot notDots
    rw [(unseen true l there).2] at last
    exact other (Option.some.inj last).symm

end Report
end FenceCheck
