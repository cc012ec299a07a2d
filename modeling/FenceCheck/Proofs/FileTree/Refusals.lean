import FenceCheck.Proofs.FileTree.Entries

/-! What operations on files fail with. A path without NUL characters is at most refused by the operating
system; and where an operation succeeds, its path has none. -/
namespace FenceCheck

namespace Path

theorem hasNul_eq (p : Path) : p.hasNul = (p.parent.hasNul || p.name.toList.contains '\x00') := by
  rcases List.eq_nil_or_concat p.parts with nothing | ⟨front, name, split⟩
  · simp [hasNul, parent, name, nothing]
  · rw [List.concat_eq_append] at split
    simp [hasNul, parent, Path.name, split]

end Path

namespace Workspace
variable {w v : Workspace} {p q : Path} {f : Fault} {umask mode : Nat}

theorem spot_error {follow : Bool} (named : p.hasNul = false) (failed : w.spot follow p = .error f) :
    ∃ r, f = refused p r := by
  rw [spot, named] at failed
  cases spot : w.tree.spot w.cwd follow p with
  | error r => exact ⟨r, by simpa [spot] using failed.symm⟩
  | ok s => simp [spot] at failed

theorem find_error (named : p.hasNul = false) (failed : w.find p = .error f) : ∃ r, f = refused p r := by
  rw [find_eq] at failed
  cases found : w.spot true p with
  | error g =>
    obtain rfl : g = f := by simpa [found, Except.bind] using failed
    exact spot_error named found
  | ok s =>
    cases s with
    | vacant l => exact ⟨.notFound, by simpa [found, Except.bind] using failed.symm⟩
    | taken l => simp [found, Except.bind] at failed

theorem node_error (named : p.hasNul = false) (failed : w.node p = .error f) : ∃ r, f = refused p r := by
  rw [node] at failed
  cases found : w.find p with
  | error g =>
    obtain rfl : g = f := by simpa [found] using failed
    exact find_error named found
  | ok l =>
    simp only [found, ok_bind] at failed
    split at failed
    · contradiction
    · exact ⟨.notFound, (Except.error.inj failed).symm⟩

theorem readBytes_error (named : p.hasNul = false) (failed : w.readBytes p = .error f) :
    ∃ r, f = refused p r := by
  rw [readBytes] at failed
  cases found : w.node p with
  | error g =>
    obtain rfl : g = f := by simpa [found] using failed
    exact node_error named found
  | ok n =>
    simp only [found, ok_bind] at failed
    split at failed
    · contradiction
    · exact ⟨.isDirectory, (Except.error.inj failed).symm⟩

theorem isRefusal_of_setMode (named : p.hasNul = false) (failed : w.setMode p mode = .error f) :
    f.isRefusal = true := by
  rw [setMode] at failed
  cases found : w.find p with
  | error g =>
    obtain rfl : g = f := by simpa [found] using failed
    obtain ⟨r, rfl⟩ := find_error named found
    rfl
  | ok l =>
    simp only [found, ok_bind] at failed
    split at failed
    · contradiction
    · contradiction
    · exact Except.error.inj failed ▸ rfl

theorem isRefusal_of_rename (namedP : p.hasNul = false) (namedQ : q.hasNul = false)
    (failed : w.rename p q = .error f) : f.isRefusal = true := by
  simp only [rename, namedP, namedQ, Bool.or_self, Bool.false_eq_true, if_false] at failed
  split at failed
  · exact Except.error.inj failed ▸ rfl
  · exact Except.error.inj failed ▸ rfl
  · split at failed
    · exact Except.error.inj failed ▸ rfl
    · split at failed
      · exact Except.error.inj failed ▸ rfl
      · split at failed
        · exact Except.error.inj failed ▸ rfl
        · split at failed <;> contradiction

theorem hasNul_of_createFile {made : Workspace × Location} (done : w.createFile p mode = .ok made) :
    p.hasNul = false := by
  obtain ⟨there, _⟩ := createFile_ok (l := made.2) (v := made.1) done
  obtain ⟨s, found, _⟩ := place_eq_some.mp there
  exact (spot_eq_ok.mp found).1

/-- Directories are made for paths without NUL characters alone. -/
theorem hasNul_of_makeDirectories (made : (w.makeDirectories p umask).2 = .ok ()) :
    p.hasNul = false := by
  have last {w v : Workspace} {r : Except Fault Unit} (attempted : Attempted w p umask v r)
      (done : r = .ok ()) : p.hasNul = false := by
    rcases attempted with made | ⟨_, there⟩
    · obtain ⟨l, found, _⟩ := makeDirectory_ok made
      exact (spot_eq_ok.mp found).1
    · obtain ⟨n, seen, _⟩ := isKind_true_iff_look.mp (there done)
      rw [look_eq] at seen
      obtain ⟨l, place, _⟩ := Option.bind_eq_some_iff.mp seen
      obtain ⟨s, found, _⟩ := place_eq_some.mp place
      exact (spot_eq_ok.mp found).1
  rcases makeDirectories_cases w p umask with once | ⟨_, afterwards⟩
  · exact last once made
  · exact last afterwards made

end Workspace
end FenceCheck
