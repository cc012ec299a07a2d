import FenceCheck.FileTree.Workspace
import FenceCheck.Proofs.FileTree.Walk

/-! What the operations on a workspace do, in terms of the places to which their paths lead. -/
namespace FenceCheck.Workspace
variable {w v : Workspace} {p q : Path} {l : Location}

/-- The place to which a path leads, be there something or not. -/
def place (w : Workspace) (follow : Bool) (p : Path) : Option Location :=
  (w.spot follow p).toOption.map Spot.location

/-- What one sees who opens a path, if anything. -/
def look (w : Workspace) (p : Path) : Option Node :=
  (w.node p).toOption

/-- The workspace without what stands at a location. -/
def without (w : Workspace) (l : Location) : Workspace :=
  { w with tree := w.tree.erase l }

/-- The way of components from where paths with an anchor start. -/
def Leads (w : Workspace) (anchor : Anchor) (parts : List String) (left : Nat) (l : Location) : Prop :=
  w.tree.Leads FileTree.linkLimit (FileTree.startOf w.cwd ⟨anchor, parts⟩) parts left l

section Contents
variable {m : Location}

theorem get?_put_self (w : Workspace) (proper : l ≠ []) (n : Node) :
    (w.put l n).tree.get? l = some n := by
  rw [put, FileTree.get?_put _ proper, if_pos rfl]

theorem get?_put_of_ne (w : Workspace) (proper : l ≠ []) (n : Node) (other : m ≠ l) :
    (w.put l n).tree.get? m = w.tree.get? m := by
  rw [put, FileTree.get?_put _ proper, if_neg other]

theorem get?_without_self (w : Workspace) (proper : l ≠ []) : (w.without l).tree.get? l = none := by
  rw [without, FileTree.get?_erase _ proper, if_pos rfl]

theorem get?_without_of_ne (w : Workspace) (proper : l ≠ []) (other : m ≠ l) :
    (w.without l).tree.get? m = w.tree.get? m := by
  rw [without, FileTree.get?_erase _ proper, if_neg other]

/-- What stands in a workspace stays when a node is put where nothing was. -/
theorem get?_put_of_free {n n' : Node} (free : w.tree.get? l = none) (there : w.tree.get? m = some n) :
    (w.put l n').tree.get? m = some n := by
  have other : m ≠ l := by
    rintro rfl
    rw [free] at there
    contradiction
  rw [get?_put_of_ne w (FileTree.ne_root free) n' other, there]

end Contents

theorem spot_eq_ok {follow : Bool} {s : Spot} : w.spot follow p = .ok s ↔
    p.hasNul = false ∧ ¬ FileTree.pathLimit < p.text.utf8ByteSize ∧
      w.tree.walk follow FileTree.linkLimit (FileTree.startOf w.cwd p) p.parts = .ok s := by
  simp only [spot, FileTree.spot]
  cases p.hasNul with
  | true => simp
  | false =>
    by_cases long : FileTree.pathLimit < p.text.utf8ByteSize
    · simp [long]
    · cases w.tree.walk follow FileTree.linkLimit (FileTree.startOf w.cwd p) p.parts <;> simp [long]

theorem place_eq_some {follow : Bool} :
    w.place follow p = some l ↔ ∃ s, w.spot follow p = .ok s ∧ s.location = l := by
  simp only [place]
  cases w.spot follow p <;> simp [Except.toOption]

theorem place_eq_route (w : Workspace) (follow : Bool) (p : Path) : w.place follow p =
    if p.hasNul = true ∨ FileTree.pathLimit < p.text.utf8ByteSize then none
    else w.tree.route follow FileTree.linkLimit (FileTree.startOf w.cwd p) p.parts := by
  simp only [place, spot, FileTree.spot, FileTree.route]
  cases p.hasNul with
  | true => simp [Except.toOption]
  | false =>
    by_cases long : FileTree.pathLimit < p.text.utf8ByteSize
    · simp [long, Except.toOption]
    · cases w.tree.walk follow FileTree.linkLimit (FileTree.startOf w.cwd p) p.parts <;>
        simp [long, Except.toOption]

theorem place_congr (sameCwd : w.cwd = v.cwd) (same : w.tree.passage = v.tree.passage)
    (follow : Bool) (p : Path) : w.place follow p = v.place follow p := by
  simp only [place_eq_route, sameCwd, FileTree.route_congr same]

theorem spot_of_place {follow : Bool} {n : Node} (there : w.place follow p = some l)
    (occupied : w.tree.get? l = some n) : w.spot follow p = .ok (.taken l) := by
  obtain ⟨s, found, rfl⟩ := place_eq_some.mp there
  cases s with
  | taken l => exact found
  | vacant l =>
    have free := FileTree.get?_of_vacant (spot_eq_ok.mp found).2.2
    exact absurd (free.symm.trans occupied) (by simp)

/-- A path to a file leads there whether links are followed at its end or not. -/
theorem place_true_of_file {mode : Nat} {bytes : List UInt8} (there : w.place false p = some l)
    (file : w.tree.get? l = some (.file mode bytes)) : w.place true p = some l := by
  obtain ⟨s, found, rfl⟩ := place_eq_some.mp there
  obtain ⟨named, short, walked⟩ := spot_eq_ok.mp found
  refine place_eq_some.mpr ⟨s, spot_eq_ok.mpr ⟨named, short, ?_⟩, rfl⟩
  exact FileTree.walk_true_of_no_link walked (by simp [file])

theorem find_eq (w : Workspace) (p : Path) : w.find p = (w.spot true p).bind fun s =>
    match s with
    | .taken l => .ok l
    | .vacant _ => .error (refused p .notFound) := by
  simp only [find, spot]
  split
  · rfl
  · simp only [FileTree.find]
    cases w.tree.spot w.cwd true p with
    | error r => rfl
    | ok s => cases s <;> rfl

theorem find_of_place {n : Node} (there : w.place true p = some l)
    (occupied : w.tree.get? l = some n) : w.find p = .ok l := by
  rw [find_eq, spot_of_place there occupied]
  rfl

theorem look_eq (w : Workspace) (p : Path) : w.look p = (w.place true p).bind w.tree.get? := by
  simp only [look, node, find_eq, place]
  cases found : w.spot true p with
  | error f => rfl
  | ok s =>
    cases s with
    | taken l =>
      simp only [Except.bind, ok_bind, Except.toOption, Option.map_some, Option.bind_some,
        Spot.location]
      cases w.tree.get? l <;> rfl
    | vacant l =>
      have free := FileTree.get?_of_vacant (spot_eq_ok.mp found).2.2
      simp [Except.bind, Except.toOption, Spot.location, free]

theorem createFile_ok {mode : Nat} (made : w.createFile p mode = .ok (v, l)) :
    w.place false p = some l ∧ w.tree.get? l = none ∧ v = w.put l (.file mode []) := by
  simp only [createFile] at made
  cases found : w.spot false p with
  | error f => simp [found] at made
  | ok s =>
    cases s with
    | taken l => simp [found] at made
    | vacant l' =>
      obtain ⟨rfl, rfl⟩ : w.put l' (.file mode []) = v ∧ l' = l := by simpa [found] using made
      exact ⟨place_eq_some.mpr ⟨_, found, rfl⟩,
        FileTree.get?_of_vacant (spot_eq_ok.mp found).2.2, rfl⟩

theorem makeDirectory_ok {umask : Nat} (made : w.makeDirectory p umask = .ok v) :
    ∃ l, w.spot false p = .ok (.vacant l) ∧ v = w.put l (.directory (masked umask 0o777)) := by
  simp only [makeDirectory] at made
  cases found : w.spot false p with
  | error f => simp [found] at made
  | ok s =>
    cases s with
    | taken l => simp [found] at made
    | vacant l => exact ⟨l, rfl, by simpa [found] using made.symm⟩

theorem setMode_file {mode mode' : Nat} {bytes : List UInt8} (there : w.place true p = some l)
    (file : w.tree.get? l = some (.file mode' bytes)) :
    w.setMode p mode = .ok (w.put l (.file mode bytes)) := by
  simp [setMode, find_of_place there file, file]

theorem fill_file {mode : Nat} {old : List UInt8} (file : w.tree.get? l = some (.file mode old))
    (bytes : List UInt8) : w.fill l bytes = w.put l (.file mode bytes) := by
  simp [fill, file]

theorem unlink_file {mode : Nat} {bytes : List UInt8} (there : w.place false p = some l)
    (file : w.tree.get? l = some (.file mode bytes)) : w.unlink p = .ok (w.without l) := by
  simp [unlink, spot_of_place there file, FileTree.isDirectoryAt, file, without]

theorem tree_spot_of_spot {s : Spot} (found : w.spot false p = .ok s) :
    p.hasNul = false ∧ w.tree.spot w.cwd false p = .ok s := by
  obtain ⟨named, short, walked⟩ := spot_eq_ok.mp found
  exact ⟨named, by rw [FileTree.spot, if_neg short, walked]⟩

/-- What moving comes to where both paths lead somewhere. -/
theorem rename_eq {source target : Spot} (from_ : w.spot false p = .ok source)
    (to_ : w.spot false q = .ok target) : w.rename p q =
      let fault (r : Refusal) : Fault := .system ⟨r, p.text, some q.text⟩
      if namesEntry q = false then .error (fault .busy)
      else match w.tree.get? source.location with
        | none => .error (fault .notFound)
        | some node =>
          if w.tree.isDirectoryAt target.location then .error (fault .isDirectory)
          else .ok (if source.location = target.location then w
            else (w.without source.location).put target.location node) := by
  obtain ⟨namedP, spotP⟩ := tree_spot_of_spot from_
  obtain ⟨namedQ, spotQ⟩ := tree_spot_of_spot to_
  simp only [rename, namedP, namedQ, spotP, spotQ, Bool.or_self, Bool.false_eq_true, if_false]
  cases namesEntry q with
  | false => rfl
  | true =>
    cases w.tree.get? source.location with
    | none => rfl
    | some node =>
      cases w.tree.isDirectoryAt target.location with
      | true => rfl
      | false =>
        by_cases same : source.location = target.location
        · simp [same]
        · simp [same, without, put]

/-- A file that is moved takes the place to which the second path leads. -/
theorem rename_ok {n : Node} (there : w.place false p = some l) (occupied : w.tree.get? l = some n)
    (renamed : w.rename p q = .ok v) : ∃ m, w.place false q = some m ∧ namesEntry q = true ∧
      w.tree.isDirectoryAt m = false ∧ v = if l = m then w else (w.without l).put m n := by
  have source := spot_of_place there occupied
  obtain ⟨target, found⟩ : ∃ target, w.spot false q = .ok target := by
    cases spotQ : w.tree.spot w.cwd false q with
    | error r =>
      obtain ⟨namedP, spotP⟩ := tree_spot_of_spot source
      cases namedQ : q.hasNul <;> simp [rename, namedP, namedQ, spotP, spotQ] at renamed
    | ok target =>
      cases namedQ : q.hasNul with
      | true => simp [rename, namedQ] at renamed
      | false => exact ⟨target, by simp [spot, namedQ, spotQ]⟩
  have at_ : w.tree.get? (Spot.taken l).location = some n := occupied
  rw [rename_eq source found, at_] at renamed
  refine ⟨target.location, place_eq_some.mpr ⟨target, found, rfl⟩, ?_⟩
  dsimp only at renamed
  split at renamed
  · contradiction
  · rename_i entry
    split at renamed
    · contradiction
    · rename_i file
      exact ⟨by simpa using entry, by simpa using file, (Except.ok.inj renamed).symm⟩

/-- The workspace `u` is `v` but for what stands at a location. -/
structure Patched (v : Workspace) (l : Location) (o : Option Node) (u : Workspace) : Prop where
  cwd : u.cwd = v.cwd
  here : u.tree.get? l = o
  elsewhere : ∀ m, m ≠ l → u.tree.get? m = v.tree.get? m

namespace Patched
variable {u : Workspace} {o : Option Node}

theorem refl (v : Workspace) (l : Location) : Patched v l (v.tree.get? l) v :=
  ⟨rfl, rfl, fun _ _ => rfl⟩

theorem put (patched : Patched v l o u) (proper : l ≠ []) (n : Node) :
    Patched v l (some n) (u.put l n) :=
  ⟨patched.cwd, get?_put_self u proper n, fun m other =>
    (get?_put_of_ne u proper n other).trans (patched.elsewhere m other)⟩

theorem without (patched : Patched v l o u) (proper : l ≠ []) : Patched v l none (u.without l) :=
  ⟨patched.cwd, get?_without_self u proper, fun m other =>
    (get?_without_of_ne u proper other).trans (patched.elsewhere m other)⟩

/-- Where what stood at the location stands there again, all is as it was. -/
theorem get?_eq (restored : Patched v l (v.tree.get? l) u) (m : Location) :
    u.tree.get? m = v.tree.get? m := by
  by_cases same : m = l
  · rw [same, restored.here]
  · exact restored.elsewhere m same

theorem elsewhere_of_restored (restored : Patched v l (v.tree.get? l) u) (m : Location) :
    Patched v m (v.tree.get? m) u :=
  ⟨restored.cwd, restored.get?_eq m, fun m _ => restored.get?_eq m⟩

/-- Where no path led on from the location before or after, all paths lead where they led. -/
theorem place_eq (patched : Patched v l o u) (same : Passage.of o = v.tree.passage l)
    (follow : Bool) (p : Path) : u.place follow p = v.place follow p := by
  refine place_congr patched.cwd ?_ follow p
  funext m
  by_cases here : m = l
  · subst here
    rw [← same, FileTree.passage, patched.here]
  · simp only [FileTree.passage, patched.elsewhere m here]

end Patched

end FenceCheck.Workspace
