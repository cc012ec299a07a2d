import FenceCheck.Proofs.FileTree.Workspace

/-! Making directories: what is there already stays, and what is new is empty. -/
namespace FenceCheck.Workspace
variable {w v : Workspace} {p : Path} {umask : Nat}

/-- A path leads to something. -/
def Reached (w : Workspace) (anchor : Anchor) (parts : List String) : Prop :=
  ∃ left l, w.Leads anchor parts left l

theorem Reached.of_append (reached : w.Reached a (front ++ back)) : w.Reached a front := by
  obtain ⟨left, l, leads⟩ := reached
  exact FileTree.Leads.of_append leads

/-- Each first part of a path that leads anywhere leads to something. -/
theorem reached_of_spot {follow : Bool} {s : Spot} (found : w.spot follow p = .ok s)
    (split : p.parts = front ++ back) (more : back ≠ []) : w.Reached p.anchor front := by
  obtain ⟨_, _, walked⟩ := spot_eq_ok.mp found
  rw [split] at walked
  exact FileTree.exists_leads (Or.inl more) walked

theorem reached_of_find {l : Location} (found : w.find p = .ok l) : w.Reached p.anchor p.parts := by
  rw [find_eq] at found
  cases there : w.spot true p with
  | error f => simp [there, Except.bind] at found
  | ok s =>
    cases s with
    | vacant m => simp [there, Except.bind] at found
    | taken m =>
      obtain ⟨_, _, walked⟩ := spot_eq_ok.mp there
      rw [← List.append_nil p.parts] at walked
      exact FileTree.exists_leads (Or.inr ⟨rfl, m, rfl⟩) walked

theorem Reached.mono (sameCwd : v.cwd = w.cwd)
    (kept : ∀ l n, w.tree.get? l = some n → v.tree.get? l = some n) (reached : w.Reached a parts) :
    v.Reached a parts := by
  obtain ⟨left, l, leads⟩ := reached
  refine ⟨left, l, ?_⟩
  rw [Leads, sameCwd]
  exact FileTree.Leads.mono kept leads

/-- What is there is not made again. -/
theorem Reached.makeDirectory_ne_ok (reached : w.Reached p.anchor p.parts) :
    w.makeDirectory p umask ≠ .ok v := by
  intro made
  obtain ⟨l, free, _⟩ := makeDirectory_ok made
  obtain ⟨left, goal, leads⟩ := reached
  exact FileTree.Leads.not_vacant leads l (spot_eq_ok.mp free).2.2

/-- A directory that was made is reached; it stands where nothing was, in a directory. -/
theorem makeDirectory_leads (made : w.makeDirectory p umask = .ok v) :
    ∃ left l, v.Leads p.anchor p.parts left l ∧ w.tree.get? l = none ∧
      w.tree.isDirectoryAt l.dropLast = true ∧ v = w.put l (.directory (masked umask 0o777)) := by
  obtain ⟨l, free, rfl⟩ := makeDirectory_ok made
  have walked := (spot_eq_ok.mp free).2.2
  have vacant := FileTree.get?_of_vacant walked
  obtain ⟨front, name, left, directory, split, leads, inside, plain, rfl⟩ :=
    FileTree.walk_vacant walked
  have kept : ∀ m n, w.tree.get? m = some n →
      (w.put (directory ++ [name]) (.directory (masked umask 0o777))).tree.get? m = some n :=
    fun _ _ => get?_put_of_free vacant
  obtain ⟨mode, there⟩ := FileTree.isDirectoryAt_iff.mp inside
  have entered : (w.put (directory ++ [name]) (.directory (masked umask 0o777))).tree.isDirectoryAt
      directory = true :=
    FileTree.isDirectoryAt_iff.mpr ⟨mode, kept _ _ there⟩
  have new := get?_put_self w (FileTree.ne_root vacant) (.directory (masked umask 0o777))
  have way := (FileTree.Leads.mono kept leads).trans (.down entered plain new (by simp) .here)
  rw [← split] at way
  exact ⟨left, _, way, vacant, by simpa using inside, rfl⟩

theorem isDirectory_reached (there : w.isDirectory p = .ok true) : w.Reached p.anchor p.parts := by
  simp only [isDirectory, isKind, node] at there
  cases found : w.find p with
  | ok l => exact reached_of_find found
  | error f =>
    simp only [found, error_bind] at there
    split at there
    · contradiction
    · split at there <;> simp at there
    · simp at there
    · simp at there

/-- One attempt at a directory: it is made, or all stays as it is, which is fine if it is there. -/
def Attempted (w : Workspace) (p : Path) (umask : Nat) (v : Workspace) (r : Except Fault Unit) :
    Prop :=
  w.makeDirectory p umask = .ok v ∨ v = w ∧ (r = .ok () → w.isDirectory p = .ok true)

/-- Directories are made by one attempt, or by one after those above. -/
theorem makeDirectories_cases (w : Workspace) (p : Path) (umask : Nat) :
    Attempted w p umask (w.makeDirectories p umask).1 (w.makeDirectories p umask).2 ∨
      p.parts ≠ [] ∧ Attempted (w.makeDirectories p.parent umask).1 p umask
        (w.makeDirectories p umask).1 (w.makeDirectories p umask).2 := by
  rw [makeDirectories]
  cases first : w.makeDirectory p umask with
  | ok v => exact Or.inl (Or.inl first)
  | error f =>
    cases f with
    | system e =>
      by_cases present : e.refusal ≠ .notFound
      · left; right
        simp only [if_pos present]
        split <;> simp_all
      · by_cases top : p.parts = []
        · exact Or.inl (Or.inr (by simp [present, top]))
        · simp only [if_neg present, dif_neg top]
          cases above : w.makeDirectories p.parent umask with
          | mk w' r =>
            cases r with
            | error f => exact Or.inr ⟨top, Or.inr ⟨rfl, by simp⟩⟩
            | ok _ =>
              dsimp only
              cases second : w'.makeDirectory p umask with
              | ok v => exact Or.inr ⟨top, Or.inl second⟩
              | error f =>
                refine Or.inr ⟨top, Or.inr ?_⟩
                cases f with
                | system e =>
                  dsimp only
                  split
                  · simp
                  · split <;> simp_all
                | _ => simp
    | _ => exact Or.inl (Or.inr (by simp))

/-- What each single directory on the way keeps, all directories keep. -/
theorem makeDirectories_induction {w : Workspace} {p : Path} (P : Workspace → Prop)
    (step : ∀ w v depth, P w →
      w.makeDirectory { p with parts := p.parts.take depth } umask = .ok v → P v)
    (holds : P w) : P (w.makeDirectories p umask).1 := by
  have last {w v : Workspace} {r : Except Fault Unit} (holds : P w)
      (attempted : Attempted w p umask v r) : P v := by
    rcases attempted with made | ⟨rfl, _⟩
    · exact step w v p.parts.length holds (by simpa using made)
    · exact holds
  rcases makeDirectories_cases w p umask with once | ⟨some_, afterwards⟩
  · exact last holds once
  · refine last (makeDirectories_induction P ?_ holds) afterwards
    intro w v depth holds made
    refine step w v (min depth (p.parts.length - 1)) holds ?_
    simpa [Path.parent, List.dropLast_eq_take, List.take_take] using made
termination_by p.parts.length
decreasing_by
  have := List.length_pos_iff.mpr some_
  simp only [Path.parent, List.length_dropLast]
  omega

theorem makeDirectories_reached (made : w.makeDirectories p umask = (v, .ok ())) :
    v.Reached p.anchor p.parts := by
  have last {w : Workspace} (attempted : Attempted w p umask v (.ok ())) : v.Reached p.anchor p.parts := by
    rcases attempted with made | ⟨rfl, there⟩
    · obtain ⟨left, l, leads, _⟩ := makeDirectory_leads made
      exact ⟨left, l, leads⟩
    · exact isDirectory_reached (there rfl)
  have attempts := makeDirectories_cases w p umask
  rw [made] at attempts
  rcases attempts with once | ⟨_, afterwards⟩
  · exact last once
  · exact last afterwards

/-- A workspace to which no more was added than directories on the way to a path. -/
structure Paved (w : Workspace) (p : Path) (umask : Nat) (v : Workspace) : Prop where
  cwd : v.cwd = w.cwd
  rooted : w.tree.Rooted → v.tree.Rooted
  kept : ∀ l, v.tree.get? l = w.tree.get? l ∨
    w.tree.get? l = none ∧ v.tree.get? l = some (.directory (masked umask 0o777)) ∧
      ∃ depth left, v.Leads p.anchor (p.parts.take depth) left l

theorem Paved.refl (w : Workspace) (p : Path) (umask : Nat) : Paved w p umask w :=
  ⟨rfl, id, fun _ => Or.inl rfl⟩

theorem Paved.makeDirectory {u : Workspace} {depth : Nat} (paved : Paved w p umask u)
    (made : u.makeDirectory { p with parts := p.parts.take depth } umask = .ok v) :
    Paved w p umask v := by
  obtain ⟨left, l, leads, free, inside, rfl⟩ := makeDirectory_leads made
  refine ⟨paved.cwd, fun rooted => (paved.rooted rooted).put_directory free inside _, fun m => ?_⟩
  by_cases new : m = l
  · subst new
    refine Or.inr ⟨?_, get?_put_self u (FileTree.ne_root free) _, depth, left, leads⟩
    rcases paved.kept m with same | ⟨nothing, _⟩
    · rw [← same, free]
    · exact nothing
  · rw [get?_put_of_ne u (FileTree.ne_root free) _ new]
    refine (paved.kept m).imp_right ?_
    rintro ⟨nothing, directory, depth', left', leads'⟩
    exact ⟨nothing, directory, depth', left', leads'.mono fun _ _ => get?_put_of_free free⟩

theorem makeDirectories_paved (w : Workspace) (p : Path) (umask : Nat) :
    Paved w p umask (w.makeDirectories p umask).1 :=
  makeDirectories_induction (Paved w p umask) (fun _ _ _ paved made => paved.makeDirectory made)
    (.refl w p umask)

end FenceCheck.Workspace
