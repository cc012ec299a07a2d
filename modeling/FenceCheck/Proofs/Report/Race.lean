import FenceCheck.Proofs.Report.Ground
import FenceCheck.Proofs.Report.Leftover

/-! Reports that are exchanged at one path at the same time. As long as a fresh file is there it belongs
to one writing, which alone changes it; all else stays as it was found, but for the report itself, which
is always that of the writing that put its report in place last. -/
namespace FenceCheck.Report
open Workspace

namespace Stage

/-- The fresh file that is there. -/
def temporary? : Stage → Option Temporary
  | .created t | .written t | .ready t | .cleaning t _ | .abandoned t _ => some t
  | .start | .prepared | .done | .failed _ => none

/-- The fresh file holds the whole text. -/
def Complete : Stage → Prop
  | .written _ | .ready _ => True
  | _ => False

@[simp] theorem temporary?_meet (f : Fault) (s : Stage) : (s.meet f).temporary? = s.temporary? := by
  cases s with
  | created t | written t | ready t =>
    rw [meet]
    split <;> rfl
  | _ => rfl

theorem Complete.of_meet {f : Fault} {s : Stage} (complete : (s.meet f).Complete) : s.Complete := by
  cases s with
  | created t =>
    rw [meet] at complete
    split at complete <;> exact complete.elim
  | written t | ready t => trivial
  | _ => exact complete.elim

end Stage

section During
variable {ι : Type} {jobs : ι → Writing} {out : Path} {temps : Path → Prop}
variable {v : Workspace} {s : Scene ι}

/-- A place of a fresh file that is there. -/
def Scene.Holds (s : Scene ι) (l : Location) : Prop :=
  ∃ i t, (s.stage i).temporary? = some t ∧ t.place = l

/-- What is kept while reports are exchanged in a workspace that was once `v`. -/
structure During (jobs : ι → Writing) (out : Path) (temps : Path → Prop) (v : Workspace)
    (s : Scene ι) : Prop where
  cwd : s.workspace.cwd = v.cwd
  owned : ∀ i t, (s.stage i).temporary? = some t →
    temps t.path ∧ v.place false t.path = some t.place ∧ v.tree.get? t.place = none ∧
      ∃ mode bytes, s.workspace.tree.get? t.place = some (.file mode bytes) ∧
        ((s.stage i).Complete → (jobs i).encoded = .ok bytes)
  alone : ∀ i j t u, (s.stage i).temporary? = some t → (s.stage j).temporary? = some u →
    t.place = u.place → i = j
  frame : ∀ l, ¬ s.Holds l → (s.renamed ≠ [] → v.place false out ≠ some l) →
    s.workspace.tree.get? l = v.tree.get? l
  placed : ∀ i earlier, s.renamed = i :: earlier → ∃ l, v.place false out = some l ∧
    v.tree.isDirectoryAt l = false ∧ (∀ p, temps p → v.place false p ≠ some l) ∧
    ∃ mode bytes, (jobs i).encoded = .ok bytes ∧ s.workspace.tree.get? l = some (.file mode bytes)

namespace During

theorem file_of_holds (during : During jobs out temps v s) {l : Location} (holds : s.Holds l) :
    v.tree.get? l = none ∧ ∃ mode bytes, s.workspace.tree.get? l = some (.file mode bytes) := by
  obtain ⟨i, t, holding, rfl⟩ := holds
  obtain ⟨_, _, free, mode, bytes, file, _⟩ := during.owned i t holding
  exact ⟨free, mode, bytes, file⟩

/-- As long as no report was put in place, the workspace differs in its files alone. -/
theorem passage_of_none (during : During jobs out temps v s) (none_ : s.renamed = []) :
    s.workspace.tree.passage = v.tree.passage := by
  funext l
  by_cases holds : s.Holds l
  · obtain ⟨free, mode, bytes, file⟩ := during.file_of_holds holds
    simp [FileTree.passage, free, file, Passage.of]
  · simp only [FileTree.passage]
    rw [during.frame l holds fun some_ => absurd none_ some_]

/-- Afterwards it differs from that without the node at the report's place. -/
theorem passage_of_placed (during : During jobs out temps v s) {i : ι} {earlier : List ι}
    (some_ : s.renamed = i :: earlier) {l : Location} (there : v.place false out = some l) :
    s.workspace.tree.passage = (v.without l).tree.passage := by
  obtain ⟨l', there', noDirectory, _, mode, bytes, _, file⟩ := during.placed i earlier some_
  obtain rfl : l' = l := Option.some.inj (there'.symm.trans there)
  have proper := FileTree.ne_root_of_no_directory noDirectory
  funext m
  simp only [FileTree.passage]
  by_cases same : m = l'
  · subst same
    simp [file, get?_without_self v proper, Passage.of]
  · rw [get?_without_of_ne v proper same]
    by_cases holds : s.Holds m
    · obtain ⟨free, mode, bytes, file⟩ := during.file_of_holds holds
      simp [free, file, Passage.of]
    · rw [during.frame m holds]
      intro _ here
      exact same (Option.some.inj (here.symm.trans there))

/-- All the while the path and those of fresh files lead to the same places. -/
theorem place_eq (during : During jobs out temps v s)
    (aside : Aside v out temps)
    {p : Path} (known : p = out ∨ temps p) : s.workspace.place false p = v.place false p := by
  cases renamed : s.renamed with
  | nil => exact place_congr during.cwd (during.passage_of_none renamed) false p
  | cons i earlier =>
    obtain ⟨l, there, noDirectory, _, _⟩ := during.placed i earlier renamed
    rw [place_congr (v := v.without l) during.cwd (during.passage_of_placed renamed there)]
    have proper := FileTree.ne_root_of_no_directory noDirectory
    by_cases link : ∃ target, v.tree.get? l = some (.link target)
    · obtain ⟨target, link⟩ := link
      exact aside l target there link p known
    · -- where no link stood, no path led on from the report's place before either
      have closed : v.tree.passage l = .closed := by
        cases way : v.tree.passage l with
        | closed => rfl
        | directory => simp [FileTree.passage_directory.mp way] at noDirectory
        | link target => exact absurd ⟨target, FileTree.passage_link.mp way⟩ link
      refine @place_congr (v.without l) v rfl ?_ false p
      funext m
      by_cases same : m = l
      · subst same
        rw [closed]
        simp [FileTree.passage, get?_without_self v proper, Passage.of]
      · simp [FileTree.passage, get?_without_of_ne v proper same]

/-- A whole report takes the report's place. -/
theorem enthrone (during : During jobs out temps v s) {l : Location}
    (there : v.place false out = some l) (noDirectory : v.tree.isDirectoryAt l = false)
    (apart : ∀ p, temps p → v.place false p ≠ some l) {i : ι} {bytes : List UInt8}
    (coded : (jobs i).encoded = .ok bytes) (mode : Nat) :
    During jobs out temps v { s with
      workspace := s.workspace.put l (.file mode bytes)
      renamed := i :: s.renamed } := by
  have proper := FileTree.ne_root_of_no_directory noDirectory
  have others {m : Location} (other : m ≠ l) :=
    get?_put_of_ne s.workspace proper (.file mode bytes) other
  refine ⟨during.cwd, ?_, during.alone, ?_, ?_⟩
  · intro j t holding
    obtain ⟨temp, at_, free, mode', bytes', file, whole⟩ := during.owned j t holding
    refine ⟨temp, at_, free, mode', bytes', (others ?_).trans file, whole⟩
    rintro rfl
    exact apart _ temp at_
  · intro m unheld unplaced
    have other : m ≠ l := by
      rintro rfl
      exact unplaced (by simp) there
    refine (others other).trans (during.frame m unheld ?_)
    exact fun _ => unplaced (by simp)
  · intro j earlier renamed
    obtain ⟨rfl, rfl⟩ : i = j ∧ s.renamed = earlier := by simpa using renamed
    exact ⟨l, there, noDirectory, apart, mode, bytes, coded, get?_put_self s.workspace proper _⟩

/-- Where there was a directory there still is one. -/
theorem isDirectoryAt_of_not (during : During jobs out temps v s) {l : Location}
    (outside : s.workspace.tree.isDirectoryAt l = false) : v.tree.isDirectoryAt l = false := by
  by_cases holds : s.Holds l
  · simp [FileTree.isDirectoryAt, (during.file_of_holds holds).1]
  · cases renamed : s.renamed with
    | nil =>
      have same := during.frame l holds fun some_ => absurd renamed some_
      simpa only [FileTree.isDirectoryAt, same] using outside
    | cons j earlier =>
      obtain ⟨m, there, noDirectory, _⟩ := during.placed j earlier renamed
      by_cases here : m = l
      · exact here ▸ noDirectory
      · have same := during.frame l holds fun _ here' => here (Option.some.inj (there.symm.trans here'))
        simpa only [FileTree.isDirectoryAt, same] using outside

section Steps
variable [DecidableEq ι]

@[simp] theorem move_stage_self (s : Scene ι) (i : ι) (w : Workspace) (stage : Stage) :
    (s.move i w stage).stage i = stage := by
  simp [Scene.move]

theorem move_stage_of_ne (s : Scene ι) {i j : ι} (other : j ≠ i) (w : Workspace) (stage : Stage) :
    (s.move i w stage).stage j = s.stage j := by
  simp [Scene.move, other]

/-- A writing goes on with the same fresh file, with a new one or without any, and nothing but these
changes. -/
theorem step (during : During jobs out temps v s) {i : ι} {w : Workspace} {stage : Stage}
    (sameCwd : w.cwd = s.workspace.cwd)
    (others : ∀ l, (∀ t, (s.stage i).temporary? = some t ∨ stage.temporary? = some t → t.place ≠ l) →
      w.tree.get? l = s.workspace.tree.get? l)
    (own : ∀ t, stage.temporary? = some t →
      temps t.path ∧ v.place false t.path = some t.place ∧ v.tree.get? t.place = none ∧
        ∃ mode bytes, w.tree.get? t.place = some (.file mode bytes) ∧
          (stage.Complete → (jobs i).encoded = .ok bytes))
    (apart : ∀ t, stage.temporary? = some t → ∀ j u, (s.stage j).temporary? = some u →
      t.place = u.place → i = j)
    (gone : ∀ t, (s.stage i).temporary? = some t → stage.temporary? ≠ some t →
      w.tree.get? t.place = v.tree.get? t.place) :
    During jobs out temps v (s.move i w stage) := by
  refine ⟨sameCwd.trans during.cwd, ?_, ?_, ?_, ?_⟩
  · intro j t holding
    by_cases mine : j = i
    · subst mine
      rw [move_stage_self] at holding ⊢
      exact own t holding
    · rw [move_stage_of_ne s mine] at holding ⊢
      obtain ⟨temp, there, free, mode, bytes, file, whole⟩ := during.owned j t holding
      refine ⟨temp, there, free, mode, bytes, (others t.place ?_).trans file, whole⟩
      rintro u (old | new) clash
      · exact mine (during.alone j i t u holding old clash.symm)
      · exact mine (apart u new j t holding clash).symm
  · intro j k t u first second clash
    by_cases mine : j = i
    · by_cases yours : k = i
      · rw [mine, yours]
      · subst mine
        rw [move_stage_self] at first
        rw [move_stage_of_ne s yours] at second
        exact apart t first k u second clash
    · rw [move_stage_of_ne s mine] at first
      by_cases yours : k = i
      · subst yours
        rw [move_stage_self] at second
        exact (apart u second j t first clash.symm).symm
      · rw [move_stage_of_ne s yours] at second
        exact during.alone j k t u first second clash
  · intro l free unplaced
    by_cases held : ∃ t, (s.stage i).temporary? = some t ∧ t.place = l
    · obtain ⟨t, holding, rfl⟩ := held
      refine gone t holding fun still => free ⟨i, t, ?_, rfl⟩
      rw [move_stage_self, still]
    · refine (others l ?_).trans (during.frame l ?_ unplaced)
      · rintro t (old | new) here
        · exact held ⟨t, old, here⟩
        · exact free ⟨i, t, by rw [move_stage_self, new], here⟩
      · rintro ⟨j, u, holding, here⟩
        by_cases mine : j = i
        · exact held ⟨u, mine ▸ holding, here⟩
        · exact free ⟨j, u, by rw [move_stage_of_ne s mine, holding], here⟩
  · intro j earlier renamed
    obtain ⟨l, there, noDirectory, beside, mode, bytes, coded, file⟩ := during.placed j earlier renamed
    refine ⟨l, there, noDirectory, beside, mode, bytes, coded, (others l ?_).trans file⟩
    rintro t (old | new) rfl
    · obtain ⟨temp, at_, _⟩ := during.owned i t old
      exact beside _ temp at_
    · obtain ⟨temp, at_, _⟩ := own t new
      exact beside _ temp at_

theorem restage (during : During jobs out temps v s) {i : ι} (stage : Stage)
    (same : stage.temporary? = (s.stage i).temporary?)
    (complete : stage.Complete → (s.stage i).Complete) :
    During jobs out temps v (s.move i s.workspace stage) := by
  refine during.step rfl (fun _ _ => rfl) ?_ ?_ ?_
  · intro t holding
    obtain ⟨temp, there, free, mode, bytes, file, whole⟩ := during.owned i t (same ▸ holding)
    exact ⟨temp, there, free, mode, bytes, file, fun more => whole (complete more)⟩
  · intro t holding j u holding' clash
    exact during.alone i j t u (same ▸ holding) holding' clash
  · intro t holding other
    exact absurd (same.trans holding) other

/-- The fresh file of a writing gets other bytes or another mode. -/
theorem rewrite (during : During jobs out temps v s) {i : ι} {t : Temporary} {stage : Stage}
    (holding : (s.stage i).temporary? = some t) (same : stage.temporary? = some t)
    (mode : Nat) (bytes : List UInt8) (whole : stage.Complete → (jobs i).encoded = .ok bytes) :
    During jobs out temps v (s.move i (s.workspace.put t.place (.file mode bytes)) stage) := by
  obtain ⟨temp, there, free, _⟩ := during.owned i t holding
  have proper := FileTree.ne_root free
  refine during.step rfl ?_ ?_ ?_ ?_
  · intro l other
    exact get?_put_of_ne s.workspace proper _ fun clash => other t (Or.inl holding) clash.symm
  · intro u holding'
    obtain rfl : t = u := Option.some.inj (same.symm.trans holding')
    exact ⟨temp, there, free, mode, bytes, get?_put_self s.workspace proper _, whole⟩
  · intro u holding' j u' held clash
    obtain rfl : t = u := Option.some.inj (same.symm.trans holding')
    exact during.alone i j t u' holding held clash
  · intro u holding' other
    exact absurd (same.trans (holding.symm.trans holding')) other

/-- A fresh file is made at a place where nothing is. -/
theorem create (during : During jobs out temps v s) {i : ι} {t : Temporary}
    (idle : (s.stage i).temporary? = none) (temp : temps t.path)
    (there : v.place false t.path = some t.place)
    (free : s.workspace.tree.get? t.place = none) (mode : Nat) :
    During jobs out temps v
      (s.move i (s.workspace.put t.place (.file mode [])) (.created t)) := by
  have proper := FileTree.ne_root free
  have unheld : ¬ s.Holds t.place := by
    intro holds
    obtain ⟨_, mode, bytes, file⟩ := during.file_of_holds holds
    rw [free] at file
    contradiction
  have unplaced : s.renamed ≠ [] → v.place false out ≠ some t.place := by
    intro some_ clash
    obtain ⟨j, earlier, renamed⟩ := List.exists_cons_of_ne_nil some_
    obtain ⟨l, at_, _, apart, _⟩ := during.placed j earlier renamed
    rw [at_] at clash
    exact apart _ temp (there.trans clash.symm)
  refine during.step rfl ?_ ?_ ?_ ?_
  · intro l other
    exact get?_put_of_ne s.workspace proper _ fun clash => other t (Or.inr rfl) clash.symm
  · intro u holding
    obtain rfl : t = u := Option.some.inj holding
    refine ⟨temp, there, ?_, mode, [], get?_put_self s.workspace proper _, by simp [Stage.Complete]⟩
    rw [← during.frame _ unheld unplaced, free]
  · intro u holding j u' held clash
    obtain rfl : t = u := Option.some.inj holding
    exact absurd ⟨j, u', held, clash.symm⟩ unheld
  · intro u holding _
    rw [idle] at holding
    contradiction

/-- The fresh file of a writing goes away. -/
theorem release (during : During jobs out temps v s) {i : ι} {t : Temporary} (stage : Stage)
    (holding : (s.stage i).temporary? = some t) (given : stage.temporary? = none) :
    During jobs out temps v (s.move i (s.workspace.without t.place) stage) := by
  obtain ⟨_, _, free, _⟩ := during.owned i t holding
  have proper := FileTree.ne_root free
  have nothing {u : Temporary} (held : stage.temporary? = some u) : False := by
    rw [given] at held
    contradiction
  refine during.step rfl ?_ ?_ ?_ ?_
  · intro l other
    exact get?_without_of_ne s.workspace proper fun clash => other t (Or.inl holding) clash.symm
  · intro u held
    exact (nothing held).elim
  · intro u held
    exact (nothing held).elim
  · intro u holding' _
    obtain rfl : t = u := Option.some.inj (holding.symm.trans holding')
    rw [free]
    exact get?_without_self s.workspace proper

end Steps

/-- The directory of the report is there all the while. -/
theorem reached (during : During jobs out temps v s)
    (aside : Aside v out temps)
    (reached : v.Reached out.anchor out.parent.parts) :
    s.workspace.Reached out.anchor out.parent.parts := by
  cases renamed : s.renamed with
  | nil =>
    refine reached.mono during.cwd fun l n there => ?_
    rw [during.frame l ?_ fun some_ => absurd renamed some_, there]
    intro holds
    rw [(during.file_of_holds holds).1] at there
    contradiction
  | cons i earlier =>
    obtain ⟨l, there, _⟩ := during.placed i earlier renamed
    rw [← during.place_eq aside (Or.inl rfl)] at there
    obtain ⟨spot, found, _⟩ := place_eq_some.mp there
    rcases List.eq_nil_or_concat out.parts with nothing | ⟨front, name, split⟩
    · have top : out.parent.parts = [] := by simp [Path.parent, nothing]
      rw [top]
      exact ⟨_, _, .here⟩
    · rw [List.concat_eq_append] at split
      have above : out.parent.parts = front := by simp [Path.parent, split]
      rw [above]
      exact reached_of_spot found split (by simp)

/-- A fresh file is found under its name, links followed or not. -/
theorem place_temporary (during : During jobs out temps v s) (aside : Aside v out temps) {i : ι}
    {t : Temporary} (holding : (s.stage i).temporary? = some t) :
    s.workspace.place false t.path = some t.place ∧
      s.workspace.place true t.path = some t.place := by
  obtain ⟨temp, there, _, mode, bytes, file, _⟩ := during.owned i t holding
  rw [← during.place_eq aside (Or.inr temp)] at there
  exact ⟨there, place_true_of_file there file⟩

end During
end During
end FenceCheck.Report
