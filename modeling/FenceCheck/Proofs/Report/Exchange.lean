import FenceCheck.Proofs.Report.Race

/-! Every act of writings to one path keeps what is kept during an exchange: one lemma for each step of
a writing, and one for all that may happen. -/
namespace FenceCheck.Report
open Workspace
variable {ι : Type} {jobs : ι → Writing} {out : Path} {temps : Path → Prop}
variable {w v : Workspace} {s : Scene ι}

theorem temporary_congr (job : Writing) (same : w.cwd = v.cwd) (token : String) :
    job.temporary w token = job.temporary v token := by
  simp [Writing.temporary, absolute, same]

/-- Making a fresh file fails and changes nothing, or one of the names was free. -/
theorem create_cases (job : Writing) (w : Workspace) (tokens : List String) :
    (∃ f, job.create w tokens = (w, .failed f)) ∨
      ∃ token ∈ tokens, ∃ u place, w.createFile (job.temporary w token) privateMode = .ok (u, place) ∧
        job.create w tokens = (u, .created ⟨job.temporary w token, place⟩) := by
  induction tokens with
  | nil => exact Or.inl ⟨_, rfl⟩
  | cons token more ih =>
    simp only [Writing.create]
    cases made : w.createFile (job.temporary w token) privateMode with
    | ok r => exact Or.inr ⟨token, by simp, r.1, r.2, made, rfl⟩
    | error f =>
      cases f with
      | system e =>
        by_cases taken : e.refusal = .exists
        · simp only [if_pos taken]
          refine ih.imp_right ?_
          rintro ⟨token', member, found⟩
          exact ⟨token', by simp [member], found⟩
        · exact Or.inl ⟨.system e, by simp only [if_neg taken]⟩
      | _ => exact Or.inl ⟨_, rfl⟩

theorem record_of_not_ready (i : ι) (renamed : List ι) {now next : Stage}
    (earlier : ∀ t, now ≠ .ready t) : Scene.record i renamed now next = renamed := by
  cases now with
  | ready t => exact absurd rfl (earlier t)
  | _ => rfl

/-- Writings to one path that do not get in one another's way. -/
structure Arena (jobs : ι → Writing) (out : Path) (temps : Path → Prop) (v : Workspace) : Prop where
  shared : ∀ i, (jobs i).out = out
  named : ∀ i, ∀ token ∈ (jobs i).tokens, temps ((jobs i).temporary v token)
  beside : Beside out temps
  noDot : "." ∉ out.parts
  aside : Aside v out temps
  unclaimed : Unclaimed v out temps

theorem Arena.grown (arena : Arena jobs out temps w) (grown : Grown w out v) :
    Arena jobs out temps v where
  shared := arena.shared
  named i token member := by
    rw [temporary_congr (jobs i) grown.cwd]
    exact arena.named i token member
  beside := arena.beside
  noDot := arena.noDot
  aside := grown.aside arena.aside
  unclaimed := grown.unclaimed arena.beside arena.unclaimed

section Steps
variable [DecidableEq ι]

theorem During.advance_start (during : During jobs out temps v s) (arena : Arena jobs out temps v)
    (found : v.Reached out.anchor out.parent.parts) {i : ι} (stage : s.stage i = .start) :
    During jobs out temps v (s.move i ((jobs i).advance s.workspace .start).1
      ((jobs i).advance s.workspace .start).2) := by
  have unchanged : (s.workspace.makeDirectories out.parent).1 = s.workspace :=
    makeDirectories_eq_of_reached (during.reached arena.aside found)
  have idle : (s.stage i).temporary? = none := by rw [stage]; rfl
  simp only [Writing.advance, arena.shared]
  cases made : s.workspace.makeDirectories out.parent with
  | mk u r =>
    obtain rfl : u = s.workspace := by simpa [made] using unchanged
    cases r with
    | ok _ => exact during.restage .prepared idle.symm (by simp [Stage.Complete])
    | error f => exact during.restage (.failed f) idle.symm (by simp [Stage.Complete])

theorem During.advance_prepared (during : During jobs out temps v s)
    (arena : Arena jobs out temps v) {i : ι} (stage : s.stage i = .prepared) :
    During jobs out temps v (s.move i ((jobs i).create s.workspace (jobs i).tokens).1
      ((jobs i).create s.workspace (jobs i).tokens).2) := by
  have idle : (s.stage i).temporary? = none := by rw [stage]; rfl
  rcases create_cases (jobs i) s.workspace (jobs i).tokens with
    ⟨f, failed⟩ | ⟨token, member, u, place, made, created⟩
  · rw [failed]
    exact during.restage (.failed f) idle.symm (by simp [Stage.Complete])
  · obtain ⟨there, free, rfl⟩ := createFile_ok made
    have temp : temps ((jobs i).temporary s.workspace token) := by
      rw [temporary_congr (jobs i) during.cwd]
      exact arena.named i token member
    rw [created]
    rw [during.place_eq arena.aside (Or.inr temp)] at there
    exact during.create (t := ⟨_, place⟩) idle temp there free privateMode

/-- A fault of a step that changed nothing leaves the fresh file as it is. -/
theorem During.meet (during : During jobs out temps v s) (i : ι) (f : Fault) :
    During jobs out temps v (s.move i s.workspace ((s.stage i).meet f)) :=
  during.restage _ (Stage.temporary?_meet f _) Stage.Complete.of_meet

/-- Part of the text, or all of it, reaches the fresh file. -/
theorem During.fill (during : During jobs out temps v s) {i : ι} {t : Temporary} {stage : Stage}
    (holding : (s.stage i).temporary? = some t) (same : stage.temporary? = some t)
    (bytes : List UInt8) (whole : stage.Complete → (jobs i).encoded = .ok bytes) :
    During jobs out temps v (s.move i (s.workspace.fill t.place bytes) stage) := by
  obtain ⟨_, _, _, mode, old, file, _⟩ := during.owned i t holding
  rw [fill_file file]
  exact during.rewrite holding same mode bytes whole

/-- The whole text reaches the fresh file, if it can be encoded. -/
theorem During.advance_created (during : During jobs out temps v s) {i : ι} {t : Temporary}
    (stage : s.stage i = .created t) :
    During jobs out temps v (s.move i ((jobs i).advance s.workspace (.created t)).1
      ((jobs i).advance s.workspace (.created t)).2) := by
  rw [Writing.advance]
  cases coded : (jobs i).encoded with
  | ok bytes => exact during.fill (by rw [stage]; rfl) rfl bytes fun _ => coded
  | error f =>
    have kept := during.meet i f
    rwa [stage] at kept

theorem During.advance_written (during : During jobs out temps v s)
    (arena : Arena jobs out temps v) {i : ι} {t : Temporary} (stage : s.stage i = .written t) :
    During jobs out temps v (s.move i ((jobs i).advance s.workspace (.written t)).1
      ((jobs i).advance s.workspace (.written t)).2) := by
  have holding : (s.stage i).temporary? = some t := by rw [stage]; rfl
  obtain ⟨_, _, _, mode, bytes, file, whole⟩ := during.owned i t holding
  have complete : (jobs i).encoded = .ok bytes := whole (by rw [stage]; trivial)
  obtain ⟨_, there⟩ := during.place_temporary arena.aside holding
  simp only [Writing.advance]
  cases (jobs i).mode s.workspace with
  | error f =>
    have kept := during.meet i f
    rwa [stage] at kept
  | ok given =>
    rw [ok_bind, setMode_file there file]
    exact during.rewrite holding rfl given bytes fun _ => complete

theorem During.advance_cleaning (during : During jobs out temps v s)
    (arena : Arena jobs out temps v) {i : ι} {t : Temporary} {f : Fault}
    (stage : s.stage i = .cleaning t f) :
    During jobs out temps v (s.move i ((jobs i).advance s.workspace (.cleaning t f)).1
      ((jobs i).advance s.workspace (.cleaning t f)).2) := by
  have holding : (s.stage i).temporary? = some t := by rw [stage]; rfl
  obtain ⟨_, _, _, mode, bytes, file, _⟩ := during.owned i t holding
  obtain ⟨there, _⟩ := during.place_temporary arena.aside holding
  simp only [Writing.advance, unlink_file there file]
  exact during.release (.failed f) holding rfl

/-- The fresh file becomes the report, or stays where it is to be removed. -/
theorem During.advance_ready (during : During jobs out temps v s) (arena : Arena jobs out temps v) {i : ι}
    {t : Temporary} (stage : s.stage i = .ready t) :
    During jobs out temps v { s.move i ((jobs i).advance s.workspace (.ready t)).1
      ((jobs i).advance s.workspace (.ready t)).2 with
      renamed := Scene.record i s.renamed (.ready t)
        ((jobs i).advance s.workspace (.ready t)).2 } := by
  have holding : (s.stage i).temporary? = some t := by rw [stage]; rfl
  obtain ⟨temp, place, _, mode, bytes, file, whole⟩ := during.owned i t holding
  have complete : (jobs i).encoded = .ok bytes := whole (by rw [stage]; trivial)
  obtain ⟨there, _⟩ := during.place_temporary arena.aside holding
  simp only [Writing.advance, arena.shared]
  cases renamed : s.workspace.rename t.path out with
  | error f =>
    have kept := during.meet i f
    rw [stage] at kept
    have unrecorded : Scene.record i s.renamed (.ready t) ((Stage.ready t).meet f) = s.renamed := by
      rw [Stage.meet]
      split <;> rfl
    rwa [Writing.proceed, unrecorded]
  | ok u =>
    obtain ⟨l, goal, entry, outside, rfl⟩ := rename_ok there file renamed
    rw [during.place_eq arena.aside (Or.inl rfl)] at goal
    have apart := arena.beside.apart arena.noDot entry goal
    have other : t.place ≠ l := by
      rintro rfl
      exact apart _ temp place
    rw [if_neg other]
    -- one step of the files, two of what is kept: the fresh file goes, then the report is there
    have released := during.release .done holding rfl
    exact released.enthrone goal (during.isDirectoryAt_of_not outside) apart complete mode

/-- Every step of a writing keeps what is kept during an exchange. -/
theorem During.advance (during : During jobs out temps v s) (arena : Arena jobs out temps v)
    (found : v.Reached out.anchor out.parent.parts) (i : ι) :
    During jobs out temps v (s.perform jobs (.advance i)) := by
  simp only [Scene.perform]
  cases stage : s.stage i with
  | start =>
    rw [record_of_not_ready i s.renamed (by simp)]
    exact during.advance_start arena found stage
  | prepared =>
    rw [record_of_not_ready i s.renamed (by simp)]
    exact during.advance_prepared arena stage
  | created t =>
    rw [record_of_not_ready i s.renamed (by simp)]
    exact during.advance_created stage
  | written t =>
    rw [record_of_not_ready i s.renamed (by simp)]
    exact during.advance_written arena stage
  | ready t => exact during.advance_ready arena stage
  | cleaning t f =>
    rw [record_of_not_ready i s.renamed (by simp)]
    exact during.advance_cleaning arena stage
  | done =>
    rw [record_of_not_ready i s.renamed (by simp)]
    exact during.restage .done (by rw [stage]) (by simp [Stage.Complete])
  | failed f =>
    rw [record_of_not_ready i s.renamed (by simp)]
    exact during.restage (.failed f) (by rw [stage]) (by simp [Stage.Complete])
  | abandoned t f =>
    rw [record_of_not_ready i s.renamed (by simp)]
    exact during.restage (.abandoned t f) (by rw [stage]) (by simp [Stage.Complete])

theorem move_self (s : Scene ι) (i : ι) (u : Workspace) :
    s.move i u (s.stage i) = { s with workspace := u } := by
  have same : (fun j => if j = i then s.stage i else s.stage j) = s.stage := by
    funext j
    split
    · rename_i mine
      rw [mine]
    · rfl
  simp [Scene.move, same]

/-- Whatever happens keeps what is kept during an exchange. -/
theorem During.act (during : During jobs out temps v s) (arena : Arena jobs out temps v)
    (found : v.Reached out.anchor out.parent.parts) (a : Act ι) : During jobs out temps v (s.act jobs a) := by
  rw [Scene.act]
  split
  · exact during
  · cases a with
    | advance i => exact during.advance arena found i
    | ascend i depth =>
      simp only [Scene.perform]
      split
      · split
        · rename_i made
          rw [arena.shared] at made
          exact absurd made (makeDirectory_ne_ok_of_reached (during.reached arena.aside found) _ _)
        · exact during
      · exact during
    | spill i count =>
      simp only [Scene.perform]
      split
      · rename_i t stage
        split
        · rw [← move_self s i]
          have holding : (s.stage i).temporary? = some t := by rw [stage]; rfl
          exact during.fill holding holding _ (by simp [stage, Stage.Complete])
        · exact during
      · exact during
    | refuse i e => exact during.meet i (.system e)
    | crash i => exact ⟨during.cwd, during.owned, during.alone, during.frame, during.placed⟩

end Steps

end FenceCheck.Report
