import FenceCheck.Proofs.FileTree.Alike
import FenceCheck.Proofs.Report.LineEnds
import FenceCheck.Proofs.Report.Rerun

/-! Whether a report can be written does not hang on what it says, as long as it can be encoded. Two writings
that differ in their texts alone come through the same stages, in workspaces that differ in what files hold
and in nothing else; so where one report was written any other could have been. -/
namespace FenceCheck.Report
open Workspace FenceCheck.Text
variable {v w u : Workspace} {s now next : Stage} {umask : Nat}

theorem abreast_proceed (alike : v.Alike w) {r r' : Except Fault Workspace}
    (outcomes : AlikeOutcomes r r') :
    Abreast (Writing.proceed v now next r) (Writing.proceed w now next r') := by
  rcases outcomes with ⟨f, rfl, rfl⟩ | ⟨v', w', rfl, rfl, alike'⟩
  · exact ⟨alike, rfl⟩
  · exact ⟨alike', rfl⟩

theorem abreast_create (alike : v.Alike w) (job : Writing) (text : List CodePoint) (tokens : List String) :
    Abreast (job.create v tokens) ({ job with text }.create w tokens) := by
  induction tokens with
  | nil => exact ⟨alike, rfl⟩
  | cons token more ih =>
    have name : { job with text }.temporary w token = job.temporary v token :=
      temporary_congr job alike.cwd.symm token
    simp only [Writing.create, name]
    rcases alike.createFile (job.temporary v token) privateMode with
      ⟨f, refused, refused'⟩ | ⟨v', w', l, made, made', alike'⟩
    · rw [refused, refused']
      cases f with
      | system e =>
        dsimp only
        split
        · exact ih
        · exact ⟨alike, rfl⟩
      | _ => exact ⟨alike, rfl⟩
    · rw [made, made']
      exact ⟨alike', rfl⟩

theorem mode_congr (alike : v.Alike w) (job : Writing) (text : List CodePoint) (umask : Nat) :
    job.mode v umask = { job with text }.mode w umask := by
  rcases alike.node_cases job.out with same | ⟨mode, old, old', file, file'⟩
  · simp only [Writing.mode, same]
  · simp only [Writing.mode, file, file']

/-- The texts of two writings can both be encoded, or neither for the same reason. -/
def AlikeTexts (job job' : Writing) : Prop :=
  job.encoded.map (fun _ => ()) = job'.encoded.map (fun _ => ())

/-- One stage more keeps two writings abreast. -/
theorem abreast_advance (alike : v.Alike w) (job : Writing) (text : List CodePoint)
    (texts : AlikeTexts job { job with text }) (s : Stage) (umask : Nat) :
    Abreast (job.advance v s umask) ({ job with text }.advance w s umask) := by
  cases s with
  | start =>
    obtain ⟨alike', same⟩ := alike.makeDirectories job.out.parent umask
    simp only [Writing.advance]
    generalize v.makeDirectories job.out.parent umask = made at alike' same
    generalize w.makeDirectories job.out.parent umask = made' at alike' same
    obtain ⟨v', r⟩ := made
    obtain ⟨w', r'⟩ := made'
    obtain rfl : r = r' := same
    cases r with
    | ok _ => exact ⟨alike', rfl⟩
    | error f => exact ⟨alike', rfl⟩
  | prepared => exact abreast_create alike job text job.tokens
  | created t =>
    simp only [Writing.advance]
    cases coded : job.encoded with
    | ok bytes =>
      cases coded' : Writing.encoded { job with text } with
      | ok bytes' => exact ⟨alike.fill t.place bytes bytes', rfl⟩
      | error f => simp [AlikeTexts, coded, coded'] at texts
    | error f =>
      cases coded' : Writing.encoded { job with text } with
      | ok bytes' => simp [AlikeTexts, coded, coded'] at texts
      | error f' =>
        obtain rfl : f = f' := by simpa [AlikeTexts, coded, coded'] using texts
        exact ⟨alike, rfl⟩
  | written t =>
    simp only [Writing.advance, ← mode_congr alike job text umask]
    cases job.mode v umask with
    | error f => exact abreast_proceed alike (Or.inl ⟨f, rfl, rfl⟩)
    | ok mode => exact abreast_proceed alike (alike.setMode t.path mode)
  | ready t => exact abreast_proceed alike (alike.rename t.path job.out)
  | cleaning t f => exact abreast_proceed alike (alike.unlink t.path)
  | done => exact ⟨alike, rfl⟩
  | failed f => exact ⟨alike, rfl⟩
  | abandoned t f => exact ⟨alike, rfl⟩

theorem abreast_advanceBy (alike : v.Alike w) (job : Writing) (text : List CodePoint)
    (texts : AlikeTexts job { job with text }) (umask n : Nat) (s : Stage) :
    Abreast (job.advanceBy n v s umask) ({ job with text }.advanceBy n w s umask) := by
  induction n generalizing v w s with
  | zero => exact ⟨alike, rfl⟩
  | succ n ih =>
    obtain ⟨alike', stage⟩ := abreast_advance alike job text texts s umask
    simp only [Writing.advanceBy, ← stage]
    exact ih alike' _

/-- A report is written in both of two alike workspaces, or in neither for the same reason. -/
theorem abreast_writeReport (alike : v.Alike w) (tokens : List String) (report : List Entry) (out : Path)
    (umask : Nat) : Abreast (writeReport v tokens report out umask)
      (writeReport w tokens report out umask) := by
  rw [writeReport, writeReport]
  cases Writing.ofReport report out tokens with
  | error e => exact ⟨alike, rfl⟩
  | ok job =>
    obtain ⟨alike', stage⟩ := abreast_advanceBy alike job job.text rfl umask 6 .start
    simp only [Writing.run]
    generalize job.advanceBy 6 v .start umask = ended at alike' stage
    generalize job.advanceBy 6 w .start umask = ended' at alike' stage
    obtain ⟨v', s⟩ := ended
    obtain ⟨w', s'⟩ := ended'
    obtain rfl : s = s' := stage
    cases s <;> exact ⟨alike', rfl⟩

/-- A scan comes to the same, with all that it logs, in two alike workspaces whose documents hold the same
texts. -/
theorem abreast_scan {paths : List Path} (alike : v.Alike w) (plan : Plan)
    (texts : ∀ p ∈ paths, v.readText p = w.readText p) (tokens : List String) (out : Path)
    (umask : Nat) : Abreast (scan v tokens plan paths out umask) (scan w tokens plan paths out umask) := by
  rw [scan, scan, collect_of_documents plan texts]
  cases (collect w plan paths).outcome with
  | error e => exact ⟨alike, rfl⟩
  | ok s =>
    dsimp only
    obtain ⟨alike', same⟩ := abreast_writeReport alike tokens s.report out umask
    generalize writeReport v tokens s.report out umask = ended at alike' same
    generalize writeReport w tokens s.report out umask = ended' at alike' same
    obtain ⟨v', r⟩ := ended
    obtain ⟨w', r'⟩ := ended'
    obtain rfl : r = r' := same
    cases r <;> exact ⟨alike', rfl⟩

/-- Where one report was written, each that is as its schema demands could have been, if it can be
encoded. -/
theorem exists_writeReport {tokens : List String} {report other : List Entry} {out p : Path}
    (noDot : "." ∉ out.parts) (written : writeReport w tokens report out umask = (u, .ok p))
    (fit : ∀ e ∈ other, e.Fit) (scalar : ∀ e ∈ other, e.Scalar) :
    ∃ u', writeReport w tokens other out umask = (u', .ok out) := by
  obtain ⟨_, text, _, done⟩ := (writeReport_eq_ok_iff noDot).mp written
  obtain ⟨text', bytes', serialized, coded'⟩ := exists_encoded fit scalar
  let job : Writing := ⟨out, text, tokens⟩
  obtain ⟨bytes, coded⟩ : ∃ bytes, job.encoded = .ok bytes := exists_encoded_of_done done
  have texts : AlikeTexts job { job with text := text' } := by
    rw [AlikeTexts, coded, Writing.encoded, coded']
    rfl
  have done' := (abreast_advanceBy (.refl w) job text' texts umask 6 .start).beside
  rw [done] at done'
  exact ⟨_, (writeReport_eq_ok_iff noDot).mpr ⟨rfl, text', serialized, Prod.ext rfl done'.symm⟩⟩

end FenceCheck.Report
