import FenceCheck.Proofs.Report.Conformity
import FenceCheck.Proofs.Report.Reader

/-! What one writing of a report does to the files. The directories above the report are made first; in
the workspace of that moment the writing either leaves every place as it is, or changes the place of the
report alone. A text that cannot be encoded leaves an empty file of another name. -/
namespace FenceCheck.Report
open Workspace FenceCheck.Text

/-- The permissions that a report gets where a path leads to this. -/
def permissions (umask : Nat) : Option Node → Nat
  | some (.file mode _) | some (.directory mode) => mode
  | some (.link _) | none => freshMode umask

/-- A link that stands at the path is not on the way to the path. -/
def Clear (w : Workspace) (out : Path) : Prop :=
  Aside w out fun _ => False

variable {w v u : Workspace} {job : Writing} {t : Temporary} {mode umask : Nat} {bytes : List UInt8}

theorem mode_eq_permissions (given : job.mode v umask = .ok mode) :
    mode = permissions umask (v.look job.out) := by
  simp only [Writing.mode, look] at given ⊢
  cases found : v.node job.out with
  | ok n => cases n <;> simpa [found, Except.toOption, permissions] using given.symm
  | error f =>
    cases f with
    | system e =>
      simp only [found] at given
      split at given
      · simpa [Except.toOption, permissions] using given.symm
      · contradiction
    | _ => simp [found] at given

/-- The fresh file of a writing is there, and nothing else has changed. -/
structure Holding (job : Writing) (v : Workspace) (t : Temporary) (mode : Nat) (bytes : List UInt8)
    (u : Workspace) : Prop where
  temp : Temporaries (fun _ : Unit => job) v t.path
  there : v.place false t.path = some t.place
  free : v.tree.get? t.place = none
  held : Patched v t.place (some (.file mode bytes)) u

namespace Holding

/-- A fresh file is on no way, so all paths lead where they led. -/
theorem place_eq (holding : Holding job v t mode bytes u) (follow : Bool) (p : Path) :
    u.place follow p = v.place follow p :=
  holding.held.place_eq (by rw [FileTree.passage, holding.free]; rfl) follow p

theorem place_temporary (holding : Holding job v t mode bytes u) (follow : Bool) :
    u.place follow t.path = some t.place := by
  have there := (holding.place_eq false t.path).trans holding.there
  cases follow with
  | false => exact there
  | true => exact place_true_of_file there holding.held.here

theorem named (holding : Holding job v t mode bytes u) : t.path.hasNul = false := by
  obtain ⟨s, found, _⟩ := place_eq_some.mp holding.there
  exact (spot_eq_ok.mp found).1

theorem rewrite (holding : Holding job v t mode bytes u) (mode' : Nat) (bytes' : List UInt8) :
    Holding job v t mode' bytes' (u.put t.place (.file mode' bytes')) :=
  { holding with held := holding.held.put (FileTree.ne_root holding.free) _ }

theorem removed (holding : Holding job v t mode bytes u) :
    Patched v t.place (v.tree.get? t.place) (u.without t.place) := by
  rw [holding.free]
  exact holding.held.without (FileTree.ne_root holding.free)

/-- What the path shows is not the fresh file, unless a dangling link leads to its name. -/
theorem look_eq (holding : Holding job v t mode bytes u)
    (unclaimed : Unclaimed v job.out (Temporaries (fun _ : Unit => job) v)) :
    u.look job.out = v.look job.out := by
  rw [Workspace.look_eq, Workspace.look_eq, holding.place_eq]
  cases there : v.place true job.out with
  | none => rfl
  | some l =>
    refine holding.held.elsewhere l ?_
    rintro rfl
    exact unclaimed _ there holding.free _ holding.temp holding.there

end Holding

/-- The report stands at the place to which its path leads, and nothing else has changed. -/
structure Placed (job : Writing) (umask : Nat) (v : Workspace) (l : Location) (mode : Nat)
    (bytes : List UInt8) (u : Workspace) : Prop where
  coded : job.encoded = .ok bytes
  there : v.place false job.out = some l
  entry : namesEntry job.out = true
  outside : v.tree.isDirectoryAt l = false
  patched : Patched v l (some (.file mode bytes)) u
  kept : Unclaimed v job.out (Temporaries (fun _ : Unit => job) v) →
    mode = permissions umask (v.look job.out)

/-- How a writing ends in a workspace where the directories above the report were seen to. -/
inductive Closing (job : Writing) (umask : Nat) (v : Workspace) : Workspace × Stage → Prop where
  | failed {u f} (cwd : u.cwd = v.cwd) (same : ∀ l, u.tree.get? l = v.tree.get? l) :
      Closing job umask v (u, .failed f)
  | abandoned {u t f} (coded : job.encoded = .error f) (holding : Holding job v t privateMode [] u) :
      Closing job umask v (u, .abandoned t f)
  | done {u l mode bytes} (placed : Placed job umask v l mode bytes u) : Closing job umask v (u, .done)

namespace Closing

theorem of_failed (cwd : u.cwd = v.cwd) (same : ∀ l, u.tree.get? l = v.tree.get? l) (f : Fault)
    (n : Nat) : Closing job umask v (job.advanceBy n u (.failed f) umask) := by
  rw [advanceBy_failed]
  exact .failed cwd same

theorem of_abandoned {f : Fault} (coded : job.encoded = .error f)
    (holding : Holding job v t privateMode [] u) (n : Nat) :
    Closing job umask v (job.advanceBy n u (.abandoned t f) umask) := by
  rw [advanceBy_abandoned]
  exact .abandoned coded holding

theorem of_done {l : Location} (placed : Placed job umask v l mode bytes u) (n : Nat) :
    Closing job umask v (job.advanceBy n u .done umask) := by
  rw [advanceBy_done]
  exact .done placed

theorem of_cleaning (holding : Holding job v t mode bytes u) (f : Fault) (n : Nat) :
    Closing job umask v (job.advanceBy (n + 1) u (.cleaning t f) umask) := by
  simp only [Writing.advanceBy, Writing.advance,
    unlink_file (holding.place_temporary false) holding.held.here]
  exact of_failed holding.removed.cwd holding.removed.get?_eq f n

theorem of_ready (holding : Holding job v t mode bytes u) (coded : job.encoded = .ok bytes)
    (noDot : "." ∉ job.out.parts) (named : job.out.hasNul = false)
    (given : Unclaimed v job.out (Temporaries (fun _ : Unit => job) v) →
      mode = permissions umask (v.look job.out)) (n : Nat) :
    Closing job umask v (job.advanceBy (n + 2) u (.ready t) umask) := by
  simp only [Writing.advanceBy, Writing.advance]
  cases renamed : u.rename t.path job.out with
  | error f =>
    simp only [Writing.proceed, Stage.meet, isRefusal_of_rename holding.named named renamed, if_true]
    exact of_cleaning holding f n
  | ok u' =>
    obtain ⟨l, goal, entry, outside, rfl⟩ :=
      rename_ok (holding.place_temporary false) holding.held.here renamed
    rw [holding.place_eq] at goal
    have beside := @beside_temporaries Unit (fun _ => job) job.out (fun _ => rfl) v
    -- a fresh file never has the name of the report, so the two places differ
    have other : t.place ≠ l := by
      rintro rfl
      exact beside.apart noDot entry goal t.path holding.temp holding.there
    have same : u.tree.get? l = v.tree.get? l := holding.held.elsewhere l other.symm
    rw [if_neg other]
    refine of_done ⟨coded, goal, entry, ?_, ?_, given⟩ (n + 1)
    · simpa only [FileTree.isDirectoryAt, same] using outside
    · refine (holding.removed.elsewhere_of_restored l).put ?_ _
      exact FileTree.ne_root_of_no_directory outside

theorem of_written (holding : Holding job v t privateMode bytes u) (coded : job.encoded = .ok bytes)
    (noDot : "." ∉ job.out.parts) (named : job.out.hasNul = false) (n : Nat) :
    Closing job umask v (job.advanceBy (n + 3) u (.written t) umask) := by
  rw [Writing.advanceBy, Writing.advance]
  cases given : job.mode u umask with
  | error f =>
    simp only [error_bind, Writing.proceed, Stage.meet, isRefusal_of_mode named given, if_true]
    exact of_cleaning holding f (n + 1)
  | ok mode =>
    rw [ok_bind, setMode_file (holding.place_temporary true) holding.held.here]
    refine of_ready (holding.rewrite mode bytes) coded noDot named (fun unclaimed => ?_) n
    rw [mode_eq_permissions given, holding.look_eq unclaimed]

theorem of_created (holding : Holding job v t privateMode [] u) (noDot : "." ∉ job.out.parts)
    (named : job.out.hasNul = false) (n : Nat) :
    Closing job umask v (job.advanceBy (n + 4) u (.created t) umask) := by
  rw [Writing.advanceBy, Writing.advance]
  cases coded : job.encoded with
  | ok bytes =>
    dsimp only
    rw [fill_file holding.held.here]
    exact of_written (holding.rewrite privateMode bytes) coded noDot named n
  | error f =>
    obtain ⟨e, _, rfl⟩ := eq_notEncoded_of_encoded coded
    exact of_abandoned coded holding (n + 3)

theorem of_prepared (noDot : "." ∉ job.out.parts) (parent : job.out.parent.hasNul = false) (n : Nat) :
    Closing job umask v (job.advanceBy (n + 5) v .prepared umask) := by
  rw [Writing.advanceBy, Writing.advance]
  rcases create_cases job v job.tokens with ⟨f, failed⟩ | ⟨token, member, u, place, made, created⟩
  · rw [failed]
    exact of_failed rfl (fun _ => rfl) f (n + 4)
  · have named := hasNul_of_temporary parent (hasNul_of_createFile made)
    obtain ⟨there, free, rfl⟩ := createFile_ok made
    rw [created]
    have empty := (Patched.refl v place).put (FileTree.ne_root free) (.file privateMode [])
    exact of_created ⟨⟨(), token, member, rfl⟩, there, free, empty⟩ noDot named n

end Closing

/-- All stages of a writing close it in what making the directories came to. -/
theorem closing_of_run (job : Writing) (w : Workspace) (noDot : "." ∉ job.out.parts)
    (umask : Nat) : Closing job umask (w.makeDirectories job.out.parent umask).1
      (job.advanceBy 6 w .start umask) := by
  rw [Writing.advanceBy, Writing.advance]
  cases made : w.makeDirectories job.out.parent umask with
  | mk v r =>
    cases r with
    | ok _ => exact .of_prepared noDot (hasNul_of_makeDirectories (congrArg Prod.snd made)) 0
    | error f => exact .of_failed rfl (fun _ => rfl) f 5

namespace Placed
variable {l : Location}

/-- Whoever opens the path finds the report, if no link that it replaced was on the way. -/
theorem look_eq (placed : Placed job umask v l mode bytes u) (clear : Clear v job.out) :
    u.place true job.out = some l ∧ u.look job.out = some (.file mode bytes) := by
  have there : u.place false job.out = some l := by
    by_cases link : ∃ target, v.tree.get? l = some (.link target)
    · obtain ⟨target, link⟩ := link
      -- paths lead in `u` where they lead once the link is taken away
      have proper := FileTree.ne_root_of_no_directory placed.outside
      have patched : Patched (v.without l) l (some (.file mode bytes)) u :=
        ⟨placed.patched.cwd, placed.patched.here, fun m other =>
          (placed.patched.elsewhere m other).trans (get?_without_of_ne v proper other).symm⟩
      rw [patched.place_eq (by rw [FileTree.passage, get?_without_self v proper]; rfl)]
      exact (clear l target placed.there link _ (Or.inl rfl)).trans placed.there
    · have closed : v.tree.passage l = .closed := by
        cases way : v.tree.passage l with
        | closed => rfl
        | directory =>
          have inside := FileTree.passage_directory.mp way
          rw [placed.outside] at inside
          contradiction
        | link target => exact absurd ⟨target, FileTree.passage_link.mp way⟩ link
      rw [placed.patched.place_eq closed.symm]
      exact placed.there
  have followed := place_true_of_file there placed.patched.here
  refine ⟨followed, ?_⟩
  rw [Workspace.look_eq, followed]
  exact placed.patched.here

end Placed

/-- What comes of writing a report: it is refused, or its writing closes in one of the three ways. -/
theorem writeReport_cases (w : Workspace) (tokens : List String) (report : List Entry) {out : Path}
    (noDot : "." ∉ out.parts) (umask : Nat) :
    let v := (w.makeDirectories out.parent umask).1
    (∃ e, serialize report = .error e ∧ writeReport w tokens report out umask = (w, .error e)) ∨
    ∃ text, serialize report = .ok text ∧
      ((∃ u f, u.cwd = v.cwd ∧ (∀ l, u.tree.get? l = v.tree.get? l) ∧
        writeReport w tokens report out umask = (u, .error (writeFailure out f))) ∨
      (∃ u t e, Utf8.encodePoints text = .error e ∧ Holding ⟨out, text, tokens⟩ v t privateMode [] u ∧
        writeReport w tokens report out umask = (u, .error (.fault (.notEncoded e)))) ∨
      ∃ u l mode bytes, Placed ⟨out, text, tokens⟩ umask v l mode bytes u ∧
        writeReport w tokens report out umask = (u, .ok out)) := by
  intro v
  simp only [writeReport, Writing.ofReport]
  cases serialized : serialize report with
  | error e => exact Or.inl ⟨e, rfl, rfl⟩
  | ok text =>
    refine Or.inr ⟨text, rfl, ?_⟩
    have closing := closing_of_run ⟨out, text, tokens⟩ w noDot umask
    simp only [ok_bind, pure_eq, Writing.run]
    cases closed : Writing.advanceBy ⟨out, text, tokens⟩ 6 w .start umask with
    | mk u s =>
      rw [closed] at closing
      cases closing with
      | @failed _ f cwd same => exact Or.inl ⟨u, f, cwd, same, rfl⟩
      | @abandoned _ t f coded holding =>
        obtain ⟨e, uncoded, rfl⟩ := eq_notEncoded_of_encoded coded
        exact Or.inr (Or.inl ⟨u, t, e, uncoded, holding, rfl⟩)
      | @done _ l mode bytes placed => exact Or.inr (Or.inr ⟨u, l, mode, bytes, placed, rfl⟩)

section Instances

theorem writeReport_mirror : writeReport (mirror []) ["token"] [] (Path.ofText "self/self") =
    (⟨⟨[(["self"], .file 0o755 emptyReport)]⟩, []⟩, .ok (Path.ofText "self/self")) := by
  have path : Path.ofText "self/self" = (mirrored ()).out := rfl
  have job : Writing.ofReport [] (mirrored ()).out ["token"] = .ok (mirrored ()) := rfl
  have filled : (mirrored ()).advance (mirror [(mirrorFile.place, .file privateMode [])])
      (.created mirrorFile) =
      (mirror [(mirrorFile.place, .file privateMode emptyReport)], .written mirrorFile) := by
    rw [Writing.advance, encoded_mirrored]
    rfl
  rw [path, writeReport, job]
  simp only [Writing.run, Writing.advanceBy, advance_mirror_start, advance_mirror_prepared, filled,
    advance_mirror_written, advance_mirror_ready]
  rfl

/-- The fresh file of the report in the attic. -/
def atticFile : Temporary :=
  ⟨⟨.root, [".old.token.tmp"]⟩, [".old.token.tmp"]⟩

/-- The attic with its new directory and what else was made. -/
def climbed (mode : Nat) (made : List (Location × Node)) : Workspace :=
  attic ((["new"], .directory 0o755) :: made) mode

section Attic
variable (text : List CodePoint) (mode : Nat) (made : List (Location × Node)) (given : Nat)
variable (bytes : List UInt8)

theorem plain_atticFile : FileTree.Plain ".old.token.tmp" := by constructor <;> decide

theorem spot_climbed (follow : Bool) :
    (climbed mode made).spot follow detour = .ok (.taken ["old"]) := by
  refine spot_eq_ok.mpr ⟨by decide, by decide, ?_⟩
  refine (FileTree.walk_down rfl plain_new rfl (by simp)).trans ?_
  refine (FileTree.walk_up rfl).trans ?_
  refine (FileTree.walk_down rfl plain_old rfl (by simp)).trans ?_
  rw [FileTree.walk]
  rfl

theorem spot_atticFile_free :
    (climbed mode []).spot false atticFile.path = .ok (.vacant atticFile.place) :=
  spot_eq_ok.mpr ⟨by decide, by decide, FileTree.walk_free rfl plain_atticFile rfl⟩

theorem spot_atticFile (follow : Bool) :
    (climbed mode [(atticFile.place, .file given bytes)]).spot follow atticFile.path =
      .ok (.taken atticFile.place) := by
  refine spot_eq_ok.mpr ⟨by decide, by decide, ?_⟩
  refine (FileTree.walk_down rfl plain_atticFile rfl (by simp)).trans ?_
  rw [FileTree.walk]
  rfl

theorem advance_attic_prepared : (climbing text ()).advance (climbed mode []) .prepared =
    (climbed mode [(atticFile.place, .file privateMode [])], .created atticFile) := by
  have name : (climbing text ()).temporary (climbed mode []) "token" = atticFile.path := by
    rw [temporary_congr (w := climbed mode []) (climbing text ()) (v := attic []) rfl, Writing.temporary,
      out_climbing]
    decide
  have tokens : (climbing text ()).tokens = ["token"] := rfl
  simp only [Writing.advance, tokens, Writing.create, name, createFile, spot_atticFile_free]
  rfl

theorem advance_attic_written :
    (climbing text ()).advance (climbed mode [(atticFile.place, .file given bytes)]) (.written atticFile) =
      (climbed mode [(atticFile.place, .file mode bytes)], .ready atticFile) := by
  have kept : (climbing text ()).mode (climbed mode [(atticFile.place, .file given bytes)]) = .ok mode := by
    simp only [Writing.mode, out_climbing, node, find_eq, spot_climbed, Except.bind, ok_bind]
    rfl
  have there := place_eq_some.mpr ⟨_, spot_atticFile mode given bytes true, rfl⟩
  simp only [Writing.advance, kept, ok_bind, setMode_file there rfl]
  rfl

theorem advance_attic_ready :
    (climbing text ()).advance (climbed mode [(atticFile.place, .file given bytes)]) (.ready atticFile) =
      (⟨⟨[(["old"], .file given bytes), (["new"], .directory 0o755)]⟩, []⟩, .done) := by
  rw [Writing.advance, out_climbing, rename_eq (spot_atticFile mode given bytes false) (spot_climbed ..)]
  rfl

theorem writeReport_attic {report : List Entry} {text : List CodePoint} {bytes : List UInt8}
    (serialized : serialize report = .ok text) (coded : Utf8.encodePoints text = .ok bytes) :
    writeReport (attic [] mode) ["token"] report (Path.ofText "new/../old") =
      (⟨⟨[(["old"], .file mode bytes), (["new"], .directory 0o755)]⟩, []⟩,
        .ok (Path.ofText "new/../old")) := by
  have path : Path.ofText "new/../old" = detour := rfl
  have job : Writing.ofReport report detour ["token"] = .ok (climbing text ()) :=
    ofReport_eq_ok_iff.mpr ⟨text, serialized, rfl⟩
  have start : (climbing text ()).advance (attic [] mode) .start = (climbed mode [], .prepared) :=
    advance_attic_start text mode
  have encoded : (climbing text ()).encoded = .ok bytes := by
    rw [Writing.encoded, climbing, coded]
    rfl
  have filled : (climbing text ()).advance (climbed mode [(atticFile.place, .file privateMode [])])
      (.created atticFile) =
      (climbed mode [(atticFile.place, .file privateMode bytes)], .written atticFile) := by
    rw [Writing.advance, encoded]
    rfl
  rw [path, writeReport, job]
  simp only [Writing.run, Writing.advanceBy, start, advance_attic_prepared, filled,
    advance_attic_written, advance_attic_ready]
  rfl

theorem writeReport_attic_nil : writeReport (attic [] mode) ["token"] [] (Path.ofText "new/../old") =
    (⟨⟨[(["old"], .file mode emptyReport), (["new"], .directory 0o755)]⟩, []⟩,
      .ok (Path.ofText "new/../old")) := by
  have serialized : serialize [] = .ok (codePoints "[]\n") := rfl
  exact writeReport_attic mode serialized rfl

end Attic

end Instances

end FenceCheck.Report
