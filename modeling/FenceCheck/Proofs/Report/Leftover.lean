import FenceCheck.Proofs.FileTree.Refusals
import FenceCheck.Report.Race

/-! When a writing leaves its fresh file behind. A writing that has made one has a path without NUL
characters, so the operating system may refuse what it asks for and nothing else goes wrong with its
paths; what then keeps it from cleaning up is that its text cannot be encoded, and nothing else does. -/
namespace FenceCheck.Report
open Workspace FenceCheck.Text
variable {job : Writing} {w : Workspace} {s : Stage} {f : Fault}

theorem eq_notEncoded_of_encoded (failed : job.encoded = .error f) :
    ∃ e, Utf8.encodePoints job.text = .error e ∧ f = .notEncoded e := by
  rw [Writing.encoded] at failed
  cases coded : Utf8.encodePoints job.text with
  | ok bytes => simp [coded] at failed
  | error e => exact ⟨e, rfl, by simpa [coded] using failed.symm⟩

theorem isRefusal_of_mode {umask : Nat} (named : job.out.hasNul = false)
    (failed : job.mode w umask = .error f) : f.isRefusal = true := by
  rw [Writing.mode] at failed
  cases found : w.node job.out with
  | ok n => cases n <;> simp [found] at failed
  | error g =>
    obtain ⟨r, rfl⟩ := node_error named found
    simp only [found, refused] at failed
    split at failed
    · contradiction
    · exact Except.error.inj failed ▸ rfl

theorem hasNul_of_temporary {token : String} (parent : job.out.parent.hasNul = false)
    (named : (job.temporary w token).hasNul = false) : job.out.hasNul = false := by
  simp only [Writing.temporary, Path.hasNul_child, Bool.or_eq_false_iff] at named
  rw [Path.hasNul_eq, parent, Bool.false_or]
  simpa using fun (c : '\x00' ∈ job.out.name.toList) => absurd named.2 (by simp [c])

/-- The paths of a writing and of its fresh file have no NUL characters. -/
def Stage.Clean (job : Writing) (t : Temporary) : Prop :=
  job.out.hasNul = false ∧ t.path.hasNul = false

/-- What is known of the paths of a writing from how far it is, and of its text once it is written or its
fresh file is left behind. -/
def Stage.Sound (job : Writing) : Stage → Prop
  | .start | .failed _ => True
  | .prepared => job.out.parent.hasNul = false
  | .created t | .cleaning t _ => Stage.Clean job t
  | .written t | .ready t => Stage.Clean job t ∧ ∃ bytes, job.encoded = .ok bytes
  | .done => ∃ bytes, job.encoded = .ok bytes
  | .abandoned _ f => job.encoded = .error f

theorem Stage.Sound.meet (sound : s.Sound job) (refusal : f.isRefusal = true) : (s.meet f).Sound job := by
  cases s with
  | start | prepared => trivial
  | created t =>
    rw [Stage.meet, if_pos refusal]
    exact sound
  | written t | ready t =>
    rw [Stage.meet, if_pos refusal]
    exact sound.1
  | cleaning t g | done | failed g | abandoned t g => exact sound

theorem create_sound (parent : job.out.parent.hasNul = false) (w : Workspace) (tokens : List String) :
    (job.create w tokens).2.Sound job := by
  induction tokens with
  | nil => trivial
  | cons token more ih =>
    rw [Writing.create]
    cases made : w.createFile (job.temporary w token) privateMode with
    | ok r =>
      have named := hasNul_of_createFile made
      exact ⟨hasNul_of_temporary parent named, named⟩
    | error f =>
      cases f with
      | system e =>
        dsimp only
        split
        · exact ih
        · trivial
      | _ => trivial

/-- Each step of a writing keeps what is known of it. -/
theorem Stage.Sound.advance (sound : s.Sound job) (w : Workspace) (umask : Nat) :
    (job.advance w s umask).2.Sound job := by
  cases s with
  | start =>
    rw [Writing.advance]
    cases made : w.makeDirectories job.out.parent umask with
    | mk v r =>
      cases r with
      | ok _ => exact hasNul_of_makeDirectories (congrArg Prod.snd made)
      | error f => trivial
  | prepared => exact create_sound sound w job.tokens
  | created t =>
    rw [Writing.advance]
    cases coded : job.encoded with
    | ok bytes => exact ⟨sound, bytes, coded⟩
    | error f =>
      obtain ⟨e, _, rfl⟩ := eq_notEncoded_of_encoded coded
      exact coded
  | written t =>
    rw [Writing.advance]
    cases given : job.mode w umask with
    | error f => exact sound.meet (isRefusal_of_mode sound.1.1 given)
    | ok mode =>
      rw [ok_bind]
      cases set : w.setMode t.path mode with
      | error f => exact sound.meet (isRefusal_of_setMode sound.1.2 set)
      | ok v => exact sound
  | ready t =>
    rw [Writing.advance]
    cases renamed : w.rename t.path job.out with
    | error f => exact sound.meet (isRefusal_of_rename sound.1.2 sound.1.1 renamed)
    | ok v => exact sound.2
  | cleaning t f =>
    rw [Writing.advance]
    cases w.unlink t.path <;> trivial
  | done | failed f | abandoned t f => exact sound

theorem Stage.Sound.advanceBy (sound : s.Sound job) (n : Nat) (w : Workspace) (umask : Nat) :
    (job.advanceBy n w s umask).2.Sound job := by
  induction n generalizing w s with
  | zero => exact sound
  | succ n ih => exact ih (sound.advance w umask) _

@[simp] theorem advanceBy_failed (job : Writing) (n : Nat) (w : Workspace) (f : Fault) (umask : Nat) :
    job.advanceBy n w (.failed f) umask = (w, .failed f) := by
  induction n with
  | zero => rfl
  | succ n ih => exact ih

@[simp] theorem advanceBy_abandoned (job : Writing) (n : Nat) (w : Workspace) (t : Temporary) (f : Fault)
    (umask : Nat) : job.advanceBy n w (.abandoned t f) umask = (w, .abandoned t f) := by
  induction n with
  | zero => rfl
  | succ n ih => exact ih

@[simp] theorem advanceBy_done (job : Writing) (n : Nat) (w : Workspace) (umask : Nat) :
    job.advanceBy n w .done umask = (w, .done) := by
  induction n with
  | zero => rfl
  | succ n ih => exact ih

/-- Only a text with an encoding is ever written. -/
theorem exists_encoded_of_done {u : Workspace} {n umask : Nat}
    (done : job.advanceBy n w .start umask = (u, .done)) : ∃ bytes, job.encoded = .ok bytes := by
  have sound : (job.advanceBy n w .start umask).2.Sound job :=
    Stage.Sound.advanceBy (s := .start) trivial n w umask
  rwa [done] at sound

section Scenes
variable {ι : Type} [DecidableEq ι] {jobs : ι → Writing} {scene : Scene ι}

end Scenes

end FenceCheck.Report
