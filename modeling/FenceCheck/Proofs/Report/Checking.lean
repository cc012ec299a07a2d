import FenceCheck.Proofs.Report.Blame

/-! What the check of a report file answers. A file that cannot be opened or read is a read fault, and one
that is no report violates the schema; between the two lie the files that no text or no value can be read
from, whose faults pass through. -/
namespace FenceCheck.Report
open Workspace FenceCheck.Text

/-- The bytes of a file that is lost to the check: they are no text, an integer in it has more digits than
may be read, or it is nested too deep. -/
inductive Lost (bytes : List UInt8) : Prop where
  | noText {e} : Utf8.decode bytes = .error e → Lost bytes
  | longInteger {text n} : Utf8.decode bytes = .ok text →
      Json.read (String.ofList (unifyLineEnds text)) = .error (.longInteger n) → Lost bytes
  | tooDeep {text container} : Utf8.decode bytes = .ok text →
      Json.read (String.ofList (unifyLineEnds text)) = .error (.tooDeep container) → Lost bytes

/-- The bytes of a file that holds a report. -/
def Accepted (bytes : List UInt8) : Prop :=
  ∃ text v, Utf8.decode bytes = .ok text ∧ Json.read (String.ofList (unifyLineEnds text)) = .ok v ∧
    Conforms v

section Answers
variable {w : Workspace} {p : Path} {bytes : List UInt8}

/-- What the check of a file comes to. -/
inductive Answer (w : Workspace) (p : Path) : Outcome Unit → Prop where
  | unread {f : Fault} (message : String) : w.readBytes p = .error f →
      Answer w p (.error (.run (.read message)))
  | accepted {bytes : List UInt8} : w.readBytes p = .ok bytes → Accepted bytes → ¬ Lost bytes →
      Answer w p (.ok ())
  | violation {bytes : List UInt8} (message : String) : w.readBytes p = .ok bytes → ¬ Accepted bytes →
      ¬ Lost bytes → Answer w p (.error (.run (.schema message)))
  | lost {bytes : List UInt8} (f : Fault) : w.readBytes p = .ok bytes → ¬ Accepted bytes →
      Lost bytes → Answer w p (.error (.fault f))

theorem not_lost_of_read {text : List Char} (decoded : Utf8.decode bytes = .ok text)
    (longInteger : ∀ n, Json.read (String.ofList (unifyLineEnds text)) ≠ .error (.longInteger n))
    (tooDeep : ∀ c, Json.read (String.ofList (unifyLineEnds text)) ≠ .error (.tooDeep c)) :
    ¬ Lost bytes := by
  rintro (⟨undecoded⟩ | ⟨decoded', long⟩ | ⟨decoded', deep⟩)
  · simp [decoded] at undecoded
  · rw [← Except.ok.inj (decoded.symm.trans decoded')] at long
    exact longInteger _ long
  · rw [← Except.ok.inj (decoded.symm.trans decoded')] at deep
    exact tooDeep _ deep

theorem accepted_iff {text : List Char} (decoded : Utf8.decode bytes = .ok text) :
    Accepted bytes ↔ ∃ v, Json.read (String.ofList (unifyLineEnds text)) = .ok v ∧ Conforms v := by
  simp [Accepted, decoded]

/-- The check has one answer for each file, whatever stands there. -/
theorem answer_checkFile (w : Workspace) (p : Path) (named : p.hasNul = false) :
    Answer w p (checkFile w schemaName p) := by
  rw [checkFile, Workspace.readText]
  cases opened : w.readBytes p with
  | error f =>
    obtain ⟨r, rfl⟩ := readBytes_error named opened
    exact .unread _ opened
  | ok bytes =>
    cases decoded : Utf8.decode bytes with
    | error e =>
      simp only [ok_bind, mapError_error, error_bind, decoded]
      refine .lost _ opened ?_ (.noText decoded)
      rintro ⟨text, _, decoded', _⟩
      simp [decoded] at decoded'
    | ok text =>
      simp only [ok_bind, mapError_ok, pure_eq, decoded]
      have accepted := accepted_iff decoded
      cases read : Json.read (String.ofList (unifyLineEnds text)) with
      | ok v =>
        have whole : ¬ Lost bytes := not_lost_of_read decoded (by simp [read]) (by simp [read])
        -- what was read is not too long or too deep for the words of a violation
        have faithful : installed.Faithful v := faithful_of_free (Json.obstacle?_of_read read)
        dsimp only
        rw [checkNamed_schemaName v]
        rcases faithful.checkSchema_cases schemaName with ⟨conforms, checked⟩ | ⟨other, _, _, _, checked⟩
        · rw [checked]
          exact .accepted opened (accepted.mpr ⟨v, read, conforms⟩) whole
        · rw [checked]
          refine .violation _ opened ?_ whole
          rw [accepted]
          rintro ⟨v', read', conforms⟩
          exact other (Except.ok.inj (read.symm.trans read') ▸ conforms)
      | error e =>
        have refused : ¬ Accepted bytes := by simp [accepted, read]
        cases e with
        | fault cause place =>
          exact .violation _ opened refused (not_lost_of_read decoded (by simp [read]) (by simp [read]))
        | longInteger n => exact .lost _ opened refused (.longInteger decoded read)
        | tooDeep c => exact .lost _ opened refused (.tooDeep decoded read)

end Answers
end FenceCheck.Report
