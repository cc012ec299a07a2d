import FenceCheck.Language.Registry
import FenceCheck.Proofs.Report.Conformity
import FenceCheck.Proofs.Report.Encoding

/-! What the checkers that are given out have in common. None of them asks the program to end, and what
one of them meets has a text. So every block gets a verdict, and the message of a block that fails is made
of characters, as its report then is. -/
namespace FenceCheck.Language
open FenceCheck.Number FenceCheck.Text

/-- A reply that comes to a verdict, with a message in characters if it is a complaint. -/
def Orderly (r : Reply) : Prop :=
  ∃ complaint : Option String, r.verdict = .ok (.ofComplaint (complaint.map codePoints))

namespace Orderly

theorem silent : Orderly (.answered .null) :=
  ⟨none, rfl⟩

theorem text (message : String) : Orderly (.answered (.text message)) := by
  rw [Orderly, Reply.verdict]
  split
  · exact ⟨some message, rfl⟩
  · exact ⟨none, rfl⟩

/-- A fault is told by its message, or by its label. -/
theorem met (f : Fault) : Orderly (.met f) := by
  have stripped : stripPoints (codePoints f.message) = codePoints (strip f.message) :=
    stripPoints_codePoints f.message
  have summed : f.exception.summary =
      .ok (codePoints (if strip f.message = "" then f.label else strip f.message)) := by
    simp only [Exception.summary, Fault.exception, ok_bind, pure_eq, stripped, codePoints_eq_nil]
    split <;> rfl
  rw [Orderly, Reply.met, Reply.verdict, summed]
  exact ⟨some _, rfl⟩

theorem ofComplaint (complaint : Option String) : Orderly (.ofComplaint complaint) := by
  cases complaint with
  | none => exact silent
  | some message => exact text message

end Orderly

theorem checkProgram_orderly (source : String) : Orderly (checkProgram source) := by
  rw [checkProgram]
  split
  · exact .met _
  · exact .ofComplaint _

theorem checkJson_orderly (source : String) : Orderly (checkJson source) := by
  rw [checkJson]
  split
  · exact .silent
  · exact .text _
  · exact .met _

theorem checkYaml_orderly (source : String) : Orderly (checkYaml source) := by
  rw [checkYaml]
  split
  · exact .silent
  · rename_i stop _
    cases stop with
    | problem p m => exact .text _
    | unacceptable c offset => exact .text _
    | beyondUnicode => exact .met _
    | beyondWords => exact .met _
    | longNumeral n => exact .met _

theorem checkToml_orderly (source : String) : Orderly (checkToml source) := by
  rw [checkToml]
  split
  · exact .silent
  · exact .text _
  · exact .met _

theorem checkShell_orderly (limit : Option Seconds) (source : String) :
    Orderly (checkShell limit source) := by
  rw [checkShell]
  split
  · exact .met _
  · exact .ofComplaint _

theorem orderly_of_mem {l : Language} (member : l ∈ all) (limit : Option Seconds) (source : String) :
    Orderly (l.checker limit source) := by
  simp only [all, List.mem_cons, List.not_mem_nil, or_false] at member
  rcases member with rfl | rfl | rfl | rfl | rfl
  · exact checkProgram_orderly source
  · exact checkJson_orderly source
  · exact checkYaml_orderly source
  · exact checkToml_orderly source
  · exact checkShell_orderly limit source

/-- A language that is found is one of all, and has the tag among its own. -/
theorem mem_tags_of_find {tag : String} {l : Language} (found : find tag = .ok l) :
    l ∈ all ∧ normalizeTag tag ∈ l.tags := by
  cases known : all.find? fun l => l.tags.contains (normalizeTag tag) with
  | none =>
    simp only [find, known] at found
    exact absurd found (by simp)
  | some l' =>
    simp only [find, known] at found
    obtain rfl := Except.ok.inj found
    exact ⟨List.mem_of_find?_eq_some known, by simpa using List.find?_some known⟩

/-- A checker that is given out is that of the language of the tag. -/
theorem checker_of_resolve {env : Environment} {tag : String} {limit : Option Seconds} {check : Checker}
    (resolved : resolve env tag limit = .ok check) :
    ∃ l, find tag = .ok l ∧ check = l.checker limit := by
  obtain ⟨l, found, resolved⟩ := exists_of_bind resolved
  dsimp only at resolved
  split at resolved
  · exact ⟨l, found, (Except.ok.inj resolved).symm⟩
  · simp at resolved

theorem orderly_of_resolve {env : Environment} {tag : String} {limit : Option Seconds} {check : Checker}
    (resolved : resolve env tag limit = .ok check) (source : String) : Orderly (check source) := by
  obtain ⟨l, found, rfl⟩ := checker_of_resolve resolved
  exact orderly_of_mem (mem_tags_of_find found).1 limit source

/-- A checker that is given out comes to a verdict on each source text. -/
theorem settles_of_resolve {env : Environment} {tag : String} {limit : Option Seconds} {check : Checker}
    (resolved : resolve env tag limit = .ok check) : check.Settles := by
  intro source
  obtain ⟨complaint, judged⟩ := orderly_of_resolve resolved source
  exact ⟨_, judged⟩

/-- What such a checker makes a collection report is made of characters. -/
theorem scalar_of_collect {env : Environment} {limit : Option Seconds} {w : Workspace} {plan : Report.Plan}
    {paths : List Path} {s : Report.Summary} {tag : String}
    (resolved : resolve env tag limit = .ok plan.check)
    (collected : (Report.collect w plan paths).outcome = .ok s) : ∀ e ∈ s.report, e.Scalar := by
  intro e member
  obtain ⟨_, _, b, _, same, failed⟩ := Report.entry_of_collect collected member
  obtain ⟨complaint, judged⟩ := orderly_of_resolve resolved b.content
  rw [validate, judged] at failed
  rw [same]
  cases complaint with
  | none => simp [Verdict.ofComplaint] at failed
  | some message =>
    have told : codePoints message = e.message := by simpa [Verdict.ofComplaint] using failed
    exact .ofBlock _ _ (told ▸ isSurrogate_of_mem_codePoints message)

end FenceCheck.Language
