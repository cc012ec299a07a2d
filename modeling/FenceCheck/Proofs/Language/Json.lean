import FenceCheck.Language.Json
import FenceCheck.Proofs.Json.Acceptance
import FenceCheck.Proofs.Report.Acceptance

/-! What the checker of JSON samples accepts. Main statement: within the limits it accepts the texts of the
grammar, and those in which one of the words for numbers that are not finite stands for a value as well; all
others are refused with a place in the text. -/
namespace FenceCheck.Language
open FenceCheck.Text Json Json.Grammar

variable {source : String}

/-- The refusal of a text at an offset. -/
def refusal (source : String) (offset : Nat) (cause : Cause) : Verdict :=
  .failed (codePoints ("line " ++ toString (placeAt source.toList offset).line ++ " column " ++
    toString (placeAt source.toList offset).column ++ ": " ++ cause.message))

theorem validate_checkJson_of_read {v : Json} (read : Json.readAll source.toList = .ok v) :
    validate checkJson source = .ok .ok := by
  simp [validate, checkJson, Json.read, read, Reply.verdict, isTruthy]

theorem verdict_text {message : String} (some_ : message ≠ "") :
    (Reply.answered (.text message)).verdict = .ok (.failed (codePoints message)) := by
  have truthy : (Json.text message).isTruthy = true := by
    simpa [Json.text, isTruthy, codePoints_eq_nil] using some_
  rw [Reply.verdict, if_pos truthy]
  rfl

theorem validate_checkJson_of_fault {cause : Cause} {left : Nat}
    (stops : Json.readAll source.toList = .error (.fault cause left)) :
    validate checkJson source = .ok (refusal source (source.toList.length - left) cause) := by
  have told : Json.read source =
      .error (.fault cause (placeAt source.toList (source.toList.length - left))) := by
    rw [Json.read, stops]
    rfl
  rw [validate, checkJson, told]
  refine verdict_text fun same => ?_
  simp [String.append_assoc] at same

/-- Within the limits the JSON checker accepts the texts of the grammar with the three words for numbers that
are not finite, and so just the JSON texts where no such word stands for a value; every other text is refused
with the line and the column of an offset in it. -/
theorem json_checked (bounded : Bounded source.toList) :
    (validate checkJson source = .ok .ok ↔ IsText known source.toList) ∧
      (¬ NamesNonFinite source.toList →
        (validate checkJson source = .ok .ok ↔ IsText literals source.toList)) ∧
      (validate checkJson source ≠ .ok .ok → ∃ offset cause, offset ≤ source.toList.length ∧
        validate checkJson source = .ok (refusal source offset cause)) := by
  have outcome : validate checkJson source = .ok .ok ∧ IsText known source.toList ∨
      ¬ IsText known source.toList ∧ ∃ offset cause, offset ≤ source.toList.length ∧
        validate checkJson source = .ok (refusal source offset cause) := by
    cases read : Json.readAll source.toList with
    | ok v => exact Or.inl ⟨validate_checkJson_of_read read, isText_of_readAll read⟩
    | error stop =>
      have other : ¬ IsText known source.toList := by
        rw [← readAll_iff bounded, read]
        rintro ⟨v, impossible⟩
        contradiction
      obtain ⟨cause, left, rfl, _⟩ := bounded.fault_of_readAll read
      exact Or.inr ⟨other, _, cause, Nat.sub_le _ left, validate_checkJson_of_fault read⟩
  have accepts : validate checkJson source = .ok .ok ↔ IsText known source.toList := by
    rcases outcome with ⟨accepted, text⟩ | ⟨other, offset, cause, _, refused⟩
    · exact iff_of_true accepted text
    · exact iff_of_false (by simp [refused, refusal]) other
  refine ⟨accepts, fun finite => accepts.trans (isText_literals_iff finite).symm, fun rejected => ?_⟩
  rcases outcome with ⟨accepted, _⟩ | ⟨_, refused⟩
  · exact absurd accepted rejected
  · exact refused

theorem json_checked_list : Bounded "[1, true]".toList ∧ ¬ NamesNonFinite "[1, true]".toList ∧
    IsText literals "[1, true]".toList := by
  have bounded : Bounded "[1, true]".toList := .of_length (by decide)
  have finite : ¬ NamesNonFinite "[1, true]".toList := finite_of_not_infix (by decide)
  exact ⟨bounded, finite, ((json_checked bounded).2.1 finite).mp (by rfl)⟩

/-- A word that is no JSON text is accepted. -/
theorem not_a_number_accepted : Bounded "NaN".toList ∧ validate checkJson "NaN" = .ok .ok ∧
    ¬ IsText literals "NaN".toList := by
  refine ⟨.of_length (by decide), by rfl, fun text => ?_⟩
  generalize whole : "NaN".toList = s at text
  cases text with
  | @around w v w' blank value _ =>
    have front : w = [] := by
      cases w with
      | nil => rfl
      | cons c w =>
        obtain rfl : 'N' = c := (List.cons.inj whole).1
        exact absurd (blank 'N' List.mem_cons_self) (by decide)
    subst front
    rcases value.front with word | ⟨c, t, rfl, first⟩
    · simp only [literals, List.mem_cons, List.not_mem_nil, or_false] at word
      rcases word with rfl | rfl | rfl <;> exact absurd (List.cons.inj whole).1 (by decide)
    · obtain rfl : 'N' = c := (List.cons.inj whole).1
      exact absurd first (by decide)

end FenceCheck.Language
