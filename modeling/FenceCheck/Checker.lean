import FenceCheck.Json.Shown
import FenceCheck.Text.Blank

/-!
Syntax checkers and their verdicts. A checker answers a value, of which anything that counts as true is
a complaint, or raises an exception, which is a complaint as well. Only a request to end the program
passes through; but a complaint is told by its text, and to make the text can fail in turn.
-/
namespace FenceCheck
open FenceCheck.Text

/-- What is raised: its class, and its text or what making the text meets. -/
structure Exception where
  label : ClassName
  text : Except Fault (List CodePoint)

/-- What a checker does with a source text. -/
inductive Reply where
  | answered (value : Json)
  | raised (e : Exception)
  | interrupted (i : Interruption)

abbrev Checker := String → Reply

/-- Whether a block is well formed. -/
inductive Verdict where
  | ok
  | failed (message : List CodePoint)
  deriving DecidableEq

theorem Fault.isEmpty_label (f : Fault) : f.label.isEmpty = false := by
  cases f with
  | system e =>
    simp only [Fault.label, SystemError.label]
    cases e.refusal <;> rfl
  | notJson e => cases e <;> rfl
  | raised label text => exact label.named
  | _ => rfl

/-- A fault as it is raised. -/
def Fault.exception (f : Fault) : Exception :=
  ⟨⟨f.label, f.isEmpty_label⟩, .ok (codePoints f.message)⟩

/-- A checker met a fault that it does not tell in words of its own. -/
def Reply.met (f : Fault) : Reply :=
  .raised f.exception

def Reply.ofComplaint : Option String → Reply
  | none => .answered .null
  | some message => .answered (.text message)

/-- The text of an exception without the blanks around it, or its label if nothing is left. -/
def Exception.summary (e : Exception) : Except Fault (List CodePoint) := do
  let message := stripPoints (← e.text)
  return if message = [] then codePoints e.label.text else message

/-- The verdict of a reply. What counts as false is not told, so it needs no text. -/
def Reply.verdict : Reply → Outcome Verdict
  | .answered v =>
    if v.isTruthy then (v.shown.map Verdict.failed).mapError .fault else .ok .ok
  | .raised e => (e.summary.map Verdict.failed).mapError .fault
  | .interrupted i => .error (.interrupted i)

def validate (check : Checker) (source : String) : Outcome Verdict :=
  (check source).verdict

/-- Whether a reply has a text if it is a complaint. -/
def Reply.IsTold : Reply → Prop
  | .answered v => v.isTruthy = true → ∃ text, v.shown = .ok text
  | .raised e => ∃ text, e.text = .ok text
  | .interrupted _ => True

/-- A checker that keeps the contract of parsers: to a source text it answers nothing or a message, in
whose place any value may stand, or it raises an exception. Either has a text for people. -/
structure Parser where
  check : Checker
  told : ∀ source, (check source).IsTold

end FenceCheck
