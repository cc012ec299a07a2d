import FenceCheck.Failure

/-! Which run errors a computation can end with. Run errors are made in few places; between them faults
and interruptions pass through, and what comes first decides. -/
namespace FenceCheck

/-- Whatever run error a computation ends with is an allowed one. -/
def Confined {α : Type} (allowed : RunError → Prop) (r : Outcome α) : Prop :=
  ∀ e, r = .error (.run e) → allowed e

namespace Confined
variable {α β : Type} {allowed wider : RunError → Prop} {r : Outcome α}

theorem ok (a : α) : Confined allowed (.ok a) := by
  intro e failed
  contradiction

theorem fault (f : Fault) : Confined allowed (.error (.fault f) : Outcome α) := by
  intro e failed
  simp at failed

theorem interrupted (i : Interruption) : Confined allowed (.error (.interrupted i) : Outcome α) := by
  intro e failed
  simp at failed

theorem run {e : RunError} (fine : allowed e) : Confined allowed (.error (.run e) : Outcome α) := by
  intro e' failed
  obtain rfl : e = e' := by simpa using failed
  exact fine

theorem mono (confined : Confined allowed r) (weaker : ∀ e, allowed e → wider e) : Confined wider r :=
  fun e failed => weaker e (confined e failed)

/-- One computation after another fails as the first does, or as the second. -/
theorem bind {f : α → Outcome β} (first : Confined allowed r)
    (next : ∀ a, r = .ok a → Confined allowed (f a)) : Confined allowed (r >>= f) := by
  cases r with
  | ok a => exact next a rfl
  | error e =>
    intro e' failed
    exact first e' (by simpa using failed)

end Confined

/-- A computation that no interruption ends, and no run error but an allowed one. -/
structure Contained {α : Type} (allowed : RunError → Prop) (r : Outcome α) : Prop where
  confined : Confined allowed r
  uninterrupted : ∀ i, r ≠ .error (.interrupted i)

namespace Contained
variable {α β : Type} {allowed wider : RunError → Prop} {r : Outcome α}

theorem ok (a : α) : Contained allowed (.ok a) :=
  ⟨.ok a, nofun⟩

theorem fault (f : Fault) : Contained allowed (.error (.fault f) : Outcome α) :=
  ⟨.fault f, by simp⟩

theorem run {e : RunError} (fine : allowed e) : Contained allowed (.error (.run e) : Outcome α) :=
  ⟨.run fine, by simp⟩

/-- What ends such a computation is an allowed run error, or a fault. -/
theorem error_cases {e : Failure} (contained : Contained allowed (.error e : Outcome α)) :
    (∃ e', e = .run e' ∧ allowed e') ∨ ∃ f, e = .fault f := by
  cases e with
  | run e => exact .inl ⟨e, rfl, contained.confined e rfl⟩
  | fault f => exact .inr ⟨f, rfl⟩
  | interrupted i => exact absurd rfl (contained.uninterrupted i)

theorem mono (contained : Contained allowed r) (weaker : ∀ e, allowed e → wider e) :
    Contained wider r :=
  ⟨contained.confined.mono weaker, contained.uninterrupted⟩

/-- What would have come of the computation does not matter once it has failed. -/
theorem of_error {e : Failure} (contained : Contained allowed (.error e : Outcome α)) :
    Contained allowed (.error e : Outcome β) := by
  rcases contained.error_cases with ⟨e', rfl, fine⟩ | ⟨f, rfl⟩
  · exact run fine
  · exact fault f

theorem bind {f : α → Outcome β} (first : Contained allowed r)
    (next : ∀ a, r = .ok a → Contained allowed (f a)) : Contained allowed (r >>= f) := by
  cases r with
  | ok a => exact next a rfl
  | error e => exact first.of_error

theorem map {f : α → β} (contained : Contained allowed r) : Contained allowed (r.map f) := by
  cases r with
  | ok a => exact ok (f a)
  | error e => exact contained.of_error

theorem of_faults (r : Except Fault α) : Contained allowed (r.mapError .fault) := by
  cases r with
  | ok a => exact ok a
  | error f => exact fault f

theorem of_errors {r : Except RunError α} (fine : ∀ e, r = .error e → allowed e) :
    Contained allowed (r.mapError .run) := by
  cases r with
  | ok a => exact ok a
  | error e => exact run (fine e rfl)

end Contained
end FenceCheck
