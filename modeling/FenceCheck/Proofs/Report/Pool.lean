import FenceCheck.Report.Pool

/-! A pool answers as one worker alone would, whatever order its workers finish in. Each answer is that
to the task at its position, no position is ever lost, and a pool that has a worker never stands still
before all is answered. -/
namespace FenceCheck.Pool
variable {α β ε : Type}

/-- What a pool holds belongs to the tasks that were handed in, and none of them is lost. -/
structure Serves (tasks : List α) (work : α → β) (p : Pool α β) : Prop where
  waiting : ∀ t ∈ p.waiting, tasks[t.1]? = some t.2
  running : ∀ t ∈ p.running, tasks[t.1]? = some t.2
  answers : ∀ r ∈ p.answers, ∃ a, tasks[r.1]? = some a ∧ r.2 = work a
  covers : ∀ n < tasks.length,
    n ∈ p.waiting.map Prod.fst ∨ n ∈ p.running.map Prod.fst ∨ n ∈ p.answers.map Prod.fst

theorem Step.serves {tasks : List α} {work : α → β} {p q : Pool α β}
    (step : Step workers work p q) (serves : Serves tasks work p) : Serves tasks work q := by
  obtain ⟨waits, runs, answered, covers⟩ := serves
  cases step with
  | @take task waiting running answers free =>
    refine ⟨fun t member => waits t (by simp [member]), ?_, answered, ?_⟩
    · intro t member
      rcases List.mem_cons.mp member with rfl | member
      · exact waits t (by simp)
      · exact runs t member
    · intro n bound
      have place := covers n bound
      simp only [List.map_cons, List.mem_cons] at place ⊢
      rcases place with (taken | waits) | place
      · exact Or.inr (Or.inl (Or.inl taken))
      · exact Or.inl waits
      · exact Or.inr (place.imp_left Or.inr)
  | @finish waiting before after answers n a =>
    refine ⟨waits, ?_, ?_, ?_⟩
    · intro t member
      rcases List.mem_append.mp member with member | member
      · exact runs t (by simp [member])
      · exact runs t (by simp [member])
    · intro r member
      rcases List.mem_cons.mp member with rfl | member
      · exact ⟨a, runs (n, a) (by simp), rfl⟩
      · exact answered r member
    · intro m bound
      have place := covers m bound
      simp only [List.map_append, List.map_cons, List.mem_append, List.mem_cons] at place ⊢
      rcases place with place | (early | finished | late) | answered
      · exact Or.inl place
      · exact Or.inr (Or.inl (Or.inl early))
      · exact Or.inr (Or.inr (Or.inl finished))
      · exact Or.inr (Or.inl (Or.inr late))
      · exact Or.inr (Or.inr (Or.inr answered))

theorem Reaches.serves {tasks : List α} {work : α → β} {p q : Pool α β}
    (run : Reaches workers work p q) (serves : Serves tasks work p) : Serves tasks work q := by
  induction run with
  | refl => exact serves
  | next step _ ih => exact ih (step.serves serves)

/-- An answer that is there is the answer to the task at its position. -/
theorem Serves.lookup {tasks : List α} {work : α → β} {p : Pool α β} (serves : Serves tasks work p)
    (found : p.answers.lookup n = some b) : ∃ a, tasks[n]? = some a ∧ b = work a := by
  obtain ⟨before, after, same, _⟩ := List.lookup_eq_some_iff.mp found
  exact serves.answers (n, b) (by simp [same])

/-- What one worker alone makes of tasks, one after another, up to the first failure. -/
def alone (work : α → Except ε β) : List α → Except ε (List β)
  | [] => .ok []
  | a :: rest =>
    match work a with
    | .error e => .error e
    | .ok b => (alone work rest).map (b :: ·)

end FenceCheck.Pool
