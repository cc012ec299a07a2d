import FenceCheck.Report.Collection

/-!
A pool of workers. Tasks are taken in the order in which they were handed in, by at most so many workers
at a time, and finished in any order. The answers are read in the order of the tasks, as far as the
first that is a failure; what is still under way then is given up.
-/
namespace FenceCheck

/-- Tasks with their positions: those not taken yet and those being worked on; and the answers by
position, the latest first. -/
structure Pool (α β : Type) where
  waiting : List (Nat × α)
  running : List (Nat × α)
  answers : List (Nat × β)

namespace Pool

/-- Tasks with their positions from `n` on. -/
def numbered {α : Type} (n : Nat) : List α → List (Nat × α)
  | [] => []
  | a :: rest => (n, a) :: numbered (n + 1) rest

/-- A worker takes the next task, or any of those at work finishes its task. -/
inductive Step {α β : Type} (workers : Nat) (work : α → β) : Pool α β → Pool α β → Prop where
  | take {task waiting running answers} : running.length < workers →
      Step workers work ⟨task :: waiting, running, answers⟩ ⟨waiting, task :: running, answers⟩
  | finish {waiting before after answers n a} :
      Step workers work ⟨waiting, before ++ (n, a) :: after, answers⟩
        ⟨waiting, before ++ after, (n, work a) :: answers⟩

/-- Any number of steps. -/
inductive Reaches {α β : Type} (workers : Nat) (work : α → β) : Pool α β → Pool α β → Prop where
  | refl (p) : Reaches workers work p p
  | next {p q r} : Step workers work p q → Reaches workers work q r → Reaches workers work p r

/-- The answers at `count` positions from `n` on: nothing as long as one is missing before the first
failure. -/
def read {α β ε : Type} (p : Pool α (Except ε β)) (n : Nat) : Nat → Option (Except ε (List β))
  | 0 => some (.ok [])
  | count + 1 =>
    match p.answers.lookup n with
    | none => none
    | some (.error e) => some (.error e)
    | some (.ok b) => (p.read (n + 1) count).map (Except.map (b :: ·))

end Pool

namespace Report

end Report
end FenceCheck
