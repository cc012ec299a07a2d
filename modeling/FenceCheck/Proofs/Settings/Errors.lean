import FenceCheck.Proofs.Failure
import FenceCheck.Settings.Source

/-! How reading settings fails: whatever a layer holds, the run errors are those of a configuration, and
nothing is interrupted. -/
namespace FenceCheck.Settings
open FenceCheck.Number
variable {source key : String}

/-- The run error of settings that cannot be used. -/
def IsConfigError (e : RunError) : Prop :=
  e.kind = "config_error" ∧ e.code = 10

theorem invalid_contained {α : Type} (source message : String) :
    Contained IsConfigError (.error (invalid source message) : Outcome α) :=
  .run ⟨rfl, rfl⟩

theorem unfit_contained {α : Type} (source key wanted : String) (v : Given) :
    Contained IsConfigError (.error (unfit source key wanted v) : Outcome α) := by
  rw [unfit]
  split
  · exact invalid_contained _ _
  · exact .fault _

theorem readTexts_contained (v : Given) : Contained IsConfigError (readTexts source key v) := by
  cases v with
  | text s => exact .ok _
  | texts items => exact .ok _
  | _ => exact invalid_contained _ _

theorem readText_contained (v : Given) : Contained IsConfigError (readText source key v) := by
  cases v with
  | text s => exact .ok s
  | _ => exact invalid_contained _ _

/-- A value of another kind is taken, or it is unfit. -/
theorem elim_contained {α β : Type} (wanted : String) (v : Given) (found : Option α) (f : α → β) :
    Contained IsConfigError (found.elim (.error (unfit source key wanted v)) fun a => .ok (f a)) := by
  cases found with
  | none => exact unfit_contained _ _ _ _
  | some a => exact .ok _

theorem readWhole_contained (v : Given) : Contained IsConfigError (readWhole source key v) := by
  cases v with
  | whole n => exact .ok n
  | flag b => exact .ok _
  | text s => exact elim_contained _ _ _ id
  | real x =>
    simp only [readWhole]
    split
    · exact unfit_contained _ _ _ _
    · exact .fault _
    · exact elim_contained _ _ _ id
  | _ => exact unfit_contained _ _ _ _

theorem readReal_contained (v : Given) : Contained IsConfigError (readReal source key v) := by
  have ofInt (n : Int) : Contained IsConfigError
      ((Binary64.ofInt? n).elim (.error (.fault .hugeInteger)) .ok : Outcome Binary64) := by
    cases Binary64.ofInt? n with
    | none => exact .fault _
    | some x => exact .ok x
  cases v with
  | whole n => exact ofInt n
  | flag b => exact ofInt _
  | real x => exact .ok x
  | text s => exact elim_contained _ _ _ id
  | _ => exact unfit_contained _ _ _ _

theorem readChange_contained (source key : String) (v : Given) :
    Contained IsConfigError (readChange source key v) := by
  unfold readChange
  split
  · exact (readTexts_contained v).bind fun _ _ => .ok _
  · exact (readTexts_contained v).bind fun _ _ => .ok _
  · exact (readWhole_contained v).bind fun _ _ => .ok _
  · exact (readReal_contained v).bind fun _ _ => .ok _
  · exact (readText_contained v).bind fun _ _ => .ok _
  · exact (readText_contained v).bind fun _ _ => .ok _
  · exact (readText_contained v).bind fun _ _ => .ok _

theorem readChanges_contained (source : String) (layer : Layer) :
    Contained IsConfigError (readChanges source layer) := by
  induction layer with
  | nil => exact .ok []
  | cons pair rest ih =>
    exact (readChange_contained source pair.1 pair.2).bind fun _ _ => ih.bind fun _ _ => .ok _

theorem coerce_contained (source : String) (layer : Layer) :
    Contained IsConfigError (coerce source layer) := by
  rw [coerce]
  split
  · exact readChanges_contained source layer
  · exact invalid_contained _ _

theorem checked_contained (s : Settings) : Contained IsConfigError (checked s) := by
  simp only [checked]
  split
  · split
    · exact invalid_contained _ _
    · exact .fault _
  · split
    · exact invalid_contained _ _
    · split
      · exact invalid_contained _ _
      · split
        · exact invalid_contained _ _
        · exact .ok _

theorem override_contained (s : Settings) (layer : Layer) :
    Contained IsConfigError (s.override layer) :=
  (coerce_contained _ layer).bind fun _ _ => checked_contained _

theorem readDocument_contained (w : Workspace) (p : Path) :
    Contained IsConfigError (readDocument w p) := by
  rw [readDocument]
  split
  · exact .run ⟨rfl, rfl⟩
  · exact .fault _
  · split
    · exact .ok _
    · exact invalid_contained _ _
    · exact .fault _

theorem fileValues_contained (w : Workspace) (p : Path) :
    Contained IsConfigError (fileValues w p) := by
  refine (readDocument_contained w p).bind fun document _ => ?_
  split
  · exact .ok document
  · split
    · exact .ok _
    · exact invalid_contained _ _

/-- Settings that cannot be loaded are told as an error of the configuration. -/
theorem load_contained (w : Workspace) (env : Environment) (asked : Option Path) (directory : Path) :
    Contained IsConfigError (load w env asked directory) := by
  refine (Contained.of_faults (chooseFile w asked directory)).bind fun chosen _ => ?_
  have finish (fromFile : List Change) : Contained IsConfigError (do
      let fromEnvironment ← coerce "environment" (environmentLayer env)
      checked ((({} : Settings).applyAll fromFile).applyAll fromEnvironment)) :=
    (coerce_contained _ _).bind fun _ _ => checked_contained _
  cases chosen with
  | none => exact finish []
  | some p =>
    have layer : Contained IsConfigError (fileLayer w p) :=
      (fileValues_contained w p).bind fun _ _ => .ok _
    exact layer.bind fun _ _ => (coerce_contained _ _).bind fun changes _ => finish changes

end FenceCheck.Settings
