import FenceCheck.Settings.Basic
import Mathlib.Data.Option.Basic

/-! What the values given for settings stand for, each on its own and whatever layer gives it. -/
namespace FenceCheck.Settings
open FenceCheck.Number
variable {source key : String} {v : Given}

def textOf? : Given → Option String
  | .text s => some s
  | _ => none

def textsOf? : Given → Option (List String)
  | .text s => some [s]
  | .texts items => some items
  | _ => none

def wholeOf? : Given → Option Int
  | .whole n => some n
  | .flag b => some (if b then 1 else 0)
  | .text s => readInt? s
  | .real x => x.truncate
  | _ => none

def realOf? : Given → Option Binary64
  | .whole n => Binary64.ofInt? n
  | .flag b => Binary64.ofInt? (if b then 1 else 0)
  | .real x => some x
  | .text s => readFloat? s
  | _ => none

/-- The change that a value makes for a key, if it can be taken for it. -/
def changeOf? (key : String) (v : Given) : Option Change :=
  match key with
  | "paths" => (textsOf? v).map .paths
  | "exclude" => (textsOf? v).map .exclude
  | "jobs" => (wholeOf? v).map .jobs
  | "timeout" => (realOf? v).map .timeout
  | "out" => (textOf? v).map .out
  | "on_read_error" => (textOf? v).map .onReadError
  | _ => (textOf? v).map .language

/-- Whether a value can be taken for a key. -/
def Fits (key : String) (v : Given) : Prop :=
  (changeOf? key v).isSome = true

theorem readText_eq_ok_iff {s : String} : readText source key v = .ok s ↔ textOf? v = some s := by
  cases v <;> simp [readText, textOf?]

theorem readTexts_eq_ok_iff {items : List String} :
    readTexts source key v = .ok items ↔ textsOf? v = some items := by
  cases v <;> simp [readTexts, textsOf?]

theorem elim_eq_ok_iff {α : Type} {found : Option α} {e : Failure} {a : α} :
    found.elim (.error e) .ok = (.ok a : Outcome α) ↔ found = some a := by
  cases found <;> simp

theorem readWhole_eq_ok_iff {n : Int} : readWhole source key v = .ok n ↔ wholeOf? v = some n := by
  cases v with
  | text s => exact elim_eq_ok_iff
  | real x =>
    simp only [readWhole, wholeOf?]
    split
    · rename_i isNan
      simp [Binary64.truncate, isNan]
    · rename_i isInfinite
      simp [Binary64.truncate, isInfinite]
    · exact elim_eq_ok_iff
  | _ => simp [readWhole, wholeOf?]

theorem readReal_eq_ok_iff {x : Binary64} : readReal source key v = .ok x ↔ realOf? v = some x := by
  cases v with
  | whole n => exact elim_eq_ok_iff
  | flag b => exact elim_eq_ok_iff
  | text s => exact elim_eq_ok_iff
  | _ => simp [readReal, realOf?]

/-- A reading of a value followed by the change that it makes. -/
theorem bind_change_eq_ok_iff {α : Type} {r : Outcome α} {found : Option α} {make : α → Change}
    (reads : ∀ a, r = .ok a ↔ found = some a) {c : Change} :
    (do return make (← r) : Outcome Change) = .ok c ↔ found.map make = some c := by
  cases r with
  | ok a =>
    rw [(reads a).mp rfl]
    simp
  | error e =>
    have none_ : found = none := by
      cases found with
      | none => rfl
      | some a => exact absurd ((reads a).mpr rfl) (by simp)
    simp [none_]

/-- Whatever the layer, a value is taken for a key if it stands for a change, and makes that change. -/
theorem readChange_eq_ok_iff {c : Change} :
    readChange source key v = .ok c ↔ changeOf? key v = some c := by
  unfold readChange
  split
  · exact bind_change_eq_ok_iff fun _ => readTexts_eq_ok_iff
  · exact bind_change_eq_ok_iff fun _ => readTexts_eq_ok_iff
  · exact bind_change_eq_ok_iff fun _ => readWhole_eq_ok_iff
  · exact bind_change_eq_ok_iff fun _ => readReal_eq_ok_iff
  · exact bind_change_eq_ok_iff fun _ => readText_eq_ok_iff
  · exact bind_change_eq_ok_iff fun _ => readText_eq_ok_iff
  · simp only [changeOf?]
    exact bind_change_eq_ok_iff fun _ => readText_eq_ok_iff

end FenceCheck.Settings
