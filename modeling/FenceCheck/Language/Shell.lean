import FenceCheck.Checker
import FenceCheck.Language.Seconds
import FenceCheck.Shell.Script

/-!
The checker of shell samples. It may have a time limit: one that is not positive has run out before the
check begins, and one that no clock can wait for is a fault.
-/
namespace FenceCheck.Language
open FenceCheck.Number

/-- Why a time limit of a finite, positive number of seconds cannot be kept, if it cannot. -/
def overlong (m : Nat) (e : Int) : Option Fault :=
  let scaled := m * 1000 * pow2 e.toNat
  let den := pow2 (-e).toNat
  let millis := (scaled + den - 1) / den
  if (Binary64.ofRatio? false scaled den).isNone then some .infiniteInteger
  else if millis * 1000000 ≥ pow2 63 then
    some (.raised .overflowError "timestamp too large to convert to C _PyTime_t")
  else if millis ≥ pow2 31 then some (.raised .overflowError "timeout is too large")
  else none

/-- What keeps a check from being finished within a time limit, if anything does. -/
def limitFault (limit : Seconds) : Option Fault :=
  let expired : Fault := .expired "'['bash', '-n']'" limit.text
  let real? := match limit with
    | .whole n => Binary64.ofInt? n
    | .real x => some x
  match real? with
  | none => some .hugeInteger
  | some x =>
    match x.form with
    | .nan => some (.raised .valueError "cannot convert float NaN to integer")
    | .infinite negative => some (if negative then expired else .infiniteInteger)
    | .finite negative m e => if negative || m = 0 then some expired else overlong m e

def checkShell (limit : Option Seconds) : Checker := fun source =>
  match limit.bind limitFault with
  | some fault => .met fault
  | none => .ofComplaint (Shell.complaint? source)

end FenceCheck.Language
