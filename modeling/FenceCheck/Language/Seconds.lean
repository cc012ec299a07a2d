import FenceCheck.Number.Notation

/-!
Time limits in seconds, whole or fractional, as they are given and shown.
-/
namespace FenceCheck
open FenceCheck.Number

inductive Seconds where
  | whole (n : Int)
  | real (x : Binary64)
  deriving DecidableEq

def Seconds.text : Seconds → String
  | .whole n => renderInt n
  | .real x => x.render

end FenceCheck
