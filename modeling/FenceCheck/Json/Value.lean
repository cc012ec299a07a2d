import FenceCheck.Number.Binary64
import FenceCheck.Text.CodePoint

/-!
JSON values. Strings are lists of code points, since an escape can name a lone surrogate; members of an
object keep the order in which their keys first appear.
-/
namespace FenceCheck
open FenceCheck.Text FenceCheck.Number

/-- A JSON value, the three non-finite numbers included. -/
inductive Json where
  | null
  | bool (b : Bool)
  | int (n : Int)
  | float (x : Binary64)
  | string (s : List CodePoint)
  | array (items : List Json)
  | object (members : List (List CodePoint × Json))
  deriving Inhabited

namespace Json

def text (s : String) : Json :=
  .string (codePoints s)

def nat (n : Nat) : Json :=
  .int n

def ofMembers (members : List (String × Json)) : Json :=
  .object (members.map fun (k, v) => (codePoints k, v))

/-- The members after `key` is bound to `value`: a key that is there keeps its place. -/
def bind (key : List CodePoint) (value : Json) :
    List (List CodePoint × Json) → List (List CodePoint × Json)
  | [] => [(key, value)]
  | (k, v) :: rest => if k = key then (k, value) :: rest else (k, v) :: bind key value rest

/-- The value that the members bind to `key`. -/
def lookup (key : List CodePoint) : List (List CodePoint × Json) → Option Json
  | [] => none
  | (k, v) :: rest => if k = key then some v else lookup key rest

def isTruthy : Json → Bool
  | .null => false
  | .bool b => b
  | .int n => n ≠ 0
  | .float x => !x.isZero
  | .string s => !s.isEmpty
  | .array items => !items.isEmpty
  | .object members => !members.isEmpty

end Json
end FenceCheck
