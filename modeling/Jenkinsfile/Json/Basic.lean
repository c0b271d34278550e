/-
# JSON values

The values that a tree export consists of and that an import is given.  An object is the list of
its members in the order they were written; a key that is written twice counts where it stands
first (`member?`).

A number written with a point or a power of ten is a floating-point number, every other one is an
integer of any size: `1` and `1.0` are different values.
-/
import Jenkinsfile.Double.Basic
import Jenkinsfile.Text.Basic

namespace Jenkinsfile

/-- A JSON value. -/
inductive Json
  | null
  | bool (value : Bool)
  | int (value : Int)
  | float (value : Double)
  | text (value : Text)
  | array (items : List Json)
  | object (members : List (Text × Json))
  deriving Inhabited

namespace Json

/-- The value of a key among the members of an object. -/
def member? (key : Text) (members : List (Text × Json)) : Option Json := members.lookup key

@[simp] theorem member?_nil (key : Text) : member? key [] = none := rfl

theorem member?_cons (key k : Text) (v : Json) (members : List (Text × Json)) :
    member? key ((k, v) :: members) = if key = k then some v else member? key members := by
  by_cases h : key = k
  · simp [member?, h]
  · simp [member?, List.lookup_cons, h, beq_eq_false_iff_ne.2 h]

end Json

end Jenkinsfile
