/-
# What can be wrong with a tree

A violation is one thing that is wrong with a JSON value that should be a tree, at a path of keys
and positions from the value.  Where several things are wrong, `Problem.compare` says which of
them comes first: the one that lies deeper, then the one with the smaller path, then one that
concerns an element as a whole, then one that concerns the keys of an object.
-/
import Jenkinsfile.Json.Display

namespace Jenkinsfile

/-! ## 1. Paths -/

/-- A step into a JSON value. -/
inductive PathStep
  | key (name : Text)
  | item (position : Nat)
  deriving DecidableEq, Repr

/-- A way into a JSON value. -/
abbrev Path := List PathStep

namespace PathStep

def toText : PathStep → Text
  | .key name => name
  | .item position => Text.ofNat position

/-- Keys are ordered by their characters, positions by their number. -/
def compare : PathStep → PathStep → Ordering
  | .key a, .key b => Ord.compare a b
  | .item a, .item b => Ord.compare a b
  | .key _, .item _ => .lt
  | .item _, .key _ => .gt

end PathStep

namespace Path

/-- The steps of a path, separated by slashes. -/
def toText (path : Path) : Text := ['/'].intercalate (path.map PathStep.toText)

/-- Paths are ordered by their first difference. -/
def compare : Path → Path → Ordering
  | [], [] => .eq
  | [], _ :: _ => .lt
  | _ :: _, [] => .gt
  | a :: path, b :: path' => (a.compare b).then (compare path path')

end Path

/-! ## 2. Violations -/

/-- A type that a JSON value may have to have. -/
inductive JsonType
  | object
  | array
  | string
  deriving DecidableEq, Repr

def JsonType.label : JsonType → Text
  | .object => "object".toList
  | .array => "array".toList
  | .string => "string".toList

/-- One thing that is wrong with a JSON value. -/
inductive Violation
  /-- The value is of another type. -/
  | wrongType (value : Json) (expected : JsonType)
  /-- A key is missing. -/
  | missing (key : Text)
  /-- There are keys that do not belong there. -/
  | unexpected (keys : List Text)
  /-- The value is not the only one allowed. -/
  | notConstant (expected : Json)
  /-- The value is not one of those allowed. -/
  | notAmong (value : Json) (allowed : List Json)
  /-- The value is neither a block nor a leaf. -/
  | noElement (value : Json)

namespace Violation

def message : Violation → Text
  | .wrongType value expected =>
    value.shown ++ " is not of type '".toList ++ expected.label ++ ['\x27']
  | .missing key => Text.quoted key ++ " is a required property".toList
  | .unexpected keys =>
    "Additional properties are not allowed (".toList
      ++ ", ".toList.intercalate (keys.map Text.quoted)
      ++ (if keys.length = 1 then " was".toList else " were".toList) ++ " unexpected)".toList
  | .notConstant expected => expected.shown ++ " was expected".toList
  | .notAmong value allowed =>
    value.shown ++ " is not one of ".toList ++ (Json.array allowed).shown
  | .noElement value =>
    value.shown ++ " is not valid under any of the given schemas".toList

/-- The violation concerns an element as a whole. -/
def isElement : Violation → Bool
  | .noElement _ => true
  | _ => false

/-- The violation concerns the keys of an object. -/
def isKeys : Violation → Bool
  | .missing _ | .unexpected _ => true
  | _ => false

end Violation

/-! ## 3. Problems -/

/-- A violation at a place.  When an element is neither a block nor a leaf, what is wrong with it
as one of the two may say more: `cause` is the violation to report, and `detail` the way to it
from the place. -/
structure Problem where
  place : Path
  violation : Violation
  detail : Path
  cause : Violation

namespace Problem

/-- A violation of the value itself that has no further cause. -/
def plain (violation : Violation) : Problem := ⟨[], violation, [], violation⟩

/-- The problem of a part of a value, seen from the value. -/
def under (step : PathStep) (p : Problem) : Problem := { p with place := step :: p.place }

/-- Which of two problems comes first. -/
def compare (p q : Problem) : Ordering :=
  (Ord.compare q.place.length p.place.length).then
    ((p.place.compare q.place).then
      ((Ord.compare q.violation.isElement p.violation.isElement).then
        (Ord.compare q.violation.isKeys p.violation.isKeys)))

/-- The first of the problems that come last. -/
def last? : List Problem → Option Problem
  | [] => none
  | p :: problems =>
    some (problems.foldl (fun best q => if best.compare q = .lt then q else best) p)

/-- What is wrong with a value that is neither a block nor a leaf, given what is wrong with it as
one of the two.  The problem that comes first is the cause, unless another one ties with it. -/
def ofElement (value : Json) (context : List Problem) : Problem :=
  let own := plain (.noElement value)
  match context.mergeSort fun p q => (p.compare q).isLE with
  | [] => own
  | [p] => { own with detail := p.place ++ p.detail, cause := p.cause }
  | p :: q :: _ =>
    if p.compare q = .eq then own
    else { own with detail := p.place ++ p.detail, cause := p.cause }

end Problem

end Jenkinsfile
