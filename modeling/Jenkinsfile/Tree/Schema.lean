/-
# The schema of an exported tree

A tree is an object with the type `Pipeline` and an array of elements.  An element is a block or a
leaf: a block has a kind, a name, braces and children, and may have a role; a leaf has a kind, a
name and a content, and may say that it has no braces.  No other keys are allowed.

`treeProblems` lists everything that is wrong with a value, and `checkTree` reports the problem
that comes last, which is the one nearest to the top of the tree.
-/
import Jenkinsfile.Element
import Jenkinsfile.Tree.Violation

namespace Jenkinsfile.Tree

/-! ## 1. Values -/

/-- The roles a block may have. -/
def roles : List Text := [Role.pipeline, Role.stages, Role.stage, Role.steps, []]

/-- The kinds a leaf may have. -/
def leafKinds : List ElementKind := [.statement, .scriptOpen, .scriptLine, .scriptClose]

/-- The value has to be a text. -/
def stringProblems : Json → List Problem
  | .text _ => []
  | v => [.plain (.wrongType v .string)]

/-- The value has to be this text. -/
def constantProblems (expected : Text) : Json → List Problem
  | .text t => if t = expected then [] else [.plain (.notConstant (.text expected))]
  | _ => [.plain (.notConstant (.text expected))]

/-- The value has to be this truth value. -/
def flagProblems (expected : Bool) : Json → List Problem
  | .bool b => if b = expected then [] else [.plain (.notConstant (.bool expected))]
  | _ => [.plain (.notConstant (.bool expected))]

/-- The value has to be one of these texts. -/
def choiceProblems (allowed : List Text) (v : Json) : List Problem :=
  let refused : List Problem := [.plain (.notAmong v (allowed.map .text))]
  match v with
  | .text t => if t ∈ allowed then [] else refused
  | _ => refused

/-! ## 2. Objects -/

/-- The keys of an object: those that are required, and those that are allowed. -/
structure Keys where
  required : List Text
  allowed : List Text

/-- The keys of a tree. -/
def rootKeys : Keys :=
  ⟨["type".toList, "elements".toList], ["type".toList, "elements".toList]⟩

/-- The keys of a block. -/
def blockKeys : Keys :=
  ⟨["kind".toList, "name".toList, "hasBraces".toList, "children".toList],
   ["kind".toList, "name".toList, "role".toList, "hasBraces".toList, "children".toList]⟩

/-- The keys of a leaf. -/
def leafKeys : Keys :=
  ⟨["kind".toList, "name".toList, "content".toList],
   ["kind".toList, "name".toList, "content".toList, "hasBraces".toList]⟩

/-- The keys that an object should not have, sorted. -/
def Keys.unexpected (keys : Keys) (members : List (Text × Json)) : List Text :=
  ((members.map (·.1)).filter (· ∉ keys.allowed)).mergeSort fun a b => (compare a b).isLE

/-- What is wrong with the keys of an object. -/
def Keys.problems (keys : Keys) (members : List (Text × Json)) : List Problem :=
  (keys.required.filter fun key => (Json.member? key members).isNone).map
      (fun key => .plain (.missing key))
    ++ (match keys.unexpected members with
        | [] => []
        | extra => [.plain (.unexpected extra)])

/-- What is wrong with the value of a key that an object has. -/
def memberProblems (key : Text) (check : Json → List Problem) (members : List (Text × Json)) :
    List Problem :=
  match Json.member? key members with
  | some v => (check v).map (Problem.under (.key key))
  | none => []

/-! ## 3. Elements -/

/-- What is wrong with a block's members, its children apart. -/
def blockProblems (members : List (Text × Json)) : List Problem :=
  blockKeys.problems members
    ++ memberProblems "kind".toList (constantProblems ElementKind.block.label) members
    ++ memberProblems "name".toList stringProblems members
    ++ memberProblems "role".toList (choiceProblems roles) members
    ++ memberProblems "hasBraces".toList (flagProblems true) members

/-- What is wrong with a leaf's members. -/
def leafProblems (members : List (Text × Json)) : List Problem :=
  leafKeys.problems members
    ++ memberProblems "kind".toList (choiceProblems (leafKinds.map (·.label))) members
    ++ memberProblems "name".toList stringProblems members
    ++ memberProblems "content".toList stringProblems members
    ++ memberProblems "hasBraces".toList (flagProblems false) members

/-- What is wrong with an element, given what is wrong with it as a block and as a leaf. -/
def eitherProblems (v : Json) (asBlock asLeaf : List Problem) : List Problem :=
  if asBlock.isEmpty || asLeaf.isEmpty then [] else [.ofElement v (asBlock ++ asLeaf)]

mutual

/-- What is wrong with an element. -/
def elementProblems : Json → List Problem
  | .object members =>
    eitherProblems (.object members) (blockProblems members ++ childrenProblems members)
      (leafProblems members)
  | v =>
    eitherProblems v [.plain (.wrongType v .object)] [.plain (.wrongType v .object)]

/-- What is wrong with the children among a block's members. -/
def childrenProblems : List (Text × Json) → List Problem
  | [] => []
  | (key, v) :: members =>
    if key = "children".toList then (arrayProblems v).map (Problem.under (.key key))
    else childrenProblems members

/-- What is wrong with an array of elements. -/
def arrayProblems : Json → List Problem
  | .array items => itemProblems 0 items
  | v => [.plain (.wrongType v .array)]

/-- What is wrong with elements at the positions from `position` on. -/
def itemProblems (position : Nat) : List Json → List Problem
  | [] => []
  | v :: items =>
    (elementProblems v).map (Problem.under (.item position)) ++ itemProblems (position + 1) items

end

/-! ## 4. Trees -/

/-- Everything that is wrong with a tree. -/
def treeProblems : Json → List Problem
  | .object members =>
    rootKeys.problems members
      ++ memberProblems "type".toList (constantProblems "Pipeline".toList) members
      ++ memberProblems "elements".toList arrayProblems members
  | v => [.plain (.wrongType v .object)]

/-- The one thing that is reported about a value that is no tree. -/
structure SchemaError where
  path : Path
  violation : Violation

/-- The path is shown in front of what is wrong there. -/
def SchemaError.message (e : SchemaError) : Text :=
  match Path.toText e.path with
  | [] => e.violation.message
  | path => path ++ ": ".toList ++ e.violation.message

/-- The class the report stands under. -/
def SchemaError.label : Text := "TreeSchemaError".toList

/-- Checks that a value is a tree. -/
def checkTree (v : Json) : Except SchemaError Unit :=
  match Problem.last? (treeProblems v) with
  | some p => .error ⟨p.place ++ p.detail, p.cause⟩
  | none => .ok ()

end Jenkinsfile.Tree
