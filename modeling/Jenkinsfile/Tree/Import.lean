/-
# Importing a tree

A tree that conforms to the schema is read into a pipeline.  A block gets the role of its header,
whatever role the tree gives it; a leaf keeps its name and its content.
-/
import Jenkinsfile.Tree.Schema

namespace Jenkinsfile

/-! ## 1. Elements -/

/-- The text of a key among the members of an object. -/
def Json.textMember? (key : Text) (members : List (Text × Json)) : Option Text :=
  match Json.member? key members with
  | some (.text t) => some t
  | _ => none

namespace Element

mutual

/-- The element that an object stands for. -/
def ofJson? : Json → Option Element
  | .object members => do
    let kind ← ElementKind.ofLabel? (← Json.textMember? "kind".toList members)
    let name ← Json.textMember? "name".toList members
    if kind = .block then
      return block name (← childrenOfMembers? members)
    else
      return make kind name (← Json.textMember? "content".toList members) [] []
  | _ => none

/-- The children among the members of a block. -/
def childrenOfMembers? : List (Text × Json) → Option (List Element)
  | [] => none
  | (key, v) :: members =>
    if key = "children".toList then ofArray? v else childrenOfMembers? members

/-- The elements that an array stands for. -/
def ofArray? : Json → Option (List Element)
  | .array items => ofItems? items
  | _ => none

/-- The elements that several objects stand for. -/
def ofItems? : List Json → Option (List Element)
  | [] => some []
  | v :: items => do return (← ofJson? v) :: (← ofItems? items)

end

end Element

/-! ## 2. Pipelines -/

/-- Why a value cannot be imported. -/
inductive ImportError
  /-- It is no tree. -/
  | schema (error : Tree.SchemaError)
  /-- It conforms to the schema and still cannot be read.  No value is like that. -/
  | unreadable

/-- The elements of a tree. -/
def Pipeline.ofTree? : Json → Option Pipeline
  | .object members => do
    return ⟨← Element.ofArray? (← Json.member? "elements".toList members)⟩
  | _ => none

/-- The pipeline that a tree stands for. -/
def Pipeline.ofJson (v : Json) : Except ImportError Pipeline :=
  match Tree.checkTree v with
  | .error e => .error (.schema e)
  | .ok () =>
    match Pipeline.ofTree? v with
    | some p => .ok p
    | none => .error .unreadable

end Jenkinsfile
