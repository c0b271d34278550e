/-
# Exporting a tree

A pipeline as a JSON value.  A block is exported with its role and its children, a leaf with its
content; what the other kind of element has no use for is left out.
-/
import Jenkinsfile.Element
import Jenkinsfile.Json.Basic

namespace Jenkinsfile

namespace Element

mutual

/-- An element as a JSON object. -/
def toJson : Element → Json
  | ⟨kind, name, content, role, children⟩ =>
    if kind = .block then
      .object
        [("kind".toList, .text kind.label), ("name".toList, .text name),
         ("role".toList, .text role), ("hasBraces".toList, .bool true),
         ("children".toList, .array (childrenToJson children))]
    else
      .object
        [("kind".toList, .text kind.label), ("name".toList, .text name),
         ("content".toList, .text content)]

/-- Several elements as JSON objects. -/
def childrenToJson : List Element → List Json
  | [] => []
  | e :: children => toJson e :: childrenToJson children

end

end Element

/-- A pipeline as a JSON object. -/
def Pipeline.toJson (p : Pipeline) : Json :=
  .object
    [("type".toList, .text "Pipeline".toList),
     ("elements".toList, .array (Element.childrenToJson p.elements))]

end Jenkinsfile
