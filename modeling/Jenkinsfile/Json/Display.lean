/-
# How a value is shown in a message

`Json.shown` writes a value the way error messages name it: `None`, `True` and `False` for the
three constants, numbers in decimal, texts in quotes, arrays in brackets and objects in braces.
`Json.plain` differs on texts only, which it leaves as they are.
-/
import Jenkinsfile.Double.Display
import Jenkinsfile.Json.Basic
import Jenkinsfile.Text.Quoted

namespace Jenkinsfile

namespace Json

mutual

/-- A value as messages show it. -/
def shown : Json → Text
  | .null => "None".toList
  | .bool true => "True".toList
  | .bool false => "False".toList
  | .int n => Text.ofInt n
  | .float x => x.toText
  | .text t => Text.quoted t
  | .array items => '[' :: shownItems items ++ [']']
  | .object members => '\x7b' :: shownMembers members ++ ['\x7d']

/-- The items of an array, separated by commas. -/
def shownItems : List Json → Text
  | [] => []
  | [v] => shown v
  | v :: items => shown v ++ ", ".toList ++ shownItems items

/-- The members of an object, separated by commas. -/
def shownMembers : List (Text × Json) → Text
  | [] => []
  | [(key, v)] => Text.quoted key ++ ": ".toList ++ shown v
  | (key, v) :: members =>
    Text.quoted key ++ ": ".toList ++ shown v ++ ", ".toList ++ shownMembers members

end

/-- A value within running text. -/
def plain : Json → Text
  | .text t => t
  | v => shown v

end Json

end Jenkinsfile
