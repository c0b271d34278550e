/-
# Everything that can go wrong

The refusals of the parts of this library under one type, each with the class and the text that a
report gives it.
-/
import Jenkinsfile.Parse
import Jenkinsfile.Stages.Insert
import Jenkinsfile.Text.Utf8
import Jenkinsfile.Tree.Import
import Jenkinsfile.Workspace

namespace Jenkinsfile

/-- What went wrong. -/
inductive Fault
  /-- A document is not balanced. -/
  | parse (error : ParseError)
  /-- A stage cannot be inserted. -/
  | edit (error : EditError)
  /-- A value is not the export of a tree. -/
  | tree (error : ImportError)
  /-- An element is given a kind that it cannot have. -/
  | kind (error : Element.KindError)
  /-- No stage has a step that holds this. -/
  | noSuchStep (needle : Json)
  /-- A file cannot be read or written. -/
  | file (fault : FileFault)
  /-- The bytes of a document are not UTF-8. -/
  | encoding (malformed : Utf8.Malformed)

namespace Fault

/-- The class a fault is reported under. -/
def label : Fault → Text
  | .parse error => error.label
  | .edit error => error.label
  | .tree (.schema _) => Tree.SchemaError.label
  | .tree .unreadable => "UnreadableTreeError".toList
  | .kind _ => "ValueError".toList
  | .noSuchStep _ => "JenkinsfileError".toList
  | .file fault => fault.label
  | .encoding _ => "UnicodeDecodeError".toList

def message : Fault → Text
  | .parse error => error.message
  | .edit error => error.message
  | .tree (.schema error) => error.message
  | .tree .unreadable => "the tree cannot be read".toList
  | .kind error => error.message
  | .noSuchStep needle => "no stage has a step containing ".toList ++ needle.shown
  | .file fault => fault.message
  | .encoding malformed => malformed.message

end Fault

end Jenkinsfile
