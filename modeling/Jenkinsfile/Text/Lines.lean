/-
# Lines

Only the line feed separates lines.  A pipeline file may still come with carriage returns, and
they are dealt with at two places: `joinReturns` turns the pair "carriage return, line feed" into
the separator when a document is cut into lines, and `unifyBreaks` also does it for a carriage
return on its own when a file is read.
-/
import Jenkinsfile.Text.Blank

namespace Jenkinsfile.Text

/-- Every carriage return directly before a line feed is dropped. -/
def joinReturns : Text → Text
  | '\r' :: '\n' :: t => '\n' :: joinReturns t
  | c :: t => c :: joinReturns t
  | [] => []

/-- Every line break, whether a line feed, a carriage return or the pair of both, becomes one
line feed. -/
def unifyBreaks : Text → Text
  | '\r' :: '\n' :: t => '\n' :: unifyBreaks t
  | '\r' :: t => '\n' :: unifyBreaks t
  | c :: t => c :: unifyBreaks t
  | [] => []

/-- The physical lines of a document without the blanks around it; a blank document has none. -/
def documentLines (t : Text) : List Text :=
  match trim t with
  | [] => []
  | body => (joinReturns body).splitOn '\n'

end Jenkinsfile.Text
