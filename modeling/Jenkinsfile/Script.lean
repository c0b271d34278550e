/-
# Script steps

The steps `sh`, `bat`, `powershell` and `pwsh` take a script, which may run over several lines
between triple quotes:

    sh '''
        make
        make test
    '''

The line that opens such a script begins with the keyword and the quotes, with or without a
parenthesis between them.  A script whose quotes close at the end of the same line, where blanks
and closing parentheses do not count, is an ordinary statement.
-/
import Jenkinsfile.Text.Blank

namespace Jenkinsfile.Script

/-- The steps that take a script. -/
def keywords : List Text :=
  ["sh".toList, "bat".toList, "powershell".toList, "pwsh".toList]

/-- The triple quotes in single quotes. -/
def singleQuotes : Text := ['\x27', '\x27', '\x27']

/-- The triple quotes in double quotes. -/
def doubleQuotes : Text := ['"', '"', '"']

/-- The quotes that a script of several lines stands between. -/
def markers : List Text := [singleQuotes, doubleQuotes]

/-- The start of a script: its quotes and what follows them on the line. -/
structure Start where
  marker : Text
  rest : Text
  deriving DecidableEq, Repr

/-- Drops one opening parenthesis. -/
def dropParenthesis : Text → Text
  | '(' :: t => t
  | t => t

/-- The script that a line starts, wherever it ends. -/
def start? (line : Text) : Option Start := do
  let afterKeyword ← keywords.findSome? fun keyword => Text.after? keyword line
  let t := Text.trimStart (dropParenthesis (Text.trimStart afterKeyword))
  markers.findSome? fun marker => (Text.after? marker t).map (Start.mk marker)

/-- A line that ends with the quotes of a script, blanks and closing parentheses apart. -/
def endsWith (marker line : Text) : Bool :=
  marker.isSuffixOf (Text.dropEndWhile (fun c => c = ' ' || c = ')') line)

/-- The quotes of the script that a line opens and leaves open. -/
def opening? (line : Text) : Option Text := do
  let start ← start? line
  if endsWith start.marker start.rest then none else some start.marker

end Jenkinsfile.Script
