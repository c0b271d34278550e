/-
# Tokens

A document is one token per physical line, from its first line that is not blank to its last.
Tokens are numbered by the line of the document they come from, counted from one, so that blank
lines in front of the document count.
-/
import Jenkinsfile.Line
import Jenkinsfile.Text.Lines

namespace Jenkinsfile

/-- A line of a document with its kind and its number. -/
structure Token where
  kind : LineKind
  value : Text
  line : Int
  deriving DecidableEq, Repr

namespace Token

/-- The tokens of lines numbered from `line` on, the first of which stands inside the script with
the quotes `marker`. -/
def ofLines (line : Nat) (marker : Option Text) : List Text → List Token
  | [] => []
  | raw :: lines =>
    let first := Line.classify (Text.trim raw) marker
    ⟨first.kind, first.value, line⟩ :: ofLines (line + 1) first.marker lines

end Token

/-- The tokens of a document. -/
def tokenize (t : Text) : List Token :=
  Token.ofLines (1 + (Text.leadingBlanks t).count '\n') none (Text.documentLines t)

end Jenkinsfile
