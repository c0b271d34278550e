/-
# Reading a pipeline file

`build` makes a tree of any tokens and `buildStrict` only of balanced ones; `parse` and
`parseStrict` do the same for a document.
-/
import Jenkinsfile.Parse.Builder

namespace Jenkinsfile

/-- The tree of a list of tokens, with what was recovered from. -/
def build (tokens : List Token) : Parsed := (tokens.foldl Builder.step .empty).finish

/-- The tree of a list of tokens in which everything that opens closes, and nothing else does. -/
def buildStrict (tokens : List Token) : Except ParseError Pipeline := do
  let b ← tokens.foldlM Builder.strictStep .empty
  b.strictFinish

/-- A document, read leniently. -/
def parse (t : Text) : Parsed := build (tokenize t)

/-- A document, read strictly. -/
def parseStrict (t : Text) : Except ParseError Pipeline := buildStrict (tokenize t)

/-- A document, read strictly or leniently.  A strict reading recovers from nothing. -/
def parseAs (strict : Bool) (t : Text) : Except ParseError Parsed :=
  if strict then (parseStrict t).map fun p => ⟨p, []⟩ else .ok (parse t)

end Jenkinsfile
