/-
# Unbalanced documents

A document may close a block that is not open, and at its end a script or blocks may still be
open.  A lenient reading recovers from each of these and says so (`Recovery`); a strict reading
refuses the document (`ParseError`).
-/
import Jenkinsfile.Text.Basic

namespace Jenkinsfile

/-! ## 1. Recoveries -/

/-- What a lenient reading recovered from. -/
inductive Recovery
  /-- A closing brace at this line closes nothing and was ignored. -/
  | strayBrace (line : Int)
  /-- The script opened at this line runs to the end of the document. -/
  | openScript (line : Int)
  /-- So many blocks were still open at the end and were dropped; the outermost one has this
  header and was opened at this line. -/
  | openBlocks (count : Nat) (header : Text) (line : Int)
  deriving DecidableEq, Repr

def Recovery.message : Recovery → Text
  | .strayBrace line =>
    "line ".toList ++ Text.ofInt line ++ ": ignoring '\x7d' with no open block".toList
  | .openScript line => "line ".toList ++ Text.ofInt line ++ ": sh block is never closed".toList
  | .openBlocks count header line =>
    "dropping ".toList ++ Text.ofNat count ++ " unclosed block(s), outermost '".toList ++ header
      ++ "' opened at line ".toList ++ Text.ofInt line

/-! ## 2. Refusals -/

/-- Why a strict reading refuses a document. -/
inductive ParseError
  /-- A closing brace at this line closes nothing. -/
  | strayBrace (line : Int)
  /-- The script opened at this line with these quotes is never closed. -/
  | openScript (line : Int) (marker : Text)
  /-- The block opened at this line with this header is never closed. -/
  | openBlock (header : Text) (line : Int)
  deriving DecidableEq, Repr

namespace ParseError

/-- The line a refusal points at. -/
def line : ParseError → Int
  | .strayBrace line | .openScript line _ | .openBlock _ line => line

/-- The class a refusal is reported under. -/
def label : ParseError → Text
  | .strayBrace _ | .openBlock .. => "UnbalancedBracesError".toList
  | .openScript .. => "UnterminatedShBlockError".toList

/-- What is wrong at the line. -/
def description : ParseError → Text
  | .strayBrace _ => "closing brace without a matching block".toList
  | .openScript _ marker =>
    "sh block opened with ".toList ++ marker ++ " is never closed".toList
  | .openBlock header _ => "block '".toList ++ header ++ "' is never closed".toList

def message (e : ParseError) : Text :=
  "line ".toList ++ Text.ofInt e.line ++ ": ".toList ++ e.description

end ParseError

end Jenkinsfile
