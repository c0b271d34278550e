/-
# Tokens from elsewhere

Tokens need not come from a document.  Such a token may not say which line it comes from, and it
may claim to open a script without the quotes that open one.

They are read like any others, with their positions in place of line numbers, up to the first
token that cannot be read; then each position is turned into the line of its token.  A script
whose line is not known counts as closed, and a recovery at an unknown line cannot be noted.
-/
import Jenkinsfile.Parse

namespace Jenkinsfile

/-! ## 1. Loose tokens -/

/-- A token that may not know its line. -/
structure LooseToken where
  kind : LineKind
  value : Text
  line : Option Int
  deriving DecidableEq, Repr

/-- The token can be read: if it opens a script, its text does. -/
def LooseToken.isReadable (t : LooseToken) : Bool :=
  t.kind ≠ .scriptOpen || (Script.start? t.value).isSome

/-- Why loose tokens have no tree. -/
inductive LooseError
  /-- A strict reading refuses the token at a position; its line may not be known. -/
  | refused (error : ParseError) (line : Option Int)
  /-- A token opens a script and has no quotes. -/
  | noQuotes
  /-- A recovery would have to name a line that is not known. -/
  | noLine
  deriving DecidableEq, Repr

/-- A refusal names its line where that is known. -/
def LooseError.message : LooseError → Text
  | .refused error (some line) =>
    "line ".toList ++ Text.ofInt line ++ ": ".toList ++ error.description
  | .refused error none => error.description
  | .noQuotes => "a script is opened without quotes".toList
  | .noLine => "a recovery has no line".toList

/-- What a reading of loose tokens notes, and what it gives. -/
structure LooseParsed where
  recoveries : List Recovery
  result : Except LooseError Pipeline

namespace LooseToken

/-! ## 2. Positions -/

/-- The tokens with their positions for lines. -/
def placed (tokens : List LooseToken) : List Token :=
  tokens.zipIdx.map fun t => ⟨t.1.kind, t.1.value, t.2⟩

/-- The line of the token at a position. -/
def lineAt (tokens : List LooseToken) (position : Int) : Option Int :=
  (tokens[position.toNat]?).bind (·.line)

/-- A recovery at the line of the token at its position. -/
def recoveryAt (tokens : List LooseToken) : Recovery → Option Recovery
  | .strayBrace i => (lineAt tokens i).map .strayBrace
  | .openScript i => (lineAt tokens i).map .openScript
  | .openBlocks count header i => (lineAt tokens i).map (.openBlocks count header)

/-- A refusal with the line of the token at its position. -/
def refusalAt (tokens : List LooseToken) (error : ParseError) : LooseError :=
  .refused error (lineAt tokens error.line)

/-- The state without an open script whose line is not known. -/
def settle (tokens : List LooseToken) (b : Builder) : Builder :=
  { b with script := b.script.filter fun s => (lineAt tokens s.line).isSome }

/-! ## 3. Readings -/

/-- Notes recoveries up to the first at an unknown line, which ends the reading. -/
def note (tokens : List LooseToken) (recoveries : List Recovery)
    (result : Except LooseError Pipeline) : LooseParsed :=
  let noted := recoveries.map (recoveryAt tokens)
  if noted.all Option.isSome then ⟨noted.filterMap id, result⟩
  else ⟨(noted.takeWhile Option.isSome).filterMap id, .error .noLine⟩

/-- Reads loose tokens leniently. -/
def build (tokens : List LooseToken) : LooseParsed :=
  let readable := tokens.takeWhile isReadable
  let b := (placed readable).foldl Builder.step .empty
  if readable.length < tokens.length then note tokens b.recoveries (.error .noQuotes)
  else
    let parsed := (settle tokens b).finish
    note tokens parsed.recoveries (.ok parsed.pipeline)

/-- Reads loose tokens strictly. -/
def buildStrict (tokens : List LooseToken) : Except LooseError Pipeline := do
  let readable := tokens.takeWhile isReadable
  let b ← ((placed readable).foldlM Builder.strictStep .empty).mapError (refusalAt tokens)
  if readable.length < tokens.length then .error .noQuotes
  else (settle tokens b).strictFinish.mapError (refusalAt tokens)

/-- Reads loose tokens strictly or leniently. -/
def buildAs (strict : Bool) (tokens : List LooseToken) : LooseParsed :=
  if strict then ⟨[], buildStrict tokens⟩ else build tokens

end LooseToken

end Jenkinsfile
