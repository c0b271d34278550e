/-
# Building the tree

The tokens of a document are read one after the other.  A block that has been opened is kept in a
frame with the children read so far, and is attached to what is around it when it closes; every
other line is a leaf of the innermost open block, or of the document where no block is open.

`Builder.step` and `Builder.finish` read leniently and note each recovery; `Builder.strictStep`
and `Builder.strictFinish` refuse where the others recover, and do the same everywhere else.
-/
import Jenkinsfile.Element
import Jenkinsfile.Parse.Recovery
import Jenkinsfile.Token

namespace Jenkinsfile

/-! ## 1. The state -/

/-- A block that is open: its header, the line of its brace, and its children so far. -/
structure Frame where
  header : Text
  line : Int
  children : List Element

/-- The block of a frame that closes. -/
def Frame.close (f : Frame) : Element := Element.block f.header f.children

/-- A script that is open: the line of its step and its quotes. -/
structure OpenScript where
  line : Int
  marker : Text
  deriving DecidableEq, Repr

/-- What has been read of a document: the elements outside of every open block, the open blocks
from the innermost out, the open script, and the recoveries so far. -/
structure Builder where
  elements : List Element
  frames : List Frame
  script : Option OpenScript
  recoveries : List Recovery

/-- A document that has been read, and what the reading recovered from. -/
structure Parsed where
  pipeline : Pipeline
  recoveries : List Recovery

namespace Builder

/-- Nothing read yet. -/
def empty : Builder := ⟨[], [], none, []⟩

/-- Attaches an element to the innermost open block, or to the document. -/
def add (b : Builder) (e : Element) : Builder :=
  match b.frames with
  | [] => { b with elements := b.elements ++ [e] }
  | f :: frames => { b with frames := { f with children := f.children ++ [e] } :: frames }

/-- Opens a block. -/
def openBlock (b : Builder) (header : Text) (line : Int) : Builder :=
  { b with frames := ⟨header, line, []⟩ :: b.frames }

/-- Closes the innermost open block, or ignores a brace that closes nothing. -/
def closeBlock (b : Builder) (line : Int) : Builder :=
  match b.frames with
  | [] => { b with recoveries := b.recoveries ++ [.strayBrace line] }
  | f :: frames => { b with frames := frames }.add f.close

/-- The quotes of a line that opens a script. -/
def markerOf (line : Text) : Text :=
  ((Script.start? line).map (·.marker)).getD Script.singleQuotes

/-! ## 2. Lenient reading -/

/-- Reads a token. -/
def step (b : Builder) (t : Token) : Builder :=
  match t.kind with
  | .blank => b
  | .scriptOpen =>
    { b.add (.leaf .scriptOpen t.value) with script := some ⟨t.line, markerOf t.value⟩ }
  | .scriptLine => b.add (.leaf .scriptLine t.value)
  | .scriptClose => { b.add (.leaf .scriptClose t.value) with script := none }
  | .blockOpen => b.openBlock t.value t.line
  | .blockClose => b.closeBlock t.line
  | .statement | .other _ => b.add (.statement t.value)

/-- What the end of the document recovers from: an open script, then open blocks. -/
def endRecoveries (b : Builder) : List Recovery :=
  (b.script.map fun s => Recovery.openScript s.line).toList ++
    (b.frames.getLast?.map fun f => Recovery.openBlocks b.frames.length f.header f.line).toList

/-- The end of the document.  Blocks that are still open are dropped with all they hold. -/
def finish (b : Builder) : Parsed := ⟨⟨b.elements⟩, b.recoveries ++ b.endRecoveries⟩

/-! ## 3. Strict reading -/

/-- Reads a token, and refuses a brace that closes nothing. -/
def strictStep (b : Builder) (t : Token) : Except ParseError Builder :=
  if t.kind = .blockClose ∧ b.frames.isEmpty then .error (.strayBrace t.line)
  else .ok (b.step t)

/-- The end of the document, which refuses an open script and then an open block, of which it
names the innermost. -/
def strictFinish (b : Builder) : Except ParseError Pipeline :=
  match b.script, b.frames with
  | some s, _ => .error (.openScript s.line s.marker)
  | none, f :: _ => .error (.openBlock f.header f.line)
  | none, [] => .ok ⟨b.elements⟩

end Builder

end Jenkinsfile
