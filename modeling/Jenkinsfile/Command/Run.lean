/-
# Runs

A run reads a document, may insert a stage, may export the tree to a file, and writes the whole
file or its outline to the standard output or to a file.  All of this is decided by `respond`,
from the options and the text of the document alone; `run` reads the document, performs the
writes, and turns what happened into an exit code, an output and a log.

`run` works with any `Files`: those of the system, or those of a workspace that is a value
(`runIn`).
-/
import Jenkinsfile.Canonical
import Jenkinsfile.Command.Options
import Jenkinsfile.Fault
import Jenkinsfile.Json.Printer
import Jenkinsfile.Text.Lines
import Jenkinsfile.Tree.Export

namespace Jenkinsfile.Command

/-! ## 1. What a run does with a document -/

/-- What is left to do when nothing went wrong with a document: the files to write, the output,
and what the last step of the run puts into the log. -/
structure Response where
  writes : List (Text × Text)
  output : Text
  closing : List Notice

/-- A file name that was given and is not empty. -/
def given? (name : Option Text) : Option Text := name.filter (!·.isEmpty)

/-- The position at which a run inserts its stage. -/
def position (o : Options) (p : Pipeline) : Except Fault Json :=
  match o.beforeStep with
  | some (.text needle) =>
    match p.findStage? needle with
    | some i => .ok (.int i)
    | none => .error (.noSuchStep (.text needle))
  | some needle => .error (.noSuchStep needle)
  | none => .ok (o.index.getD .null)

/-- The pipeline with the stage that a run inserts, and what this puts into the log. -/
def edited (o : Options) (p : Pipeline) : Except Fault (Pipeline × List Notice) :=
  match o.insertStage with
  | none => .ok (p, [])
  | some name => do
    let index ← position o p
    match insertStage p name o.steps index with
    | .ok insertion => return (insertion.pipeline, [insertion.notice])
    | .error e => .error (.edit e)

/-- The export of a pipeline, checked against the schema. -/
def exported (p : Pipeline) : Except Fault Text :=
  match Tree.checkTree p.toJson with
  | .ok () => .ok p.toJson.pretty
  | .error e => .error (.tree (.schema e))

/-- The file that a run exports the tree to. -/
def exportWrites (o : Options) (p : Pipeline) : Except Fault (List (Text × Text)) :=
  match given? o.emitJson with
  | some path => do return [(path, ← exported p)]
  | none => .ok []

/-- The text that a run makes of a pipeline. -/
def product (o : Options) (p : Pipeline) : Text :=
  if o.render || o.insertStage.isSome then render p (Text.replicate o.indent.toNat [' '])
  else outline p

/-- The end of a run on a pipeline.  The hash is that of the pipeline as it would be written, which
is read for it once more. -/
def conclude (o : Options) (p : Pipeline) : Except Fault Response := do
  let exports ← exportWrites o p
  let written := render p defaultIndent
  let hash := if o.printHash then contentHash written ++ ['\n'] else []
  let closing := if o.printHash then (parse written).notices else []
  match given? o.out with
  | some path => return ⟨exports ++ [(path, product o p)], hash, closing⟩
  | none => return ⟨exports, product o p ++ hash, closing⟩

/-- What a run does with a document: what it puts into the log before it writes anything, and what
there is to write. -/
def respond (o : Options) (t : Text) : List Notice × Except Fault Response :=
  match parseAs o.strict t with
  | .error e => ([], .error (.parse e))
  | .ok parsed =>
    match edited o parsed.pipeline with
    | .error fault => (parsed.notices, .error fault)
    | .ok (p, notices) => (parsed.notices ++ notices, conclude o p)

/-! ## 2. Outcomes -/

/-- How a run ends. -/
structure Outcome where
  exit : Nat
  stdout : Text
  stderr : Text
  deriving DecidableEq, Repr

/-- The report of a fault. -/
def report (fault : Fault) : Text :=
  (Json.object
    [("reason".toList, .text fault.message), ("status".toList, .text "error".toList),
     ("type".toList, .text fault.label)]).pretty ++ ['\n']

namespace Outcome

/-- A run that did what it was asked to. -/
def done (o : Options) (notices : List Notice) (output : Text) : Outcome :=
  ⟨0, output, Notice.log o.logLevel notices⟩

/-- A run that met a fault. -/
def failed (o : Options) (notices : List Notice) (fault : Fault) : Outcome :=
  ⟨1, report fault, Notice.log o.logLevel notices⟩

/-- A run that was not asked properly. -/
def refused (e : UsageError) : Outcome :=
  ⟨2, [], "jenkinsweave: error: ".toList ++ e.message ++ ['\n']⟩

/-- A run that was asked for help. -/
def help : Outcome :=
  ⟨0, "usage: jenkinsweave [options] [path]\n\noptions:\n".toList
      ++ Opt.spellings.flatMap (fun s => [' ', ' '] ++ s.1 ++ ['\n']), []⟩

end Outcome

/-! ## 3. Files -/

/-- Access to files and to the standard input. -/
structure Files (m : Type → Type) where
  stdin : m (List UInt8)
  read : Text → m (Except FileFault (List UInt8))
  write : Text → List UInt8 → m (Except FileFault Unit)

namespace Files

variable {m : Type → Type} [Monad m]

/-- The text that the bytes of a document stand for. -/
def documentText (bytes : List UInt8) : Except Fault Text :=
  match Utf8.decode bytes with
  | .ok t => .ok (Text.unifyBreaks t)
  | .error malformed => .error (.encoding malformed)

/-- Reads the document of a run. -/
def document (files : Files m) (o : Options) : m (Except Fault Text) :=
  match (given? o.path).filter (· ≠ ['-']) with
  | none => do return documentText (← files.stdin)
  | some path => do
    match ← files.read path with
    | .ok bytes => return documentText bytes
    | .error fault => return .error (.file fault)

/-- Writes files one after the other, up to the first that cannot be written. -/
def writeAll (files : Files m) : List (Text × Text) → m (Except FileFault Unit)
  | [] => return .ok ()
  | (path, t) :: writes => do
    match ← files.write path (Utf8.encode t) with
    | .ok () => writeAll files writes
    | .error fault => return .error fault

end Files

/-! ## 4. Runs -/

/-- A run with the given options. -/
def runWith {m : Type → Type} [Monad m] (files : Files m) (o : Options) : m Outcome := do
  match ← files.document o with
  | .error fault => return .failed o [] fault
  | .ok t =>
    match respond o t with
    | (notices, .error fault) => return .failed o notices fault
    | (notices, .ok response) =>
      match ← files.writeAll response.writes with
      | .error fault => return .failed o notices (.file fault)
      | .ok () => return .done o (notices ++ response.closing) response.output

/-- A run with the given arguments. -/
def run {m : Type → Type} [Monad m] (files : Files m) (arguments : List Text) : m Outcome :=
  match Request.ofArguments arguments with
  | .error e => return .refused e
  | .ok .help => return .help
  | .ok (.run o) => runWith files o

/-- The files of a workspace. -/
def workspaceFiles (stdin : List UInt8) : Files (StateM Workspace) where
  stdin := return stdin
  read path := do return (← get).read path
  write path bytes := do
    match (← get).write path bytes with
    | .ok after => set after; return .ok ()
    | .error fault => return .error fault

/-- A run in a workspace, with what it makes of the workspace. -/
def runIn (w : Workspace) (stdin : List UInt8) (arguments : List Text) : Outcome × Workspace :=
  (run (workspaceFiles stdin) arguments).run w

end Jenkinsfile.Command
