/-
# Inserting a stage

`insertStage` puts a new stage at a position of the stages block and leaves everything else as it
is.  The position may be any JSON value, since an edit may be asked for in JSON, and only a whole
number from zero to the number of stages is one.  A step has to read back as the single statement
it is: `checkStep` refuses every other one.
-/
import Jenkinsfile.Json.Display
import Jenkinsfile.Line
import Jenkinsfile.Stages.Search

namespace Jenkinsfile

/-! ## 1. Refusals -/

/-- Why a step cannot be written as one. -/
inductive StepFault
  /-- It has a line break. -/
  | severalLines
  /-- Its line is of another kind. -/
  | reads (kind : LineKind)
  deriving DecidableEq, Repr

def StepFault.reason : StepFault → Text
  | .severalLines => "steps must be a single line".toList
  | .reads kind => "parses as ".toList ++ kind.label ++ ", not a statement".toList

/-- Why a stage cannot be inserted. -/
inductive EditError
  /-- There is no stages block. -/
  | noStages
  /-- This is no position among so many stages. -/
  | badIndex (index : Json) (count : Nat)
  /-- This step cannot be written as one. -/
  | badStep (step : Text) (fault : StepFault)

namespace EditError

/-- The class a refusal is reported under. -/
def label : EditError → Text
  | .noStages => "StageContainerNotFoundError".toList
  | .badIndex .. => "StageIndexError".toList
  | .badStep .. => "InvalidStepError".toList

def message : EditError → Text
  | .noStages => "No 'stages' block found under a top-level 'pipeline' block".toList
  | .badIndex index count =>
    "Stage index ".toList ++ index.plain ++ " out of range (valid: 0..".toList
      ++ Text.ofNat count ++ [')']
  | .badStep step fault =>
    "Invalid step ".toList ++ Text.quoted step ++ ": ".toList ++ fault.reason

end EditError

/-! ## 2. The new stage -/

/-- The line a step is written as. -/
def checkStep (step : Text) : Except EditError Text :=
  if step.contains '\n' || step.contains '\r' then .error (.badStep step .severalLines)
  else
    let line := Text.trim step
    match (Line.classify line none).kind with
    | .statement => .ok line
    | kind => .error (.badStep step (.reads kind))

/-- The header of the stage with a name. -/
def stageHeader (name : Text) : Text := "stage('".toList ++ name ++ "')".toList

/-- A stage with one block of steps. -/
def makeStage (name : Text) (steps : List Text) : Except EditError Element := do
  let lines ← steps.mapM checkStep
  return .block (stageHeader name) [.block Role.steps (lines.map Element.statement)]

/-! ## 3. The insertion -/

/-- Applies `f` to the first item that satisfies `p`. -/
def modifyFirst {α : Type} (p : α → Bool) (f : α → α) : List α → List α
  | [] => []
  | a :: as => if p a then f a :: as else a :: modifyFirst p f as

/-- The pipeline with other stages in its stages block. -/
def Pipeline.modifyStages (p : Pipeline) (f : List Element → List Element) : Pipeline :=
  ⟨modifyFirst (·.role = Role.pipeline)
    (fun root => { root with
      children := modifyFirst (·.role = Role.stages)
        (fun container => { container with children := f container.children }) root.children })
    p.elements⟩

/-- The position a value denotes among `count` stages. -/
def indexOf? (index : Json) (count : Nat) : Option Nat :=
  match index with
  | .int (.ofNat i) => if i ≤ count then some i else none
  | _ => none

/-- A stage that has been inserted: the pipeline with it, the stage, where it stands, and how many
steps it was given. -/
structure Insertion where
  pipeline : Pipeline
  stage : Element
  index : Nat
  steps : Nat

/-- Inserts a stage.  The stages block is looked for first, then the position is checked, then the
steps. -/
def insertStage (p : Pipeline) (name : Text) (steps : List Text) (index : Json) :
    Except EditError Insertion :=
  match p.stagesBlock? with
  | none => .error .noStages
  | some container =>
    match indexOf? index container.children.length with
    | none => .error (.badIndex index container.children.length)
    | some i => do
      let stage ← makeStage name steps
      return ⟨p.modifyStages (·.insertIdx i stage), stage, i, steps.length⟩

end Jenkinsfile
