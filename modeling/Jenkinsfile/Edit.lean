/-
# Editing sessions

A pipeline may be edited, written and read back, or exported and imported again, in any order.  An
edit that fails leaves the pipeline as it was.
-/
import Jenkinsfile.Fault
import Jenkinsfile.Notice
import Jenkinsfile.Render
import Jenkinsfile.Tree.Export

namespace Jenkinsfile

/-- One step of a session. -/
inductive Edit
  /-- Inserts a stage. -/
  | insert (name : Text) (steps : List Text) (index : Json)
  /-- Writes the pipeline with a unit of indentation and reads it back. -/
  | reparse (indent : Text) (strict : Bool)
  /-- Exports the pipeline and imports it again. -/
  | reimport

/-- A pipeline after an edit, the stage that was inserted, and what the edit left in the log. -/
structure Edited where
  pipeline : Pipeline
  stage : Option Element
  notices : List Notice

namespace Edit

/-- Applies an edit to a pipeline. -/
def apply (p : Pipeline) : Edit → Except Fault Edited
  | .insert name steps index =>
    match insertStage p name steps index with
    | .ok insertion => .ok ⟨insertion.pipeline, some insertion.stage, [insertion.notice]⟩
    | .error e => .error (.edit e)
  | .reparse indent strict =>
    match parseAs strict (render p indent) with
    | .ok parsed => .ok ⟨parsed.pipeline, none, parsed.notices⟩
    | .error e => .error (.parse e)
  | .reimport =>
    match Pipeline.ofJson p.toJson with
    | .ok q => .ok ⟨q, none, []⟩
    | .error e => .error (.tree e)

/-- The pipeline after an edit, whether it failed or not. -/
def run (p : Pipeline) (e : Edit) : Pipeline :=
  match e.apply p with
  | .ok edited => edited.pipeline
  | .error _ => p

/-- The pipeline after a session. -/
def runAll (p : Pipeline) (edits : List Edit) : Pipeline := edits.foldl run p

end Edit

end Jenkinsfile
