/-
# Finding stages

The stages of a pipeline are the children of its stages block: the first block with that role in
the first pipeline block.  A search for a step looks further and visits the stages blocks of every
pipeline block, in the order of the document.
-/
import Jenkinsfile.Element

namespace Jenkinsfile

/-! ## 1. The stages block -/

namespace Pipeline

/-- The first stages block of the first pipeline block. -/
def stagesBlock? (p : Pipeline) : Option Element :=
  (p.find? Role.pipeline).bind (·.findChild? Role.stages)

/-- The headers of the stages. -/
def stageNames (p : Pipeline) : List Text :=
  match p.stagesBlock? with
  | some container => container.children.map (·.name)
  | none => []

end Pipeline

/-! ## 2. Searching for a step -/

/-- A step of this stage holds the needle: a direct child of one of its blocks of steps. -/
def Element.hasStep (needle : Text) (stage : Element) : Bool :=
  stage.children.any fun block =>
    block.role = Role.steps && block.children.any fun step => Text.holds needle step.content

namespace Pipeline

/-- Every stages block of every pipeline block. -/
def stagesBlocks (p : Pipeline) : List Element :=
  (p.elements.filter (·.role = Role.pipeline)).flatMap fun root =>
    root.children.filter (·.role = Role.stages)

/-- The position of the first stage with a step that holds the needle, within the stages block it
stands in. -/
def findStage? (p : Pipeline) (needle : Text) : Option Nat :=
  p.stagesBlocks.findSome? fun container => container.children.findIdx? (Element.hasStep needle)

end Pipeline

end Jenkinsfile
