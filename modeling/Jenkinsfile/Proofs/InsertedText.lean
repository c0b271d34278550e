/-
# What an insertion writes

A written pipeline with a place for its stages is what stands above the stages, the stages, and what
stands below them (`StagesPlace.render_fill`).  The stages are all that an insertion changes, and
they are written one after the other, so that the text of the new stage is put between two of them
and nothing else of the text moves (`render_insertStage`).  This holds for every unit of
indentation, whether it is blank or not.
-/
import Jenkinsfile.Proofs.InsertionContract

namespace Jenkinsfile

/-! ## 1. The text around the stages -/

namespace StagesPlace

/-- What is written above the stages: the elements before the pipeline block, its header, its
children before the stages block, and the header of that. -/
def textAbove (place : StagesPlace) (indent : Text) : Text :=
  place.before.flatMap (Element.renderAt indent []) ++ (place.root.name ++ [' ', '\x7b', '\n'])
    ++ Element.renderChildren indent [] place.above
    ++ (indent ++ place.container.name ++ [' ', '\x7b', '\n'])

/-- What is written below the stages: the brace of the stages block, the other children of the
pipeline block, its brace, and the elements after it. -/
def textBelow (place : StagesPlace) (indent : Text) : Text :=
  (indent ++ ['\x7d', '\n']) ++ Element.renderChildren indent [] place.below ++ ['\x7d', '\n']
    ++ place.after.flatMap (Element.renderAt indent [])

variable {place : StagesPlace} {es : List Element}

/-- **A pipeline is written around its stages.** -/
theorem render_fill (hroot : place.root.kind = .block) (hcontainer : place.container.kind = .block)
    (es : List Element) (indent : Text) :
    render (place.fill es) indent = place.textAbove indent
      ++ Element.renderChildren indent indent es ++ place.textBelow indent := by
  have hcontainer' : (place.container.withChildren es).kind = .block := hcontainer
  have hroot' : ∀ children, (place.root.withChildren children).kind = .block := fun _ => hroot
  rw [render, fill, List.flatMap_append, List.flatMap_cons, Element.renderAt_of_block (hroot' _),
    Element.children_withChildren, Element.renderChildren_append, Element.renderChildren,
    Element.deeper_of_block hcontainer', Element.renderAt_of_block hcontainer',
    Element.children_withChildren, textAbove, textBelow]
  simp only [List.append_assoc, List.nil_append]
  rfl

/-- The pipeline block and the stages block of a tree that was read are blocks. -/
theorem kinds_of_canonical (h : (place.fill es).Canonical) :
    place.root.kind = .block ∧ place.container.kind = .block := by
  have hroot := h.elements _ (List.mem_append_right place.before List.mem_cons_self)
  have hkind : place.root.kind = .block :=
    hroot.kind_of_role_ne_nil (by rw [Element.withChildren, place.root_role]; decide)
  refine ⟨hkind, ?_⟩
  cases hroot with
  | block _ _ _ _ _ hchildren =>
    have hcontainer := hchildren _ (List.mem_append_right place.above List.mem_cons_self)
    refine hcontainer.kind_of_role_ne_nil ?_
    rw [Element.withChildren, place.container_role]
    decide
  | leaf hleaf => exact absurd hkind hleaf

end StagesPlace

/-! ## 2. The text of the new stage -/

/-- Steps are written a line each. -/
theorem Element.renderChildren_steps (indent margin : Text) (steps : List Text) :
    renderChildren indent margin (steps.map fun step => statement (Text.trim step))
      = steps.flatMap fun step => margin ++ indent ++ Text.trim step ++ ['\n'] := by
  induction steps with
  | nil => rfl
  | cons step steps ih =>
    rw [List.map_cons, renderChildren, ih, List.flatMap_cons, statement, renderAt_leaf (by decide)]
    rfl

/-- The lines of a stage with these steps among the stages of a pipeline. -/
def stageText (indent name : Text) (steps : List Text) : Text :=
  Text.replicate 2 indent ++ "stage('".toList ++ name ++ "') \x7b\n".toList
    ++ Text.replicate 3 indent ++ "steps \x7b\n".toList
    ++ (steps.flatMap fun step => Text.replicate 4 indent ++ Text.trim step ++ ['\n'])
    ++ Text.replicate 3 indent ++ "\x7d\n".toList
    ++ Text.replicate 2 indent ++ "\x7d\n".toList

theorem stageHeader_append (name : Text) :
    stageHeader name ++ [' ', '\x7b', '\n'] = "stage('".toList ++ name ++ "') \x7b\n".toList := by
  have hend : "')".toList ++ [' ', '\x7b', '\n'] = "') \x7b\n".toList := by decide
  unfold stageHeader
  rw [List.append_assoc, hend]

theorem renderAt_newStage (indent name : Text) (steps : List Text) :
    Element.renderAt indent (indent ++ indent) (newStage name steps)
      = stageText indent name steps := by
  have htwo : Text.replicate 2 indent = indent ++ indent := by
    simp [Text.replicate, List.replicate_succ]
  have hthree : Text.replicate 3 indent = indent ++ indent ++ indent := by
    simp [Text.replicate, List.replicate_succ]
  have hfour : Text.replicate 4 indent = indent ++ indent ++ indent ++ indent := by
    simp [Text.replicate, List.replicate_succ]
  have hsteps : "steps \x7b\n".toList = Role.steps ++ [' ', '\x7b', '\n'] := by decide
  have hbrace : "\x7d\n".toList = ['\x7d', '\n'] := by decide
  rw [newStage, Element.renderAt_block, Element.renderChildren, Element.renderChildren,
    Element.deeper_block, Element.renderAt_block, Element.renderChildren_steps, stageHeader_append,
    stageText, htwo, hthree, hfour, hsteps, hbrace]
  simp only [List.append_assoc, List.nil_append]

/-! ## 3. The insertion -/

/-- **An insertion changes the written pipeline at one place.**  In front of the text of the new
stage stands what is written above the stages and the stages before its position, and behind it the
stages from its position on and what is written below them; and without it, this is the pipeline as
it was. -/
theorem render_insertStage {t name : Text} {steps : List Text} {index : Json}
    {insertion : Insertion}
    (h : insertStage (parse t).pipeline name steps index = .ok insertion) (indent : Text) :
    ∃ (place : StagesPlace) (before after : List Element), place.First ∧
      place.fill (before ++ after) = (parse t).pipeline ∧ index = .int before.length ∧
      ∃ a b, a = place.textAbove indent ++ Element.renderChildren indent indent before ∧
        b = Element.renderChildren indent indent after ++ place.textBelow indent ∧
        render (parse t).pipeline indent = a ++ b ∧
        render insertion.pipeline indent = a ++ stageText indent name steps ++ b := by
  obtain ⟨place, before, after, hfirst, hp, hindex, -, -, hafter⟩ := exists_cut_of_insertStage h
  have hcanonical : (place.fill (before ++ after)).Canonical := by
    rw [hp]
    exact canonical_parse t
  obtain ⟨hroot, hcontainer⟩ := StagesPlace.kinds_of_canonical hcanonical
  refine ⟨place, before, after, hfirst, hp, hindex, _, _, rfl, rfl, ?_, ?_⟩
  · rw [← hp, StagesPlace.render_fill hroot hcontainer, Element.renderChildren_append]
    simp only [List.append_assoc]
  · rw [hafter, StagesPlace.render_fill hroot hcontainer, Element.renderChildren_append,
      Element.renderChildren, newStage, Element.deeper_block, ← newStage, renderAt_newStage]
    simp only [List.append_assoc]

/-- Into a script among the stages, and with a unit of indentation that is not blank. -/
theorem render_insertStage_intoScript :
    ∃ insertion, insertStage (parse scriptAmongStages).pipeline "Build".toList [" make ".toList]
        (.int 1) = .ok insertion ∧
      ∃ a b, render (parse scriptAmongStages).pipeline ['>'] = a ++ b ∧
        render insertion.pipeline ['>']
          = a ++ stageText ['>'] "Build".toList [" make ".toList] ++ b := by
  obtain ⟨insertion, h⟩ : ∃ insertion, insertStage (parse scriptAmongStages).pipeline
      "Build".toList [" make ".toList] (.int 1) = .ok insertion := ⟨_, rfl⟩
  obtain ⟨_, _, _, -, -, -, a, b, -, -, hold, hnew⟩ := render_insertStage h ['>']
  exact ⟨insertion, h, a, b, hold, hnew⟩

end Jenkinsfile
