/-
# Inserting a stage where a step was found

A stage is often to be put before the first stage with a certain step: the search gives a position,
and the insertion takes it.  But the search visits every stages block of the document, and the
position it gives is one in the block where it ended, whereas the insertion always goes into the
first stages block of the first pipeline block.

* `insertsBefore_findStage?_iff`: the new stage stands directly before a stage with such a step
  exactly if the block that insertions go into has one;
* `not_insertsBefore_laterPipeline`: a document of which only a later block has one, so that the new
  stage comes to stand before some other stage.
-/
import Jenkinsfile.Proofs.StageInsertion

namespace Jenkinsfile

/-! ## 1. The block that is searched first -/

section Search

variable {p : Pipeline} {container : Element} {needle : Text}

/-- The search begins in the block that insertions go into. -/
theorem exists_stagesBlocks_eq (h : p.stagesBlock? = some container) :
    ∃ rest, p.stagesBlocks = container :: rest := by
  obtain ⟨root, hroot, hcontainer⟩ := Option.bind_eq_some_iff.mp h
  rw [Pipeline.find?, ← List.head?_filter, List.head?_eq_some_iff] at hroot
  rw [Element.findChild?, ← List.head?_filter, List.head?_eq_some_iff] at hcontainer
  obtain ⟨roots, hroots⟩ := hroot
  obtain ⟨siblings, hsiblings⟩ := hcontainer
  refine ⟨siblings ++ roots.flatMap fun root => root.children.filter (·.role = Role.stages), ?_⟩
  rw [Pipeline.stagesBlocks, hroots, List.flatMap_cons, hsiblings, List.cons_append]

/-- If it has a stage with such a step, the search ends there. -/
theorem findStage?_eq_findIdx? (h : p.stagesBlock? = some container)
    (hstep : ∃ stage ∈ container.children, stage.hasStep needle = true) :
    p.findStage? needle = container.children.findIdx? (Element.hasStep needle) := by
  obtain ⟨rest, hblocks⟩ := exists_stagesBlocks_eq h
  obtain ⟨i, hi⟩ : ∃ i, container.children.findIdx? (Element.hasStep needle) = some i := by
    rw [← Option.isSome_iff_exists, List.findIdx?_isSome]
    exact List.any_eq_true.mpr hstep
  rw [Pipeline.findStage?, hblocks, List.findSome?_cons, hi]

end Search

/-! ## 2. The new stage and the stage after it -/

/-- A stage that is inserted at this position is there, and the stage directly after it has a step
that holds the needle. -/
def Pipeline.InsertsBefore (p : Pipeline) (needle name : Text) (steps : List Text) (i : Nat) :
    Prop :=
  ∃ container insertion stages next, p.stagesBlock? = some container ∧
    i < container.children.length ∧ insertStage p name steps (.int i) = .ok insertion ∧
    insertion.pipeline.stagesBlock? = some stages ∧ stages.children[i]? = some insertion.stage ∧
    stages.children[i + 1]? = some next ∧ next.hasStep needle = true

section Insertion

variable {p : Pipeline} {container : Element} {needle name : Text} {steps : List Text} {i : Nat}

/-- Steps that are accepted one by one make a stage. -/
theorem exists_makeStage (name : Text) (h : ∀ step ∈ steps, ∃ line, checkStep step = .ok line) :
    ∃ stage, makeStage name steps = .ok stage := by
  obtain ⟨lines, hlines⟩ := exists_mapM_eq_ok h
  exact ⟨_, makeStage_eq_ok_iff.mpr ⟨lines, hlines, rfl⟩⟩

/-- An insertion changes the stages and nothing else of their block. -/
theorem stagesBlock?_insertion {insertion : Insertion} (h : p.stagesBlock? = some container)
    (hinsert : insertStage p name steps (.int i) = .ok insertion) :
    insertion.pipeline.stagesBlock?
      = some (container.withChildren (container.children.insertIdx i insertion.stage)) := by
  obtain ⟨container', stage, j, hcontainer', hindex, -, -, rfl⟩ :=
    insertStage_eq_ok_iff.mp hinsert
  obtain rfl : i = j := Int.ofNat.inj (Json.int.inj hindex)
  rw [Pipeline.stagesBlock?_modifyStages, h]
  rfl

/-- What stands directly after the new stage stood at its position before. -/
theorem exists_hasStep_of_insertsBefore (h : p.InsertsBefore needle name steps i) :
    ∃ container stage, p.stagesBlock? = some container ∧ container.children[i]? = some stage ∧
      stage.hasStep needle = true := by
  obtain ⟨container, insertion, stages, next, hcontainer, -, hinsert, hstages, -, hnext, hstep⟩ := h
  obtain rfl : stages = container.withChildren (container.children.insertIdx i insertion.stage) :=
    Option.some.inj (hstages.symm.trans (stagesBlock?_insertion hcontainer hinsert))
  have hafter : (container.children.insertIdx i insertion.stage)[i + 1]? = some next := hnext
  rw [List.getElem?_insertIdx_of_gt (Nat.lt_succ_self i)] at hafter
  exact ⟨container, next, hcontainer, hafter, hstep⟩

/-- A stage that stood at the position before stands directly after the new one. -/
theorem insertsBefore_of_hasStep (h : p.stagesBlock? = some container)
    (hsteps : ∀ step ∈ steps, ∃ line, checkStep step = .ok line) {stage : Element}
    (hstage : container.children[i]? = some stage) (hstep : stage.hasStep needle = true) :
    p.InsertsBefore needle name steps i := by
  obtain ⟨hi, -⟩ := List.getElem?_eq_some_iff.mp hstage
  obtain ⟨new, hnew⟩ := exists_makeStage name hsteps
  have hinsert := insertStage_eq_ok_iff.mpr
    ⟨container, new, i, h, rfl, Nat.le_of_lt hi, hnew, rfl⟩
  refine ⟨container, _, _, stage, h, hi, hinsert, stagesBlock?_insertion h hinsert, ?_, ?_, hstep⟩
  · show (container.children.insertIdx i new)[i]? = some new
    rw [List.getElem?_insertIdx_self, if_pos (Nat.le_of_lt hi)]
  · show (container.children.insertIdx i new)[i + 1]? = some stage
    rw [List.getElem?_insertIdx_of_gt (Nat.lt_succ_self i)]
    exact hstage

end Insertion

/-! ## 3. The position that was found -/

/-- **A stage that is inserted where a step was found stands directly before a stage with such a
step exactly if** the block that insertions go into has one.  The insertion then succeeds, whatever
the name of the stage and its steps are, as long as the steps are accepted. -/
theorem insertsBefore_findStage?_iff {p : Pipeline} {needle : Text} {i : Nat}
    (h : p.findStage? needle = some i) (name : Text) {steps : List Text}
    (hsteps : ∀ step ∈ steps, ∃ line, checkStep step = .ok line) :
    p.InsertsBefore needle name steps i ↔
      ∃ container, p.stagesBlock? = some container ∧
        ∃ stage ∈ container.children, stage.hasStep needle = true := by
  constructor
  · intro hinserts
    obtain ⟨container, stage, hcontainer, hstage, hstep⟩ :=
      exists_hasStep_of_insertsBefore hinserts
    exact ⟨container, hcontainer, stage, List.mem_of_getElem? hstage, hstep⟩
  · rintro ⟨container, hcontainer, hexists⟩
    rw [findStage?_eq_findIdx? hcontainer hexists] at h
    obtain ⟨hi, hstep, -⟩ := List.findIdx?_eq_some_iff_getElem.mp h
    exact insertsBefore_of_hasStep hcontainer hsteps (List.getElem?_eq_getElem hi) hstep

/-- A document with two pipelines, of which only the second one makes. -/
def twoPipelines : Text :=
  ["pipeline \x7b", "  stages \x7b", "    stage('Lint') \x7b", "      steps \x7b", "        lint",
    "      \x7d", "    \x7d", "  \x7d", "\x7d",
    "pipeline \x7b", "  stages \x7b", "    stage('Build') \x7b", "      steps \x7b", "        make",
    "      \x7d", "    \x7d", "  \x7d", "\x7d"].flatMap fun line => line.toList ++ ['\n']

/-- Before the stage that lints, a new stage is put where it is asked for. -/
theorem insertsBefore_firstPipeline :
    (parse twoPipelines).pipeline.findStage? "lint".toList = some 0 ∧
      (parse twoPipelines).pipeline.InsertsBefore "lint".toList "Test".toList ["test".toList] 0 := by
  have hfind : (parse twoPipelines).pipeline.findStage? "lint".toList = some 0 := by
    decide +kernel
  have hsteps : ∀ step ∈ ["test".toList], ∃ line, checkStep step = .ok line := by
    rw [List.forall_mem_singleton]
    exact ⟨_, rfl⟩
  have hfirst : ∀ container ∈ (parse twoPipelines).pipeline.stagesBlock?,
      ∃ stage ∈ container.children, stage.hasStep "lint".toList = true := by decide +kernel
  obtain ⟨container, hcontainer⟩ :
      ∃ container, (parse twoPipelines).pipeline.stagesBlock? = some container :=
    Option.isSome_iff_exists.mp (by decide +kernel)
  exact ⟨hfind, (insertsBefore_findStage?_iff hfind "Test".toList hsteps).mpr
    ⟨container, hcontainer, hfirst container hcontainer⟩⟩

/-- Before the stage that makes, it is not: it comes to stand before the one that lints. -/
theorem not_insertsBefore_laterPipeline :
    (parse twoPipelines).pipeline.findStage? "make".toList = some 0 ∧
      (∀ step ∈ ["test".toList], ∃ line, checkStep step = .ok line) ∧
      ¬ (parse twoPipelines).pipeline.InsertsBefore "make".toList "Test".toList
        ["test".toList] 0 := by
  refine ⟨by decide +kernel, ?_, fun hinserts => ?_⟩
  · rw [List.forall_mem_singleton]
    exact ⟨_, rfl⟩
  · obtain ⟨container, stage, hcontainer, hstage, hstep⟩ :=
      exists_hasStep_of_insertsBefore hinserts
    have hfirst : ∀ container ∈ (parse twoPipelines).pipeline.stagesBlock?,
        ∀ stage ∈ container.children[0]?, stage.hasStep "make".toList = false := by
      decide +kernel
    rw [hfirst container hcontainer stage hstage] at hstep
    exact absurd hstep (by decide)

end Jenkinsfile
