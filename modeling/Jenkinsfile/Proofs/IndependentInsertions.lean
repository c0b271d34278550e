/-
# Two insertions

An insertion looks for the stages block anew, in the pipeline that the insertion before it left.
It finds the same place (`StagesPlace.First.insertStage_fill`), so that two stages may be inserted
in either order, as long as the position of the later one counts the earlier one when that is there
already (`insertStage_comm`).
-/
import Jenkinsfile.Proofs.InsertionContract

namespace Jenkinsfile

/-- **Two stages may be inserted in either order.**  One goes to the position `i` and the other one
to `j`, which is not before it, or to `j + 1` if the first one is there already.  All four
insertions are done, and they come to the same pipeline: the stages up to `i`, the one stage, those
up to `j`, the other stage, and the rest. -/
theorem insertStage_comm {p : Pipeline} {container : Element}
    (hcontainer : p.stagesBlock? = some container) {stepsA stepsB : List Text}
    (hstepsA : ∀ step ∈ stepsA, StepAccepted step) (hstepsB : ∀ step ∈ stepsB, StepAccepted step)
    {i j : Nat} (hij : i ≤ j) (hj : j ≤ container.children.length) (nameA nameB : Text) :
    ∃ a ab b ba, insertStage p nameA stepsA (.int i) = .ok a ∧
      insertStage a.pipeline nameB stepsB (.int (j + 1 : Nat)) = .ok ab ∧
      insertStage p nameB stepsB (.int j) = .ok b ∧
      insertStage b.pipeline nameA stepsA (.int i) = .ok ba ∧
      ab.pipeline = ba.pipeline ∧
      ab.pipeline.stagesBlock? = some (container.withChildren
        (container.children.take i ++ newStage nameA stepsA ::
          ((container.children.drop i).take (j - i) ++ newStage nameB stepsB ::
            container.children.drop j))) := by
  obtain ⟨place, hfirst, rfl, rfl⟩ := p.exists_first hcontainer
  -- the stages are cut at both positions, and each insertion fills one of the cuts
  obtain ⟨before, between, after, hstages, rfl, rfl⟩ :
      ∃ before between after, place.container.children = before ++ (between ++ after) ∧
        before.length = i ∧ (before ++ between).length = j := by
    refine ⟨place.container.children.take i, (place.container.children.drop i).take (j - i),
      place.container.children.drop j, ?_, ?_, ?_⟩
    · have hdrop : place.container.children.drop j
          = (place.container.children.drop i).drop (j - i) := by
        rw [List.drop_drop, Nat.add_sub_cancel' hij]
      rw [hdrop, List.take_append_drop, List.take_append_drop]
    · exact List.length_take_of_le (Nat.le_trans hij hj)
    · simp only [List.length_append, List.length_take, List.length_drop]
      omega
  rw [hstages]
  have ha := hfirst.insertStage_fill nameA hstepsA before (between ++ after)
  have hab := hfirst.insertStage_fill nameB hstepsB (before ++ newStage nameA stepsA :: between)
    after
  have hb := hfirst.insertStage_fill nameB hstepsB (before ++ between) after
  have hba := hfirst.insertStage_fill nameA hstepsA before
    (between ++ newStage nameB stepsB :: after)
  have hlength : (before ++ newStage nameA stepsA :: between).length
      = (before ++ between).length + 1 := by
    simp only [List.length_append, List.length_cons]
    omega
  have hbetween : (before ++ between).length - before.length = between.length := by
    simp
  rw [hlength] at hab
  simp only [List.append_assoc, List.cons_append] at ha hab hb hba
  refine ⟨_, _, _, _, ha, hab, hb, hba, rfl, ?_⟩
  rw [hfirst.stagesBlock?_fill, hbetween]
  simp

/-- Two stages at the same position, between the two lines of a stages block that is told by its
role alone. -/
theorem insertStage_comm_amongLookalikes :
    ∃ a ab b ba,
      insertStage (amongLookalikes.fill twoLines) "A".toList [" make ".toList] (.int 1) = .ok a ∧
      insertStage a.pipeline "B".toList [] (.int 2) = .ok ab ∧
      insertStage (amongLookalikes.fill twoLines) "B".toList [] (.int 1) = .ok b ∧
      insertStage b.pipeline "A".toList [" make ".toList] (.int 1) = .ok ba ∧
      ab.pipeline = ba.pipeline ∧
      ab.pipeline = amongLookalikes.fill [.statement "x".toList,
        .block "stage('A')".toList [.block Role.steps [.statement "make".toList]],
        .block "stage('B')".toList [.block Role.steps []], .statement "y".toList] := by
  have hmake : ∀ step ∈ [" make ".toList], StepAccepted step := by
    intro step hstep
    obtain rfl := List.mem_singleton.mp hstep
    exact ⟨by decide, by decide, by decide⟩
  have hnone : ∀ step ∈ ([] : List Text), StepAccepted step := by simp
  obtain ⟨a, ab, b, ba, ha, hab, hb, hba, hsame, -⟩ := insertStage_comm
    (first_amongLookalikes.stagesBlock?_fill twoLines) hmake hnone (Nat.le_refl 1) (by decide)
    "A".toList "B".toList
  refine ⟨a, ab, b, ba, ha, hab, hb, hba, hsame, ?_⟩
  obtain rfl := Except.ok.inj (ha.symm.trans rfl)
  obtain rfl := Except.ok.inj (hab.symm.trans rfl)
  rfl

end Jenkinsfile
