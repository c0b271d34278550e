/-
# What an insertion does

An insertion can end in four ways, and `Inserts` lists them, each with all that makes it so and all
that comes of it: there is no stages block; the position is none of it; a step cannot be written as
one; or the stage is put in its place.  The first of these that applies is what happens
(`apply_insert_iff`).

The stages stand in the first place of a pipeline (`StagesPlace.First`).  This place is filled anew
by an insertion, and the rest of the pipeline is the rest of the place.
-/
import Jenkinsfile.Edit
import Jenkinsfile.Proofs.StageInsertion

namespace Jenkinsfile

/-! ## 1. Steps -/

/-- A step that can be written as one: a single line that is a statement of its own. -/
structure StepAccepted (step : Text) : Prop where
  notMem_break : '\n' ∉ step
  notMem_return : '\r' ∉ step
  kind : (Line.classify (Text.trim step) none).kind = .statement

/-- Why a step cannot be written as one. -/
inductive StepRefused (step : Text) : StepFault → Prop
  | severalLines (h : '\n' ∈ step ∨ '\r' ∈ step) : StepRefused step .severalLines
  | reads (hn : '\n' ∉ step) (hr : '\r' ∉ step)
      (h : (Line.classify (Text.trim step) none).kind ≠ .statement) :
      StepRefused step (.reads (Line.classify (Text.trim step) none).kind)

/-- The line of an accepted step is the step, trimmed. -/
theorem checkStep_eq_ok_iff_accepted {step line : Text} :
    checkStep step = .ok line ↔ StepAccepted step ∧ line = Text.trim step := by
  rw [checkStep_eq_ok_iff]
  constructor
  · rintro ⟨hn, hr, hkind, hline⟩
    exact ⟨⟨hn, hr, hkind⟩, hline⟩
  · rintro ⟨⟨hn, hr, hkind⟩, hline⟩
    exact ⟨hn, hr, hkind, hline⟩

/-- A step that is not accepted is refused for a reason, and named as it was given. -/
theorem checkStep_eq_error_iff {step : Text} {e : EditError} :
    checkStep step = .error e ↔ ∃ fault, StepRefused step fault ∧ e = .badStep step fault := by
  unfold checkStep
  by_cases hbreak : (step.contains '\n' || step.contains '\r') = true
  · have hmem : '\n' ∈ step ∨ '\r' ∈ step := by simpa using hbreak
    rw [if_pos hbreak]
    constructor
    · intro h
      exact ⟨.severalLines, .severalLines hmem, (Except.error.inj h).symm⟩
    · rintro ⟨fault, hfault, rfl⟩
      cases hfault with
      | severalLines => rfl
      | reads hn hr => exact absurd hmem (by simp [hn, hr])
  · have hmem : '\n' ∉ step ∧ '\r' ∉ step := by simpa using hbreak
    rw [if_neg hbreak]
    dsimp only
    split
    · rename_i hkind
      constructor
      · intro h
        exact absurd h (by simp)
      · rintro ⟨fault, hfault, -⟩
        cases hfault with
        | severalLines h => exact absurd h (by simp [hmem])
        | reads _ _ h => exact absurd hkind h
    · rename_i hkind
      constructor
      · intro h
        exact ⟨_, .reads hmem.1 hmem.2 hkind, (Except.error.inj h).symm⟩
      · rintro ⟨fault, hfault, rfl⟩
        cases hfault with
        | severalLines h => exact absurd h (by simp [hmem])
        | reads => rfl

/-- A stage with steps that have been accepted. -/
def newStage (name : Text) (steps : List Text) : Element :=
  .block (stageHeader name)
    [.block Role.steps (steps.map fun step => .statement (Text.trim step))]

theorem mapM_checkStep_eq_ok_iff {steps lines : List Text} :
    steps.mapM checkStep = .ok lines ↔
      (∀ step ∈ steps, StepAccepted step) ∧ lines = steps.map Text.trim := by
  induction steps generalizing lines with
  | nil => simp [pure, Except.pure, eq_comm]
  | cons step steps ih =>
    rw [mapM_cons_eq_ok_iff, List.forall_mem_cons, List.map_cons]
    constructor
    · rintro ⟨line, rest, hline, hrest, rfl⟩
      obtain ⟨hstep, rfl⟩ := checkStep_eq_ok_iff_accepted.mp hline
      obtain ⟨hsteps, rfl⟩ := ih.mp hrest
      exact ⟨⟨hstep, hsteps⟩, rfl⟩
    · rintro ⟨⟨hstep, hsteps⟩, rfl⟩
      exact ⟨_, _, checkStep_eq_ok_iff_accepted.mpr ⟨hstep, rfl⟩, ih.mpr ⟨hsteps, rfl⟩, rfl⟩

theorem makeStage_eq_ok_iff_accepted {name : Text} {steps : List Text} {stage : Element} :
    makeStage name steps = .ok stage ↔
      (∀ step ∈ steps, StepAccepted step) ∧ stage = newStage name steps := by
  rw [makeStage_eq_ok_iff]
  constructor
  · rintro ⟨lines, hlines, rfl⟩
    obtain ⟨hsteps, rfl⟩ := mapM_checkStep_eq_ok_iff.mp hlines
    exact ⟨hsteps, by rw [newStage, List.map_map]; rfl⟩
  · rintro ⟨hsteps, rfl⟩
    exact ⟨_, mapM_checkStep_eq_ok_iff.mpr ⟨hsteps, rfl⟩, by rw [newStage, List.map_map]; rfl⟩

/-- **The first step that is not accepted is to blame.** -/
theorem makeStage_eq_error_iff {name : Text} {steps : List Text} {e : EditError} :
    makeStage name steps = .error e ↔
      ∃ good step rest fault, steps = good ++ step :: rest ∧ (∀ s ∈ good, StepAccepted s) ∧
        StepRefused step fault ∧ e = .badStep step fault := by
  have haccepted : ∀ s, (∃ line, checkStep s = .ok line) ↔ StepAccepted s := by
    intro s
    constructor
    · rintro ⟨line, hline⟩
      exact (checkStep_eq_ok_iff_accepted.mp hline).1
    · intro hs
      exact ⟨_, checkStep_eq_ok_iff_accepted.mpr ⟨hs, rfl⟩⟩
  have hmake : makeStage name steps = .error e ↔ steps.mapM checkStep = .error e := by
    rw [makeStage, bind_eq_error_iff]
    simp [pure, Except.pure]
  rw [hmake, mapM_eq_error_iff]
  simp only [haccepted, checkStep_eq_error_iff]
  constructor
  · rintro ⟨good, step, rest, hsteps, hgood, fault, hfault, he⟩
    exact ⟨good, step, rest, fault, hsteps, hgood, hfault, he⟩
  · rintro ⟨good, step, rest, fault, hsteps, hgood, hfault, he⟩
    exact ⟨good, step, rest, hsteps, hgood, fault, hfault, he⟩

/-! ## 2. The four ways -/

/-- How the insertion of a stage into a pipeline ends, and what comes of it. -/
inductive Inserts (p : Pipeline) (name : Text) (steps : List Text) (index : Json) :
    Except Fault Edited → Prop
  /-- There is no place for stages. -/
  | noStages (h : ∀ (place : StagesPlace) (es : List Element), place.First → place.fill es ≠ p) :
      Inserts p name steps index (.error (.edit .noStages))
  /-- The position is no whole number from zero to the number of stages. -/
  | badIndex {place : StagesPlace} {es : List Element} (hfirst : place.First)
      (hp : place.fill es = p) (h : ∀ n : Int, index = .int n → ¬ (0 ≤ n ∧ n ≤ es.length)) :
      Inserts p name steps index (.error (.edit (.badIndex index es.length)))
  /-- The position is one, and the first step that is not accepted is to blame. -/
  | badStep {place : StagesPlace} {es : List Element} {i : Nat} {good rest : List Text}
      {step : Text} {fault : StepFault} (hfirst : place.First) (hp : place.fill es = p)
      (hindex : index = .int i) (hi : i ≤ es.length) (hsteps : steps = good ++ step :: rest)
      (hgood : ∀ s ∈ good, StepAccepted s) (hstep : StepRefused step fault) :
      Inserts p name steps index (.error (.edit (.badStep step fault)))
  /-- The stage stands between the stages that were before its position and the others; everything
  around them is as it was, and the log says that there is a new stage. -/
  | inserted {place : StagesPlace} {before after : List Element} (hfirst : place.First)
      (hp : place.fill (before ++ after) = p) (hindex : index = .int before.length)
      (hsteps : ∀ s ∈ steps, StepAccepted s) :
      Inserts p name steps index
        (.ok ⟨place.fill (before ++ newStage name steps :: after), some (newStage name steps),
          [.inserted (stageHeader name) before.length steps.length]⟩)

section Inserts

variable {p : Pipeline} {name : Text} {steps : List Text} {index : Json}

/-- A position that is refused is none. -/
theorem indexOf?_eq_none_iff {count : Nat} :
    indexOf? index count = none ↔ ∀ n : Int, index = .int n → ¬ (0 ≤ n ∧ n ≤ count) := by
  constructor
  · rintro h n rfl ⟨hzero, hle⟩
    obtain ⟨i, rfl⟩ := Int.eq_ofNat_of_zero_le hzero
    have hsome : indexOf? (.int i) count = some i :=
      indexOf?_eq_some_iff.mpr ⟨rfl, Int.ofNat_le.mp hle⟩
    rw [hsome] at h
    exact absurd h (by simp)
  · intro h
    rw [Option.eq_none_iff_forall_not_mem]
    intro i hi
    obtain ⟨rfl, hle⟩ := indexOf?_eq_some_iff.mp hi
    exact h i rfl ⟨Int.natCast_nonneg i, Int.ofNat_le.mpr hle⟩

/-- One of the four ways is taken. -/
theorem inserts_apply (p : Pipeline) (name : Text) (steps : List Text) (index : Json) :
    Inserts p name steps index ((Edit.insert name steps index).apply p) := by
  rw [Edit.apply, insertStage]
  cases hblock : p.stagesBlock? with
  | none =>
    refine .noStages ?_
    rintro place es hfirst rfl
    rw [hfirst.stagesBlock?_fill] at hblock
    exact absurd hblock (by simp)
  | some container =>
    obtain ⟨place, hfirst, -, hp⟩ := p.exists_first hblock
    dsimp only
    cases hindex : indexOf? index container.children.length with
    | none => exact .badIndex hfirst hp (indexOf?_eq_none_iff.mp hindex)
    | some i =>
      obtain ⟨rfl, hi⟩ := indexOf?_eq_some_iff.mp hindex
      dsimp only
      cases hstage : makeStage name steps with
      | error e =>
        obtain ⟨good, step, rest, fault, hsteps, hgood, hstep, rfl⟩ :=
          makeStage_eq_error_iff.mp hstage
        exact .badStep hfirst hp rfl hi hsteps hgood hstep
      | ok stage =>
        obtain ⟨hsteps, rfl⟩ := makeStage_eq_ok_iff_accepted.mp hstage
        -- the stages are cut at the position, and the stage is put into the cut
        have hcut : place.fill (container.children.take i ++ container.children.drop i) = p := by
          rw [List.take_append_drop, hp]
        have hlength : (container.children.take i).length = i := List.length_take_of_le hi
        have hinserted : Inserts p name steps (.int i) _ :=
          .inserted hfirst hcut (by rw [hlength]) hsteps
        have hfill : p.modifyStages (·.insertIdx i (newStage name steps))
            = place.fill (container.children.insertIdx i (newStage name steps)) := by
          conv_lhs => rw [← hp]
          exact hfirst.modifyStages_fill _
        rw [hlength, ← insertIdx_eq hi, ← hfill] at hinserted
        exact hinserted

/-- **A stage that is inserted** stands in the first place of the pipeline, where the stages are cut
at its position. -/
theorem exists_cut_of_insertStage {insertion : Insertion}
    (h : insertStage p name steps index = .ok insertion) :
    ∃ (place : StagesPlace) (before after : List Element), place.First ∧
      place.fill (before ++ after) = p ∧ index = .int before.length ∧
      insertion.index = before.length ∧ (∀ s ∈ steps, StepAccepted s) ∧
      insertion.pipeline = place.fill (before ++ newStage name steps :: after) := by
  obtain ⟨q, stage, i, count⟩ := insertion
  have hinserts := inserts_apply p name steps index
  rw [Edit.apply, h] at hinserts
  cases hinserts with
  | inserted hfirst hp hindex hsteps =>
    exact ⟨_, _, _, hfirst, hp, hindex, rfl, hsteps, rfl⟩

/-- A stage with accepted steps is put between any two stages of the first place. -/
theorem StagesPlace.First.insertStage_fill {place : StagesPlace} (hfirst : place.First)
    (name : Text) {steps : List Text} (hsteps : ∀ step ∈ steps, StepAccepted step)
    (before after : List Element) :
    insertStage (place.fill (before ++ after)) name steps (.int before.length)
      = .ok ⟨place.fill (before ++ newStage name steps :: after), newStage name steps,
          before.length, steps.length⟩ := by
  have hle : before.length ≤ (before ++ after).length := by simp
  have hfill : (place.fill (before ++ after)).modifyStages
      (·.insertIdx before.length (newStage name steps))
        = place.fill (before ++ newStage name steps :: after) := by
    rw [hfirst.modifyStages_fill, insertIdx_eq hle, List.take_left, List.drop_left]
  rw [← hfill]
  exact insertStage_eq_ok_iff.mpr ⟨_, _, _, hfirst.stagesBlock?_fill _, rfl, hle,
    makeStage_eq_ok_iff_accepted.mpr ⟨hsteps, rfl⟩, rfl⟩

/-- Only one of them can be. -/
theorem Inserts.apply_eq {r : Except Fault Edited} (h : Inserts p name steps index r) :
    (Edit.insert name steps index).apply p = r := by
  rw [Edit.apply]
  cases h with
  | noStages h =>
    rw [insertStage]
    cases hblock : p.stagesBlock? with
    | none => rfl
    | some container =>
      obtain ⟨place, hfirst, -, hp⟩ := p.exists_first hblock
      exact absurd hp (h place _ hfirst)
  | badIndex hfirst hp h =>
    rw [insertStage, ← hp, hfirst.stagesBlock?_fill]
    simp only [Element.withChildren, indexOf?_eq_none_iff.mpr h]
  | @badStep place es i _ _ _ _ hfirst hp hindex hi hsteps hgood hstep =>
    have hposition : indexOf? index es.length = some i := indexOf?_eq_some_iff.mpr ⟨hindex, hi⟩
    have hstage : makeStage name steps = .error (.badStep _ _) :=
      makeStage_eq_error_iff.mpr ⟨_, _, _, _, hsteps, hgood, hstep, rfl⟩
    rw [insertStage, ← hp, hfirst.stagesBlock?_fill]
    simp only [Element.withChildren, hposition, hstage]
    rfl
  | @inserted place before after hfirst hp hindex hsteps =>
    rw [← hp, hindex, hfirst.insertStage_fill name hsteps before after]
    rfl

end Inserts

/-- **What an insertion does is exactly what `Inserts` says.**  One that fails leaves the pipeline
as it was, and one that does not leaves a single line of information in the log. -/
theorem apply_insert_iff (p : Pipeline) (name : Text) (steps : List Text) (index : Json) :
    (∀ r, (Edit.insert name steps index).apply p = r ↔ Inserts p name steps index r) ∧
      (∀ fault, (Edit.insert name steps index).apply p = .error fault →
        (Edit.insert name steps index).run p = p) ∧
      ∀ edited, (Edit.insert name steps index).apply p = .ok edited →
        (Edit.insert name steps index).run p = edited.pipeline ∧
          ∃ notice, edited.notices = [notice] ∧ notice.level = .info := by
  refine ⟨?_, ?_, ?_⟩
  · intro r
    constructor
    · rintro rfl
      exact inserts_apply p name steps index
    · exact Inserts.apply_eq
  · intro fault h
    rw [Edit.run, h]
  · intro edited h
    refine ⟨by rw [Edit.run, h], ?_⟩
    have hinserts := inserts_apply p name steps index
    rw [h] at hinserts
    cases hinserts with
    | inserted => exact ⟨_, rfl, rfl⟩

/-- A place among elements that look like it: outside of the pipeline block there is a block with
the role of stages, after it there is a pipeline block with a stages block, and what is around the
stages is told by its roles alone. -/
def amongLookalikes : StagesPlace where
  before := [.block Role.stages [.statement "lint".toList]]
  root := ⟨.statement, "agent any".toList, "agent any".toList, Role.pipeline, []⟩
  above := [.statement "agent none".toList]
  container := ⟨.block, "options".toList, [], Role.stages, []⟩
  below := [.block Role.stages []]
  after := [.block Role.pipeline [.block Role.stages []]]
  root_role := rfl
  container_role := rfl

theorem first_amongLookalikes : amongLookalikes.First := by
  constructor <;>
  · intro e he
    obtain rfl := List.mem_singleton.mp he
    decide

/-- The stages that are in this place. -/
def twoLines : List Element := [.statement "x".toList, .statement "y".toList]

/-- There, a bad step after a good one is to blame and leaves the pipeline as it was, and good steps
make a stage between the two that are there. -/
theorem apply_insert_amongLookalikes :
    (Edit.insert "A".toList ["make".toList, " \x7d".toList, "\n".toList] (.int 1)).apply
        (amongLookalikes.fill twoLines)
      = .error (.edit (.badStep " \x7d".toList (.reads .blockClose))) ∧
    (Edit.insert "A".toList ["make".toList, " \x7d".toList, "\n".toList] (.int 1)).run
        (amongLookalikes.fill twoLines) = amongLookalikes.fill twoLines ∧
    (Edit.insert "A".toList [" make ".toList] (.int 1)).run (amongLookalikes.fill twoLines)
      = amongLookalikes.fill [.statement "x".toList,
          .block "stage('A')".toList [.block Role.steps [.statement "make".toList]],
          .statement "y".toList] := by
  have hmake : ∀ s ∈ ["make".toList], StepAccepted s := by
    intro s hs
    obtain rfl := List.mem_singleton.mp hs
    exact ⟨by decide, by decide, by decide⟩
  have hspaced : ∀ s ∈ [" make ".toList], StepAccepted s := by
    intro s hs
    obtain rfl := List.mem_singleton.mp hs
    exact ⟨by decide, by decide, by decide⟩
  have hbrace : StepRefused " \x7d".toList (.reads .blockClose) :=
    .reads (by decide) (by decide) (by decide)
  obtain ⟨hiff, hfailed, -⟩ := apply_insert_iff (amongLookalikes.fill twoLines) "A".toList
    ["make".toList, " \x7d".toList, "\n".toList] (.int 1)
  have hbad := (hiff _).mpr (@Inserts.badStep _ _ _ _ amongLookalikes twoLines 1
    ["make".toList] ["\n".toList] _ _ first_amongLookalikes rfl rfl (by decide) rfl hmake hbrace)
  obtain ⟨hiff, -, hdone⟩ := apply_insert_iff (amongLookalikes.fill twoLines) "A".toList
    [" make ".toList] (.int 1)
  have hgood := (hiff _).mpr (@Inserts.inserted _ _ _ _ amongLookalikes
    [.statement "x".toList] [.statement "y".toList] first_amongLookalikes rfl rfl hspaced)
  exact ⟨hbad, hfailed _ hbad, (hdone _ hgood).1⟩

end Jenkinsfile
