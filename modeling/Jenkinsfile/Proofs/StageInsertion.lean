/-
# What an inserted stage is read back as

A stage is made of steps that have been checked, so that all of it is read as what it is, except
that nothing checks its name (`canonical_makeStage_iff`).  And nothing checks what stands at the
position the stage is put at.  These are the two ways in which a pipeline with a new stage may be
written and not be read back, and there is no third (`parse_render_insertStage_iff`).
-/
import Jenkinsfile.Proofs.RoundTrip
import Jenkinsfile.Proofs.StagesBlock

namespace Jenkinsfile

/-! ## 1. Steps -/

/-- **A step is accepted exactly if its trimmed line is a statement of its own.** -/
theorem checkStep_eq_ok_iff {step line : Text} :
    checkStep step = .ok line ↔ '\n' ∉ step ∧ '\r' ∉ step ∧
      (Line.classify (Text.trim step) none).kind = .statement ∧ line = Text.trim step := by
  rw [checkStep]
  by_cases hbreak : (step.contains '\n' || step.contains '\r') = true
  · rw [if_pos hbreak]
    have hmem : '\n' ∈ step ∨ '\r' ∈ step := by simpa using hbreak
    constructor
    · intro h
      exact absurd h (by simp)
    · rintro ⟨hn, hr, -⟩
      exact absurd hmem (by simp [hn, hr])
  · rw [if_neg hbreak]
    have hmem : '\n' ∉ step ∧ '\r' ∉ step := by simpa using hbreak
    dsimp only
    constructor
    · intro h
      split at h
      · rename_i hkind
        exact ⟨hmem.1, hmem.2, hkind, (Except.ok.inj h).symm⟩
      · exact absurd h (by simp)
    · rintro ⟨-, -, hkind, rfl⟩
      simp only [hkind]

/-- A statement outside of scripts is a line of its own. -/
theorem canonical_statement {line : Text} (hname : '\n' ∉ line) (htrim : Text.trim line = line)
    (hkind : (Line.classify line none).kind = .statement) :
    (Element.statement line).Canonical ∧ Stands none (.statement line) none := by
  have hne : line ≠ [] := by
    rintro rfl
    exact absurd hkind (by decide)
  exact ⟨.leaf (by rintro ⟨⟩) rfl rfl rfl hname hne htrim, .statement rfl hkind⟩

/-- The statements that steps are written as can be read in a row. -/
theorem canonical_steps {steps lines : List Text} (h : steps.mapM checkStep = .ok lines) :
    (∀ e ∈ lines.map Element.statement, e.Canonical) ∧
      Row none (lines.map Element.statement) none := by
  induction steps generalizing lines with
  | nil =>
    obtain rfl : [] = lines := Except.ok.inj h
    exact ⟨by simp, .nil none⟩
  | cons step steps ih =>
    obtain ⟨line, rest, hstep, hsteps, rfl⟩ := mapM_cons_eq_ok_iff.mp h
    obtain ⟨hn, -, hkind, rfl⟩ := checkStep_eq_ok_iff.mp hstep
    have hbreak : '\n' ∉ Text.trim step := by
      intro hmem
      exact hn (Text.mem_of_mem_trim hmem)
    obtain ⟨helement, hstands⟩ := canonical_statement hbreak (Text.trim_trim step) hkind
    obtain ⟨helements, hrow⟩ := ih hsteps
    rw [List.map_cons, List.forall_mem_cons]
    exact ⟨⟨helement, helements⟩, .cons hstands hrow⟩

/-! ## 2. The new stage -/

/-- The characters of the header of a stage. -/
theorem stageHeader_eq (name : Text) :
    stageHeader name = ['s', 't', 'a', 'g', 'e', '(', '\x27'] ++ name ++ ['\x27', ')'] := by
  have hstart : "stage('".toList = ['s', 't', 'a', 'g', 'e', '(', '\x27'] := by decide
  have hend : "')".toList = ['\x27', ')'] := by decide
  unfold stageHeader
  rw [hstart, hend]

theorem mem_stageHeader_iff {name : Text} : '\n' ∈ stageHeader name ↔ '\n' ∈ name := by
  simp [stageHeader_eq]

theorem trim_stageHeader (name : Text) : Text.trim (stageHeader name) = stageHeader name := by
  rw [stageHeader_eq]
  refine Text.trim_eq_self_iff.mpr ⟨fun c hc => ?_, fun c hc => ?_⟩
  · obtain rfl : 's' = c := Option.some.inj hc
    decide
  · rw [List.getLast?_append] at hc
    obtain rfl : ')' = c := Option.some.inj hc
    decide

/-- The header of a stage starts no script, whatever its name is. -/
theorem start?_stageHeader (name : Text) : Script.start? (stageHeader name) = none := by
  rw [stageHeader_eq]
  rfl

/-- A block with a header that is a line of its own is canonical if its children can be read. -/
theorem canonical_block {name : Text} {es : List Element} (hname : '\n' ∉ name)
    (htrim : Text.trim name = name) (hstart : Script.start? name = none)
    (hes : ∀ e ∈ es, e.Canonical) (hrow : Row none es none) : (Element.block name es).Canonical :=
  .block rfl rfl rfl hname (Line.classify_headerLine htrim hstart) hes hrow

theorem makeStage_eq_ok_iff {name : Text} {steps : List Text} {stage : Element} :
    makeStage name steps = .ok stage ↔ ∃ lines, steps.mapM checkStep = .ok lines ∧
      stage = .block (stageHeader name) [.block Role.steps (lines.map Element.statement)] := by
  rw [makeStage, bind_eq_ok_iff]
  constructor
  · rintro ⟨lines, hlines, h⟩
    exact ⟨lines, hlines, (Except.ok.inj h).symm⟩
  · rintro ⟨lines, hlines, rfl⟩
    exact ⟨lines, hlines, rfl⟩

/-- **Of a new stage, only the name may fail to be read back.** -/
theorem canonical_makeStage_iff {name : Text} {steps : List Text} {stage : Element}
    (h : makeStage name steps = .ok stage) : stage.Canonical ↔ '\n' ∉ name := by
  obtain ⟨lines, hlines, rfl⟩ := makeStage_eq_ok_iff.mp h
  rw [← mem_stageHeader_iff]
  constructor
  · intro hstage
    exact hstage.notMem_name
  · intro hname
    obtain ⟨helements, hrow⟩ := canonical_steps hlines
    have hsteps : (Element.block Role.steps (lines.map Element.statement)).Canonical :=
      canonical_block (by decide) (by decide) (by decide) helements hrow
    refine canonical_block hname (trim_stageHeader name) (start?_stageHeader name) ?_ ?_
    · rw [List.forall_mem_singleton]
      exact hsteps
    · exact .cons (.block rfl) (.nil none)

/-! ## 3. The insertion -/

theorem insertIdx_eq {α : Type} {as : List α} {i : Nat} (h : i ≤ as.length) (a : α) :
    as.insertIdx i a = as.take i ++ a :: as.drop i := by
  have hlength : (as.take i).length + 0 = i := by rw [List.length_take]; omega
  have hinsert := List.modifyTailIdx_add (List.cons a) 0 (as.take i) (as.drop i)
  rw [List.take_append_drop, hlength] at hinsert
  exact hinsert

/-- The positions are the whole numbers from zero to the number of stages. -/
theorem indexOf?_eq_some_iff {index : Json} {count i : Nat} :
    indexOf? index count = some i ↔ index = .int i ∧ i ≤ count := by
  unfold indexOf?
  split
  · rename_i k
    constructor
    · intro h
      split at h
      · rename_i hk
        obtain rfl : k = i := Option.some.inj h
        exact ⟨rfl, hk⟩
      · exact absurd h (by simp)
    · rintro ⟨h, hi⟩
      obtain rfl : k = i := Int.ofNat.inj (Json.int.inj h)
      rw [if_pos hi]
  · rename_i hindex
    constructor
    · intro h
      exact absurd h (by simp)
    · rintro ⟨rfl, -⟩
      exact absurd rfl (hindex i)

/-- **What an insertion is made of.** -/
theorem insertStage_eq_ok_iff {p : Pipeline} {name : Text} {steps : List Text} {index : Json}
    {insertion : Insertion} :
    insertStage p name steps index = .ok insertion ↔
      ∃ container stage i, p.stagesBlock? = some container ∧ index = .int (i : Nat) ∧
        i ≤ container.children.length ∧ makeStage name steps = .ok stage ∧
        insertion = ⟨p.modifyStages (·.insertIdx i stage), stage, i, steps.length⟩ := by
  unfold insertStage
  constructor
  · intro h
    split at h
    · exact absurd h (by simp)
    · rename_i container hcontainer
      split at h
      · exact absurd h (by simp)
      · rename_i i hi
        obtain ⟨hindex, hle⟩ := indexOf?_eq_some_iff.mp hi
        obtain ⟨stage, hstage, h⟩ := bind_eq_ok_iff.mp h
        exact ⟨container, stage, i, hcontainer, hindex, hle, hstage, (Except.ok.inj h).symm⟩
  · rintro ⟨container, stage, i, hcontainer, hindex, hle, hstage, rfl⟩
    have hi := indexOf?_eq_some_iff.mpr ⟨hindex, hle⟩
    simp only [hcontainer, hi]
    exact bind_eq_ok_iff.mpr ⟨stage, hstage, rfl⟩

/-- **A new stage can be read among the others exactly if** it can be read itself and no script is
open where it is put. -/
theorem canonical_insertIdx_iff {es : List Element} {stage : Element} {i : Nat}
    (hes : ∀ e ∈ es, e.Canonical) (hrow : Row none es none) (hstage : stage.kind = .block)
    (hi : i ≤ es.length) :
    (∀ e ∈ es.insertIdx i stage, e.Canonical) ∧ Row none (es.insertIdx i stage) none ↔
      stage.Canonical ∧ ¬ EndsInScript (es.take i) := by
  -- the two halves of the row meet under some quotes, and a block asks for none
  rw [← List.take_append_drop i es] at hrow
  obtain ⟨m, htake, hdrop⟩ := hrow.exists_of_append
  rw [insertIdx_eq hi, List.forall_mem_append, List.forall_mem_cons, Row.append_block_iff hstage,
    ← Row.eq_none_iff htake]
  constructor
  · rintro ⟨⟨-, hcanonical, -⟩, hnone, -⟩
    exact ⟨hcanonical, htake.unique hnone⟩
  · rintro ⟨hcanonical, rfl⟩
    exact ⟨⟨fun e he => hes e (List.mem_of_mem_take he), hcanonical,
      fun e he => hes e (List.mem_of_mem_drop he)⟩, htake, hdrop⟩

/-- **A stage in a canonical pipeline leaves it canonical** unless its name has a line break or it
stands inside of a script. -/
theorem canonical_insertion_iff {p : Pipeline} (hp : p.Canonical) {container stage : Element}
    {name : Text} {steps : List Text} {i : Nat} (hcontainer : p.stagesBlock? = some container)
    (hstage : makeStage name steps = .ok stage) (hi : i ≤ container.children.length) :
    (p.modifyStages (·.insertIdx i stage)).Canonical ↔
      '\n' ∉ name ∧ ¬ EndsInScript (container.children.take i) := by
  obtain ⟨place, -, hold, hmodify⟩ := p.exists_place hcontainer
  have hkind : stage.kind = .block := by
    obtain ⟨lines, -, rfl⟩ := makeStage_eq_ok_iff.mp hstage
    rfl
  rw [← hold] at hp
  obtain ⟨hstages, hrow⟩ := (StagesPlace.canonical_fill_iff hp).mp hp
  rw [hmodify, StagesPlace.canonical_fill_iff hp, canonical_insertIdx_iff hstages hrow hkind hi,
    canonical_makeStage_iff hstage]

/-! ## 4. Reading it back -/

/-- **A document with a new stage is read back as it is exactly if** the name of the stage has no
line break and no script of the stages block is open where the stage is put. -/
theorem parse_render_insertStage_iff {t name : Text} {steps : List Text} {index : Json}
    {insertion : Insertion}
    (h : insertStage (parse t).pipeline name steps index = .ok insertion) {indent : Text}
    (hindent : Text.Blank indent) :
    ∃ container, (parse t).pipeline.stagesBlock? = some container ∧
      index = .int insertion.index ∧
      ((parse (render insertion.pipeline indent)).pipeline = insertion.pipeline ↔
        '\n' ∉ name ∧ ¬ EndsInScript (container.children.take insertion.index)) := by
  obtain ⟨container, stage, i, hcontainer, hindex, hi, hstage, rfl⟩ := insertStage_eq_ok_iff.mp h
  refine ⟨container, hcontainer, hindex, ?_⟩
  rw [← canonical_insertion_iff (canonical_parse t) hcontainer hstage hi]
  constructor
  · intro hback
    have hcanonical := canonical_parse
      (render ((parse t).pipeline.modifyStages (·.insertIdx i stage)) indent)
    rw [hback] at hcanonical
    exact hcanonical
  · intro hcanonical
    exact parse_render hcanonical hindent

/-- A document with a script among its stages. -/
def scriptAmongStages : Text :=
  "pipeline \x7b\n  stages \x7b\n    sh '''\n      make\n    '''\n  \x7d\n\x7d\n".toList

/-- In front of that script a new stage is read back, and inside of it none is. -/
theorem parse_render_insertStage_scriptAmongStages :
    (∃ insertion, insertStage (parse scriptAmongStages).pipeline "Build".toList ["make".toList]
        (.int 0) = .ok insertion ∧
      (parse (render insertion.pipeline ['\t'])).pipeline = insertion.pipeline) ∧
    ∃ insertion, insertStage (parse scriptAmongStages).pipeline "Build".toList ["make".toList]
        (.int 1) = .ok insertion ∧
      (parse (render insertion.pipeline ['\t'])).pipeline ≠ insertion.pipeline := by
  have hinside : ∀ container ∈ (parse scriptAmongStages).pipeline.stagesBlock?,
      EndsInScript (container.children.take 1) := by decide
  have hindent : Text.Blank ['\t'] := by decide
  constructor
  · obtain ⟨insertion, h⟩ : ∃ insertion, insertStage (parse scriptAmongStages).pipeline
        "Build".toList ["make".toList] (.int 0) = .ok insertion := ⟨_, rfl⟩
    obtain ⟨container, -, hindex, hiff⟩ := parse_render_insertStage_iff h hindent
    have hzero : insertion.index = 0 := (Int.ofNat.inj (Json.int.inj hindex)).symm
    refine ⟨insertion, h, hiff.mpr ⟨by decide, ?_⟩⟩
    rw [hzero]
    exact not_endsInScript_nil
  · obtain ⟨insertion, h⟩ : ∃ insertion, insertStage (parse scriptAmongStages).pipeline
        "Build".toList ["make".toList] (.int 1) = .ok insertion := ⟨_, rfl⟩
    obtain ⟨container, hcontainer, hindex, hiff⟩ := parse_render_insertStage_iff h hindent
    have hone : insertion.index = 1 := (Int.ofNat.inj (Json.int.inj hindex)).symm
    refine ⟨insertion, h, fun hback => ?_⟩
    have hend := (hiff.mp hback).2
    rw [hone] at hend
    exact hend (hinside container hcontainer)

end Jenkinsfile
