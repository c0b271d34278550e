/-
# Searching after an insertion

A search for a step ends at the first stage that has one.  The stages block that insertions go into
is searched first, so that a new stage moves what the search finds there and nothing else
(`FoundAfter`): a stage in front of the new one is found where it was; then the new stage is, if one
of its own steps holds the needle; a stage behind it is found one further down; and where none of
them has such a step, the search goes on to the other stages blocks, which are as they were
(`findStage?_insertion`).
-/
import Jenkinsfile.Proofs.InsertionContract
import Jenkinsfile.Proofs.StageSearch

namespace Jenkinsfile

/-! ## 1. Stages with a step -/

section Stages

variable {needle : Text} {es before after : List Element} {e : Element} {m : Nat}

/-- A step of the stage holds the needle: a direct child of one of its blocks of steps. -/
def HoldsStep (needle : Text) (stage : Element) : Prop :=
  ∃ block ∈ stage.children, block.role = Role.steps ∧
    ∃ step ∈ block.children, needle <:+: step.content

theorem hasStep_iff : e.hasStep needle = true ↔ HoldsStep needle e := by
  simp [Element.hasStep, HoldsStep, Text.holds_iff]

/-- The first of several stages with such a step stands at this position. -/
structure FirstWithStep (needle : Text) (es : List Element) (m : Nat) : Prop where
  holds : ∃ e, es[m]? = some e ∧ HoldsStep needle e
  before : ∀ k e, k < m → es[k]? = some e → ¬ HoldsStep needle e

theorem findIdx?_hasStep_eq_some_iff :
    es.findIdx? (Element.hasStep needle) = some m ↔ FirstWithStep needle es m := by
  rw [List.findIdx?_eq_some_iff_getElem]
  constructor
  · rintro ⟨hm, hstep, hbefore⟩
    refine ⟨⟨es[m], List.getElem?_eq_getElem hm, hasStep_iff.mp hstep⟩, ?_⟩
    intro k e hk he hholds
    obtain ⟨hlt, rfl⟩ := List.getElem?_eq_some_iff.mp he
    exact hbefore k hk (hasStep_iff.mpr hholds)
  · rintro ⟨⟨e, he, hholds⟩, hbefore⟩
    obtain ⟨hm, rfl⟩ := List.getElem?_eq_some_iff.mp he
    refine ⟨hm, hasStep_iff.mpr hholds, ?_⟩
    intro k hk hstep
    exact hbefore k _ hk (List.getElem?_eq_getElem (hk.trans hm)) (hasStep_iff.mp hstep)

instance : Decidable (FirstWithStep needle es m) :=
  decidable_of_iff _ findIdx?_hasStep_eq_some_iff

theorem findIdx?_hasStep_eq_none_iff :
    es.findIdx? (Element.hasStep needle) = none ↔ ∀ m, ¬ FirstWithStep needle es m := by
  rw [Option.eq_none_iff_forall_ne_some]
  simp only [Ne, findIdx?_hasStep_eq_some_iff]

/-- A new stage has the steps it was given, trimmed. -/
theorem hasStep_newStage_iff {name : Text} {steps : List Text} :
    (newStage name steps).hasStep needle = true ↔ ∃ step ∈ steps, needle <:+: Text.trim step := by
  simp [hasStep_iff, HoldsStep, newStage, Element.block, Element.statement, Element.leaf,
    show Role.ofHeader Role.steps = Role.steps from by decide]

end Stages

/-! ## 2. The blocks that are searched -/

namespace StagesPlace

variable {place : StagesPlace}

/-- The stages in the first place are searched first, and then what always is. -/
theorem First.exists_stagesBlocks_fill (h : place.First) :
    ∃ rest, ∀ es, (place.fill es).stagesBlocks = place.container.withChildren es :: rest := by
  refine ⟨place.below.filter (·.role = Role.stages) ++
    (place.after.filter (·.role = Role.pipeline)).flatMap fun root =>
      root.children.filter (·.role = Role.stages), ?_⟩
  intro es
  rw [Pipeline.stagesBlocks, fill, filter_append_cons, List.flatMap_cons,
    Element.children_withChildren, filter_append_cons, List.cons_append]
  · intro e he
    simpa using h.above e he
  · exact decide_eq_true place.container_role
  · intro e he
    simpa using h.before e he
  · exact decide_eq_true place.root_role

/-- So a search ends among these stages if it can, and otherwise where it would without them. -/
theorem First.exists_findStage?_fill (h : place.First) (needle : Text) :
    ∃ elsewhere, ∀ es, (place.fill es).findStage? needle
      = (es.findIdx? (Element.hasStep needle)).or elsewhere := by
  obtain ⟨rest, hrest⟩ := h.exists_stagesBlocks_fill
  refine ⟨rest.findSome? fun container => container.children.findIdx? (Element.hasStep needle), ?_⟩
  intro es
  rw [Pipeline.findStage?, hrest, List.findSome?_cons, Element.children_withChildren]
  cases es.findIdx? (Element.hasStep needle) <;> rfl

end StagesPlace

/-! ## 3. Where the search ends -/

/-- Where a search in a pipeline ends once a stage with these steps has been put at the position `j`
among the stages `es`. -/
inductive FoundAfter (p : Pipeline) (needle : Text) (es : List Element) (steps : List Text)
    (j : Nat) : Option Nat → Prop
  /-- A stage in front of the new one is found where it was. -/
  | before {m : Nat} (h : FirstWithStep needle es m) (hm : m < j) :
      FoundAfter p needle es steps j (some m)
  /-- No stage in front of the new one has such a step, and the new one has. -/
  | new (h : ∀ m, FirstWithStep needle es m → j ≤ m)
      (hnew : ∃ step ∈ steps, needle <:+: Text.trim step) :
      FoundAfter p needle es steps j (some j)
  /-- A stage behind the new one, which has no such step, is found one further down. -/
  | after {m : Nat} (h : FirstWithStep needle es m) (hm : j ≤ m)
      (hnew : ∀ step ∈ steps, ¬ needle <:+: Text.trim step) :
      FoundAfter p needle es steps j (some (m + 1))
  /-- No stage has such a step, and the search ends where it did before. -/
  | elsewhere (h : ∀ m, ¬ FirstWithStep needle es m)
      (hnew : ∀ step ∈ steps, ¬ needle <:+: Text.trim step) :
      FoundAfter p needle es steps j (p.findStage? needle)

section Search

variable {p : Pipeline} {name needle : Text} {steps : List Text} {index : Json}

theorem foundAfter_fill {place : StagesPlace} (h : place.First) (before after : List Element)
    (name needle : Text) (steps : List Text) :
    FoundAfter (place.fill (before ++ after)) needle (before ++ after) steps before.length
      ((place.fill (before ++ newStage name steps :: after)).findStage? needle) := by
  obtain ⟨elsewhere, hfind⟩ := h.exists_findStage?_fill needle
  have hold : (before ++ after).findIdx? (Element.hasStep needle)
      = (before.findIdx? (Element.hasStep needle)).or
        ((after.findIdx? (Element.hasStep needle)).map (· + before.length)) :=
    List.findIdx?_append
  rw [hfind, List.findIdx?_append, List.findIdx?_cons]
  cases hbefore : before.findIdx? (Element.hasStep needle) with
  | some m =>
    obtain ⟨hm, -⟩ := List.findIdx?_eq_some_iff_getElem.mp hbefore
    rw [hbefore, Option.some_or] at hold
    exact .before (findIdx?_hasStep_eq_some_iff.mp hold) hm
  | none =>
    rw [hbefore, Option.none_or] at hold
    rw [Option.none_or]
    by_cases hnew : (newStage name steps).hasStep needle = true
    · have hle : ∀ m, FirstWithStep needle (before ++ after) m → before.length ≤ m := by
        intro m hm
        rw [← findIdx?_hasStep_eq_some_iff, hold] at hm
        obtain ⟨k, -, rfl⟩ := Option.map_eq_some_iff.mp hm
        exact Nat.le_add_left _ _
      rw [if_pos hnew, Option.map_some, Option.some_or, Nat.zero_add]
      exact .new hle (hasStep_newStage_iff.mp hnew)
    · have hsteps : ∀ step ∈ steps, ¬ needle <:+: Text.trim step := by
        intro step hstep hholds
        exact hnew (hasStep_newStage_iff.mpr ⟨step, hstep, hholds⟩)
      rw [if_neg hnew]
      cases hafter : after.findIdx? (Element.hasStep needle) with
      | some k =>
        rw [hafter, Option.map_some] at hold
        rw [Option.map_some, Option.map_some, Option.some_or, Nat.add_right_comm]
        exact .after (findIdx?_hasStep_eq_some_iff.mp hold) (Nat.le_add_left _ _) hsteps
      | none =>
        rw [hafter, Option.map_none] at hold
        have hsame : (place.fill (before ++ after)).findStage? needle = elsewhere := by
          rw [hfind, hold, Option.none_or]
        rw [Option.map_none, Option.map_none, Option.none_or, ← hsame]
        exact .elsewhere (findIdx?_hasStep_eq_none_iff.mp hold) hsteps

/-- **Where a search ends after an insertion.**  Before it, a search finds the first of the stages
with such a step if there is one.  After it, it finds this stage where it was if the new one is
behind it, and otherwise the new one, if that has such a step, or this stage one further down; and
where there is no such stage at all, it ends where it did before. -/
theorem findStage?_insertion {insertion : Insertion}
    (h : insertStage p name steps index = .ok insertion) (needle : Text) :
    ∃ container, p.stagesBlock? = some container ∧ index = .int insertion.index ∧
      (∀ m, FirstWithStep needle container.children m → p.findStage? needle = some m) ∧
      FoundAfter p needle container.children steps insertion.index
        (insertion.pipeline.findStage? needle) := by
  obtain ⟨place, before, after, hfirst, rfl, hindex, hi, -, hp⟩ := exists_cut_of_insertStage h
  obtain ⟨elsewhere, hfind⟩ := hfirst.exists_findStage?_fill needle
  refine ⟨_, hfirst.stagesBlock?_fill _, by rw [hindex, hi], ?_, ?_⟩
  · intro m hm
    rw [Element.children_withChildren, ← findIdx?_hasStep_eq_some_iff] at hm
    rw [hfind, hm, Option.some_or]
  · rw [hi, hp]
    exact foundAfter_fill hfirst before after name needle steps

end Search

/-- In front of the stage that lints, a stage that tests: the search for what lints finds the same
stage one further down. -/
theorem findStage?_insertion_beforeLint :
    ∃ insertion, insertStage (parse twoPipelines).pipeline "Test".toList ["test".toList] (.int 0)
        = .ok insertion ∧
      (parse twoPipelines).pipeline.findStage? "lint".toList = some 0 ∧
      insertion.pipeline.findStage? "lint".toList = some 1 := by
  obtain ⟨insertion, h⟩ : ∃ insertion, insertStage (parse twoPipelines).pipeline "Test".toList
      ["test".toList] (.int 0) = .ok insertion := ⟨_, rfl⟩
  obtain ⟨container, hcontainer, hindex, hbefore, hafter⟩ :=
    findStage?_insertion h "lint".toList
  have hfirst : ∀ container ∈ (parse twoPipelines).pipeline.stagesBlock?,
      FirstWithStep "lint".toList container.children 0 := by decide +kernel
  have hzero : 0 = insertion.index := Int.ofNat.inj (Json.int.inj hindex)
  have hlint := hfirst container hcontainer
  refine ⟨insertion, h, hbefore 0 hlint, ?_⟩
  rw [← hzero] at hafter
  generalize insertion.pipeline.findStage? "lint".toList = found at hafter
  cases hafter with
  | before _ hm => exact absurd hm (Nat.not_lt_zero _)
  | new _ hnew => exact absurd hnew (by decide)
  | after hm =>
    rw [← findIdx?_hasStep_eq_some_iff] at hm hlint
    rw [Option.some.inj (hm.symm.trans hlint)]
  | elsewhere hnone => exact absurd hlint (hnone 0)

end Jenkinsfile
