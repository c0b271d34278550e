/-
# What an export keeps

An export says of a block its header, its role and its children, and of a leaf its kind, its name
and its content.  An import gives a block the role of its header again, whatever role the export
says.  So an element comes back as its `restored` form (`ofJson?_toJson`), if the export passes the
check at all, which it does exactly if every block that it shows has one of the known roles
(`isTree_toJson_iff`).

Elements that are their own restored form are not changed by an export and an import.  Canonical
elements are, and a new stage is, whatever its name; so every pipeline that was read from a document
comes back as it is, and so does every pipeline that has grown out of one by stages
(`ofJson_toJson`).
-/
import Jenkinsfile.Proofs.StageInsertion
import Jenkinsfile.Proofs.TreeImport
import Jenkinsfile.Tree.Export

namespace Jenkinsfile

open Jenkinsfile.Tree (IsElement IsTree)

/-! ## 1. Restored elements -/

namespace Element

mutual

/-- What an element is after an export and an import: a block has the role of its header and no
content, and a leaf has neither a role nor children. -/
def restored : Element → Element
  | ⟨kind, name, content, _, children⟩ =>
    if kind = .block then block name (restoredAll children) else ⟨kind, name, content, [], []⟩

/-- Several elements after an export and an import. -/
def restoredAll : List Element → List Element
  | [] => []
  | e :: es => restored e :: restoredAll es

end

variable {e : Element}

theorem restored_of_block (h : e.kind = .block) :
    e.restored = block e.name (restoredAll e.children) := by
  obtain ⟨kind, name, content, role, children⟩ := e
  rw [restored, if_pos h]

theorem restored_of_ne_block (h : e.kind ≠ .block) :
    e.restored = ⟨e.kind, e.name, e.content, [], []⟩ := by
  obtain ⟨kind, name, content, role, children⟩ := e
  rw [restored, if_neg h]

theorem mem_restoredAll_iff {es : List Element} :
    e ∈ restoredAll es ↔ ∃ c ∈ es, c.restored = e := by
  induction es with
  | nil => simp [restoredAll]
  | cons c es ih => simp [restoredAll, ih, eq_comm]

theorem restoredAll_eq_self_iff {es : List Element} :
    restoredAll es = es ↔ ∀ c ∈ es, c.restored = c := by
  induction es with
  | nil => simp [restoredAll]
  | cons c es ih => rw [restoredAll, List.cons.injEq, ih, List.forall_mem_cons]

/-- A block is its own restored form if it has the role of its header and no content, and its
children are their own restored forms. -/
theorem restored_eq_self_iff (h : e.kind = .block) :
    e.restored = e ↔
      e.content = [] ∧ e.role = Role.ofHeader e.name ∧ ∀ c ∈ e.children, c.restored = c := by
  rw [restored_of_block h, ← restoredAll_eq_self_iff]
  obtain ⟨kind, name, content, role, children⟩ := e
  obtain rfl : kind = .block := h
  simp [block, eq_comm]

/-- Only a block can have a role and be its own restored form. -/
theorem kind_of_restored_eq_self (h : e.restored = e) (hrole : e.role ≠ []) : e.kind = .block := by
  by_contra hkind
  rw [restored_of_ne_block hkind] at h
  exact hrole (by rw [← h])

theorem restored_of_mem_children (h : e.restored = e) (hrole : e.role ≠ []) :
    ∀ c ∈ e.children, c.restored = c :=
  ((restored_eq_self_iff (kind_of_restored_eq_self h hrole)).mp h).2.2

/-- An element that is given by its kind and its line, or its header and its children. -/
theorem Plain.restored_eq_self (h : e.Plain) : e.restored = e := by
  induction h with
  | leaf hkind line => exact restored_of_ne_block hkind
  | block header _ ih => exact (restored_eq_self_iff rfl).mpr ⟨rfl, rfl, ih⟩

end Element

/-- A pipeline after an export and an import. -/
def Pipeline.restored (p : Pipeline) : Pipeline := ⟨Element.restoredAll p.elements⟩

theorem Pipeline.restored_eq_self_iff {p : Pipeline} :
    p.restored = p ↔ ∀ e ∈ p.elements, e.restored = e := by
  rw [← Element.restoredAll_eq_self_iff]
  obtain ⟨elements⟩ := p
  exact Pipeline.mk.injEq _ _ ▸ Iff.rfl

/-! ## 2. Reading an export -/

namespace Element

variable {e : Element}

theorem toJson_of_block (h : e.kind = .block) :
    e.toJson = .object
      [("kind".toList, .text ElementKind.block.label), ("name".toList, .text e.name),
       ("role".toList, .text e.role), ("hasBraces".toList, .bool true),
       ("children".toList, .array (childrenToJson e.children))] := by
  obtain ⟨kind, name, content, role, children⟩ := e
  obtain rfl : kind = .block := h
  rw [toJson, if_pos rfl]

theorem toJson_of_ne_block (h : e.kind ≠ .block) :
    e.toJson = .object
      [("kind".toList, .text e.kind.label), ("name".toList, .text e.name),
       ("content".toList, .text e.content)] := by
  obtain ⟨kind, name, content, role, children⟩ := e
  rw [toJson, if_neg h]

theorem childrenToJson_eq_map (es : List Element) : childrenToJson es = es.map toJson := by
  induction es with
  | nil => rfl
  | cons e es ih => rw [childrenToJson, ih, List.map_cons]

theorem ofItems?_childrenToJson {es : List Element}
    (h : ∀ e ∈ es, ofJson? e.toJson = some e.restored) :
    ofItems? (childrenToJson es) = some (restoredAll es) := by
  induction es with
  | nil => rfl
  | cons e es ih =>
    obtain ⟨he, hes⟩ := List.forall_mem_cons.mp h
    rw [childrenToJson, ofItems?, he, ih hes, restoredAll]
    rfl

/-- **The export of an element is read as its restored form**, also where it would not pass the
check. -/
theorem ofJson?_toJson (e : Element) : ofJson? e.toJson = some e.restored := by
  induction e using induction_on_children with
  | h e ih =>
    by_cases hkind : e.kind = .block
    · rw [toJson_of_block hkind, ofJson?_of_block rfl rfl rfl, ofItems?_childrenToJson ih,
        restored_of_block hkind]
      rfl
    · rw [toJson_of_ne_block hkind, ofJson?_of_leaf hkind rfl rfl rfl, restored_of_ne_block hkind]

end Element

theorem Pipeline.ofTree?_toJson (p : Pipeline) : ofTree? p.toJson = some p.restored := by
  rw [toJson, ofTree?_of_object rfl, Element.ofItems?_childrenToJson fun e _ => e.ofJson?_toJson]
  rfl

/-! ## 3. Exports that pass the check -/

namespace Element

/-- An element that an export of `e` shows: `e` itself, or one that it holds through blocks only. -/
inductive Shows : Element → Element → Prop
  | self (e : Element) : Shows e e
  | child {e c b : Element} (hkind : e.kind = .block) (hc : c ∈ e.children) (hb : Shows c b) :
      Shows e b

variable {e : Element}

theorem isElement_toJson_of_ne_block (h : e.kind ≠ .block) : IsElement e.toJson := by
  rw [toJson_of_ne_block h]
  have hmembers : Tree.LeafMembers
      [("kind".toList, .text e.kind.label), ("name".toList, .text e.name),
        ("content".toList, .text e.content)] e.kind e.name e.content := by
    refine ⟨?_, h, rfl, rfl, rfl, fun v hv => absurd hv (by simp [Json.member?_cons])⟩
    simp [Tree.OnlyKeys]
  exact .leaf hmembers

/-- The export of a block passes the check if the role is known and the exports of the children
pass. -/
theorem isElement_toJson_block_iff (h : e.kind = .block) :
    IsElement e.toJson ↔ e.role ∈ Tree.roles ∧ ∀ c ∈ e.children, IsElement c.toJson := by
  rw [toJson_of_block h, childrenToJson_eq_map, ← List.forall_mem_map]
  constructor
  · intro h
    cases h with
    | block hmembers hchildren =>
      obtain ⟨role, hrole, heq⟩ := hmembers.role (.text e.role) rfl
      have harray := Json.array.inj (Option.some.inj hmembers.children)
      rw [Json.text.inj heq, harray]
      exact ⟨hrole, hchildren⟩
    | leaf hmembers =>
      have hlabel := Json.text.inj (Option.some.inj hmembers.kind)
      exact absurd (ElementKind.label_inj.mp hlabel).symm hmembers.ne_block
  · rintro ⟨hrole, hchildren⟩
    have hmembers : Tree.BlockMembers
        [("kind".toList, .text ElementKind.block.label), ("name".toList, .text e.name),
          ("role".toList, .text e.role), ("hasBraces".toList, .bool true),
          ("children".toList, .array (e.children.map toJson))]
        e.name (e.children.map toJson) := by
      refine ⟨?_, rfl, rfl, fun v hv => ⟨e.role, hrole, (Option.some.inj hv).symm⟩, rfl, rfl⟩
      simp [Tree.OnlyKeys]
    exact .block hmembers hchildren

/-- **An export passes the check exactly if every block that it shows has a known role.** -/
theorem isElement_toJson_iff (e : Element) :
    IsElement e.toJson ↔ ∀ b, e.Shows b → b.kind = .block → b.role ∈ Tree.roles := by
  induction e using induction_on_children with
  | h e ih =>
    by_cases hkind : e.kind = .block
    · rw [isElement_toJson_block_iff hkind]
      constructor
      · rintro ⟨hrole, hchildren⟩ b hb hblock
        cases hb with
        | self => exact hrole
        | child _ hc hb => exact (ih _ hc).mp (hchildren _ hc) b hb hblock
      · intro h
        refine ⟨h e (.self e) hkind, fun c hc => (ih c hc).mpr fun b hb => ?_⟩
        exact h b (.child hkind hc hb)
    · refine iff_of_true (isElement_toJson_of_ne_block hkind) fun b hb hblock => ?_
      cases hb with
      | self => exact absurd hblock hkind
      | child hkind' => exact absurd hkind' hkind

/-- The role of a header is a known one. -/
theorem ofHeader_mem_roles (name : Text) : Role.ofHeader name ∈ Tree.roles := by
  rw [Role.ofHeader]
  split
  · rename_i h
    rcases h with rfl | rfl | rfl <;> decide
  · split <;> decide

/-- **What an export and an import give can be exported and imported again.** -/
theorem isElement_toJson_restored (e : Element) : IsElement e.restored.toJson := by
  induction e using induction_on_children with
  | h e ih =>
    by_cases hkind : e.kind = .block
    · rw [restored_of_block hkind, isElement_toJson_block_iff rfl]
      refine ⟨ofHeader_mem_roles e.name, fun c hc => ?_⟩
      obtain ⟨d, hd, rfl⟩ := mem_restoredAll_iff.mp hc
      exact ih d hd
    · rw [restored_of_ne_block hkind]
      exact isElement_toJson_of_ne_block hkind

end Element

namespace Pipeline

variable {p : Pipeline}

theorem isTree_toJson_iff_forall : IsTree p.toJson ↔ ∀ e ∈ p.elements, IsElement e.toJson := by
  rw [toJson, Element.childrenToJson_eq_map, ← List.forall_mem_map]
  constructor
  · intro h
    cases h with
    | intro hmembers helements =>
      have harray := Json.array.inj (Option.some.inj hmembers.elements)
      rw [harray]
      exact helements
  · intro h
    have hmembers : Tree.TreeMembers
        [("type".toList, .text "Pipeline".toList),
          ("elements".toList, .array (p.elements.map Element.toJson))]
        (p.elements.map Element.toJson) := by
      refine ⟨?_, rfl, rfl⟩
      simp [Tree.OnlyKeys]
    exact .intro hmembers h

theorem isTree_toJson_iff :
    IsTree p.toJson ↔
      ∀ root ∈ p.elements, ∀ b, root.Shows b → b.kind = .block → b.role ∈ Tree.roles := by
  rw [isTree_toJson_iff_forall]
  exact forall₂_congr fun root _ => root.isElement_toJson_iff

theorem isTree_toJson_restored (p : Pipeline) : IsTree p.restored.toJson := by
  rw [isTree_toJson_iff_forall]
  intro e he
  obtain ⟨c, -, rfl⟩ := Element.mem_restoredAll_iff.mp he
  exact c.isElement_toJson_restored

/-- A pipeline that is its own restored form comes back as it is. -/
theorem ofJson_toJson_of_restored (h : p.restored = p) : ofJson p.toJson = .ok p := by
  refine ofJson_eq_ok_iff.mpr ⟨?_, ?_⟩
  · rw [← h]
    exact p.isTree_toJson_restored
  · rw [ofTree?_toJson, h]

end Pipeline

/-! ## 4. New stages -/

/-- Siblings of a block that are their own restored forms stay so with other children in the block,
if these are. -/
theorem restored_withChildren {e : Element} {as bs old new : List Element} (hrole : e.role ≠ [])
    (h : ∀ c ∈ as ++ e.withChildren old :: bs, c.restored = c) (hnew : ∀ c ∈ new, c.restored = c) :
    ∀ c ∈ as ++ e.withChildren new :: bs, c.restored = c := by
  rw [List.forall_mem_append, List.forall_mem_cons] at h ⊢
  obtain ⟨has, he, hbs⟩ := h
  have hkind : (e.withChildren old).kind = .block := Element.kind_of_restored_eq_self he hrole
  obtain ⟨hcontent, hrole', -⟩ := (Element.restored_eq_self_iff hkind).mp he
  have he' : (e.withChildren new).restored = e.withChildren new :=
    (Element.restored_eq_self_iff (e := e.withChildren new) hkind).mpr ⟨hcontent, hrole', hnew⟩
  exact ⟨has, he', hbs⟩

/-- A pipeline that is its own restored form stays so with other stages, if these are. -/
theorem StagesPlace.restored_fill {place : StagesPlace} {old new : List Element}
    (h : (place.fill old).restored = place.fill old)
    (hnew : (∀ c ∈ old, c.restored = c) → ∀ c ∈ new, c.restored = c) :
    (place.fill new).restored = place.fill new := by
  rw [Pipeline.restored_eq_self_iff] at h ⊢
  have hroot : place.root.role ≠ [] := by rw [place.root_role]; decide
  have hcontainer : place.container.role ≠ [] := by rw [place.container_role]; decide
  have hrow := Element.restored_of_mem_children
    (h _ (List.mem_append_right place.before List.mem_cons_self)) hroot
  have hold := Element.restored_of_mem_children
    (hrow _ (List.mem_append_right place.above List.mem_cons_self)) hcontainer
  exact restored_withChildren hroot h (restored_withChildren hcontainer hrow (hnew hold))

/-- A new stage is made of headers and lines only. -/
theorem restored_makeStage {name : Text} {steps : List Text} {stage : Element}
    (h : makeStage name steps = .ok stage) : stage.restored = stage := by
  obtain ⟨lines, -, rfl⟩ := makeStage_eq_ok_iff.mp h
  have hlines : ∀ e ∈ lines.map Element.statement, e.Plain := by
    simp only [List.forall_mem_map]
    exact fun line _ => .leaf (by decide) line
  have hsteps := Element.Plain.block Role.steps hlines
  have hstage := Element.Plain.block (stageHeader name) (List.forall_mem_singleton.mpr hsteps)
  exact hstage.restored_eq_self

namespace Pipeline

variable {p q : Pipeline}

/-- **A new stage, whatever its name, keeps a pipeline its own restored form.** -/
theorem restored_insertStage (h : p.restored = p) {name : Text} {steps : List Text} {index : Json}
    {insertion : Insertion} (hi : insertStage p name steps index = .ok insertion) :
    insertion.pipeline.restored = insertion.pipeline := by
  obtain ⟨container, stage, i, hcontainer, -, hle, hstage, rfl⟩ := insertStage_eq_ok_iff.mp hi
  obtain ⟨place, -, hold, hmodify⟩ := p.exists_place hcontainer
  rw [← hold] at h
  rw [hmodify]
  refine place.restored_fill h fun hchildren c hc => ?_
  rcases (List.mem_insertIdx hle).mp hc with rfl | hc
  · exact restored_makeStage hstage
  · exact hchildren c hc

/-- A pipeline that has grown out of another one by new stages. -/
inductive Grows (p : Pipeline) : Pipeline → Prop
  | refl : Grows p p
  | insert {q : Pipeline} (h : Grows p q) {name : Text} {steps : List Text} {index : Json}
      {insertion : Insertion} (hi : insertStage q name steps index = .ok insertion) :
      Grows p insertion.pipeline

/-- However many new stages keep it so. -/
theorem Grows.restored (h : p.Grows q) (hp : p.restored = p) : q.restored = q := by
  induction h with
  | refl => exact hp
  | insert _ hi ih => exact restored_insertStage ih hi

end Pipeline

/-! ## 5. Exporting and importing -/

/-- A strict reading gives the tree of a lenient one. -/
theorem pipeline_of_parseAs {strict : Bool} {t : Text} {r : Parsed}
    (h : parseAs strict t = .ok r) : r.pipeline = (parse t).pipeline := by
  cases strict with
  | false => rw [← Except.ok.inj h]
  | true =>
    rw [parseAs, if_pos rfl] at h
    cases hp : parseStrict t with
    | error e => rw [hp] at h; exact absurd h (by simp [Except.map])
    | ok p =>
      rw [hp] at h
      rw [← Except.ok.inj h, ← (parseStrict_eq_ok_iff.mp hp).2]

theorem restored_parse (t : Text) : (parse t).pipeline.restored = (parse t).pipeline :=
  Pipeline.restored_eq_self_iff.mpr fun e he =>
    ((canonical_parse t).elements e he).plain.restored_eq_self

/-- **An export passes the check exactly if every block that it shows has a known role**, and is
then imported as the restored form of what was exported.  A pipeline that was read from a document,
and one that has grown out of such a one by any stages, comes back as it is. -/
theorem ofJson_toJson (p : Pipeline) :
    (Tree.checkTree p.toJson = .ok () ↔
        ∀ root ∈ p.elements, ∀ b, root.Shows b → b.kind = .block → b.role ∈ Tree.roles) ∧
      (Tree.checkTree p.toJson = .ok () → Pipeline.ofJson p.toJson = .ok p.restored) ∧
      ∀ strict t r, parseAs strict t = .ok r → r.pipeline.Grows p →
        Pipeline.ofJson p.toJson = .ok p := by
  refine ⟨?_, fun hcheck => ?_, fun strict t r ht hgrows => ?_⟩
  · rw [Tree.checkTree_eq_ok_iff, Pipeline.isTree_toJson_iff]
  · exact Pipeline.ofJson_eq_ok_iff.mpr ⟨Tree.checkTree_eq_ok_iff.mp hcheck, p.ofTree?_toJson⟩
  · have hread : r.pipeline.restored = r.pipeline := by
      rw [pipeline_of_parseAs ht]
      exact restored_parse t
    exact Pipeline.ofJson_toJson_of_restored (hgrows.restored hread)

/-- A block under a foreign role and with a content, and in it a leaf with a role, a content of its
own and a child. -/
def oddSteps : Pipeline :=
  ⟨[⟨.block, Role.steps, "steps \x7b".toList, Role.stage,
    [⟨.statement, "make".toList, "make all".toList, ['?'], [.statement "test".toList]⟩]⟩]⟩

/-- A pipeline with a place for stages. -/
def oneStages : Text :=
  "pipeline \x7b\nstages \x7b\n\x7d\n\x7d".toList

/-- Such a block is exported and imported with the role of its header, and the leaf with its name
and its content; and a stage with a line break in its name comes back as it is. -/
theorem ofJson_toJson_oddSteps :
    (Tree.checkTree oddSteps.toJson = .ok () ∧
      Pipeline.ofJson oddSteps.toJson
        = .ok ⟨[.block Role.steps [⟨.statement, "make".toList, "make all".toList, [], []⟩]]⟩) ∧
    ∃ insertion, insertStage (parse oneStages).pipeline "A\nB".toList ["make".toList] (.int 0)
        = .ok insertion ∧
      Pipeline.ofJson insertion.pipeline.toJson = .ok insertion.pipeline := by
  constructor
  · obtain ⟨hcheck, himport, -⟩ := ofJson_toJson oddSteps
    have hok : Tree.checkTree oddSteps.toJson = .ok () := by
      refine hcheck.mpr fun root hroot b hb hblock => ?_
      obtain rfl := List.mem_singleton.mp hroot
      cases hb with
      | self => decide
      | child _ hc hb =>
        obtain rfl := List.mem_singleton.mp hc
        cases hb with
        | self => exact absurd hblock (by decide)
        | child hkind => exact absurd hkind (by decide)
    exact ⟨hok, himport hok⟩
  · obtain ⟨insertion, h⟩ : ∃ insertion,
        insertStage (parse oneStages).pipeline "A\nB".toList ["make".toList] (.int 0)
          = .ok insertion := ⟨_, rfl⟩
    exact ⟨insertion, h, (ofJson_toJson insertion.pipeline).2.2 false _ _ rfl (.insert .refl h)⟩

end Jenkinsfile
