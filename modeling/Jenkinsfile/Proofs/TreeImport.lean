/-
# What can be imported

A value that passes the check is read member by member, and the reading itself checks nothing: it
is the grammar that says that every member it asks for is there and of the right kind
(`exists_ofJson?`).  So an import either refuses a value by the schema or reads
it, and it reads exactly the trees (`exists_ofJson_iff_isTree`).
-/
import Jenkinsfile.Proofs.TreeGrammar
import Jenkinsfile.Tree.Import

namespace Jenkinsfile

open Json (member?)
open Jenkinsfile.Tree (BlockMembers LeafMembers TreeMembers IsElement IsTree)

/-! ## 1. Elements -/

theorem Json.textMember?_eq_some_iff {members : List (Text × Json)} {key t : Text} :
    Json.textMember? key members = some t ↔ member? key members = some (.text t) := by
  rw [Json.textMember?]
  cases member? key members with
  | none => simp
  | some v => cases v <;> simp

namespace Element

variable {members : List (Text × Json)}

theorem childrenOfMembers?_eq (members : List (Text × Json)) :
    childrenOfMembers? members = (member? "children".toList members).bind ofArray? := by
  induction members with
  | nil => rfl
  | cons m members ih =>
    obtain ⟨key, v⟩ := m
    rw [childrenOfMembers?, Json.member?_cons]
    by_cases h : key = "children".toList
    · rw [if_pos h, if_pos h.symm]
      rfl
    · rw [if_neg h, if_neg (Ne.symm h), ih]

/-- Several values are read if each of them is. -/
theorem exists_ofItems? {P : Json → Element → Prop} {items : List Json}
    (h : ∀ v ∈ items, ∃ e, ofJson? v = some e ∧ P v e) :
    ∃ es, ofItems? items = some es ∧ List.Forall₂ P items es := by
  induction items with
  | nil => exact ⟨[], rfl, .nil⟩
  | cons v items ih =>
    obtain ⟨⟨e, he, hP⟩, hitems⟩ := List.forall_mem_cons.mp h
    obtain ⟨es, hes, hall⟩ := ih hitems
    exact ⟨e :: es, by rw [ofItems?, he, hes]; rfl, .cons hP hall⟩

/-- A block is read if its children are. -/
theorem ofJson?_of_block {name : Text} {children : List Json}
    (hkind : member? "kind".toList members = some (.text ElementKind.block.label))
    (hname : member? "name".toList members = some (.text name))
    (hchildren : member? "children".toList members = some (.array children)) :
    ofJson? (.object members) = (ofItems? children).map (block name) := by
  rw [ofJson?, childrenOfMembers?_eq, hchildren, Json.textMember?_eq_some_iff.mpr hkind,
    Json.textMember?_eq_some_iff.mpr hname]
  simp only [Option.bind_eq_bind, Option.bind_some, ElementKind.ofLabel?_label, if_true, ofArray?]
  cases ofItems? children <;> rfl

/-- A leaf is read. -/
theorem ofJson?_of_leaf {kind : ElementKind} {name content : Text} (hne : kind ≠ .block)
    (hkind : member? "kind".toList members = some (.text kind.label))
    (hname : member? "name".toList members = some (.text name))
    (hcontent : member? "content".toList members = some (.text content)) :
    ofJson? (.object members) = some ⟨kind, name, content, [], []⟩ := by
  rw [ofJson?, Json.textMember?_eq_some_iff.mpr hkind, Json.textMember?_eq_some_iff.mpr hname,
    Json.textMember?_eq_some_iff.mpr hcontent]
  simp only [Option.bind_eq_bind, Option.bind_some, ElementKind.ofLabel?_label, hne, make,
    false_and, if_false]
  rfl

/-- **Every element of the grammar is read.**  What holds of every leaf and what is read from it, and
of every block of whose children it holds, holds of every element and what is read from it. -/
theorem exists_ofJson? {P : Json → Element → Prop}
    (hblock : ∀ {members name children es}, BlockMembers members name children →
      List.Forall₂ P children es → P (.object members) (block name es))
    (hleaf : ∀ {members kind name content}, LeafMembers members kind name content →
      P (.object members) ⟨kind, name, content, [], []⟩)
    {v : Json} (h : IsElement v) : ∃ e, ofJson? v = some e ∧ P v e := by
  induction h with
  | @block _ name _ hmembers _ ih =>
    obtain ⟨es, hes, hall⟩ := exists_ofItems? ih
    refine ⟨block name es, ?_, hblock hmembers hall⟩
    rw [ofJson?_of_block hmembers.kind hmembers.name hmembers.children, hes]
    rfl
  | leaf hmembers =>
    have hread := ofJson?_of_leaf hmembers.ne_block hmembers.kind hmembers.name hmembers.content
    exact ⟨_, hread, hleaf hmembers⟩

end Element

/-! ## 2. Trees -/

namespace Pipeline

theorem ofTree?_of_object {members : List (Text × Json)} {elements : List Json}
    (helements : member? "elements".toList members = some (.array elements)) :
    ofTree? (.object members) = (Element.ofItems? elements).map Pipeline.mk := by
  rw [ofTree?, helements]
  cases hes : Element.ofItems? elements <;> simp [Element.ofArray?, hes]

/-- A tree is read if its elements are. -/
theorem exists_ofTree?_of_elements {P : Json → Element → Prop} {members : List (Text × Json)}
    {elements : List Json} (hmembers : TreeMembers members elements)
    (h : ∀ v ∈ elements, ∃ e, Element.ofJson? v = some e ∧ P v e) :
    ∃ es, ofTree? (.object members) = some ⟨es⟩ ∧ List.Forall₂ P elements es := by
  obtain ⟨es, hes, hall⟩ := Element.exists_ofItems? h
  exact ⟨es, by rw [ofTree?_of_object hmembers.elements, hes]; rfl, hall⟩

/-- **Every tree is read.** -/
theorem exists_ofTree? {v : Json} (h : IsTree v) : ∃ p, ofTree? v = some p := by
  obtain ⟨hmembers, helements⟩ := h
  have hread : ∀ v ∈ _, ∃ e, Element.ofJson? v = some e ∧ True := fun v hv =>
    Element.exists_ofJson? (P := fun _ _ => True) (fun _ _ => trivial) (fun _ => trivial)
      (helements v hv)
  obtain ⟨es, hes, -⟩ := exists_ofTree?_of_elements hmembers hread
  exact ⟨⟨es⟩, hes⟩

/-- What is imported is a tree, read member by member. -/
theorem ofJson_eq_ok_iff {v : Json} {p : Pipeline} :
    ofJson v = .ok p ↔ IsTree v ∧ ofTree? v = some p := by
  rw [ofJson, ← Tree.checkTree_eq_ok_iff]
  cases Tree.checkTree v with
  | error e => simp
  | ok u => cases ofTree? v <;> simp

end Pipeline

/-- **An import reads exactly the trees, and refuses everything else by the schema**: it never
comes to a member that is missing or of the wrong kind.  An element is one of the two things the
schema allows for and never both. -/
theorem exists_ofJson_iff_isTree (v : Json) :
    ((∃ p, Pipeline.ofJson v = .ok p) ∨ ∃ e, Pipeline.ofJson v = .error (.schema e)) ∧
      ((∃ p, Pipeline.ofJson v = .ok p) ↔ IsTree v) ∧
      ¬ (Tree.problemsAsBlock v = [] ∧ Tree.problemsAsLeaf v = []) := by
  have hread : (∃ p, Pipeline.ofJson v = .ok p) ↔ IsTree v := by
    constructor
    · rintro ⟨p, hp⟩
      exact (Pipeline.ofJson_eq_ok_iff.mp hp).1
    · intro h
      obtain ⟨p, hp⟩ := Pipeline.exists_ofTree? h
      exact ⟨p, Pipeline.ofJson_eq_ok_iff.mpr ⟨h, hp⟩⟩
  refine ⟨?_, hread, Tree.not_block_and_leaf v⟩
  by_cases h : IsTree v
  · exact Or.inl (hread.mpr h)
  · cases hcheck : Tree.checkTree v with
    | error e => exact Or.inr ⟨e, by rw [Pipeline.ofJson, hcheck]⟩
    | ok u => exact absurd (Tree.checkTree_eq_ok_iff.mp hcheck) h

end Jenkinsfile
