/-
# What an import changes

A tree may say less than an export does, or something else: a block may come without a role or with
a foreign one, and a leaf may say that it has no braces.  In its `settled` form every block has the
role of its header and no leaf says anything about braces, and everything else is as it was.

What is imported from a tree is exported again as the settled form of the tree (`toJson_ofJson`).
Two exports are compared by what stands at their keys, and the order in which the keys are written
does not matter (`Json.Same`).  The new export is a tree again, and a second import and export
change nothing.
-/
import Jenkinsfile.Proofs.TreeExport

namespace Jenkinsfile

/-! ## 1. Members of objects -/

namespace Json

/-- The members without a key. -/
def dropMember (key : Text) (members : List (Text × Json)) : List (Text × Json) :=
  members.filter (·.1 ≠ key)

/-- The members with another value at a key, which is added where it is missing. -/
def setMember (key : Text) (v : Json) (members : List (Text × Json)) : List (Text × Json) :=
  (key, v) :: dropMember key members

variable {key k : Text} {members : List (Text × Json)}

theorem member?_dropMember :
    member? k (dropMember key members) = if k = key then none else member? k members := by
  induction members with
  | nil => simp [dropMember]
  | cons m members ih =>
    obtain ⟨k', v⟩ := m
    rw [dropMember] at ih ⊢
    by_cases hkey : k' = key
    · rw [List.filter_cons_of_neg (by simpa using hkey), ih, member?_cons, hkey]
      split <;> rfl
    · rw [List.filter_cons_of_pos (by simpa using hkey), member?_cons, ih, member?_cons]
      by_cases hk : k = k'
      · rw [if_pos hk, if_neg (by rw [hk]; exact hkey), if_pos hk]
      · rw [if_neg hk, if_neg hk]

theorem member?_setMember (v : Json) :
    member? k (setMember key v members) = if k = key then some v else member? k members := by
  rw [setMember, member?_cons, member?_dropMember]
  split <;> rfl

/-- Values that are the same by key and value: the members of an object may be written in any
order, the items of an array may not. -/
inductive Same : Json → Json → Prop
  | refl (v : Json) : Same v v
  | array {items items' : List Json} (h : List.Forall₂ Same items items') :
      Same (.array items) (.array items')
  | object {members members' : List (Text × Json)}
      (h : ∀ key, Option.Rel Same (member? key members) (member? key members')) :
      Same (.object members) (.object members')

theorem Same.rel_of_eq {v v' : Option Json} (h : v = v') : Option.Rel Same v v' := by
  subst h
  cases v with
  | none => exact .none
  | some v => exact .some (.refl v)

end Json

open Json (member? setMember dropMember Same)
open Jenkinsfile.Tree (BlockMembers LeafMembers TreeMembers OnlyKeys IsElement IsTree)

/-! ## 2. Settled trees -/

namespace Tree

mutual

/-- An element in which every block has the role of its header and no leaf says anything about
braces. -/
def settledElement : Json → Json
  | .object members =>
    if Json.textMember? "kind".toList members = some ElementKind.block.label then
      let name := (Json.textMember? "name".toList members).getD []
      .object (setMember "role".toList (.text (Role.ofHeader name))
        (settledUnder "children".toList members))
    else .object (dropMember "hasBraces".toList members)
  | v => v

/-- The members with the elements settled that stand under a key. -/
def settledUnder (key : Text) : List (Text × Json) → List (Text × Json)
  | [] => []
  | (k, v) :: members => (k, if k = key then settledArray v else v) :: settledUnder key members

/-- An array of elements, each of them settled. -/
def settledArray : Json → Json
  | .array items => .array (settledItems items)
  | v => v

/-- Several elements, each of them settled. -/
def settledItems : List Json → List Json
  | [] => []
  | v :: items => settledElement v :: settledItems items

end

/-- A tree with all its elements settled. -/
def settled : Json → Json
  | .object members => .object (settledUnder "elements".toList members)
  | v => v

theorem settledItems_eq_map (items : List Json) :
    settledItems items = items.map settledElement := by
  induction items with
  | nil => rfl
  | cons v items ih => rw [settledItems, ih, List.map_cons]

theorem member?_settledUnder {key k : Text} {members : List (Text × Json)} :
    member? k (settledUnder key members)
      = if k = key then (member? k members).map settledArray else member? k members := by
  induction members with
  | nil => simp [settledUnder]
  | cons m members ih =>
    obtain ⟨k', v⟩ := m
    rw [settledUnder, Json.member?_cons, ih, Json.member?_cons]
    by_cases hk : k = k'
    · rw [if_pos hk, if_pos hk, hk]
      split <;> rfl
    · rw [if_neg hk, if_neg hk]

theorem settledElement_of_block {members : List (Text × Json)} {name : Text}
    {children : List Json} (h : BlockMembers members name children) :
    settledElement (.object members)
      = .object (setMember "role".toList (.text (Role.ofHeader name))
          (settledUnder "children".toList members)) := by
  rw [settledElement, Json.textMember?_eq_some_iff.mpr h.kind,
    Json.textMember?_eq_some_iff.mpr h.name]
  rfl

theorem settledElement_of_leaf {members : List (Text × Json)} {kind : ElementKind}
    {name content : Text} (h : LeafMembers members kind name content) :
    settledElement (.object members) = .object (dropMember "hasBraces".toList members) := by
  have hkind : some kind.label ≠ some ElementKind.block.label := fun heq =>
    h.ne_block (ElementKind.label_inj.mp (Option.some.inj heq))
  rw [settledElement, Json.textMember?_eq_some_iff.mpr h.kind, if_neg hkind]

end Tree

/-! ## 3. Exporting what was imported -/

/-- Objects that have no other keys than these are compared at these. -/
theorem Json.Same.object_of_onlyKeys (keys : List Text) {members members' : List (Text × Json)}
    (h : OnlyKeys keys members) (h' : ∀ key, key ∉ keys → member? key members' = none)
    (hkeys : ∀ key ∈ keys, Option.Rel Same (member? key members) (member? key members')) :
    Same (.object members) (.object members') := by
  refine .object fun key => ?_
  by_cases hkey : key ∈ keys
  · exact hkeys key hkey
  · rw [h.member?_eq_none hkey, h' key hkey]
    exact .none

namespace Element

variable {members : List (Text × Json)}

/-- A block is exported with the role of its header, and else as it was. -/
theorem same_toJson_block {name : Text} {children : List Json}
    (h : BlockMembers members name children) {es : List Element}
    (hchildren : List.Forall₂ Same (es.map toJson) (children.map Tree.settledElement)) :
    (block name es).toJson.Same (Tree.settledElement (.object members)) := by
  rw [toJson_of_block rfl, Tree.settledElement_of_block h, childrenToJson_eq_map]
  have hother : ∀ key, key ≠ "role".toList → key ≠ "children".toList →
      member? key (setMember "role".toList (.text (Role.ofHeader name))
        (Tree.settledUnder "children".toList members)) = member? key members := by
    intro key hrole hchildren
    rw [Json.member?_setMember, if_neg hrole, Tree.member?_settledUnder, if_neg hchildren]
  refine .object_of_onlyKeys ["kind".toList, "name".toList, "role".toList, "hasBraces".toList,
    "children".toList] (by simp [OnlyKeys]) (fun key hkey => ?_) ?_
  · rw [hother key (by rintro rfl; simp at hkey) (by rintro rfl; simp at hkey),
      h.keys.member?_eq_none hkey]
  · simp only [List.forall_mem_cons]
    refine ⟨Same.rel_of_eq ?_, Same.rel_of_eq ?_, Same.rel_of_eq ?_, Same.rel_of_eq ?_, ?_,
      by simp⟩
    · rw [hother _ (by decide) (by decide), h.kind]
      rfl
    · rw [hother _ (by decide) (by decide), h.name]
      rfl
    · rw [Json.member?_setMember, if_pos rfl]
      rfl
    · rw [hother _ (by decide) (by decide), h.hasBraces]
      rfl
    · rw [Json.member?_setMember, if_neg (by decide), Tree.member?_settledUnder, if_pos rfl,
        h.children]
      refine .some (.array ?_)
      rw [Tree.settledItems_eq_map]
      exact hchildren

/-- A leaf is exported without a word about braces, and else as it was. -/
theorem same_toJson_leaf {kind : ElementKind} {name content : Text}
    (h : LeafMembers members kind name content) :
    (⟨kind, name, content, [], []⟩ : Element).toJson.Same
      (Tree.settledElement (.object members)) := by
  rw [toJson_of_ne_block h.ne_block, Tree.settledElement_of_leaf h]
  refine .object_of_onlyKeys ["kind".toList, "name".toList, "content".toList]
    (by simp [OnlyKeys]) (fun key hkey => ?_) ?_
  · rw [Json.member?_dropMember]
    split
    · rfl
    · rename_i hbraces
      refine h.keys.member?_eq_none ?_
      simp only [List.mem_cons, List.not_mem_nil, or_false, not_or] at hkey ⊢
      exact ⟨hkey.1, hkey.2.1, hkey.2.2, hbraces⟩
  · simp only [List.forall_mem_cons]
    refine ⟨Same.rel_of_eq ?_, Same.rel_of_eq ?_, Same.rel_of_eq ?_, by simp⟩
    · rw [Json.member?_dropMember, if_neg (by decide), h.kind]
      rfl
    · rw [Json.member?_dropMember, if_neg (by decide), h.name]
      rfl
    · rw [Json.member?_dropMember, if_neg (by decide), h.content]
      rfl

/-- What was read from elements is its own restored form, and is exported as the settled form of
them. -/
structure Settles (v : Json) (e : Element) : Prop where
  restored : e.restored = e
  same : e.toJson.Same (Tree.settledElement v)

theorem restored_of_settles {items : List Json} {es : List Element}
    (h : List.Forall₂ Settles items es) : ∀ e ∈ es, e.restored = e := by
  induction h with
  | nil => simp
  | cons h _ ih => exact List.forall_mem_cons.mpr ⟨h.restored, ih⟩

theorem same_of_settles {items : List Json} {es : List Element}
    (h : List.Forall₂ Settles items es) :
    List.Forall₂ Same (es.map toJson) (items.map Tree.settledElement) := by
  induction h with
  | nil => exact .nil
  | cons h _ ih => exact .cons h.same ih

/-- **What is read from an element is exported as its settled form.** -/
theorem exists_settles {v : Json} (h : IsElement v) : ∃ e, ofJson? v = some e ∧ Settles v e := by
  refine exists_ofJson? (fun hmembers hchildren => ⟨?_, ?_⟩) (fun hmembers => ⟨?_, ?_⟩) h
  · exact (restored_eq_self_iff rfl).mpr ⟨rfl, rfl, restored_of_settles hchildren⟩
  · exact same_toJson_block hmembers (same_of_settles hchildren)
  · exact restored_of_ne_block hmembers.ne_block
  · exact same_toJson_leaf hmembers

end Element

namespace Pipeline

/-- A tree is exported as it was, but for its elements. -/
theorem same_toJson {members : List (Text × Json)} {elements : List Json}
    (h : TreeMembers members elements) {es : List Element}
    (helements : List.Forall₂ Same (es.map Element.toJson) (elements.map Tree.settledElement)) :
    (⟨es⟩ : Pipeline).toJson.Same (Tree.settled (.object members)) := by
  have hother : ∀ key, key ≠ "elements".toList →
      member? key (Tree.settledUnder "elements".toList members) = member? key members := by
    intro key hkey
    rw [Tree.member?_settledUnder, if_neg hkey]
  rw [toJson, Tree.settled, Element.childrenToJson_eq_map]
  refine .object_of_onlyKeys ["type".toList, "elements".toList] (by simp [OnlyKeys])
    (fun key hkey => ?_) ?_
  · rw [hother key (by rintro rfl; simp at hkey), h.keys.member?_eq_none hkey]
  · simp only [List.forall_mem_cons]
    refine ⟨Same.rel_of_eq ?_, ?_, by simp⟩
    · rw [hother _ (by decide), h.type]
      rfl
    · rw [Tree.member?_settledUnder, if_pos rfl, h.elements]
      refine .some (.array ?_)
      rw [Tree.settledItems_eq_map]
      exact helements

/-- A tree is read as a pipeline that is its own restored form and is exported as the settled form
of the tree. -/
theorem exists_settled {v : Json} (h : IsTree v) :
    ∃ p, ofTree? v = some p ∧ p.restored = p ∧ p.toJson.Same (Tree.settled v) := by
  obtain ⟨hmembers, helements⟩ := h
  obtain ⟨es, hes, hall⟩ :=
    exists_ofTree?_of_elements hmembers fun v hv => Element.exists_settles (helements v hv)
  have hrestored : (⟨es⟩ : Pipeline).restored = ⟨es⟩ :=
    restored_eq_self_iff.mpr (Element.restored_of_settles hall)
  exact ⟨⟨es⟩, hes, hrestored, same_toJson hmembers (Element.same_of_settles hall)⟩

end Pipeline

/-- **What is imported from a tree is exported as the settled form of the tree.**  The new export
is a tree again, and to import and export it once more changes nothing. -/
theorem toJson_ofJson {v : Json} (h : Tree.checkTree v = .ok ()) :
    ∃ p, Pipeline.ofJson v = .ok p ∧ p.toJson.Same (Tree.settled v) ∧
      Tree.checkTree p.toJson = .ok () ∧
      ∃ q, Pipeline.ofJson p.toJson = .ok q ∧ q.toJson = p.toJson := by
  have htree : IsTree v := Tree.checkTree_eq_ok_iff.mp h
  obtain ⟨p, hp, hrestored, hsame⟩ := Pipeline.exists_settled htree
  have hagain : Pipeline.ofJson p.toJson = .ok p := Pipeline.ofJson_toJson_of_restored hrestored
  have hcheck : IsTree p.toJson := (Pipeline.ofJson_eq_ok_iff.mp hagain).1
  exact ⟨p, Pipeline.ofJson_eq_ok_iff.mpr ⟨htree, hp⟩, hsame, Tree.checkTree_eq_ok_iff.mpr hcheck,
    p, hagain, rfl⟩

/-- A tree of one block with one leaf: the block has a foreign role, and the leaf says that it has
no braces. -/
def oddTree : Json :=
  .object [("elements".toList, .array
      [.object [("role".toList, .text Role.stage), ("name".toList, .text Role.steps),
        ("kind".toList, .text ElementKind.block.label), ("children".toList, .array
          [.object [("hasBraces".toList, .bool false), ("name".toList, .text "make".toList),
            ("kind".toList, .text ElementKind.statement.label),
            ("content".toList, .text "make all".toList)]]),
        ("hasBraces".toList, .bool true)]]),
    ("type".toList, .text "Pipeline".toList)]

/-- It is imported, and exported with the role of the header and without a word about braces. -/
theorem toJson_ofJson_oddTree :
    Tree.checkTree oddTree = .ok () ∧
      ∃ p, Pipeline.ofJson oddTree = .ok p ∧ p.toJson.Same (Tree.settled oddTree) ∧
        p.elements
          = [.block Role.steps [⟨.statement, "make".toList, "make all".toList, [], []⟩]] := by
  have hcheck : Tree.checkTree oddTree = .ok () := by
    refine Tree.checkTree_eq_ok_iff.mpr (.intro ⟨by simp [OnlyKeys], rfl, rfl⟩ ?_)
    refine List.forall_mem_singleton.mpr (.block ⟨by simp [OnlyKeys], rfl, rfl, ?_, rfl, rfl⟩ ?_)
    · exact fun v hv => ⟨Role.stage, by decide, (Option.some.inj hv).symm⟩
    · refine List.forall_mem_singleton.mpr
        (.leaf ⟨by simp [OnlyKeys], by decide, rfl, rfl, rfl, ?_⟩)
      exact fun v hv => (Option.some.inj hv).symm
  obtain ⟨p, hp, hsame, -⟩ := toJson_ofJson hcheck
  refine ⟨hcheck, p, hp, hsame, ?_⟩
  have hread : Pipeline.ofTree? oddTree = some p := (Pipeline.ofJson_eq_ok_iff.mp hp).2
  exact (congrArg Pipeline.elements (Option.some.inj hread)).symm

end Jenkinsfile
