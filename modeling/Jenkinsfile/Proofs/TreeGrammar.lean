/-
# The grammar of exported trees

The schema lists what is wrong with a value.  The grammar says what a value has to be: which keys an
object has, and what stands at each of them (`BlockMembers`, `LeafMembers`), an element at every
depth (`IsElement`), and a tree of elements (`IsTree`).  The two agree:

* `blockProblems_eq_nil_iff`, `leafProblems_eq_nil_iff`: for the members of one object;
* `elementProblems_eq_nil_iff`: for elements, by induction on the value in one direction and on the
  grammar in the other;
* `checkTree_eq_ok_iff`: a value passes the check exactly if it is a tree.

An element is a block or a leaf and never both (`not_block_and_leaf`), so it does not matter that
the schema asks for exactly one of the two.
-/
import Jenkinsfile.Tree.Schema
import Mathlib.Data.List.Basic

namespace Jenkinsfile.Tree

open Json (member?)

/-! ## 1. The grammar -/

/-- No key is written but these. -/
def OnlyKeys (keys : List Text) (members : List (Text × Json)) : Prop :=
  ∀ m ∈ members, m.1 ∈ keys

/-- The members of a block with this name and these children. -/
structure BlockMembers (members : List (Text × Json)) (name : Text) (children : List Json) :
    Prop where
  keys : OnlyKeys ["kind".toList, "name".toList, "role".toList, "hasBraces".toList,
    "children".toList] members
  kind : member? "kind".toList members = some (.text ElementKind.block.label)
  name : member? "name".toList members = some (.text name)
  role : ∀ v, member? "role".toList members = some v → ∃ role ∈ roles, v = .text role
  hasBraces : member? "hasBraces".toList members = some (.bool true)
  children : member? "children".toList members = some (.array children)

/-- The members of a leaf of this kind with this name and this content. -/
structure LeafMembers (members : List (Text × Json)) (leafKind : ElementKind)
    (name content : Text) : Prop where
  keys : OnlyKeys ["kind".toList, "name".toList, "content".toList, "hasBraces".toList] members
  ne_block : leafKind ≠ .block
  kind : member? "kind".toList members = some (.text leafKind.label)
  name : member? "name".toList members = some (.text name)
  content : member? "content".toList members = some (.text content)
  hasBraces : ∀ v, member? "hasBraces".toList members = some v → v = .bool false

/-- An element, with all that is in it. -/
inductive IsElement : Json → Prop
  | block {members : List (Text × Json)} {name : Text} {children : List Json}
      (hmembers : BlockMembers members name children) (hchildren : ∀ v ∈ children, IsElement v) :
      IsElement (.object members)
  | leaf {members : List (Text × Json)} {kind : ElementKind} {name content : Text}
      (hmembers : LeafMembers members kind name content) : IsElement (.object members)

/-- The members of a tree with these elements. -/
structure TreeMembers (members : List (Text × Json)) (elements : List Json) : Prop where
  keys : OnlyKeys ["type".toList, "elements".toList] members
  type : member? "type".toList members = some (.text "Pipeline".toList)
  elements : member? "elements".toList members = some (.array elements)

/-- A tree. -/
inductive IsTree : Json → Prop
  | intro {members : List (Text × Json)} {elements : List Json}
      (hmembers : TreeMembers members elements) (helements : ∀ v ∈ elements, IsElement v) :
      IsTree (.object members)

/-! ## 2. Members -/

variable {members : List (Text × Json)}

theorem isSome_member?_iff {key : Text} :
    (member? key members).isSome ↔ key ∈ members.map (·.1) := by
  induction members with
  | nil => simp
  | cons m members ih =>
    obtain ⟨k, v⟩ := m
    rw [Json.member?_cons, List.map_cons, List.mem_cons, ← ih]
    by_cases h : key = k <;> simp [h]

theorem OnlyKeys.member?_eq_none {keys : List Text} (h : OnlyKeys keys members) {key : Text}
    (hkey : key ∉ keys) : member? key members = none := by
  rw [← Option.not_isSome_iff_eq_none, isSome_member?_iff]
  intro hmem
  obtain ⟨m, hm, rfl⟩ := List.mem_map.mp hmem
  exact hkey (h m hm)

/-- The keys are right if all that are required are there and no others are written than those
allowed. -/
theorem Keys.problems_eq_nil_iff {keys : Keys} :
    keys.problems members = [] ↔
      (∀ key ∈ keys.required, (member? key members).isSome) ∧ OnlyKeys keys.allowed members := by
  have hextra : keys.unexpected members = [] ↔ OnlyKeys keys.allowed members := by
    rw [Keys.unexpected, ← List.length_eq_zero_iff, List.length_mergeSort, List.length_eq_zero_iff,
      List.filter_eq_nil_iff]
    simp [OnlyKeys]
  have hmissing : (keys.required.filter fun key => (member? key members).isNone) = [] ↔
      ∀ key ∈ keys.required, (member? key members).isSome := by
    simp [List.filter_eq_nil_iff, Option.isSome_iff_ne_none]
  rw [Keys.problems, List.append_eq_nil_iff, List.map_eq_nil_iff, hmissing, ← hextra]
  cases keys.unexpected members <;> simp

theorem memberProblems_eq_nil_iff {key : Text} {check : Json → List Problem} :
    memberProblems key check members = [] ↔
      ∀ v, member? key members = some v → check v = [] := by
  rw [memberProblems]
  cases member? key members <;> simp

/-- A member that is required is there, and it is right. -/
theorem required_member_iff {keys : Keys} (h : ∀ key ∈ keys.required, (member? key members).isSome)
    {key : Text} (hkey : key ∈ keys.required) {check : Json → List Problem} :
    memberProblems key check members = [] ↔
      ∃ v, member? key members = some v ∧ check v = [] := by
  obtain ⟨v, hv⟩ := Option.isSome_iff_exists.mp (h key hkey)
  rw [memberProblems_eq_nil_iff, hv]
  simp

/-! ## 3. Values -/

theorem stringProblems_eq_nil_iff {v : Json} : stringProblems v = [] ↔ ∃ t, v = .text t := by
  cases v <;> simp [stringProblems]

theorem constantProblems_eq_nil_iff {expected : Text} {v : Json} :
    constantProblems expected v = [] ↔ v = .text expected := by
  cases v <;> simp [constantProblems]

theorem flagProblems_eq_nil_iff {expected : Bool} {v : Json} :
    flagProblems expected v = [] ↔ v = .bool expected := by
  cases v <;> simp [flagProblems]

theorem choiceProblems_eq_nil_iff {allowed : List Text} {v : Json} :
    choiceProblems allowed v = [] ↔ ∃ t ∈ allowed, v = .text t := by
  cases v <;> simp [choiceProblems]

theorem eitherProblems_eq_nil_iff {v : Json} {asBlock asLeaf : List Problem} :
    eitherProblems v asBlock asLeaf = [] ↔ asBlock = [] ∨ asLeaf = [] := by
  rw [eitherProblems]
  by_cases h : asBlock = [] ∨ asLeaf = []
  · simp [h]
  · simp_all

/-! ## 4. Elements -/

theorem childrenProblems_eq (members : List (Text × Json)) :
    childrenProblems members = memberProblems "children".toList arrayProblems members := by
  induction members with
  | nil => rfl
  | cons m members ih =>
    obtain ⟨key, v⟩ := m
    rw [childrenProblems, memberProblems, Json.member?_cons]
    by_cases h : key = "children".toList
    · rw [if_pos h, if_pos h.symm, h]
    · rw [if_neg h, if_neg (Ne.symm h), ih, memberProblems]

theorem itemProblems_eq_nil_iff {position : Nat} {items : List Json} :
    itemProblems position items = [] ↔ ∀ v ∈ items, elementProblems v = [] := by
  induction items generalizing position with
  | nil => simp [itemProblems]
  | cons v items ih =>
    rw [itemProblems, List.append_eq_nil_iff, List.map_eq_nil_iff, ih, List.forall_mem_cons]

theorem arrayProblems_eq_nil_iff {v : Json} :
    arrayProblems v = [] ↔ ∃ items, v = .array items ∧ ∀ x ∈ items, elementProblems x = [] := by
  cases v with
  | array items => simp [arrayProblems, itemProblems_eq_nil_iff]
  | _ => simp [arrayProblems]

/-- **A block's members have no problem exactly if they are those of a block** whose children have
none. -/
theorem blockProblems_eq_nil_iff :
    blockProblems members ++ childrenProblems members = [] ↔
      ∃ name children, BlockMembers members name children ∧
        ∀ v ∈ children, elementProblems v = [] := by
  rw [childrenProblems_eq, blockProblems]
  simp only [List.append_eq_nil_iff, Keys.problems_eq_nil_iff]
  constructor
  · rintro ⟨⟨⟨⟨⟨⟨hrequired, hkeys⟩, hkind⟩, hname⟩, hrole⟩, hbraces⟩, hchildren⟩
    obtain ⟨_, hkind, hv⟩ := (required_member_iff hrequired (by decide)).mp hkind
    obtain rfl := constantProblems_eq_nil_iff.mp hv
    obtain ⟨_, hname, hv⟩ := (required_member_iff hrequired (by decide)).mp hname
    obtain ⟨name, rfl⟩ := stringProblems_eq_nil_iff.mp hv
    obtain ⟨_, hbraces, hv⟩ := (required_member_iff hrequired (by decide)).mp hbraces
    obtain rfl := flagProblems_eq_nil_iff.mp hv
    obtain ⟨_, hchildren, hv⟩ := (required_member_iff hrequired (by decide)).mp hchildren
    obtain ⟨children, rfl, hitems⟩ := arrayProblems_eq_nil_iff.mp hv
    refine ⟨name, children, ⟨hkeys, hkind, hname, fun v hv => ?_, hbraces, hchildren⟩, hitems⟩
    exact choiceProblems_eq_nil_iff.mp (memberProblems_eq_nil_iff.mp hrole v hv)
  · rintro ⟨name, children, h, hitems⟩
    have hrequired : ∀ key ∈ blockKeys.required, (member? key members).isSome := by
      simp only [blockKeys, List.forall_mem_cons, h.kind, h.name, h.hasBraces, h.children]
      simp
    refine ⟨⟨⟨⟨⟨⟨hrequired, h.keys⟩, ?_⟩, ?_⟩, ?_⟩, ?_⟩, ?_⟩
    · exact (required_member_iff hrequired (by decide)).mpr
        ⟨_, h.kind, constantProblems_eq_nil_iff.mpr rfl⟩
    · exact (required_member_iff hrequired (by decide)).mpr
        ⟨_, h.name, stringProblems_eq_nil_iff.mpr ⟨name, rfl⟩⟩
    · exact memberProblems_eq_nil_iff.mpr fun v hv => choiceProblems_eq_nil_iff.mpr (h.role v hv)
    · exact (required_member_iff hrequired (by decide)).mpr
        ⟨_, h.hasBraces, flagProblems_eq_nil_iff.mpr rfl⟩
    · exact (required_member_iff hrequired (by decide)).mpr
        ⟨_, h.children, arrayProblems_eq_nil_iff.mpr ⟨children, rfl, hitems⟩⟩

theorem mem_leafKinds_iff {kind : ElementKind} : kind ∈ leafKinds ↔ kind ≠ .block := by
  cases kind <;> decide

/-- **A leaf's members have no problem exactly if they are those of a leaf.** -/
theorem leafProblems_eq_nil_iff :
    leafProblems members = [] ↔ ∃ kind name content, LeafMembers members kind name content := by
  rw [leafProblems]
  simp only [List.append_eq_nil_iff, Keys.problems_eq_nil_iff]
  constructor
  · rintro ⟨⟨⟨⟨⟨hrequired, hkeys⟩, hkind⟩, hname⟩, hcontent⟩, hbraces⟩
    obtain ⟨_, hkind, hv⟩ := (required_member_iff hrequired (by decide)).mp hkind
    obtain ⟨label, hlabel, rfl⟩ := choiceProblems_eq_nil_iff.mp hv
    obtain ⟨kind, hleaf, rfl⟩ := List.mem_map.mp hlabel
    obtain ⟨_, hname, hv⟩ := (required_member_iff hrequired (by decide)).mp hname
    obtain ⟨name, rfl⟩ := stringProblems_eq_nil_iff.mp hv
    obtain ⟨_, hcontent, hv⟩ := (required_member_iff hrequired (by decide)).mp hcontent
    obtain ⟨content, rfl⟩ := stringProblems_eq_nil_iff.mp hv
    refine ⟨kind, name, content, hkeys, mem_leafKinds_iff.mp hleaf, hkind, hname, hcontent,
      fun v hv => ?_⟩
    exact flagProblems_eq_nil_iff.mp (memberProblems_eq_nil_iff.mp hbraces v hv)
  · rintro ⟨kind, name, content, h⟩
    have hrequired : ∀ key ∈ leafKeys.required, (member? key members).isSome := by
      simp only [leafKeys, List.forall_mem_cons, h.kind, h.name, h.content]
      simp
    have hlabel : kind.label ∈ leafKinds.map (·.label) :=
      List.mem_map.mpr ⟨kind, mem_leafKinds_iff.mpr h.ne_block, rfl⟩
    refine ⟨⟨⟨⟨⟨hrequired, h.keys⟩, ?_⟩, ?_⟩, ?_⟩, ?_⟩
    · exact (required_member_iff hrequired (by decide)).mpr
        ⟨_, h.kind, choiceProblems_eq_nil_iff.mpr ⟨_, hlabel, rfl⟩⟩
    · exact (required_member_iff hrequired (by decide)).mpr
        ⟨_, h.name, stringProblems_eq_nil_iff.mpr ⟨name, rfl⟩⟩
    · exact (required_member_iff hrequired (by decide)).mpr
        ⟨_, h.content, stringProblems_eq_nil_iff.mpr ⟨content, rfl⟩⟩
    · exact memberProblems_eq_nil_iff.mpr fun v hv => flagProblems_eq_nil_iff.mpr (h.hasBraces v hv)

/-- What is wrong with a value as a block. -/
def problemsAsBlock : Json → List Problem
  | .object members => blockProblems members ++ childrenProblems members
  | v => [.plain (.wrongType v .object)]

/-- What is wrong with a value as a leaf. -/
def problemsAsLeaf : Json → List Problem
  | .object members => leafProblems members
  | v => [.plain (.wrongType v .object)]

/-- An element has to be one of the two. -/
theorem elementProblems_eq (v : Json) :
    elementProblems v = eitherProblems v (problemsAsBlock v) (problemsAsLeaf v) := by
  cases v <;> rfl

/-- **No value is both a block and a leaf**, since no kind is one of both. -/
theorem not_block_and_leaf (v : Json) : ¬ (problemsAsBlock v = [] ∧ problemsAsLeaf v = []) := by
  rintro ⟨hblock, hleaf⟩
  cases v with
  | object members =>
    obtain ⟨_, _, hblock, -⟩ := blockProblems_eq_nil_iff.mp hblock
    obtain ⟨kind, _, _, hleaf⟩ := leafProblems_eq_nil_iff.mp hleaf
    have hkind : ElementKind.block.label = kind.label :=
      Json.text.inj (Option.some.inj (hblock.kind.symm.trans hleaf.kind))
    exact hleaf.ne_block (ElementKind.label_inj.mp hkind).symm
  | _ => exact absurd hblock (by simp [problemsAsBlock])

/-- What stands in an array of a value is smaller than the value. -/
theorem sizeOf_lt_of_member? {key : Text} {items : List Json} {v : Json}
    (h : member? key members = some (.array items)) (hv : v ∈ items) :
    sizeOf v < sizeOf (Json.object members) := by
  induction members with
  | nil => exact absurd h (by simp)
  | cons m members ih =>
    obtain ⟨k, w⟩ := m
    rw [Json.member?_cons] at h
    simp only [Json.object.sizeOf_spec, List.cons.sizeOf_spec, Prod.mk.sizeOf_spec] at ih ⊢
    split at h
    · obtain rfl := Option.some.inj h
      have hlt := List.sizeOf_lt_of_mem hv
      rw [Json.array.sizeOf_spec]
      omega
    · have hlt := ih h
      omega

/-- **A value has no problem as an element exactly if it is one.** -/
theorem elementProblems_eq_nil_iff {v : Json} : elementProblems v = [] ↔ IsElement v := by
  induction hn : sizeOf v using Nat.strongRecOn generalizing v with
  | _ n ih =>
    rw [elementProblems_eq, eitherProblems_eq_nil_iff]
    cases v with
    | object members =>
      rw [problemsAsBlock, problemsAsLeaf, blockProblems_eq_nil_iff, leafProblems_eq_nil_iff]
      constructor
      · rintro (⟨name, children, hmembers, hchildren⟩ | ⟨kind, name, content, hmembers⟩)
        · refine .block hmembers fun x hx => ?_
          exact (ih _ (hn ▸ sizeOf_lt_of_member? hmembers.children hx) rfl).mp (hchildren x hx)
        · exact .leaf hmembers
      · intro h
        cases h with
        | @block _ name children hmembers hchildren =>
          refine Or.inl ⟨name, children, hmembers, fun x hx => ?_⟩
          exact (ih _ (hn ▸ sizeOf_lt_of_member? hmembers.children hx) rfl).mpr (hchildren x hx)
        | @leaf _ kind name content hmembers => exact Or.inr ⟨kind, name, content, hmembers⟩
    | _ =>
      refine iff_of_false ?_ (by rintro ⟨⟩)
      simp [problemsAsBlock, problemsAsLeaf]

/-! ## 5. Trees -/

/-- **A value has no problem as a tree exactly if it is one.** -/
theorem treeProblems_eq_nil_iff {v : Json} : treeProblems v = [] ↔ IsTree v := by
  cases v with
  | object members =>
    rw [treeProblems]
    simp only [List.append_eq_nil_iff, Keys.problems_eq_nil_iff]
    constructor
    · rintro ⟨⟨⟨hrequired, hkeys⟩, htype⟩, helements⟩
      obtain ⟨_, htype, hv⟩ := (required_member_iff hrequired (by decide)).mp htype
      obtain rfl := constantProblems_eq_nil_iff.mp hv
      obtain ⟨_, helements, hv⟩ := (required_member_iff hrequired (by decide)).mp helements
      obtain ⟨elements, rfl, hitems⟩ := arrayProblems_eq_nil_iff.mp hv
      exact .intro ⟨hkeys, htype, helements⟩ fun x hx => elementProblems_eq_nil_iff.mp (hitems x hx)
    · rintro (@⟨_, elements, h, hitems⟩)
      have hrequired : ∀ key ∈ rootKeys.required, (member? key members).isSome := by
        simp only [rootKeys, List.forall_mem_cons, h.type, h.elements]
        simp
      refine ⟨⟨⟨hrequired, h.keys⟩, ?_⟩, ?_⟩
      · exact (required_member_iff hrequired (by decide)).mpr
          ⟨_, h.type, constantProblems_eq_nil_iff.mpr rfl⟩
      · refine (required_member_iff hrequired (by decide)).mpr
          ⟨_, h.elements, arrayProblems_eq_nil_iff.mpr ⟨elements, rfl, fun x hx => ?_⟩⟩
        exact elementProblems_eq_nil_iff.mpr (hitems x hx)
  | _ =>
    refine iff_of_false ?_ (by rintro ⟨⟩)
    simp [treeProblems]

/-- **A value passes the check exactly if it is a tree.** -/
theorem checkTree_eq_ok_iff {v : Json} : checkTree v = .ok () ↔ IsTree v := by
  rw [← treeProblems_eq_nil_iff, checkTree]
  cases treeProblems v <;> simp [Problem.last?]

end Jenkinsfile.Tree
