/-
# Where problems lie

A problem is found in a part of a value and reported with the way there.  What is wrong with a part
is reported from the whole by one more step in front, and what is reported of an element is chosen
from what is wrong with it as a block and as a leaf, each with its own way.  Whatever is chosen in
the end, its way leads to the part that the violation is about:

* `Problem.Leads`: the way of a problem leads to a part of the value, the violation is one of that
  part, and the way has a certain shape;
* `leads_elementProblems`: so it is for elements at every depth, by induction on the value;
* `exists_at?_of_checkTree_eq_error`: and so it is for the one problem that is reported of a tree.
-/
import Jenkinsfile.Proofs.TreeGrammar

namespace Jenkinsfile

/-! ## 1. Ways into a value -/

namespace Json

/-- The part of a value that a step leads to: the value of a key that an object has, or the item at
a position that is in the range of an array. -/
def part? : Json → PathStep → Option Json
  | .object members, .key name => member? name members
  | .array items, .item position => items[position]?
  | _, _ => none

/-- The part of a value that a path leads to. -/
def at? : Json → Path → Option Json
  | v, [] => some v
  | v, step :: path => (v.part? step).bind fun w => w.at? path

@[simp] theorem at?_nil (v : Json) : v.at? [] = some v := rfl

theorem at?_cons {v w : Json} {step : PathStep} (h : v.part? step = some w) (path : Path) :
    v.at? (step :: path) = w.at? path := by
  rw [at?, h, Option.bind_some]

end Json

namespace Tree

/-- A way within an element: from child to child, and to one key at most of the last one. -/
inductive ElementPath : Path → Prop
  | element : ElementPath []
  | member {key : Text} (h : key ∈ blockKeys.allowed ∨ key ∈ leafKeys.allowed) :
      ElementPath [.key key]
  | child (position : Nat) {path : Path} (h : ElementPath path) :
      ElementPath (.key "children".toList :: .item position :: path)

/-- A way within an array of elements. -/
inductive ItemPath : Path → Prop
  | array : ItemPath []
  | element (position : Nat) {path : Path} (h : ElementPath path) :
      ItemPath (.item position :: path)

/-- A way within a tree. -/
inductive TreePath : Path → Prop
  | tree : TreePath []
  | type : TreePath [.key "type".toList]
  | elements {path : Path} (h : ItemPath path) : TreePath (.key "elements".toList :: path)

end Tree

/-! ## 2. Violations that are there -/

/-- A value is of a type. -/
def JsonType.Holds (v : Json) : JsonType → Prop
  | .object => ∃ members, v = .object members
  | .array => ∃ items, v = .array items
  | .string => ∃ t, v = .text t

/-- What a violation says is so for a value. -/
def Violation.AppliesTo (v : Json) : Violation → Prop
  | .wrongType value expected => v = value ∧ ¬ expected.Holds v
  | .missing key => ∃ members, v = .object members ∧ Json.member? key members = none
  | .unexpected keys => keys ≠ [] ∧ ∃ members, v = .object members ∧
      ∀ key ∈ keys, (Json.member? key members).isSome
  | .notConstant expected => v ≠ expected
  | .notAmong value allowed => v = value ∧ v ∉ allowed
  | .noElement value => v = value ∧ ¬ Tree.IsElement v

namespace Problem

/-- The way of a problem of a value has a certain shape, and it leads to a part of the value for
which the violation is so. -/
structure Leads (v : Json) (shape : Path → Prop) (p : Problem) : Prop where
  exists_at? : ∃ w, v.at? (p.place ++ p.detail) = some w ∧ p.cause.AppliesTo w
  shape : shape (p.place ++ p.detail)

variable {v w : Json} {p : Problem} {shape shape' : Path → Prop}

theorem leads_plain {violation : Violation} (h : violation.AppliesTo v) (hshape : shape []) :
    (plain violation).Leads v shape := ⟨⟨v, rfl, h⟩, hshape⟩

/-- A problem of a part leads there from the whole, by one more step. -/
theorem Leads.under (h : p.Leads w shape) {step : PathStep} (hw : v.part? step = some w)
    (hshape : ∀ path, shape path → shape' (step :: path)) : (p.under step).Leads v shape' := by
  obtain ⟨⟨u, hu, happlies⟩, hpath⟩ := h
  refine ⟨⟨u, ?_, happlies⟩, hshape _ hpath⟩
  show v.at? (step :: (p.place ++ p.detail)) = some u
  rw [Json.at?_cons hw, hu]

/-- The problem of an element leads where the one that was chosen as its cause does. -/
theorem leads_ofElement {context : List Problem} (h : ∀ q ∈ context, q.Leads v shape)
    (hv : ¬ Tree.IsElement v) (hshape : shape []) : (ofElement v context).Leads v shape := by
  have hown : (plain (.noElement v)).Leads v shape := leads_plain ⟨rfl, hv⟩ hshape
  have hcause : ∀ q ∈ context.mergeSort (fun p q => (p.compare q).isLE),
      Leads v shape { plain (.noElement v) with detail := q.place ++ q.detail, cause := q.cause } :=
    fun q hq => ⟨(h q (List.mem_mergeSort.mp hq)).exists_at?, (h q (List.mem_mergeSort.mp hq)).shape⟩
  unfold ofElement
  generalize context.mergeSort (fun p q => (p.compare q).isLE) = sorted at hcause
  match sorted with
  | [] => exact hown
  | [q] => exact hcause q (by simp)
  | q :: r :: _ =>
    dsimp only
    split
    · exact hown
    · exact hcause q (by simp)

/-- What is reported in the end is one of the problems. -/
theorem mem_of_last?_eq_some {problems : List Problem} (h : last? problems = some p) :
    p ∈ problems := by
  cases problems with
  | nil => exact absurd h (by simp [last?])
  | cons first problems =>
    obtain rfl := Option.some.inj h
    clear h
    induction problems generalizing first with
    | nil => simp
    | cons q problems ih =>
      rw [List.foldl_cons]
      split
      · exact List.mem_cons_of_mem _ (ih q)
      · rcases List.mem_cons.mp (ih first) with hfirst | hrest
        · rw [hfirst]
          exact List.mem_cons_self
        · exact List.mem_cons_of_mem _ (List.mem_cons_of_mem _ hrest)

end Problem

namespace Tree

open Json (member?)

/-! ## 3. Members -/

section Members

variable {members : List (Text × Json)} {v : Json} {p : Problem} {shape shape' : Path → Prop}

/-- A check that has nothing but one violation to report of a value reports it there, if the value
does not pass only where that violation is so. -/
theorem leads_of_eq_plain (violation : Violation) {check : Json → List Problem}
    (hplain : ∀ q ∈ check v, q = .plain violation) (happlies : check v ≠ [] → violation.AppliesTo v)
    (hp : p ∈ check v) : p.Leads v (· = []) := by
  rw [hplain p hp]
  exact Problem.leads_plain (happlies (List.ne_nil_of_mem hp)) rfl

theorem leads_stringProblems (hp : p ∈ stringProblems v) : p.Leads v (· = []) := by
  refine leads_of_eq_plain (.wrongType v .string) ?_ ?_ hp
  · cases v <;> simp [stringProblems]
  · intro h
    exact ⟨rfl, fun htext => h (stringProblems_eq_nil_iff.mpr htext)⟩

theorem leads_constantProblems {expected : Text} (hp : p ∈ constantProblems expected v) :
    p.Leads v (· = []) := by
  refine leads_of_eq_plain (.notConstant (.text expected)) ?_ ?_ hp
  · cases v <;> simp [constantProblems]
  · intro h hconstant
    exact h (constantProblems_eq_nil_iff.mpr hconstant)

theorem leads_flagProblems {expected : Bool} (hp : p ∈ flagProblems expected v) :
    p.Leads v (· = []) := by
  refine leads_of_eq_plain (.notConstant (.bool expected)) ?_ ?_ hp
  · cases v <;> simp [flagProblems]
  · intro h hflag
    exact h (flagProblems_eq_nil_iff.mpr hflag)

theorem leads_choiceProblems {allowed : List Text} (hp : p ∈ choiceProblems allowed v) :
    p.Leads v (· = []) := by
  refine leads_of_eq_plain (.notAmong v (allowed.map .text)) ?_ ?_ hp
  · cases v <;> simp [choiceProblems]
  · intro h
    refine ⟨rfl, fun hmem => h ?_⟩
    obtain ⟨t, ht, rfl⟩ := List.mem_map.mp hmem
    exact choiceProblems_eq_nil_iff.mpr ⟨t, ht, rfl⟩

/-- What is wrong with the keys of an object lies in the object itself. -/
theorem leads_keysProblems {keys : Keys} (hshape : shape []) (hp : p ∈ keys.problems members) :
    p.Leads (.object members) shape := by
  rw [Keys.problems, List.mem_append, List.mem_map] at hp
  rcases hp with ⟨key, hkey, rfl⟩ | hp
  · have hmissing : member? key members = none := by
      simpa using (List.mem_filter.mp hkey).2
    exact Problem.leads_plain ⟨members, rfl, hmissing⟩ hshape
  · have hextra : ∀ key ∈ keys.unexpected members, (member? key members).isSome := by
      intro key hkey
      rw [Keys.unexpected, List.mem_mergeSort] at hkey
      exact isSome_member?_iff.mpr (List.mem_filter.mp hkey).1
    cases hkeys : keys.unexpected members with
    | nil =>
      rw [hkeys] at hp
      exact absurd hp (by simp)
    | cons key extra =>
      rw [hkeys] at hp hextra
      obtain rfl := List.mem_singleton.mp hp
      exact Problem.leads_plain ⟨by simp, members, rfl, hextra⟩ hshape

/-- What is wrong with the value of a key lies behind that key. -/
theorem leads_memberProblems {key : Text} {check : Json → List Problem}
    (hcheck : ∀ w, member? key members = some w → ∀ q ∈ check w, q.Leads w shape)
    (hshape : ∀ path, shape path → shape' (.key key :: path))
    (hp : p ∈ memberProblems key check members) : p.Leads (.object members) shape' := by
  unfold memberProblems at hp
  split at hp
  · rename_i w hw
    obtain ⟨q, hq, rfl⟩ := List.mem_map.mp hp
    exact (hcheck w hw q hq).under hw hshape
  · exact absurd hp (by simp)

/-! ## 4. Elements -/

/-- What is wrong with the value of a key of an element, and lies in that value itself. -/
theorem leads_elementMember {key : Text} {check : Json → List Problem}
    (hkey : key ∈ blockKeys.allowed ∨ key ∈ leafKeys.allowed)
    (hcheck : ∀ w, ∀ q ∈ check w, q.Leads w (· = []))
    (hp : p ∈ memberProblems key check members) : p.Leads (.object members) ElementPath := by
  refine leads_memberProblems (fun w _ => hcheck w) ?_ hp
  rintro _ rfl
  exact .member hkey

theorem leads_blockProblems (hp : p ∈ blockProblems members) :
    p.Leads (.object members) ElementPath := by
  simp only [blockProblems, List.mem_append] at hp
  rcases hp with (((hp | hp) | hp) | hp) | hp
  · exact leads_keysProblems .element hp
  · exact leads_elementMember (by decide) (fun _ _ => leads_constantProblems) hp
  · exact leads_elementMember (by decide) (fun _ _ => leads_stringProblems) hp
  · exact leads_elementMember (by decide) (fun _ _ => leads_choiceProblems) hp
  · exact leads_elementMember (by decide) (fun _ _ => leads_flagProblems) hp

theorem leads_leafProblems (hp : p ∈ leafProblems members) :
    p.Leads (.object members) ElementPath := by
  simp only [leafProblems, List.mem_append] at hp
  rcases hp with (((hp | hp) | hp) | hp) | hp
  · exact leads_keysProblems .element hp
  · exact leads_elementMember (by decide) (fun _ _ => leads_choiceProblems) hp
  · exact leads_elementMember (by decide) (fun _ _ => leads_stringProblems) hp
  · exact leads_elementMember (by decide) (fun _ _ => leads_stringProblems) hp
  · exact leads_elementMember (by decide) (fun _ _ => leads_flagProblems) hp

/-- What is wrong with an item lies behind its position. -/
theorem leads_itemProblems (before : List Json) {items : List Json}
    (h : ∀ x ∈ items, ∀ q ∈ elementProblems x, q.Leads x ElementPath)
    (hp : p ∈ itemProblems before.length items) :
    p.Leads (.array (before ++ items)) ItemPath := by
  induction items generalizing before with
  | nil => exact absurd hp (by simp [itemProblems])
  | cons x items ih =>
    obtain ⟨hx, hitems⟩ := List.forall_mem_cons.mp h
    rw [itemProblems, List.mem_append] at hp
    rcases hp with hp | hp
    · obtain ⟨q, hq, rfl⟩ := List.mem_map.mp hp
      have hitem : (Json.array (before ++ x :: items)).part? (.item before.length) = some x := by
        simp [Json.part?]
      exact (hx q hq).under hitem fun path hpath => .element _ hpath
    · have hlength : before.length + 1 = (before ++ [x]).length := by simp
      rw [hlength] at hp
      have hrest := ih (before ++ [x]) hitems hp
      rwa [List.append_assoc, List.singleton_append] at hrest

theorem leads_arrayProblems
    (h : ∀ items, v = .array items → ∀ x ∈ items, ∀ q ∈ elementProblems x, q.Leads x ElementPath)
    (hp : p ∈ arrayProblems v) : p.Leads v ItemPath := by
  cases v with
  | array items => exact leads_itemProblems [] (h items rfl) hp
  | _ =>
    obtain rfl := List.mem_singleton.mp hp
    exact Problem.leads_plain ⟨rfl, by simp [JsonType.Holds]⟩ .array

/-- The way to a child goes on from there, and the way to the children as a whole ends there. -/
theorem elementPath_of_children (path : Path) (h : ItemPath path) :
    ElementPath (.key "children".toList :: path) := by
  cases h with
  | array => exact .member (Or.inl (by decide))
  | element position h => exact .child position h

/-- **Every problem of an element leads to a part of it**, at whatever depth. -/
theorem leads_elementProblems (hp : p ∈ elementProblems v) : p.Leads v ElementPath := by
  induction hn : sizeOf v using Nat.strongRecOn generalizing v p with
  | _ n ih =>
    have hv : ¬ IsElement v := by
      intro h
      rw [elementProblems_eq_nil_iff.mpr h] at hp
      exact absurd hp (by simp)
    rw [elementProblems_eq, eitherProblems] at hp
    split at hp
    · exact absurd hp (by simp)
    obtain rfl := List.mem_singleton.mp hp
    refine Problem.leads_ofElement (fun q hq => ?_) hv .element
    cases v with
    | object members =>
      simp only [problemsAsBlock, problemsAsLeaf, childrenProblems_eq, List.mem_append] at hq
      rcases hq with (hq | hq) | hq
      · exact leads_blockProblems hq
      · refine leads_memberProblems (fun w hw r hr => ?_) elementPath_of_children hq
        refine leads_arrayProblems (fun items hitems x hx r hr => ?_) hr
        rw [hitems] at hw
        exact ih _ (hn ▸ sizeOf_lt_of_member? hw hx) hr rfl
      · exact leads_leafProblems hq
    | _ =>
      simp only [problemsAsBlock, problemsAsLeaf, List.mem_append, List.mem_singleton,
        or_self] at hq
      rw [hq]
      exact Problem.leads_plain ⟨rfl, by simp [JsonType.Holds]⟩ .element

/-! ## 5. Trees -/

theorem leads_treeProblems (hp : p ∈ treeProblems v) : p.Leads v TreePath := by
  cases v with
  | object members =>
    simp only [treeProblems, List.mem_append] at hp
    rcases hp with (hp | hp) | hp
    · exact leads_keysProblems .tree hp
    · refine leads_memberProblems (fun w _ q hq => leads_constantProblems hq) ?_ hp
      rintro _ rfl
      exact .type
    · refine leads_memberProblems (fun w _ q hq => ?_) (fun path h => .elements h) hp
      exact leads_arrayProblems (fun _ _ x _ r hr => leads_elementProblems hr) hq
  | _ =>
    obtain rfl := List.mem_singleton.mp hp
    exact Problem.leads_plain ⟨rfl, by simp [JsonType.Holds]⟩ .tree

end Members

/-- **What is reported of a value that is no tree lies in it.**  The path leads from the value to a
part of it, by keys that are there and positions that are in range, and the violation is one of
that part.  The path is empty, or it goes to the type or to the elements, and from there from child
to child and to one key at most of the last one. -/
theorem exists_at?_of_checkTree_eq_error {v : Json} {e : SchemaError}
    (h : checkTree v = .error e) :
    (∃ w, v.at? e.path = some w ∧ e.violation.AppliesTo w) ∧ TreePath e.path := by
  unfold checkTree at h
  split at h
  · rename_i p hp
    obtain rfl := Except.error.inj h
    have hleads := leads_treeProblems (Problem.mem_of_last?_eq_some hp)
    exact ⟨hleads.exists_at?, hleads.shape⟩
  · exact absurd h (by simp)

theorem exists_checkTree_eq_error {v : Json} (h : ¬ IsTree v) : ∃ e, checkTree v = .error e := by
  cases hcheck : checkTree v with
  | ok => exact absurd (checkTree_eq_ok_iff.mp hcheck) h
  | error e => exact ⟨e, rfl⟩

/-- A value that is no object is reported where it stands: what is wrong with it as a block is
wrong with it as a leaf as well, and says no more. -/
theorem elementProblems_of_not_object {v : Json} (h : ¬ JsonType.object.Holds v) :
    elementProblems v = [.plain (.noElement v)] := by
  rw [elementProblems_eq]
  cases v with
  | object members => exact absurd ⟨members, rfl⟩ h
  | _ =>
    simp only [eitherProblems, problemsAsBlock, problemsAsLeaf, Problem.ofElement,
      List.singleton_append]
    rw [List.mergeSort_of_pairwise (by simp; rfl)]
    rfl

/-- The members of a tree with these elements. -/
def withElements (elements : Json) : List (Text × Json) :=
  [("type".toList, .text "Pipeline".toList), ("elements".toList, elements)]

/-- Whatever is wrong with it is wrong with its elements. -/
theorem treeProblems_withElements (elements : Json) :
    treeProblems (.object (withElements elements)) =
      (arrayProblems elements).map (Problem.under (.key "elements".toList)) := by
  have hkeys : rootKeys.problems (withElements elements) = [] := by
    rw [Keys.problems_eq_nil_iff]
    constructor
    · simp [rootKeys, withElements, Json.member?_cons]
    · simp [OnlyKeys, rootKeys, withElements]
  rw [treeProblems, hkeys]
  rfl

/-- A block with these children. -/
def stepsOf (children : List Json) : Json :=
  .object [("kind".toList, .text "block".toList), ("name".toList, .text "steps".toList),
    ("hasBraces".toList, .bool true), ("children".toList, .array children)]

theorem not_isElement_stepsOf {children : List Json} {v : Json} (hv : v ∈ children)
    (h : ¬ IsElement v) : ¬ IsElement (stepsOf children) := by
  intro hsteps
  cases hsteps with
  | block hblock hchildren =>
    obtain rfl := Json.array.inj (Option.some.inj hblock.children)
    exact h (hchildren v hv)
  | leaf hleaf =>
    have hkind : ElementKind.block.label = _ := Json.text.inj (Option.some.inj hleaf.kind)
    exact hleaf.ne_block (ElementKind.label_inj.mp hkind).symm

/-- A null in the place of an element is reported where it stands; and whatever is reported of a
null among the children of a block lies in the tree. -/
theorem exists_at?_of_null :
    (∃ v e, checkTree v = .error e ∧ e.path = [.key "elements".toList, .item 0] ∧
      (∃ w, v.at? e.path = some w ∧ e.violation.AppliesTo w) ∧ TreePath e.path) ∧
    ∃ e, checkTree (.object (withElements (.array [stepsOf [.null]]))) = .error e ∧
      (∃ w, (Json.object (withElements (.array [stepsOf [.null]]))).at? e.path = some w ∧
        e.violation.AppliesTo w) ∧ TreePath e.path := by
  have hobject : ¬ JsonType.object.Holds .null := by rintro ⟨_, ⟨⟩⟩
  have helement : ¬ IsElement .null := by rintro ⟨⟩
  constructor
  · have hnull : checkTree (.object (withElements (.array [.null])))
        = .error ⟨[.key "elements".toList, .item 0], .noElement .null⟩ := by
      rw [checkTree, treeProblems_withElements, arrayProblems, itemProblems,
        elementProblems_of_not_object hobject]
      rfl
    exact ⟨_, _, hnull, rfl, exists_at?_of_checkTree_eq_error hnull⟩
  · have hsteps : ¬ IsTree (.object (withElements (.array [stepsOf [.null]]))) := by
      rintro (@⟨_, elements, htree, helements⟩)
      obtain rfl := Json.array.inj (Option.some.inj htree.elements)
      exact not_isElement_stepsOf (List.mem_singleton_self _) helement
        (helements _ (List.mem_singleton_self _))
    obtain ⟨e, he⟩ := exists_checkTree_eq_error hsteps
    exact ⟨e, he, exists_at?_of_checkTree_eq_error he⟩

end Tree

end Jenkinsfile
