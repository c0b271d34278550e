/-
# Where the stages stand

A pipeline with a stages block is split at it (`StagesPlace`): the elements around the pipeline
block, the children of the pipeline block around the stages block, and the two blocks themselves.
The blocks are told by their roles, and by nothing but being the first with them
(`StagesPlace.First`).  To change the stages is to fill the same place anew (`exists_place`), and
everything around it stays as it is.

A block stands where any other block may stand.  So a canonical pipeline with other stages is
canonical again exactly if the stages are canonical elements in a row that begins and ends outside
of scripts (`StagesPlace.canonical_fill_iff`).
-/
import Jenkinsfile.Proofs.CanonicalTree
import Jenkinsfile.Stages.Insert

namespace Jenkinsfile

/-! ## 1. The first of several items -/

section Items

variable {α : Type} {q : α → Bool} {before after : List α} {a : α}

/-- What is found first is the first item that is looked for. -/
theorem find?_append_cons (hbefore : ∀ b ∈ before, q b = false) (ha : q a = true) :
    (before ++ a :: after).find? q = some a := by
  rw [List.find?_eq_some_iff_append]
  refine ⟨ha, before, after, rfl, ?_⟩
  intro b hb
  simp [hbefore b hb]

theorem filter_append_cons (hbefore : ∀ b ∈ before, q b = false) (ha : q a = true) :
    (before ++ a :: after).filter q = a :: after.filter q := by
  have hnil : before.filter q = [] := by
    rw [List.filter_eq_nil_iff]
    intro b hb
    simp [hbefore b hb]
  rw [List.filter_append, hnil, List.filter_cons_of_pos ha, List.nil_append]

/-- What is modified is that item, and nothing else. -/
theorem modifyFirst_append_cons (hbefore : ∀ b ∈ before, q b = false) (ha : q a = true)
    (f : α → α) : modifyFirst q f (before ++ a :: after) = before ++ f a :: after := by
  induction before with
  | nil => simp [modifyFirst, ha]
  | cons b before ih =>
    obtain ⟨hb, hbefore⟩ := List.forall_mem_cons.mp hbefore
    simp [modifyFirst, hb, ih hbefore]

end Items

/-- What was modified is found again, if it is still what is looked for. -/
theorem find?_modifyFirst {α : Type} {p : α → Bool} {f : α → α}
    (h : ∀ a, p a = true → p (f a) = true) (as : List α) :
    (modifyFirst p f as).find? p = (as.find? p).map f := by
  induction as with
  | nil => rfl
  | cons a as ih =>
    rw [modifyFirst, List.find?_cons]
    cases ha : p a with
    | true => rw [if_pos rfl, List.find?_cons, h a ha]; rfl
    | false => rw [if_neg (by simp), List.find?_cons, ha]; exact ih

/-! ## 2. The place -/

/-- The element with other children. -/
def Element.withChildren (e : Element) (es : List Element) : Element := { e with children := es }

@[simp] theorem Element.withChildren_children (e : Element) : e.withChildren e.children = e := by
  cases e
  rfl

@[simp] theorem Element.children_withChildren (e : Element) (es : List Element) :
    (e.withChildren es).children = es := rfl

/-- A pipeline, split at its stages block. -/
structure StagesPlace where
  before : List Element
  root : Element
  above : List Element
  container : Element
  below : List Element
  after : List Element
  root_role : root.role = Role.pipeline
  container_role : container.role = Role.stages

/-- The pipeline with these stages in the place. -/
def StagesPlace.fill (place : StagesPlace) (es : List Element) : Pipeline :=
  ⟨place.before ++ place.root.withChildren
    (place.above ++ place.container.withChildren es :: place.below) :: place.after⟩

/-- No element before the pipeline block of the place has its role, and no child of that block
before the stages block has the role of stages. -/
structure StagesPlace.First (place : StagesPlace) : Prop where
  before : ∀ e ∈ place.before, e.role ≠ Role.pipeline
  above : ∀ e ∈ place.above, e.role ≠ Role.stages

namespace StagesPlace

variable {place : StagesPlace} {es : List Element}

/-- What stands in the first place are the stages. -/
theorem First.stagesBlock?_fill (h : place.First) (es : List Element) :
    (place.fill es).stagesBlock? = some (place.container.withChildren es) := by
  unfold Pipeline.stagesBlock? Pipeline.find? fill
  rw [find?_append_cons (a := place.root.withChildren _), Option.bind_some, Element.findChild?,
    Element.children_withChildren]
  · refine find?_append_cons ?_ (decide_eq_true place.container_role)
    intro e he
    simpa using h.above e he
  · intro e he
    simpa using h.before e he
  · exact decide_eq_true place.root_role

/-- To modify the stages is to fill the first place anew. -/
theorem First.modifyStages_fill (h : place.First) (f : List Element → List Element) :
    (place.fill es).modifyStages f = place.fill (f es) := by
  have hinner : modifyFirst (·.role = Role.stages)
      (fun container : Element => container.withChildren (f container.children))
      (place.above ++ place.container.withChildren es :: place.below)
      = place.above ++ place.container.withChildren (f es) :: place.below := by
    refine modifyFirst_append_cons ?_ ?_ _
    · intro e he
      simpa using h.above e he
    · exact decide_eq_true place.container_role
  have houter : modifyFirst (·.role = Role.pipeline)
      (fun root : Element => root.withChildren (modifyFirst (·.role = Role.stages)
        (fun container : Element => container.withChildren (f container.children)) root.children))
      (place.fill es).elements = (place.fill (f es)).elements := by
    unfold fill
    dsimp only
    rw [modifyFirst_append_cons, Element.children_withChildren, hinner]
    · rfl
    · intro e he
      simpa using h.before e he
    · exact decide_eq_true place.root_role
  exact congrArg Pipeline.mk houter

end StagesPlace

/-- A pipeline with a stages block has a first place for its stages. -/
theorem Pipeline.exists_first {p : Pipeline} {container : Element}
    (h : p.stagesBlock? = some container) :
    ∃ place : StagesPlace, place.First ∧ place.container = container ∧
      place.fill container.children = p := by
  obtain ⟨root, hroot, hcontainer⟩ := Option.bind_eq_some_iff.mp h
  obtain ⟨hrole, before, after, helements, hbefore⟩ := List.find?_eq_some_iff_append.mp hroot
  obtain ⟨hrole', above, below, hchildren, habove⟩ :=
    List.find?_eq_some_iff_append.mp hcontainer
  refine ⟨⟨before, root, above, container, below, after, by simpa using hrole,
    by simpa using hrole'⟩, ⟨?_, ?_⟩, rfl, ?_⟩
  · intro e he
    simpa using hbefore e he
  · intro e he
    simpa using habove e he
  · rw [StagesPlace.fill, Element.withChildren_children, ← hchildren, Element.withChildren_children,
      ← helements]

/-- **A pipeline with a stages block has a place for its stages.**  It holds the stages there are,
and to modify the stages is to fill it anew. -/
theorem Pipeline.exists_place {p : Pipeline} {container : Element}
    (h : p.stagesBlock? = some container) :
    ∃ place : StagesPlace, place.container = container ∧ place.fill container.children = p ∧
      ∀ f, p.modifyStages f = place.fill (f container.children) := by
  obtain ⟨place, hfirst, hcontainer, rfl⟩ := p.exists_first h
  exact ⟨place, hcontainer, rfl, hfirst.modifyStages_fill⟩

/-- The stages block of a pipeline with other stages is the same block with them. -/
theorem Pipeline.stagesBlock?_modifyStages (p : Pipeline) (f : List Element → List Element) :
    (p.modifyStages f).stagesBlock? = p.stagesBlock?.map fun e => e.withChildren (f e.children) := by
  rw [stagesBlock?, stagesBlock?, find?, find?, modifyStages, find?_modifyFirst]
  · cases p.elements.find? (·.role = Role.pipeline) with
    | none => rfl
    | some root =>
      refine find?_modifyFirst ?_ root.children
      intro container h
      exact h
  · intro root h
    exact h

/-! ## 3. Blocks among siblings -/

section Siblings

variable {m m' : Option Text} {e : Element} {as bs old new : List Element}

theorem stands_iff_of_block (hkind : e.kind = .block) : Stands m e m' ↔ m = none ∧ m' = none := by
  constructor
  · intro h
    cases h with
    | block => exact ⟨rfl, rfl⟩
    | statement hkind' => exact ⟨rfl, rfl⟩
    | scriptOpen _ hkind' => simp [hkind] at hkind'
    | scriptLine hkind' => simp [hkind] at hkind'
    | scriptClose hkind' => simp [hkind] at hkind'
  · rintro ⟨rfl, rfl⟩
    exact .block hkind

/-- Before and after a block no script is open. -/
theorem Row.append_block_iff (hkind : e.kind = .block) :
    Row m (as ++ e :: bs) m' ↔ Row m as none ∧ Row none bs m' := by
  constructor
  · intro h
    obtain ⟨k, has, hrest⟩ := h.exists_of_append
    cases hrest with
    | cons he hbs =>
      obtain ⟨rfl, rfl⟩ := (stands_iff_of_block hkind).mp he
      exact ⟨has, hbs⟩
  · rintro ⟨has, hbs⟩
    exact has.append (.cons (.block hkind) hbs)

/-- What the children of a block are does not matter to its siblings. -/
theorem Row.exchange_children (hkind : e.kind = .block)
    (h : Row m (as ++ e.withChildren old :: bs) m') :
    Row m (as ++ e.withChildren new :: bs) m' := by
  have hold : (e.withChildren old).kind = .block := hkind
  have hnew : (e.withChildren new).kind = .block := hkind
  exact (append_block_iff hnew).mpr ((append_block_iff hold).mp h)

/-- A canonical block with other children is canonical exactly if they can be read. -/
theorem Element.Canonical.withChildren_iff (hkind : e.kind = .block)
    (h : (e.withChildren old).Canonical) :
    (e.withChildren new).Canonical ↔ (∀ c ∈ new, c.Canonical) ∧ Row none new none := by
  constructor
  · intro h'
    cases h' with
    | block _ _ _ _ _ hchildren hrow => exact ⟨hchildren, hrow⟩
    | leaf hkind' => exact absurd hkind hkind'
  · rintro ⟨hnew, hrow⟩
    cases h with
    | block _ hcontent hrole hname hline => exact .block hkind hcontent hrole hname hline hnew hrow
    | leaf hkind' => exact absurd hkind hkind'

/-- So are its siblings with it. -/
theorem siblings_withChildren_iff (hrole : e.role ≠ [])
    (h : ∀ c ∈ as ++ e.withChildren old :: bs, c.Canonical)
    (hrow : Row m (as ++ e.withChildren old :: bs) m') :
    (∀ c ∈ as ++ e.withChildren new :: bs, c.Canonical) ∧ Row m (as ++ e.withChildren new :: bs) m'
      ↔ (∀ c ∈ new, c.Canonical) ∧ Row none new none := by
  rw [List.forall_mem_append, List.forall_mem_cons] at h
  obtain ⟨has, he, hbs⟩ := h
  have hkind : e.kind = .block := he.kind_of_role_ne_nil hrole
  rw [List.forall_mem_append, List.forall_mem_cons, ← he.withChildren_iff hkind]
  constructor
  · rintro ⟨⟨-, he', -⟩, -⟩
    exact he'
  · intro he'
    exact ⟨⟨has, he', hbs⟩, hrow.exchange_children hkind⟩

end Siblings

/-! ## 4. Other stages -/

namespace StagesPlace

variable {place : StagesPlace} {old new : List Element}

/-- **A canonical pipeline with other stages is canonical exactly if the stages can be read.** -/
theorem canonical_fill_iff (h : (place.fill old).Canonical) :
    (place.fill new).Canonical ↔ (∀ e ∈ new, e.Canonical) ∧ Row none new none := by
  obtain ⟨m, hrow⟩ := h.row
  have hroot : place.root.role ≠ [] := by rw [place.root_role]; decide
  have hcontainer : place.container.role ≠ [] := by rw [place.container_role]; decide
  have hold := (siblings_withChildren_iff hroot h.elements hrow).mp ⟨h.elements, hrow⟩
  have hdocument : (place.fill new).Canonical ↔
      (∀ e ∈ (place.fill new).elements, e.Canonical) ∧ Row none (place.fill new).elements m := by
    constructor
    · intro h'
      have hmem := h.elements _ (List.mem_append_right place.before List.mem_cons_self)
      exact ⟨h'.elements, hrow.exchange_children (hmem.kind_of_role_ne_nil hroot)⟩
    · rintro ⟨helements, hrow'⟩
      exact ⟨helements, m, hrow'⟩
  rw [hdocument, fill, siblings_withChildren_iff hroot h.elements hrow,
    siblings_withChildren_iff hcontainer hold.1 hold.2]

end StagesPlace

end Jenkinsfile
