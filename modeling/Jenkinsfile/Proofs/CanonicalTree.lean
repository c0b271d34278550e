/-
# Canonical trees

Siblings are read from left to right under the quotes of the script that stands open, if one does.
`Stands` says which element may stand under which quotes, and which quotes stand open after it;
`Row` says the same of siblings in a row.  A leaf may stand where its line is read as what it is
(`Stands.classify_eq`, `stands_of_classify_eq`).  So a script is a run of siblings that an opening
begins, that may be opened anew inside, and that a closing ends; and blocks and statements stand
outside of such runs.

A tree is canonical (`Element.Canonical`, `Pipeline.Canonical`) if it is made of headers and lines
that are read as what they are, in rows that can be read, and no block ends inside of a script.
Only the document may: `Row.eq_none_iff` says when it does.
-/
import Jenkinsfile.Proofs.Building

namespace Jenkinsfile

/-! ## 1. Rows of siblings -/

/-- An element that may stand under the quotes `m`, and the quotes that stand open after it. -/
inductive Stands : Option Text → Element → Option Text → Prop
  | block {e : Element} (hkind : e.kind = .block) : Stands none e none
  | statement {e : Element} (hkind : e.kind = .statement)
      (hline : (Line.classify e.name none).kind = .statement) : Stands none e none
  | scriptOpen {e : Element} (m : Option Text) (hkind : e.kind = .scriptOpen)
      (hline : (Line.classify e.name m).kind = .scriptOpen) :
      Stands m e (Line.classify e.name m).marker
  | scriptLine {e : Element} {m : Text} (hkind : e.kind = .scriptLine)
      (hline : (Line.classify e.name (some m)).kind = .scriptLine) : Stands (some m) e (some m)
  | scriptClose {e : Element} {m : Text} (hkind : e.kind = .scriptClose)
      (hline : (Line.classify e.name (some m)).kind = .scriptClose) : Stands (some m) e none

/-- Siblings that may stand in a row under the quotes `m`, and the quotes that stand open after
them. -/
inductive Row : Option Text → List Element → Option Text → Prop
  | nil (m : Option Text) : Row m [] m
  | cons {m m' m'' : Option Text} {e : Element} {es : List Element} (he : Stands m e m')
      (hes : Row m' es m'') : Row m (e :: es) m''

/-- The kind of the line that an element of a kind is written as. -/
def ElementKind.lineKind : ElementKind → LineKind
  | .block => .blockOpen
  | .scriptOpen => .scriptOpen
  | .scriptClose => .scriptClose
  | .scriptLine => .scriptLine
  | .statement => .statement

/-- The line of a leaf is read as what the leaf is. -/
theorem Stands.classify_eq {m m' : Option Text} {e : Element} (h : Stands m e m')
    (hkind : e.kind ≠ .block) : Line.classify e.name m = ⟨e.kind.lineKind, e.name, m'⟩ := by
  have hreads := Line.reads_classify e.name m
  cases h with
  | block hblock => exact absurd hblock hkind
  | statement hstatement hline =>
    generalize Line.classify e.name none = l at hline hreads
    cases hreads with
    | statement => rw [hstatement]; rfl
    | _ => exact absurd hline (by simp)
  | scriptOpen _ hopen hline =>
    generalize Line.classify e.name m = l at hline hreads
    cases hreads with
    | scriptOpen => rw [hopen]; rfl
    | _ => exact absurd hline (by simp)
  | @scriptLine _ marker hinside hline =>
    generalize Line.classify e.name (some marker) = l at hline hreads
    cases hreads with
    | scriptLine => rw [hinside]; rfl
    | _ => exact absurd hline (by simp)
  | @scriptClose _ marker hclose hline =>
    generalize Line.classify e.name (some marker) = l at hline hreads
    cases hreads with
    | scriptClose => rw [hclose]; rfl
    | _ => exact absurd hline (by simp)

/-- A leaf whose line is read as what it is may stand there. -/
theorem stands_of_classify_eq {m m' : Option Text} {e : Element} (hkind : e.kind ≠ .block)
    (h : Line.classify e.name m = ⟨e.kind.lineKind, e.name, m'⟩) : Stands m e m' := by
  have hline : (Line.classify e.name m).kind = e.kind.lineKind := by rw [h]
  have hmarker : (Line.classify e.name m).marker = m' := by rw [h]
  have hreads := Line.reads_classify e.name m
  rw [h] at hreads
  cases hk : e.kind with
  | block => exact absurd hk hkind
  | scriptOpen =>
    rw [hk] at hline
    rw [← hmarker]
    exact .scriptOpen m hk hline
  | statement =>
    rw [hk] at hline hreads
    cases hreads with
    | statement => exact .statement hk hline
  | scriptLine =>
    rw [hk] at hline hreads
    cases hreads with
    | scriptLine => exact .scriptLine hk hline
  | scriptClose =>
    rw [hk] at hline hreads
    cases hreads with
    | scriptClose => exact .scriptClose hk hline

theorem Stands.unique {m m₁ m₂ : Option Text} {e : Element} (h₁ : Stands m e m₁)
    (h₂ : Stands m e m₂) : m₁ = m₂ := by
  cases h₁ <;> cases h₂ <;> simp_all

namespace Row

variable {m m' m'' : Option Text} {e : Element} {as bs : List Element}

theorem append (ha : Row m as m') (hb : Row m' bs m'') : Row m (as ++ bs) m'' := by
  induction ha with
  | nil => exact hb
  | cons he _ ih => exact .cons he (ih hb)

theorem exists_of_append (h : Row m (as ++ bs) m'') : ∃ m', Row m as m' ∧ Row m' bs m'' := by
  induction as generalizing m with
  | nil => exact ⟨m, .nil m, h⟩
  | cons a as ih =>
    cases h with
    | cons he hes =>
      obtain ⟨k, ha, hb⟩ := ih hes
      exact ⟨k, .cons he ha, hb⟩

theorem concat (has : Row m as m') (he : Stands m' e m'') : Row m (as ++ [e]) m'' :=
  has.append (.cons he (.nil m''))

/-- The quotes after a row follow from those before it. -/
theorem unique (h₁ : Row m as m') (h₂ : Row m as m'') : m' = m'' := by
  induction h₁ with
  | nil => cases h₂; rfl
  | cons he _ ih =>
    cases h₂ with
    | cons he' hes' =>
      rw [he.unique he'] at ih
      exact ih hes'

end Row

/-! ## 2. Scripts that stay open -/

/-- There is an opening that no closing follows. -/
def EndsInScript (es : List Element) : Prop :=
  ∃ a e b, es = a ++ e :: b ∧ e.kind = .scriptOpen ∧ ∀ c ∈ b, c.kind ≠ .scriptClose

theorem not_endsInScript_nil : ¬ EndsInScript [] := by
  rintro ⟨a, e, b, h, -⟩
  simp at h

theorem endsInScript_concat {es : List Element} {e : Element} :
    EndsInScript (es ++ [e]) ↔
      e.kind = .scriptOpen ∨ (EndsInScript es ∧ e.kind ≠ .scriptClose) := by
  constructor
  · rintro ⟨a, o, b, h, ho, hb⟩
    rcases List.eq_nil_or_concat' b with rfl | ⟨b, c, rfl⟩
    · obtain ⟨-, hlast⟩ := List.append_inj' h rfl
      rw [List.cons.inj hlast |>.1]
      exact Or.inl ho
    · rw [← List.cons_append, ← List.append_assoc] at h
      obtain ⟨hes, hlast⟩ := List.append_inj' h rfl
      rw [List.cons.inj hlast |>.1]
      exact Or.inr ⟨⟨a, o, b, hes, ho, fun d hd => hb d (by simp [hd])⟩, hb c (by simp)⟩
  · rintro (ho | ⟨⟨a, o, b, rfl, ho, hb⟩, hc⟩)
    · exact ⟨es, e, [], rfl, ho, by simp⟩
    · refine ⟨a, o, b ++ [e], by simp, ho, fun d hd => ?_⟩
      rcases List.mem_append.mp hd with hd | hd
      · exact hb d hd
      · rw [List.mem_singleton.mp hd]
        exact hc

/-- The last line that begins or ends a script begins one. -/
theorem endsInScript_iff_find? {es : List Element} :
    EndsInScript es ↔
      ∃ e ∈ es.reverse.find? (fun e => e.kind = .scriptOpen ∨ e.kind = .scriptClose),
        e.kind = .scriptOpen := by
  induction es using List.reverseRecOn with
  | nil => simp [not_endsInScript_nil]
  | append_singleton es e ih =>
    rw [endsInScript_concat, ih, List.reverse_concat, List.find?_cons]
    cases hkind : e.kind <;> simp [hkind]

instance (es : List Element) : Decidable (EndsInScript es) :=
  decidable_of_iff _ endsInScript_iff_find?.symm

/-- **A row that begins outside of scripts ends outside of them exactly if every opening in it is
followed by a closing.** -/
theorem Row.eq_none_iff {es : List Element} {m : Option Text} (h : Row none es m) :
    m = none ↔ ¬ EndsInScript es := by
  induction es using List.reverseRecOn generalizing m with
  | nil =>
    cases h
    simp [not_endsInScript_nil]
  | append_singleton es e ih =>
    obtain ⟨k, hes, he⟩ := h.exists_of_append
    rw [endsInScript_concat, not_or, not_and_not_right]
    have hk := ih hes
    cases he with
    | cons he hnil =>
      cases hnil
      cases he with
      | block hkind => simp [hkind, ← hk]
      | statement hkind => simp [hkind, ← hk]
      | scriptOpen m hkind hline =>
        obtain ⟨s, -, hmarker⟩ := Line.exists_start_of_scriptOpen hline
        simp [hkind, hmarker]
      | scriptLine hkind => simp_all
      | scriptClose hkind => simp [hkind]

/-! ## 3. Canonical trees -/

/-- An element that is read as what it is. -/
inductive Element.Canonical : Element → Prop
  | block {e : Element} (hkind : e.kind = .block) (hcontent : e.content = [])
      (hrole : e.role = Role.ofHeader e.name) (hname : '\n' ∉ e.name)
      (hline : Line.classify (Line.headerLine e.name) none = ⟨.blockOpen, e.name, none⟩)
      (hchildren : ∀ c ∈ e.children, c.Canonical) (hrow : Row none e.children none) : Canonical e
  | leaf {e : Element} (hkind : e.kind ≠ .block) (hcontent : e.content = e.name)
      (hrole : e.role = []) (hchildren : e.children = []) (hname : '\n' ∉ e.name)
      (hne : e.name ≠ []) (htrim : Text.trim e.name = e.name) : Canonical e

/-- A pipeline that is read as what it is. -/
structure Pipeline.Canonical (p : Pipeline) : Prop where
  elements : ∀ e ∈ p.elements, e.Canonical
  row : ∃ m, Row none p.elements m

namespace Element.Canonical

variable {e : Element}

theorem notMem_name (h : e.Canonical) : '\n' ∉ e.name := by
  cases h with
  | block _ _ _ hname => exact hname
  | leaf _ _ _ _ hname => exact hname

/-- A canonical element is given by its kind and its line, or its header and its children. -/
theorem plain (h : e.Canonical) : e.Plain := by
  induction h with
  | @block e hkind hcontent hrole _ _ _ _ ih =>
    have heq : e = .block e.name e.children := by
      obtain ⟨kind, name, content, role, children⟩ := e
      simp_all [Element.block]
    rw [heq]
    exact .block e.name ih
  | @leaf e hkind hcontent hrole hchildren _ _ _ =>
    have heq : e = .leaf e.kind e.name := by
      obtain ⟨kind, name, content, role, children⟩ := e
      simp_all [Element.leaf]
    rw [heq]
    exact .leaf hkind e.name

/-- Only blocks have a role. -/
theorem kind_of_role_ne_nil (h : e.Canonical) (hrole : e.role ≠ []) : e.kind = .block := by
  cases h with
  | block hkind => exact hkind
  | leaf _ _ hrole' => exact absurd hrole' hrole

end Element.Canonical

end Jenkinsfile
