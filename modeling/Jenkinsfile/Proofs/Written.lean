/-
# What is written

A rendered pipeline has the same solid lines for every blank unit of indentation
(`solidLines_render`): the line of every leaf, the header line of every block, and a brace where it
closes.  When the tree is canonical, they are read as what the tree lists, and the quotes that
stand open at the end are those of its row (`Pipeline.Canonical.spells`).
-/
import Jenkinsfile.Proofs.CanonicalTree
import Jenkinsfile.Render

namespace Jenkinsfile

/-! ## 1. Writing siblings and blocks -/

namespace Element

variable {indent margin : Text}

/-- Siblings are written one after the other. -/
theorem renderChildren_append (as bs : List Element) :
    renderChildren indent margin (as ++ bs)
      = renderChildren indent margin as ++ renderChildren indent margin bs := by
  induction as with
  | nil => rw [List.nil_append, renderChildren, List.nil_append]
  | cons a as ih => rw [List.cons_append, renderChildren, ih, renderChildren, List.append_assoc]

theorem renderAt_of_block {e : Element} (h : e.kind = .block) :
    renderAt indent margin e = margin ++ (e.name ++ [' ', '\x7b', '\n'])
      ++ renderChildren indent margin e.children ++ (margin ++ ['\x7d', '\n']) := by
  obtain ⟨kind, name, content, role, children⟩ := e
  rw [renderAt, if_pos h]
  simp only [List.append_assoc]

theorem renderAt_leaf {kind : ElementKind} (h : kind ≠ .block) (line : Text) :
    renderAt indent margin (leaf kind line) = margin ++ line ++ ['\n'] := by
  rw [leaf, renderAt, if_neg h, renderChildren, List.append_nil]

theorem deeper_of_block {e : Element} (h : e.kind = .block) : deeper indent e = indent := by
  rw [deeper, if_neg (by rw [h]; decide)]

theorem renderAt_block (name : Text) (children : List Element) :
    renderAt indent margin (block name children) = margin ++ (name ++ [' ', '\x7b', '\n'])
      ++ renderChildren indent margin children ++ (margin ++ ['\x7d', '\n']) :=
  renderAt_of_block rfl

theorem deeper_block (name : Text) (children : List Element) :
    deeper indent (block name children) = indent :=
  deeper_of_block rfl

end Element

/-! ## 2. The solid lines of a rendered pipeline -/

namespace Element

mutual

/-- The solid lines that an element is written as. -/
def written : Element → List Text
  | ⟨kind, name, _, _, children⟩ =>
    if kind = .block then
      Text.solidLines (name ++ [' ', '\x7b']) ++ (writtenAll children ++ [['\x7d']])
    else Text.solidLines name ++ writtenAll children

/-- The solid lines that several elements are written as. -/
def writtenAll : List Element → List Text
  | [] => []
  | e :: es => written e ++ writtenAll es

end

theorem blank_deeper {indent : Text} (h : Text.Blank indent) (e : Element) :
    Text.Blank (deeper indent e) := by
  rw [deeper]
  split
  · exact Text.blank_append.mpr ⟨h, h⟩
  · exact h

theorem solidLines_margin {margin : Text} (h : Text.Blank margin) (line rest : Text) :
    Text.solidLines (margin ++ (line ++ '\n' :: rest))
      = Text.solidLines line ++ Text.solidLines rest := by
  rw [Text.solidLines_append_left h, Text.solidLines_append_break]

mutual

theorem solidLines_renderAt {indent margin : Text} (hindent : Text.Blank indent)
    (hmargin : Text.Blank margin) (rest : Text) : ∀ e : Element,
    Text.solidLines (renderAt indent margin e ++ rest) = written e ++ Text.solidLines rest
  | ⟨kind, name, content, role, children⟩ => by
    rw [renderAt, written]
    by_cases hkind : kind = .block
    · have hsplit : margin ++ name ++ [' ', '\x7b', '\n'] ++ renderChildren indent margin children
            ++ margin ++ ['\x7d', '\n'] ++ rest
          = margin ++ ((name ++ [' ', '\x7b']) ++ '\n' ::
            (renderChildren indent margin children ++ (margin ++ (['\x7d'] ++ '\n' :: rest)))) := by
        simp only [List.append_assoc, List.cons_append, List.nil_append]
      have hbrace : Text.solidLines ['\x7d'] = [['\x7d']] := by decide
      rw [if_pos hkind, if_pos hkind, hsplit, solidLines_margin hmargin,
        solidLines_renderChildren hindent hmargin _ children, solidLines_margin hmargin, hbrace,
        List.append_assoc, List.append_assoc]
    · have hsplit : margin ++ name ++ ['\n'] ++ renderChildren indent margin children ++ rest
          = margin ++ (name ++ '\n' :: (renderChildren indent margin children ++ rest)) := by
        simp only [List.append_assoc, List.cons_append, List.nil_append]
      rw [if_neg hkind, if_neg hkind, hsplit, solidLines_margin hmargin,
        solidLines_renderChildren hindent hmargin _ children, List.append_assoc]

theorem solidLines_renderChildren {indent margin : Text} (hindent : Text.Blank indent)
    (hmargin : Text.Blank margin) (rest : Text) : ∀ es : List Element,
    Text.solidLines (renderChildren indent margin es ++ rest)
      = writtenAll es ++ Text.solidLines rest
  | [] => rfl
  | e :: es => by
    have hdeeper : Text.Blank (margin ++ deeper indent e) :=
      Text.blank_append.mpr ⟨hmargin, blank_deeper hindent e⟩
    rw [renderChildren, writtenAll, List.append_assoc,
      solidLines_renderAt hindent hdeeper _ e, solidLines_renderChildren hindent hmargin rest es,
      List.append_assoc]

end

end Element

/-- **The solid lines of a rendered pipeline do not depend on the indentation.** -/
theorem solidLines_render (p : Pipeline) {indent : Text} (h : Text.Blank indent) :
    Text.solidLines (render p indent) = Element.writtenAll p.elements := by
  obtain ⟨es⟩ := p
  rw [render]
  induction es with
  | nil => rfl
  | cons e es ih =>
    rw [List.flatMap_cons, Element.solidLines_renderAt h Text.blank_nil _ e, ih, Element.writtenAll]

/-! ## 3. Reading canonical trees -/

/-- These lines, read under the quotes `m`, have these entries and leave the quotes `m'`. -/
structure Line.Spells (m : Option Text) (lines : List Text) (es : List Entry) (m' : Option Text) :
    Prop where
  entries : Line.entries m lines = es
  marker : Line.markerAfter m lines = m'

namespace Line.Spells

variable {m m' m'' : Option Text} {as bs : List Text} {es fs : List Entry}

theorem nil (m : Option Text) : Spells m [] [] m := ⟨rfl, rfl⟩

theorem append (ha : Spells m as es m') (hb : Spells m' bs fs m'') :
    Spells m (as ++ bs) (es ++ fs) m'' := by
  constructor
  · rw [entries_append, ha.entries, ha.marker, hb.entries]
  · rw [markerAfter_append, ha.marker, hb.marker]

theorem single {line : Text} {l : Line} {e : Entry} (hline : classify line m = l)
    (he : l.meaning? = some e) : Spells m [line] [e] l.marker := by
  constructor
  · rw [entries_cons, hline, he]
    rfl
  · rw [markerAfter_cons, hline]
    rfl

end Line.Spells

/-- A line in a place where it may stand is read as what it is. -/
theorem Stands.spells_leaf {m m' : Option Text} {e : Element} (h : Stands m e m')
    (hkind : e.kind ≠ .block) : Line.Spells m [e.name] [.leaf e.kind e.name] m' := by
  have hmeaning : (⟨e.kind.lineKind, e.name, m'⟩ : Line).meaning? = some (.leaf e.kind e.name) := by
    cases hk : e.kind with
    | block => exact absurd hk hkind
    | _ => rfl
  exact .single (h.classify_eq hkind) hmeaning

namespace Element

theorem written_of_block {e : Element} (h : e.kind = .block) :
    e.written =
      Text.solidLines (e.name ++ [' ', '\x7b']) ++ (writtenAll e.children ++ [['\x7d']]) := by
  obtain ⟨kind, name, content, role, children⟩ := e
  rw [written, if_pos h]

theorem written_of_ne_block {e : Element} (h : e.kind ≠ .block) :
    e.written = Text.solidLines e.name ++ writtenAll e.children := by
  obtain ⟨kind, name, content, role, children⟩ := e
  rw [written, if_neg h]

/-- A header of one line is written as its header line. -/
theorem solidLines_header {name : Text} (h : '\n' ∉ name) :
    Text.solidLines (name ++ [' ', '\x7b']) = [Line.headerLine name] := by
  have hbreak : '\n' ∉ name ++ [' ', '\x7b'] := by simp [h]
  have hne : Line.headerLine name ≠ [] := by
    rw [Line.headerLine, Ne, Text.trim_eq_nil_iff, Text.blank_append, not_and]
    intro _
    decide
  rw [Text.solidLines_of_notMem hbreak, ← Line.headerLine]
  exact List.filter_cons_of_pos (by simpa using hne)

theorem solidLines_leaf {name : Text} (h : '\n' ∉ name) (hne : name ≠ [])
    (htrim : Text.trim name = name) : Text.solidLines name = [name] := by
  rw [Text.solidLines_of_notMem h, htrim]
  exact List.filter_cons_of_pos (by simpa using hne)

/-- Where each element of a row is read as what it is, so is the row. -/
theorem spells_writtenAll {es : List Element}
    (hes : ∀ e ∈ es, ∀ m m', Stands m e m' → Line.Spells m e.written e.listing m') :
    ∀ {m m' : Option Text}, Row m es m' → Line.Spells m (writtenAll es) (listingAll es) m' := by
  induction es with
  | nil =>
    intro m m' hrow
    cases hrow
    exact .nil _
  | cons e es ih =>
    intro m m' hrow
    cases hrow with
    | cons he hrow =>
      obtain ⟨hfirst, hes⟩ := List.forall_mem_cons.mp hes
      exact (hfirst _ _ he).append (ih hes hrow)

/-- **A canonical element is written as it is read.** -/
theorem Canonical.spells {e : Element} (h : e.Canonical) :
    ∀ m m', Stands m e m' → Line.Spells m e.written e.listing m' := by
  induction h with
  | @block e hkind _ _ hname hline _ hrow ih =>
    intro m m' hstands
    have hopens : Line.Spells none [Line.headerLine e.name] [.opens e.name] none :=
      .single hline rfl
    have hcloses : Line.Spells none [['\x7d']] [.closes] none := ⟨by decide, by decide⟩
    have hall := hopens.append ((spells_writtenAll ih hrow).append hcloses)
    rw [written_of_block hkind, listing_of_block hkind, solidLines_header hname]
    cases hstands with
    | block => exact hall
    | _ => simp_all
  | @leaf e hkind _ _ hchildren hname hne htrim =>
    intro m m' hstands
    rw [written_of_ne_block hkind, listing_of_ne_block hkind, hchildren,
      solidLines_leaf hname hne htrim, writtenAll, List.append_nil]
    exact hstands.spells_leaf hkind

end Element

/-- **A canonical pipeline is written as it is read.** -/
theorem Pipeline.Canonical.spells {p : Pipeline} (h : p.Canonical) {m : Option Text}
    (hrow : Row none p.elements m) :
    Line.Spells none (Element.writtenAll p.elements) p.listing m :=
  Element.spells_writtenAll (fun e he => (h.elements e he).spells) hrow

/-- The tokens of a canonical pipeline that was written say what the pipeline lists. -/
theorem Pipeline.Canonical.filterMap_meaning?_render {p : Pipeline} (h : p.Canonical)
    {indent : Text} (hindent : Text.Blank indent) :
    (tokenize (render p indent)).filterMap Token.meaning? = p.listing := by
  obtain ⟨m, hrow⟩ := h.row
  rw [filterMap_meaning?_tokenize, solidLines_render p hindent, (h.spells hrow).entries]

end Jenkinsfile
