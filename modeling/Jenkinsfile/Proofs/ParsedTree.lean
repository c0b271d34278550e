/-
# Every tree that is read is canonical

While a document is read, the builder and the quotes fit together (`Builder.Fits`): the document
and every open block hold canonical elements in rows that can be read, the row of the innermost
open block ends under the quotes that stand open, and every row further out ends outside of
scripts.  Every line keeps it so (`Fits.step`), and the end of the document finds a canonical tree
(`canonical_parse`).  The script that is open in the builder has the quotes that stand open
(`marker_foldl_ofLines`), so that a document that is read strictly does not end in a script
(`not_endsInScript_of_parseStrict`).
-/
import Jenkinsfile.Proofs.CanonicalTree

namespace Jenkinsfile

/-! ## 1. Open blocks -/

/-- A block that may be closed as soon as its row ends outside of scripts. -/
structure Frame.Canonical (f : Frame) : Prop where
  notMem_header : '\n' ∉ f.header
  line : Line.classify (Line.headerLine f.header) none = ⟨.blockOpen, f.header, none⟩
  children : ∀ c ∈ f.children, c.Canonical

/-- The rows of the open blocks, from the innermost out, and of the document: the innermost row
ends under the quotes `m`, and the others outside of scripts. -/
def Rows (m : Option Text) : List Frame → List Element → Prop
  | [], es => Row none es m
  | f :: frames, es => Row none f.children m ∧ Rows none frames es

theorem Frame.Canonical.close {f : Frame} (h : f.Canonical) (hrow : Row none f.children none) :
    f.close.Canonical :=
  .block rfl rfl rfl h.notMem_header h.line h.children hrow

theorem Rows.exists_row {m : Option Text} {frames : List Frame} {es : List Element}
    (h : Rows m frames es) : ∃ m', Row none es m' := by
  induction frames generalizing m with
  | nil => exact ⟨m, h⟩
  | cons f frames ih => exact ih h.2

namespace Builder

/-- A builder with canonical elements in rows that can be read, under the quotes `m`. -/
structure Fits (m : Option Text) (b : Builder) : Prop where
  elements : ∀ e ∈ b.elements, e.Canonical
  frames : ∀ f ∈ b.frames, f.Canonical
  rows : Rows m b.frames b.elements

namespace Fits

variable {m m' : Option Text} {b : Builder} {e : Element}

theorem empty : Fits none Builder.empty where
  elements := by simp [Builder.empty]
  frames := by simp [Builder.empty]
  rows := Row.nil none

theorem setScript (h : Fits m b) (s : Option OpenScript) : Fits m (b.setScript s) :=
  ⟨h.elements, h.frames, h.rows⟩

theorem add (h : Fits m b) (he : e.Canonical) (hstands : Stands m e m') : Fits m' (b.add e) := by
  obtain ⟨elements, frames, script, recoveries⟩ := b
  cases frames with
  | nil =>
    have helements : ∀ c ∈ elements ++ [e], c.Canonical :=
      List.forall_mem_append.mpr ⟨h.elements, List.forall_mem_singleton.mpr he⟩
    exact ⟨helements, h.frames, Row.concat h.rows hstands⟩
  | cons f frames =>
    obtain ⟨hf, hframes⟩ := List.forall_mem_cons.mp h.frames
    have hchildren : ∀ c ∈ f.children ++ [e], c.Canonical :=
      List.forall_mem_append.mpr ⟨hf.children, List.forall_mem_singleton.mpr he⟩
    have hf' : Frame.Canonical { f with children := f.children ++ [e] } :=
      ⟨hf.notMem_header, hf.line, hchildren⟩
    exact ⟨h.elements, List.forall_mem_cons.mpr ⟨hf', hframes⟩,
      ⟨Row.concat h.rows.1 hstands, h.rows.2⟩⟩

theorem openBlock (h : Fits none b) {header : Text} (line : Int) (hheader : '\n' ∉ header)
    (hline : Line.classify (Line.headerLine header) none = ⟨.blockOpen, header, none⟩) :
    Fits none (b.openBlock header line) := by
  have hframe : Frame.Canonical ⟨header, line, []⟩ := ⟨hheader, hline, by simp⟩
  exact ⟨h.elements, List.forall_mem_cons.mpr ⟨hframe, h.frames⟩, ⟨Row.nil none, h.rows⟩⟩

theorem closeBlock (h : Fits none b) (line : Int) : Fits none (b.closeBlock line) := by
  obtain ⟨elements, frames, script, recoveries⟩ := b
  cases frames with
  | nil => exact ⟨h.elements, h.frames, h.rows⟩
  | cons f frames =>
    obtain ⟨hf, hframes⟩ := List.forall_mem_cons.mp h.frames
    have houter : Fits none ⟨elements, frames, script, recoveries⟩ :=
      ⟨h.elements, hframes, h.rows.2⟩
    exact houter.add (hf.close h.rows.1) (.block rfl)

/-- A leaf that is read in its place fits there. -/
theorem leaf (h : Fits m b) (kind : ElementKind) {line : Text} (hkind : kind ≠ .block)
    (hname : '\n' ∉ line) (hne : line ≠ []) (htrim : Text.trim line = line)
    (hline : Line.classify line m = ⟨kind.lineKind, line, m'⟩) (s : Option OpenScript) :
    Fits m' ((b.add (.leaf kind line)).setScript s) := by
  have hstands : Stands m (.leaf kind line) m' :=
    stands_of_classify_eq (e := .leaf kind line) hkind hline
  exact (h.add (.leaf hkind rfl rfl rfl hname hne htrim) hstands).setScript s

/-- **Every line keeps the builder and the quotes fitting.** -/
theorem step (h : Fits m b) {line : Text} (hname : '\n' ∉ line) (htrim : Text.trim line = line)
    (n : Int) :
    Fits (Line.classify line m).marker
      (b.step ⟨(Line.classify line m).kind, (Line.classify line m).value, n⟩) := by
  have hreads := Line.reads_classify line m
  generalize hl : Line.classify line m = l at hreads
  cases hreads with
  | blank => exact h
  | scriptOpen hne => exact h.leaf .scriptOpen (by decide) hname hne htrim hl _
  | scriptClose hne => exact h.leaf .scriptClose (by decide) hname hne htrim hl _
  | scriptLine hne => exact h.leaf .scriptLine (by decide) hname hne htrim hl _
  | @blockOpen start hbrace ho =>
    obtain ⟨htrim', hstart⟩ := Line.name_of_blockOpen htrim hl
    have hheader : '\n' ∉ Text.trimEnd start := by
      intro hbreak
      obtain ⟨rest, -, heq⟩ := Text.exists_eq_trimEnd start
      rw [hbrace, heq] at hname
      exact hname (by simp [hbreak])
    exact h.openBlock n hheader (Line.classify_headerLine htrim' hstart)
  | blockClose => exact h.closeBlock n
  | statement hne => exact h.leaf .statement (by decide) hname hne htrim hl _

/-- Lines that are read one after the other keep it so. -/
theorem foldl_ofLines {raws : List Text} (hraws : ∀ raw ∈ raws, '\n' ∉ raw) (n : Nat)
    (h : Fits m b) :
    Fits (Line.markerAfter m (raws.map Text.trim))
      ((Token.ofLines n m raws).foldl Builder.step b) := by
  induction raws generalizing m b n with
  | nil => exact h
  | cons raw raws ih =>
    obtain ⟨hraw, hraws⟩ := List.forall_mem_cons.mp hraws
    have hname : '\n' ∉ Text.trim raw := by
      intro hbreak
      exact hraw (Text.mem_of_mem_trim hbreak)
    rw [Token.ofLines, List.foldl_cons, List.map_cons, Line.markerAfter_cons]
    exact ih hraws (n + 1) (h.step hname (Text.trim_trim raw) n)

end Fits

/-! ## 2. Scripts that stand open -/

theorem script_add (b : Builder) (e : Element) : (b.add e).script = b.script := by
  rw [add]
  cases b.frames <;> rfl

theorem script_closeBlock (b : Builder) (line : Int) : (b.closeBlock line).script = b.script := by
  rw [closeBlock]
  cases b.frames with
  | nil => rfl
  | cons f frames => exact script_add _ _

theorem script_of_step (b : Builder) (t : Token) :
    (b.step t).script
      = if t.kind = .scriptOpen then some ⟨t.line, markerOf t.value⟩
        else if t.kind = .scriptClose then none
        else b.script := by
  obtain ⟨kind, value, line⟩ := t
  cases kind with
  | blank => rfl
  | blockOpen => rfl
  | blockClose => exact script_closeBlock b line
  | scriptOpen => rfl
  | scriptClose => rfl
  | _ => exact script_add b _

theorem markerOf_eq {line : Text} {s : Script.Start} (h : Script.start? line = some s) :
    markerOf line = s.marker := by
  rw [markerOf, h]
  rfl

end Builder

/-- After a line that opens a script its quotes stand open, after one that closes a script none do,
and every other line leaves the quotes as they are. -/
theorem Line.marker_classify (line : Text) (m : Option Text) :
    (classify line m).marker
      = if (classify line m).kind = .scriptOpen then
          some (Builder.markerOf (classify line m).value)
        else if (classify line m).kind = .scriptClose then none
        else m := by
  have hreads := reads_classify line m
  generalize classify line m = l at hreads
  cases hreads with
  | scriptOpen _ ho =>
    obtain ⟨s, hs, -, rfl⟩ := Script.opening?_eq_some_iff.mp ho
    rw [if_pos rfl, Builder.markerOf_eq hs]
  | _ => rfl

namespace Builder

/-- After a line, the open script is one with the quotes that stand open. -/
theorem marker_step {b : Builder} {m : Option Text} (h : b.script.map (·.marker) = m) (line : Text)
    (n : Int) :
    (b.step ⟨(Line.classify line m).kind, (Line.classify line m).value, n⟩).script.map (·.marker)
      = (Line.classify line m).marker := by
  rw [script_of_step, Line.marker_classify]
  split
  · rfl
  · split
    · rfl
    · exact h

/-- **The open script of the builder is one with the quotes that stand open in the document**, if
any do. -/
theorem marker_foldl_ofLines {b : Builder} {m : Option Text} (h : b.script.map (·.marker) = m)
    (n : Nat) (raws : List Text) :
    ((Token.ofLines n m raws).foldl step b).script.map (·.marker)
      = Line.markerAfter m (raws.map Text.trim) := by
  induction raws generalizing m b n with
  | nil => exact h
  | cons raw raws ih =>
    rw [Token.ofLines, List.foldl_cons, List.map_cons, Line.markerAfter_cons]
    exact ih (marker_step h _ n) (n + 1)

end Builder

/-! ## 3. Documents -/

/-- The builder at the end of a document. -/
def finalBuilder (t : Text) : Builder := (tokenize t).foldl Builder.step .empty

/-- The quotes that stand open at the end of a document. -/
def finalMarker (t : Text) : Option Text := Line.markerAfter none (Text.solidLines t)

theorem markerAfter_documentLines (t : Text) :
    Line.markerAfter none ((Text.documentLines t).map Text.trim) = finalMarker t := by
  rw [finalMarker, Text.solidLines_eq_documentLines, Line.markerAfter_filter]

theorem fits_finalBuilder (t : Text) : (finalBuilder t).Fits (finalMarker t) := by
  rw [← markerAfter_documentLines]
  exact Builder.Fits.empty.foldl_ofLines (fun raw => Text.notMem_of_mem_documentLines) _

theorem script_finalBuilder_eq_none_iff {t : Text} :
    (finalBuilder t).script = none ↔ finalMarker t = none := by
  have hmarker : (finalBuilder t).script.map (·.marker) = finalMarker t := by
    rw [← markerAfter_documentLines]
    exact Builder.marker_foldl_ofLines rfl _ _
  rw [← hmarker, Option.map_eq_none_iff]

/-- **Every tree that is read is canonical.** -/
theorem canonical_parse (t : Text) : (parse t).pipeline.Canonical :=
  ⟨(fits_finalBuilder t).elements, (fits_finalBuilder t).rows.exists_row⟩

theorem parseStrict_eq_ok_iff {t : Text} {p : Pipeline} :
    parseStrict t = .ok p ↔ (parse t).recoveries = [] ∧ (parse t).pipeline = p :=
  buildStrict_eq_ok_iff

/-- A document that is read strictly does not end in a script. -/
theorem not_endsInScript_of_parseStrict {t : Text} {p : Pipeline} (h : parseStrict t = .ok p) :
    ¬ EndsInScript p.elements := by
  obtain ⟨hrec, rfl⟩ := parseStrict_eq_ok_iff.mp h
  obtain ⟨-, hend⟩ := List.append_eq_nil_iff.mp hrec
  obtain ⟨hscript, hframes⟩ := Builder.endRecoveries_eq_nil_iff.mp hend
  have hmarker : finalMarker t = none := script_finalBuilder_eq_none_iff.mp hscript
  have hrow := (fits_finalBuilder t).rows
  rw [finalBuilder, hframes, hmarker] at hrow
  exact (Row.eq_none_iff hrow).mp rfl

end Jenkinsfile
