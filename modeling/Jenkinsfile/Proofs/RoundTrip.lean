/-
# Writing and reading back

A canonical tree that is written with any blank unit of indentation is read back as it is
(`parse_render`), and strictly too unless it ends in a script (`parseStrict_render`,
`parseStrict_render_of_endsInScript`).  Together with the fact that every tree that is read is
canonical, this gives the two statements of this file:

* `reparse_parse`: what was read once can be written and read again without changing, so that the
  canonical form of a document is a fixed point and has the content hash of the document;
* `exists_parse_iff_canonical`: the canonical trees are exactly those that can be read.
-/
import Jenkinsfile.Canonical
import Jenkinsfile.Proofs.ParsedTree
import Jenkinsfile.Proofs.Written

namespace Jenkinsfile

variable {p : Pipeline} {indent : Text}

/-! ## 1. Canonical trees are read back -/

/-- The builder at the end of a document that was written holds what was written, and nothing
else. -/
theorem exists_finalBuilder_render (h : p.Canonical) (hindent : Text.Blank indent) :
    ∃ s, finalBuilder (render p indent) = ⟨p.elements, [], s, []⟩ := by
  obtain ⟨s, hs⟩ := Builder.adds_listingAll (fun e he => (h.elements e he).plain)
    (h.filterMap_meaning?_render hindent) .empty
  refine ⟨s, ?_⟩
  rw [finalBuilder, hs, Builder.addAll_of_frames_nil rfl]
  rfl

/-- Quotes stand open at its end exactly if the tree ends in a script. -/
theorem finalMarker_render (h : p.Canonical) (hindent : Text.Blank indent) :
    finalMarker (render p indent) = none ↔ ¬ EndsInScript p.elements := by
  obtain ⟨m, hrow⟩ := h.row
  rw [finalMarker, solidLines_render p hindent, (h.spells hrow).marker]
  exact Row.eq_none_iff hrow

/-- **A canonical tree is read back.** -/
theorem parse_render (h : p.Canonical) (hindent : Text.Blank indent) :
    (parse (render p indent)).pipeline = p := by
  obtain ⟨s, hs⟩ := exists_finalBuilder_render h hindent
  have hparse : (parse (render p indent)).pipeline = ⟨(finalBuilder (render p indent)).elements⟩ :=
    rfl
  rw [hparse, hs]

/-- Nothing but an open script keeps a tree that was written from being read strictly. -/
theorem parseStrict_render_eq (h : p.Canonical) (hindent : Text.Blank indent) :
    parseStrict (render p indent) = (finalBuilder (render p indent)).strictFinish := by
  obtain ⟨s, hs⟩ := exists_finalBuilder_render h hindent
  have hfold : (tokenize (render p indent)).foldlM Builder.strictStep .empty
      = .ok (finalBuilder (render p indent)) :=
    Builder.foldlM_strictStep_eq_ok_iff.mpr ⟨rfl, by rw [hs]; rfl⟩
  rw [parseStrict, buildStrict, hfold]
  rfl

theorem parseStrict_render (h : p.Canonical) (hindent : Text.Blank indent)
    (hend : ¬ EndsInScript p.elements) : parseStrict (render p indent) = .ok p := by
  obtain ⟨s, hs⟩ := exists_finalBuilder_render h hindent
  have hnone : (finalBuilder (render p indent)).script = none :=
    script_finalBuilder_eq_none_iff.mpr ((finalMarker_render h hindent).mpr hend)
  rw [hs] at hnone
  rw [parseStrict_render_eq h hindent, hs, show s = none from hnone]
  rfl

theorem parseStrict_render_of_endsInScript (h : p.Canonical) (hindent : Text.Blank indent)
    (hend : EndsInScript p.elements) :
    ∃ line marker, parseStrict (render p indent) = .error (.openScript line marker) := by
  obtain ⟨s, hs⟩ := exists_finalBuilder_render h hindent
  cases s with
  | some script =>
    refine ⟨script.line, script.marker, ?_⟩
    rw [parseStrict_render_eq h hindent, hs]
    rfl
  | none =>
    have hnone : (finalBuilder (render p indent)).script = none := by rw [hs]
    have hmarker := script_finalBuilder_eq_none_iff.mp hnone
    exact absurd hend ((finalMarker_render h hindent).mp hmarker)

/-! ## 2. What was read once -/

/-- **What was read once can be written and read again without changing.**  A strict reading
accepts it too, unless the document itself ends in a script, and then it says so.  The canonical
form of a document is a fixed point, and has the content hash of the document. -/
theorem reparse_parse (t : Text) {indent : Text} (hindent : Text.Blank indent) :
    (parse (render (parse t).pipeline indent)).pipeline = (parse t).pipeline ∧
      (¬ EndsInScript (parse t).pipeline.elements →
        parseStrict (render (parse t).pipeline indent) = .ok (parse t).pipeline) ∧
      (EndsInScript (parse t).pipeline.elements → ∃ line marker,
        parseStrict (render (parse t).pipeline indent) = .error (.openScript line marker)) ∧
      (∀ other, normalize (normalize t indent) other = normalize t other) ∧
      contentHash (normalize t indent) = contentHash t := by
  have hcanonical := canonical_parse t
  have hback : (parse (normalize t indent)).pipeline = (parse t).pipeline :=
    parse_render hcanonical hindent
  have hnormalize : ∀ other, normalize (normalize t indent) other = normalize t other := by
    intro other
    rw [normalize, hback, ← normalize]
  refine ⟨hback, parseStrict_render hcanonical hindent,
    parseStrict_render_of_endsInScript hcanonical hindent, hnormalize, ?_⟩
  rw [contentHash, hnormalize, ← contentHash]

/-- A document that ends in a script is read back with its script open, and said to be so. -/
theorem reparse_parse_openScript :
    (parse (render (parse "steps \x7b\n\x7d\nsh '''\nmake".toList).pipeline ['\t'])).pipeline
        = (parse "steps \x7b\n\x7d\nsh '''\nmake".toList).pipeline ∧
      ∃ line marker, parseStrict
          (render (parse "steps \x7b\n\x7d\nsh '''\nmake".toList).pipeline ['\t'])
        = .error (.openScript line marker) := by
  have hindent : Text.Blank ['\t'] := by decide
  have hreparse := reparse_parse "steps \x7b\n\x7d\nsh '''\nmake".toList hindent
  exact ⟨hreparse.1, hreparse.2.2.1 (by decide)⟩

/-! ## 3. The trees that can be read -/

/-- **The trees that can be read are exactly the canonical ones**, and those that can be read
strictly are the canonical ones that do not end in a script. -/
theorem exists_parse_iff_canonical (p : Pipeline) :
    ((∃ t, (parse t).pipeline = p) ↔ p.Canonical) ∧
      ((∃ t, parseStrict t = .ok p) ↔ p.Canonical ∧ ¬ EndsInScript p.elements) := by
  have hblank : Text.Blank [] := Text.blank_nil
  constructor
  · constructor
    · rintro ⟨t, rfl⟩
      exact canonical_parse t
    · intro h
      exact ⟨render p [], parse_render h hblank⟩
  · constructor
    · rintro ⟨t, ht⟩
      refine ⟨?_, not_endsInScript_of_parseStrict ht⟩
      obtain ⟨-, rfl⟩ := parseStrict_eq_ok_iff.mp ht
      exact canonical_parse t
    · rintro ⟨h, hend⟩
      exact ⟨render p [], parseStrict_render h hblank hend⟩

end Jenkinsfile
