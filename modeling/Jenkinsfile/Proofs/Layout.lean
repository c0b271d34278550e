/-
# Layout does not matter

The layout of a document is all that its solid lines leave out: how lines are indented, blanks at
their ends, blank lines, and carriage returns.  To this come the blanks before the brace of a
header.  Documents that differ in nothing else (`SameButLayout`) have tokens that differ in nothing
but line numbers and blank tokens (`map_renumber_solidTokens_eq`), so that they are read as the same
tree or refused for the same reason, and have the same canonical form (`parseAs_of_sameButLayout`).
-/
import Jenkinsfile.Canonical
import Jenkinsfile.Proofs.LineNumbers
import Jenkinsfile.Proofs.Outcome

namespace Jenkinsfile

/-! ## 1. Tokens of solid lines -/

namespace Line

/-- What lines are that are read one after the other, the first under the quotes `m`. -/
def readings (m : Option Text) : List Text → List Line
  | [] => []
  | line :: lines => classify line m :: readings (classify line m).marker lines

/-- The token of a line that has been classified, without its number. -/
def token (l : Line) : Token := ⟨l.kind, l.value, 0⟩

theorem kind_classify_eq_blank_iff {line : Text} {m : Option Text} :
    (classify line m).kind = .blank ↔ line = [] := by
  constructor
  · intro h
    have hreads := reads_classify line m
    generalize classify line m = l at h hreads
    cases hreads with
    | blank hline => exact hline
    | _ => exact absurd h (by simp)
  · rintro rfl
    rw [classify_nil]

end Line

/-- The tokens of a document that are not blank. -/
def solidTokens (t : Text) : List Token := (tokenize t).filter (·.kind ≠ .blank)

theorem Token.filter_ofLines (n : Nat) (m : Option Text) (raws : List Text) :
    ((ofLines n m raws).filter (·.kind ≠ .blank)).map (renumber fun _ => 0)
      = (Line.readings m ((raws.map Text.trim).filter (· ≠ []))).map Line.token := by
  induction raws generalizing n m with
  | nil => rfl
  | cons raw raws ih =>
    rw [ofLines, List.map_cons]
    by_cases hline : Text.trim raw = []
    · rw [hline, Line.classify_nil, List.filter_cons_of_neg (by simp),
        List.filter_cons_of_neg (by simp), ih]
    · have hkind : (Line.classify (Text.trim raw) m).kind ≠ .blank := by
        rwa [Ne, Line.kind_classify_eq_blank_iff]
      rw [List.filter_cons_of_pos (by simpa using hkind),
        List.filter_cons_of_pos (by simpa using hline), List.map_cons, ih, Line.readings,
        List.map_cons]
      rfl

/-- **The tokens of a document** are what its solid lines are, the numbers of the lines apart. -/
theorem map_renumber_solidTokens (t : Text) :
    (solidTokens t).map (Token.renumber fun _ => 0)
      = (Line.readings none (Text.solidLines t)).map Line.token := by
  rw [solidTokens, tokenize, Token.filter_ofLines, Text.solidLines_eq_documentLines]

theorem map_kind_solidTokens (t : Text) :
    (solidTokens t).map (·.kind) = (Line.readings none (Text.solidLines t)).map (·.kind) := by
  have h := congrArg (List.map (·.kind)) (map_renumber_solidTokens t)
  rwa [List.map_map, List.map_map] at h

/-! ## 2. Documents that differ in layout -/

/-- Lines of a kind that are the same, or that are headers and differ in the blanks before the brace
only. -/
inductive SameLine (kind : LineKind) : Text → Text → Prop
  | same (line : Text) : SameLine kind line line
  | header (name b b' : Text) (hkind : kind = .blockOpen) (hb : Text.Blank b)
      (hb' : Text.Blank b') : SameLine kind (name ++ b ++ ['\x7b']) (name ++ b' ++ ['\x7b'])

/-- Documents with as many solid lines that are the same one by one, the blanks before the brace of
a header apart. -/
structure SameButLayout (t t' : Text) : Prop where
  length : (Text.solidLines t).length = (Text.solidLines t').length
  lines : ∀ x ∈ ((solidTokens t).map (·.kind)).zip
    ((Text.solidLines t).zip (Text.solidLines t')), SameLine x.1 x.2.1 x.2.2

/-- Blanks before the brace do not change what a header is. -/
theorem SameLine.classify_eq {line line' : Text} {m : Option Text}
    (h : SameLine (Line.classify line m).kind line line') :
    Line.classify line m = Line.classify line' m := by
  generalize hl : Line.classify line m = l at h
  cases h with
  | same => exact hl.symm
  | header name b b' hkind hb hb' =>
    have hreads := Line.reads_classify (name ++ b ++ ['\x7b']) m
    rw [hl] at hreads
    cases hreads with
    | @blockOpen start hbrace ho =>
      have hstart : Script.start? name = none := (Script.opening?_header_eq_none_iff hb).mp ho
      have hsame : start = name ++ b := (List.append_inj_left' hbrace rfl).symm
      rw [hsame, Text.trimEnd_append hb,
        Line.classify_brace ((Script.opening?_header_eq_none_iff hb').mpr hstart),
        Text.trimEnd_append hb']
    | _ => exact absurd hkind (by simp)

/-- Lines that are the same one by one are read alike, and leave the same quotes open. -/
theorem Line.readings_eq {lines lines' : List Text} {m : Option Text}
    (hlength : lines.length = lines'.length)
    (h : ∀ x ∈ ((readings m lines).map (·.kind)).zip (lines.zip lines'),
      SameLine x.1 x.2.1 x.2.2) :
    readings m lines = readings m lines' := by
  induction lines generalizing lines' m with
  | nil => rw [List.length_eq_zero_iff.mp hlength.symm]
  | cons line lines ih =>
    cases lines' with
    | nil => exact absurd hlength (by simp)
    | cons line' lines' =>
      rw [readings, List.map_cons, List.zip_cons_cons, List.zip_cons_cons, List.forall_mem_cons]
        at h
      obtain ⟨hline, hlines⟩ := h
      have hclassify : classify line m = classify line' m := SameLine.classify_eq hline
      rw [readings, readings, ← hclassify, ih (Nat.succ.inj hlength) hlines]

/-- **Documents that differ in layout have the same tokens**, but for blank ones and the numbers of
their lines. -/
theorem map_renumber_solidTokens_eq {t t' : Text} (h : SameButLayout t t') :
    (solidTokens t).map (Token.renumber fun _ => 0)
      = (solidTokens t').map (Token.renumber fun _ => 0) := by
  have hlines := h.lines
  rw [map_kind_solidTokens] at hlines
  rw [map_renumber_solidTokens, map_renumber_solidTokens, Line.readings_eq h.length hlines]

/-- Lines can be indented, end in blanks and have blank lines between them as they like. -/
theorem SameButLayout.of_solidLines_eq {t t' : Text} (h : Text.solidLines t = Text.solidLines t') :
    SameButLayout t t' := by
  refine ⟨by rw [h], fun x hx => ?_⟩
  have hzip := List.zip_map' (f := id) (g := id) (l := Text.solidLines t)
  rw [List.map_id] at hzip
  rw [← h, hzip] at hx
  obtain ⟨line, -, hline⟩ := List.mem_map.mp (List.of_mem_zip hx).2
  rw [← hline]
  exact SameLine.same line

/-- Line breaks can be a line feed each, or a carriage return and a line feed. -/
theorem sameButLayout_joinReturns (t : Text) : SameButLayout (Text.joinReturns t) t :=
  .of_solidLines_eq (Text.solidLines_joinReturns t)

/-! ## 3. Readings of solid tokens -/

namespace Builder

theorem step_of_blank {t : Token} (h : t.kind = .blank) (b : Builder) : b.step t = b := by
  rw [step, h]

theorem strictStep_of_blank {t : Token} (h : t.kind = .blank) (b : Builder) :
    b.strictStep t = .ok b := by
  rw [strictStep, if_neg (by simp [h]), step_of_blank h]

theorem foldl_step_filter (ts : List Token) (b : Builder) :
    (ts.filter (·.kind ≠ .blank)).foldl step b = ts.foldl step b := by
  induction ts generalizing b with
  | nil => rfl
  | cons t ts ih =>
    by_cases h : t.kind = .blank
    · rw [List.filter_cons_of_neg (by simpa using h), ih, List.foldl_cons, step_of_blank h]
    · rw [List.filter_cons_of_pos (by simpa using h), List.foldl_cons, ih, List.foldl_cons]

theorem foldlM_strictStep_filter (ts : List Token) (b : Builder) :
    (ts.filter (·.kind ≠ .blank)).foldlM strictStep b = ts.foldlM strictStep b := by
  induction ts generalizing b with
  | nil => rfl
  | cons t ts ih =>
    by_cases h : t.kind = .blank
    · rw [List.filter_cons_of_neg (by simpa using h), ih, List.foldlM_cons, strictStep_of_blank h]
      rfl
    · rw [List.filter_cons_of_pos (by simpa using h), List.foldlM_cons, List.foldlM_cons]
      exact congrArg _ (funext ih)

end Builder

theorem build_solidTokens (t : Text) : build (solidTokens t) = parse t := by
  rw [build, solidTokens, Builder.foldl_step_filter]
  rfl

theorem buildStrict_solidTokens (t : Text) : buildStrict (solidTokens t) = parseStrict t := by
  rw [buildStrict, solidTokens, Builder.foldlM_strictStep_filter]
  rfl

theorem pipeline_parse_eq {t t' : Text} (h : SameButLayout t t') :
    (parse t).pipeline = (parse t').pipeline := by
  have hbuild := congrArg build (map_renumber_solidTokens_eq h)
  rw [build_renumber, build_renumber, build_solidTokens, build_solidTokens] at hbuild
  have hp : ((parse t).renumber fun _ => 0).pipeline = ((parse t').renumber fun _ => 0).pipeline :=
    congrArg Parsed.pipeline hbuild
  exact hp

theorem mapError_parseStrict_eq {t t' : Text} (h : SameButLayout t t') :
    (parseStrict t).mapError (ParseError.renumber fun _ => 0)
      = (parseStrict t').mapError (ParseError.renumber fun _ => 0) := by
  have hbuild := congrArg buildStrict (map_renumber_solidTokens_eq h)
  rwa [buildStrict_renumber, buildStrict_renumber, buildStrict_solidTokens,
    buildStrict_solidTokens] at hbuild

/-! ## 4. Readings of documents -/

/-- Refusals that differ in their line only. -/
theorem ParseError.eq_renumber {e e' : ParseError}
    (h : e.renumber (fun _ => 0) = e'.renumber fun _ => 0) :
    e' = e.renumber fun _ => e'.line := by
  cases e <;> cases e' <;> simp_all [renumber, ParseError.line]

/-- **Layout does not matter**: documents that differ in nothing else are read as the same tree, or
refused for the same reason, if at another line.  They have the same canonical form for every unit
of indentation, and the same content hash. -/
theorem parseAs_of_sameButLayout {t t' : Text} (h : SameButLayout t t') :
    (∀ strict,
      (∃ r r', parseAs strict t = .ok r ∧ parseAs strict t' = .ok r' ∧
        r.pipeline = r'.pipeline) ∨
      ∃ e line, parseAs strict t = .error e ∧
        parseAs strict t' = .error (e.renumber fun _ => line)) ∧
      (∀ indent, normalize t indent = normalize t' indent) ∧ contentHash t = contentHash t' := by
  have hpipeline := pipeline_parse_eq h
  have hnormalize : ∀ indent, normalize t indent = normalize t' indent := by
    intro indent
    rw [normalize, hpipeline, normalize]
  refine ⟨fun strict => ?_, hnormalize, ?_⟩
  · cases strict with
    | false => exact Or.inl ⟨parse t, parse t', rfl, rfl, hpipeline⟩
    | true =>
      obtain ⟨p, hp, hp'⟩ | ⟨e, e', he, he', hsame⟩ :=
        cases_of_mapError_eq (mapError_parseStrict_eq h)
      · refine Or.inl ⟨⟨p, []⟩, ⟨p, []⟩, ?_, ?_, rfl⟩
        · rw [parseAs, if_pos rfl, hp]; rfl
        · rw [parseAs, if_pos rfl, hp']; rfl
      · refine Or.inr ⟨e, e'.line, ?_, ?_⟩
        · rw [parseAs, if_pos rfl, he]; rfl
        · rw [parseAs, if_pos rfl, he', ← ParseError.eq_renumber hsame]; rfl
  · rw [contentHash, hnormalize, contentHash]

/-- Steps that say everything once. -/
def tightSteps : Text := "steps\x7b\nsh '''\nmake\n'''\n\x7d".toList

/-- The same steps with a blank before the brace, an indented line, a blank line between the quotes,
and carriage returns. -/
def wideSteps : Text := "steps \x7b\r\n\tsh '''\r\n\r\n  make\r\n'''\r\n\x7d\r\n".toList

theorem sameButLayout_steps : SameButLayout tightSteps wideSteps := by
  have hkinds : (solidTokens tightSteps).map (·.kind)
      = [.blockOpen, .scriptOpen, .scriptLine, .scriptClose, .blockClose] := by
    decide +kernel
  have hlines : Text.solidLines tightSteps
      = ["steps\x7b".toList, "sh '''".toList, "make".toList, "'''".toList, "\x7d".toList] := by
    decide +kernel
  have hlines' : Text.solidLines wideSteps
      = ["steps \x7b".toList, "sh '''".toList, "make".toList, "'''".toList, "\x7d".toList] := by
    decide +kernel
  refine ⟨by rw [hlines, hlines']; rfl, ?_⟩
  rw [hkinds, hlines, hlines']
  simp only [List.zip_cons_cons, List.zip_nil_left, List.forall_mem_cons]
  exact ⟨.header "steps".toList [] [' '] rfl (by decide) (by decide),
    .same _, .same _, .same _, .same _, by simp⟩

theorem parseAs_steps : SameButLayout tightSteps wideSteps ∧
    contentHash tightSteps = contentHash wideSteps :=
  ⟨sameButLayout_steps, (parseAs_of_sameButLayout sameButLayout_steps).2.2⟩

end Jenkinsfile
