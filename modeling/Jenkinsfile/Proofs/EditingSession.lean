/-
# Writing and exporting between edits

Between the edits of a session a pipeline may be written and read back, and exported and imported,
as often as one likes.  As long as the pipeline is canonical, neither does anything to it
(`apply_reparse`, `apply_reimport`), and a new stage leaves it canonical if its name is a line and
it is put outside of the scripts among the stages (`Edit.Harmless.canonical_run`).  So a session
that begins with a document and makes such edits only ends where its insertions alone would have
ended it (`runAll_eq_runAll_filter`).
-/
import Jenkinsfile.Edit
import Jenkinsfile.Proofs.TreeExport

namespace Jenkinsfile

namespace Edit

/-! ## 1. Sessions -/

/-- Inserts a stage, or tries to. -/
def isInsert : Edit → Bool
  | .insert .. => true
  | .reparse .. => false
  | .reimport => false

/-- An edit after which everything can be read back: a unit of indentation is blank, and a stage
that is inserted has a name without a line break and stands where no script of the stages block is
open.  Nothing is asked of an insertion that fails. -/
def Harmless (p : Pipeline) : Edit → Prop
  | .insert name steps index => ∀ insertion, insertStage p name steps index = .ok insertion →
      '\n' ∉ name ∧ ∀ container, p.stagesBlock? = some container →
        ¬ EndsInScript (container.children.take insertion.index)
  | .reparse indent _ => Text.Blank indent
  | .reimport => True

/-- A session of such edits, each of them applied to what those before it have left. -/
def AllHarmless (p : Pipeline) : List Edit → Prop
  | [] => True
  | e :: edits => e.Harmless p ∧ AllHarmless (e.run p) edits

/-- An edit that changes nothing unless it inserts a stage.  An import never fails, and a document
is refused only when it is read strictly and its script is open at the end. -/
structure Faithful (p : Pipeline) (e : Edit) : Prop where
  run_of_error : ∀ fault, e.apply p = .error fault → e.run p = p
  run_of_not_insert : e.isInsert = false → e.run p = p
  reimport : e = .reimport → ∃ edited, e.apply p = .ok edited
  reparse : ∀ indent strict fault, e = .reparse indent strict → e.apply p = .error fault →
    strict = true ∧ ∃ line marker, fault = .parse (.openScript line marker)

/-! ## 2. One edit -/

section Step

variable {p : Pipeline} {e : Edit}

/-- A canonical pipeline that is written is read back as it is, or refused for its open script. -/
theorem apply_reparse (hp : p.Canonical) {indent : Text} (hindent : Text.Blank indent)
    (strict : Bool) :
    (∃ notices, (Edit.reparse indent strict).apply p = .ok ⟨p, none, notices⟩) ∨
      strict = true ∧ ∃ line marker,
        (Edit.reparse indent strict).apply p = .error (.parse (.openScript line marker)) := by
  cases strict with
  | false =>
    left
    refine ⟨(parse (render p indent)).notices, ?_⟩
    simp only [apply, parseAs, Bool.false_eq_true, if_false, parse_render hp hindent]
  | true =>
    by_cases hend : EndsInScript p.elements
    · right
      obtain ⟨line, marker, hread⟩ := parseStrict_render_of_endsInScript hp hindent hend
      refine ⟨rfl, line, marker, ?_⟩
      simp only [apply, parseAs, if_true, hread, Except.map]
    · left
      refine ⟨[], ?_⟩
      simp only [apply, parseAs, if_true, parseStrict_render hp hindent hend, Except.map,
        Parsed.notices, List.map_nil]

theorem restored_of_canonical (hp : p.Canonical) : p.restored = p := by
  rw [Pipeline.restored_eq_self_iff]
  intro e he
  exact (hp.elements e he).plain.restored_eq_self

/-- A canonical pipeline that is exported is imported as it is. -/
theorem apply_reimport (hp : p.Canonical) : Edit.reimport.apply p = .ok ⟨p, none, []⟩ := by
  simp only [apply, Pipeline.ofJson_toJson_of_restored (restored_of_canonical hp)]

/-- Neither of the two changes a canonical pipeline. -/
theorem Harmless.run_eq_self (h : e.Harmless p) (hp : p.Canonical) (hinsert : e.isInsert = false) :
    e.run p = p := by
  cases e with
  | insert name steps index => exact absurd hinsert (by simp [isInsert])
  | reparse indent strict =>
    rcases apply_reparse hp h strict with ⟨notices, hok⟩ | ⟨-, line, marker, herror⟩
    · rw [run, hok]
    · rw [run, herror]
  | reimport => rw [run, apply_reimport hp]

/-- **A harmless edit leaves a canonical pipeline canonical.** -/
theorem Harmless.canonical_run (h : e.Harmless p) (hp : p.Canonical) : (e.run p).Canonical := by
  cases e with
  | insert name steps index =>
    rw [run, apply]
    cases hinsert : insertStage p name steps index with
    | error fault => exact hp
    | ok insertion =>
      obtain ⟨hname, hscript⟩ := h insertion hinsert
      obtain ⟨container, stage, i, hcontainer, -, hi, hstage, rfl⟩ :=
        insertStage_eq_ok_iff.mp hinsert
      exact (canonical_insertion_iff hp hcontainer hstage hi).mpr
        ⟨hname, hscript container hcontainer⟩
  | reparse indent strict =>
    rw [Harmless.run_eq_self h hp rfl]
    exact hp
  | reimport =>
    rw [Harmless.run_eq_self h hp rfl]
    exact hp

/-- **A harmless edit of a canonical pipeline changes nothing unless it inserts a stage.** -/
theorem Harmless.faithful (h : e.Harmless p) (hp : p.Canonical) : e.Faithful p where
  run_of_error := by
    intro fault herror
    rw [run, herror]
  run_of_not_insert := h.run_eq_self hp
  reimport := by
    rintro rfl
    exact ⟨_, apply_reimport hp⟩
  reparse := by
    rintro indent strict fault rfl herror
    rcases apply_reparse hp h strict with ⟨notices, hok⟩ | ⟨hstrict, line, marker, hopen⟩
    · rw [hok] at herror
      exact absurd herror (by simp)
    · rw [hopen] at herror
      exact ⟨hstrict, line, marker, (Except.error.inj herror).symm⟩

end Step

/-! ## 3. Sessions of harmless edits -/

section Run

variable {p : Pipeline} {edits : List Edit}

theorem runAll_cons (p : Pipeline) (e : Edit) (edits : List Edit) :
    runAll p (e :: edits) = runAll (e.run p) edits := rfl

/-- Every edit of a session of harmless ones is faithful to what it is applied to. -/
theorem AllHarmless.faithful (h : AllHarmless p edits) (hp : p.Canonical) {before after : List Edit}
    {e : Edit} (hsplit : edits = before ++ e :: after) : e.Faithful (runAll p before) := by
  induction before generalizing p edits with
  | nil =>
    subst hsplit
    exact h.1.faithful hp
  | cons first before ih =>
    subst hsplit
    exact ih h.2 (h.1.canonical_run hp) rfl

/-- The insertions of a session alone lead where the session leads. -/
theorem AllHarmless.runAll_eq (h : AllHarmless p edits) (hp : p.Canonical) :
    runAll p edits = runAll p (edits.filter (·.isInsert)) := by
  induction edits generalizing p with
  | nil => rfl
  | cons e edits ih =>
    have hrest := ih h.2 (h.1.canonical_run hp)
    rw [runAll_cons, hrest]
    cases hinsert : e.isInsert with
    | true => rw [List.filter_cons_of_pos hinsert, runAll_cons]
    | false =>
      rw [List.filter_cons_of_neg (by simp [hinsert]), h.1.run_eq_self hp hinsert]

end Run

/-- **Writing and exporting may come between edits as one likes.**  In a session of harmless edits
of a document, every edit that fails, everything that is written and read back, and everything that
is exported and imported leaves the pipeline as it was; an import never fails, and a document only
if it is read strictly, because of its open script; and the session ends where its insertions alone
end. -/
theorem runAll_eq_runAll_filter (t : Text) {edits : List Edit}
    (h : AllHarmless (parse t).pipeline edits) :
    (∀ before e after, edits = before ++ e :: after →
      e.Faithful (runAll (parse t).pipeline before)) ∧
      runAll (parse t).pipeline edits
        = runAll (parse t).pipeline (edits.filter (·.isInsert)) := by
  refine ⟨?_, h.runAll_eq (canonical_parse t)⟩
  intro before e after hsplit
  exact h.faithful (canonical_parse t) hsplit

/-- A document with a place for stages, and with a script that is open at its end. -/
def openAfterStages : Text := oneStages ++ "\nsh '''\nmake".toList

/-- Such a document is refused whenever it is read strictly, and is not changed by that; an insertion
of a brace does nothing either, whatever the name of its stage; and so the session ends where its
insertions alone end. -/
theorem runAll_openAfterStages :
    AllHarmless (parse openAfterStages).pipeline
      [.reparse ['\t'] true, .insert "A".toList ["make".toList] (.int 0), .reimport,
        .insert "B\n".toList ["\x7d".toList] (.int 0), .reparse [] false] ∧
    (Edit.reparse ['\t'] true).run (parse openAfterStages).pipeline
      = (parse openAfterStages).pipeline ∧
    runAll (parse openAfterStages).pipeline
        [.reparse ['\t'] true, .insert "A".toList ["make".toList] (.int 0), .reimport,
          .insert "B\n".toList ["\x7d".toList] (.int 0), .reparse [] false]
      = runAll (parse openAfterStages).pipeline
          [.insert "A".toList ["make".toList] (.int 0),
            .insert "B\n".toList ["\x7d".toList] (.int 0)] := by
  have htab : Text.Blank ['\t'] := by decide
  have hall : AllHarmless (parse openAfterStages).pipeline
      [.reparse ['\t'] true, .insert "A".toList ["make".toList] (.int 0), .reimport,
        .insert "B\n".toList ["\x7d".toList] (.int 0), .reparse [] false] := by
    refine ⟨htab, ?_, trivial, ?_, Text.blank_nil, trivial⟩
    · intro insertion hinsert
      refine ⟨by decide, fun container _ => ?_⟩
      obtain ⟨-, -, i, -, hindex, -, -, rfl⟩ := insertStage_eq_ok_iff.mp hinsert
      obtain rfl : 0 = i := Int.ofNat.inj (Json.int.inj hindex)
      exact not_endsInScript_nil
    · intro insertion hinsert
      obtain ⟨-, stage, -, -, -, -, hstage, -⟩ := insertStage_eq_ok_iff.mp hinsert
      obtain ⟨lines, hlines, -⟩ := makeStage_eq_ok_iff.mp hstage
      obtain ⟨line, -, hline, -⟩ := mapM_cons_eq_ok_iff.mp hlines
      exact absurd (checkStep_eq_ok_iff.mp hline).2.2.1 (by decide)
  obtain ⟨hfaithful, hrun⟩ := runAll_eq_runAll_filter openAfterStages hall
  exact ⟨hall, (hfaithful [] _ _ rfl).run_of_not_insert rfl, hrun⟩

end Edit

end Jenkinsfile
