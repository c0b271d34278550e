/-
# Texts below one another

A text that is put below another one is read after it.  What the upper one has put into the document
stays there (`Builder.elements_foldl_step`).  If the upper one leaves neither a script nor a block
open, the lower one is read as if it stood alone, but that it starts with a document that is not
empty: a reading carries what the document holds and what was recovered from along and never looks
at it (`Builder.carried_below`).  What is read of both is then what is read of the upper text,
followed by what is read of the lower one at the lines where it stands now (`parse_append_break`).
-/
import Jenkinsfile.Notice
import Jenkinsfile.Proofs.LineTokens

namespace Jenkinsfile

/-! ## 1. Builders that go on -/

namespace Builder

theorem elements_add (b : Builder) (e : Element) : b.elements <+: (b.add e).elements := by
  rw [add]
  cases b.frames with
  | nil => exact List.prefix_append _ _
  | cons f frames => exact List.prefix_rfl

/-- A token takes nothing out of the document. -/
theorem elements_step (b : Builder) (t : Token) : b.elements <+: (b.step t).elements := by
  obtain ⟨kind, value, line⟩ := t
  cases kind with
  | blank => exact List.prefix_rfl
  | blockOpen => exact List.prefix_rfl
  | blockClose =>
    rw [step_of_close rfl, closeBlock]
    cases b.frames with
    | nil => exact List.prefix_rfl
    | cons f frames => exact elements_add { b with frames := frames } f.close
  | _ => exact elements_add b _

/-- **What is in the document stays there**, whatever is read. -/
theorem elements_foldl_step (ts : List Token) (b : Builder) :
    b.elements <+: (ts.foldl step b).elements := by
  induction ts generalizing b with
  | nil => exact List.prefix_rfl
  | cons t ts ih => exact (elements_step b t).trans (ih (b.step t))

/-- The builder below other lines: its own lines are numbered anew, and in front of what it has read
itself there is more in the document, and more was recovered from. -/
def below (f : Int → Int) (es : List Element) (rs : List Recovery) (b : Builder) : Builder :=
  ⟨es ++ b.elements, b.frames.map (Frame.renumber f), b.script.map (OpenScript.renumber f),
    rs ++ b.recoveries.map (Recovery.renumber f)⟩

variable (f : Int → Int) (es : List Element) (rs : List Recovery) (b : Builder)

theorem add_below (e : Element) : (b.below f es rs).add e = (b.add e).below f es rs := by
  obtain ⟨elements, frames, script, recoveries⟩ := b
  cases frames with
  | nil => simp [add, below]
  | cons frame frames => rfl

theorem closeBlock_below (line : Int) :
    (b.below f es rs).closeBlock (f line) = (b.closeBlock line).below f es rs := by
  obtain ⟨elements, frames, script, recoveries⟩ := b
  cases frames with
  | nil => simp [closeBlock, below, Recovery.renumber]
  | cons frame frames => exact add_below f es rs ⟨elements, frames, script, recoveries⟩ frame.close

/-- **A reading carries along what is in the document and does not look at it.** -/
theorem carried_below : Carried f (below f es rs) where
  frames _ := rfl
  add := add_below f es rs
  openBlock _ _ _ := rfl
  closeBlock := closeBlock_below f es rs
  setScript _ _ := rfl

theorem finish_below : (b.below f es rs).finish
    = ⟨⟨es ++ b.finish.pipeline.elements⟩, rs ++ (b.finish.renumber f).recoveries⟩ := by
  have hown : (b.renumber f).recoveries ++ (b.renumber f).endRecoveries
      = (b.finish.renumber f).recoveries := congrArg Parsed.recoveries (b.finish_renumber f)
  rw [← hown, ← List.append_assoc]
  rfl

theorem strictFinish_below :
    (b.below f es rs).strictFinish
      = (b.strictFinish.map fun p => (⟨es ++ p.elements⟩ : Pipeline)).mapError
          (ParseError.renumber f) := by
  obtain ⟨elements, frames, script, recoveries⟩ := b
  cases script <;> cases frames <;> rfl

variable {b}

/-- A builder without an open block or script has nothing but what is in the document and what was
recovered from. -/
theorem eq_below_empty (hscript : b.script = none) (hframes : b.frames = []) :
    b = empty.below f b.elements b.recoveries := by
  obtain ⟨elements, frames, script, recoveries⟩ := b
  obtain rfl : script = none := hscript
  obtain rfl : frames = [] := hframes
  simp [below, empty]

/-- A stray brace is never met at the end. -/
theorem strictFinish_ne_strayBrace (b : Builder) (line : Int) :
    b.strictFinish ≠ .error (.strayBrace line) := by
  rw [strictFinish]
  cases b.script <;> cases b.frames <;> simp

end Builder

/-! ## 2. Tokens after one another -/

variable {ts : List Token}

/-- The elements of a document are the first ones of every longer document. -/
theorem elements_build_prefix (ts us : List Token) :
    (build ts).pipeline.elements <+: (build (ts ++ us)).pipeline.elements := by
  have hfold : (ts ++ us).foldl Builder.step .empty
      = us.foldl Builder.step (ts.foldl Builder.step .empty) := List.foldl_append
  rw [build, build, hfold]
  exact Builder.elements_foldl_step us _

/-- **Where nothing is left open, what follows is read as if it stood alone**, at its own lines. -/
theorem build_append (h : (ts.foldl Builder.step .empty).endRecoveries = []) (f : Int → Int)
    (us : List Token) :
    build (ts ++ us.map (Token.renumber f))
      = ⟨⟨(build ts).pipeline.elements ++ (build us).pipeline.elements⟩,
        (build ts).recoveries ++ ((build us).renumber f).recoveries⟩ := by
  obtain ⟨hscript, hframes⟩ := Builder.endRecoveries_eq_nil_iff.mp h
  have hrec : (build ts).recoveries = (ts.foldl Builder.step .empty).recoveries := by
    rw [build, Builder.finish, h, List.append_nil]
  have hrest : (us.map (Token.renumber f)).foldl Builder.step (ts.foldl Builder.step .empty)
      = (us.foldl Builder.step .empty).below f (build ts).pipeline.elements
          (build ts).recoveries := by
    rw [hrec, ← (Builder.carried_below f _ _).foldl_step]
    exact congrArg (fun b => (us.map (Token.renumber f)).foldl Builder.step b)
      (Builder.eq_below_empty f hscript hframes)
  rw [build, List.foldl_append, hrest, Builder.finish_below, ← build]

/-- What follows tokens that are read strictly is read strictly as if it stood alone. -/
theorem buildStrict_append {p : Pipeline} (h : buildStrict ts = .ok p) (f : Int → Int)
    (us : List Token) :
    buildStrict (ts ++ us.map (Token.renumber f))
      = ((buildStrict us).map fun q => (⟨p.elements ++ q.elements⟩ : Pipeline)).mapError
          (ParseError.renumber f) := by
  obtain ⟨b, hfold, hfinish⟩ := bind_eq_ok_iff.mp h
  obtain ⟨⟨hscript, hframes⟩, rfl⟩ := Builder.strictFinish_eq_ok_iff.mp hfinish
  have hrest : (us.map (Token.renumber f)).foldlM Builder.strictStep b
      = ((us.foldlM Builder.strictStep .empty).map (·.below f b.elements b.recoveries)).mapError
          (ParseError.renumber f) := by
    rw [← (Builder.carried_below f _ _).foldlM_strictStep,
      ← Builder.eq_below_empty f hscript hframes]
  rw [buildStrict, List.foldlM_append, hfold]
  show (us.map (Token.renumber f)).foldlM Builder.strictStep b >>= _ = _
  rw [hrest, buildStrict]
  cases us.foldlM Builder.strictStep .empty with
  | error e => rfl
  | ok b' => exact Builder.strictFinish_below f _ _ b'

/-- Nothing that follows a stray brace is read strictly. -/
theorem buildStrict_append_of_strayBrace {line : Int}
    (h : buildStrict ts = .error (.strayBrace line)) (us : List Token) :
    buildStrict (ts ++ us) = .error (.strayBrace line) := by
  have hfold : ts.foldlM Builder.strictStep .empty = .error (.strayBrace line) := by
    rw [buildStrict] at h
    cases hf : ts.foldlM Builder.strictStep .empty with
    | error e =>
      rw [hf] at h
      exact congrArg _ (Except.error.inj h)
    | ok b =>
      rw [hf] at h
      exact absurd h (b.strictFinish_ne_strayBrace line)
  rw [buildStrict, List.foldlM_append, hfold]
  rfl

/-! ## 3. Texts below one another -/

variable {t : Text}

/-- A reading that has recovered from stray braces only has left nothing open. -/
theorem endRecoveries_eq_nil_of_strayBraces
    (h : ∀ r ∈ (parse t).recoveries, ∃ line, r = .strayBrace line) :
    (finalBuilder t).endRecoveries = [] := by
  have hend : ∀ r ∈ (finalBuilder t).endRecoveries, ∃ line, r = .strayBrace line :=
    fun r hr => h r (List.mem_append_right _ hr)
  rw [Builder.endRecoveries] at hend
  rw [Builder.endRecoveries_eq_nil_iff]
  constructor
  · cases hs : (finalBuilder t).script with
    | none => rfl
    | some s =>
      rw [hs] at hend
      obtain ⟨line, hline⟩ := hend (.openScript s.line) (by simp)
      exact absurd hline (by simp)
  · cases hf : (finalBuilder t).frames.getLast? with
    | none => exact List.getLast?_eq_none_iff.mp hf
    | some f =>
      rw [hf] at hend
      obtain ⟨line, hline⟩ :=
        hend (.openBlocks (finalBuilder t).frames.length f.header f.line) (by simp)
      exact absurd hline (by simp)

/-- The builder at the end of a document does not see the blank tokens. -/
theorem foldl_step_solidTokens (t : Text) :
    (solidTokens t).foldl Builder.step .empty = finalBuilder t :=
  Builder.foldl_step_filter (tokenize t) .empty

/-- Below a text that leaves nothing open, a text is read as if it stood alone. -/
theorem parse_append_of_closed (h : (finalBuilder t).endRecoveries = []) (t' : Text) :
    parse (t ++ '\n' :: t')
      = ⟨⟨(parse t).pipeline.elements ++ (parse t').pipeline.elements⟩,
        (parse t).recoveries ++ ((parse t').renumber (lineBelow t)).recoveries⟩ := by
  have hmarker : finalMarker t = none :=
    script_finalBuilder_eq_none_iff.mp (Builder.endRecoveries_eq_nil_iff.mp h).1
  have hclosed : ((solidTokens t).foldl Builder.step .empty).endRecoveries = [] := by
    rw [foldl_step_solidTokens, h]
  rw [← build_solidTokens, solidTokens_append_break hmarker, build_append hclosed,
    build_solidTokens, build_solidTokens]

theorem parseStrict_append_of_ok {p : Pipeline} (h : parseStrict t = .ok p) (t' : Text) :
    parseStrict (t ++ '\n' :: t')
      = ((parseStrict t').map fun q => (⟨p.elements ++ q.elements⟩ : Pipeline)).mapError
          (ParseError.renumber (lineBelow t)) := by
  have hrec := (parseStrict_eq_ok_iff.mp h).1
  have hclosed : (finalBuilder t).endRecoveries = [] := (List.append_eq_nil_iff.mp hrec).2
  have hmarker : finalMarker t = none :=
    script_finalBuilder_eq_none_iff.mp (Builder.endRecoveries_eq_nil_iff.mp hclosed).1
  rw [← buildStrict_solidTokens] at h
  rw [← buildStrict_solidTokens, solidTokens_append_break hmarker, buildStrict_append h,
    buildStrict_solidTokens]

/-- **A text below another one is read after it.**  What is read of the upper text comes first, even
where it leaves a script or a block open.  If it leaves neither open, all that is read of the lower
text comes next, and what is recovered from there is recovered from at the lines where it stands
now.  The same holds for strict readings, and a stray brace in the upper text is refused whatever
stands below. -/
theorem parse_append_break (t t' : Text) :
    (parse t).pipeline.elements <+: (parse (t ++ '\n' :: t')).pipeline.elements ∧
      ((∀ r ∈ (parse t).recoveries, ∃ line, r = .strayBrace line) →
        (parse (t ++ '\n' :: t')).pipeline.elements
            = (parse t).pipeline.elements ++ (parse t').pipeline.elements ∧
          (parse (t ++ '\n' :: t')).notices
            = (parse t).notices ++ ((parse t').renumber (lineBelow t)).notices) ∧
      (∀ p, parseStrict t = .ok p → parseStrict (t ++ '\n' :: t')
        = ((parseStrict t').map fun q => (⟨p.elements ++ q.elements⟩ : Pipeline)).mapError
            (ParseError.renumber (lineBelow t))) ∧
      ∀ line, parseStrict t = .error (.strayBrace line) →
        parseStrict (t ++ '\n' :: t') = .error (.strayBrace line) := by
  refine ⟨?_, fun h => ?_, fun p hp => parseStrict_append_of_ok hp t', fun line hline => ?_⟩
  · obtain ⟨us, hus⟩ := solidTokens_prefix t t'
    rw [← build_solidTokens t, ← build_solidTokens (t ++ '\n' :: t'), ← hus]
    exact elements_build_prefix _ us
  · rw [parse_append_of_closed (endRecoveries_eq_nil_of_strayBraces h) t']
    exact ⟨rfl, List.map_append⟩
  · obtain ⟨us, hus⟩ := solidTokens_prefix t t'
    rw [← buildStrict_solidTokens] at hline ⊢
    rw [← hus]
    exact buildStrict_append_of_strayBrace hline us

/-- Below a stray brace and a statement, steps that never close are reported at their new line, and
the stray brace is what a strict reading refuses.  Below the statement alone, a strict reading
refuses the steps, at their new line. -/
theorem parse_append_break_openSteps :
    (parse ("\x7d\nmake".toList ++ '\n' :: "steps \x7b".toList)).notices
        = [.recovered (.strayBrace 1), .recovered (.openBlocks 1 Role.steps 3)] ∧
      parseStrict ("\x7d\nmake".toList ++ '\n' :: "steps \x7b".toList) = .error (.strayBrace 1) ∧
      parseStrict ("make".toList ++ '\n' :: "steps \x7b".toList)
        = .error (.openBlock Role.steps 2) := by
  have hstray : (parse "\x7d\nmake".toList).recoveries = [.strayBrace 1] := by decide +kernel
  have hsteps : (parse "steps \x7b".toList).recoveries = [.openBlocks 1 Role.steps 1] := by
    decide +kernel
  have hclosed : ∀ r ∈ (parse "\x7d\nmake".toList).recoveries, ∃ line, r = .strayBrace line := by
    rw [hstray]
    exact List.forall_mem_singleton.mpr ⟨1, rfl⟩
  obtain ⟨-, hlenient, -, hrefused⟩ :=
    parse_append_break "\x7d\nmake".toList "steps \x7b".toList
  obtain ⟨-, -, hstrict, -⟩ := parse_append_break "make".toList "steps \x7b".toList
  refine ⟨?_, hrefused 1 rfl, ?_⟩
  · rw [(hlenient hclosed).2, Parsed.notices, hstray, Parsed.notices, Parsed.renumber, hsteps]
    rfl
  · exact hstrict ⟨[.statement "make".toList]⟩ rfl

end Jenkinsfile
