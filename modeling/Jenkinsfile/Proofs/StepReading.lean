/-
# Steps between their braces

A step is checked as a line of its own.  In a file it stands between the header of its block and
the brace that closes the block (`stepsBlock`).  No script is open after the header, so that it is
read there as the same line, and what is read of the whole block follows from what that line is
(`parse_stepsBlock`):

* a statement is the only child of the block;
* a blank line leaves the block without children, and so does a brace that closes the block before
  its own;
* a header takes the brace of the block for its own, and a script takes it for one of its lines.
  Either way the block is never closed, and nothing is left of it.

So the check accepts the steps that are read back, and those only (`makeStage_singleton`).
-/
import Jenkinsfile.Proofs.InsertionContract
import Jenkinsfile.Proofs.LineSpan

namespace Jenkinsfile

/-! ## 1. The lines of a block of steps -/

/-- A block of steps, written with one line in it. -/
def stepsBlock (line : Text) : Text := "steps \x7b".toList ++ '\n' :: (line ++ '\n' :: ['\x7d'])

section Block

variable {line : Text}

theorem Text.splitOn_three_lines {first last : Text} (hfirst : '\n' ∉ first) (hline : '\n' ∉ line)
    (hlast : '\n' ∉ last) :
    (first ++ '\n' :: (line ++ '\n' :: last)).splitOn '\n' = [first, line, last] := by
  rw [List.splitOn_append_cons_self, List.splitOn_append_cons_self,
    List.splitOn_eq_singleton hfirst, List.splitOn_eq_singleton hline,
    List.splitOn_eq_singleton hlast]
  rfl

theorem splitOn_stepsBlock (h : '\n' ∉ line) :
    (stepsBlock line).splitOn '\n' = ["steps \x7b".toList, line, ['\x7d']] :=
  Text.splitOn_three_lines (by decide) h (by decide)

/-- The header is a line of its own, and so is the brace. -/
theorem tokenize_stepsBlock (h : '\n' ∉ line) :
    tokenize (stepsBlock line)
      = Token.ofLines 1 none ["steps \x7b".toList, line, ['\x7d']] := by
  have hlines : ((stepsBlock line).splitOn '\n').map Text.trim
      = List.replicate 0 [] ++ ["steps \x7b".toList, Text.trim line, ['\x7d']]
        ++ List.replicate 0 [] := by
    rw [splitOn_stepsBlock h]
    rfl
  have hspans : Text.Spans (((stepsBlock line).splitOn '\n').map Text.trim) 0 2 := by
    rw [hlines]
    refine Text.spans_padded (by simp) ?_ ?_ 0 0
    · intro first hfirst
      rw [← Option.some.inj hfirst]
      decide
    · intro last hlast
      obtain rfl : ['\x7d'] = last := Option.some.inj hlast
      decide
  rw [tokenize_eq_ofLines hspans, splitOn_stepsBlock h]
  exact Token.ofLines_map_trim 1 none ["steps \x7b".toList, line, ['\x7d']]

/-- The line is read outside of scripts, and the brace after whatever it opened. -/
theorem tokenize_stepsBlock_eq (h : '\n' ∉ line) :
    tokenize (stepsBlock line) =
      [⟨.blockOpen, Role.steps, 1⟩,
       ⟨(Line.classify (Text.trim line) none).kind, (Line.classify (Text.trim line) none).value, 2⟩,
       ⟨(Line.classify ['\x7d'] (Line.classify (Text.trim line) none).marker).kind,
         (Line.classify ['\x7d'] (Line.classify (Text.trim line) none).marker).value, 3⟩] := by
  have hheader : Line.classify (Text.trim "steps \x7b".toList) none
      = ⟨.blockOpen, Role.steps, none⟩ := by decide
  have hbrace : Text.trim ['\x7d'] = ['\x7d'] := by decide
  rw [tokenize_stepsBlock h]
  simp only [Token.ofLines, hheader, hbrace]
  rfl

/-! ## 2. What is read of it -/

/-- What is read of a block of steps around a line that was read as this. -/
def Line.stepsAround (l : Line) : List Element :=
  match l.kind with
  | .statement => [.block Role.steps [.statement l.value]]
  | .blank | .blockClose => [.block Role.steps []]
  | _ => []

/-- Within a script, a brace is one of its lines. -/
theorem classify_brace_inside {m : Text} (h : m ∈ Script.markers) :
    Line.classify ['\x7d'] (some m) = ⟨.scriptLine, ['\x7d'], some m⟩ := by
  simp only [Script.markers, List.mem_cons, List.not_mem_nil, or_false] at h
  rcases h with rfl | rfl
  · decide
  · decide

/-- **What is read of a block of steps** follows from what the line in it is. -/
theorem parse_stepsBlock (h : '\n' ∉ line) :
    (parse (stepsBlock line)).pipeline
      = ⟨(Line.classify (Text.trim line) none).stepsAround⟩ := by
  rw [parse, tokenize_stepsBlock_eq h]
  have hreads := Line.reads_classify (Text.trim line) none
  generalize Line.classify (Text.trim line) none = l at hreads
  cases hreads with
  | scriptOpen _ ho =>
    rw [classify_brace_inside (Script.marker_mem_of_opening? ho)]
    rfl
  | _ => rfl

/-- A block of steps is read back exactly if the line in it is a statement. -/
theorem stepsAround_eq_statement_iff :
    (Line.classify line none).stepsAround = [.block Role.steps [.statement line]] ↔
      (Line.classify line none).kind = .statement := by
  have hreads := Line.reads_classify line none
  generalize Line.classify line none = l at hreads
  cases hreads <;> simp [Line.stepsAround, Element.block]

/-- Outside of scripts, a line that is no statement is one of four kinds. -/
theorem kind_of_ne_statement (h : (Line.classify line none).kind ≠ .statement) :
    (Line.classify line none).kind ∈
      [LineKind.blank, .blockOpen, .blockClose, .scriptOpen] := by
  have hreads := Line.reads_classify line none
  generalize Line.classify line none = l at h hreads
  cases hreads <;> simp_all

end Block

/-! ## 3. The check -/

/-- **The check accepts exactly the steps that are read back.**  A step of one line makes a stage
exactly if the block of steps with its line is read as that block with the trimmed step as its
only child, a statement.  One that does not is refused with the kind that its line has there, and
it is blank, a header, a closing brace or the opening of a script.  A step with a line break or a
carriage return is refused. -/
theorem makeStage_singleton (name step : Text) :
    ('\n' ∉ step → '\r' ∉ step →
      ((∃ stage, makeStage name [step] = .ok stage) ↔
        (parse (stepsBlock step)).pipeline
          = ⟨[.block Role.steps [.statement (Text.trim step)]]⟩) ∧
      ∀ e, makeStage name [step] = .error e →
        ∃ token fault, (tokenize (stepsBlock step))[1]? = some token ∧ token.line = 2 ∧
          token.kind ∈ [LineKind.blank, .blockOpen, .blockClose, .scriptOpen] ∧
          e = .badStep step fault ∧
          fault.reason = "parses as ".toList ++ token.kind.label ++ ", not a statement".toList) ∧
    ('\n' ∈ step ∨ '\r' ∈ step →
      makeStage name [step] = .error (.badStep step .severalLines)) := by
  refine ⟨fun hn hr => ⟨?_, ?_⟩, ?_⟩
  · rw [parse_stepsBlock hn]
    simp only [makeStage_eq_ok_iff_accepted, List.forall_mem_singleton, exists_and_left,
      exists_eq, and_true, Pipeline.mk.injEq, stepsAround_eq_statement_iff]
    constructor
    · intro h
      exact h.kind
    · intro h
      exact ⟨hn, hr, h⟩
  · intro e he
    obtain ⟨good, bad, rest, fault, hsteps, -, hfault, rfl⟩ := makeStage_eq_error_iff.mp he
    obtain ⟨rfl, rfl, rfl⟩ : good = [] ∧ bad = step ∧ rest = [] := by
      cases good with
      | nil => simpa [eq_comm] using hsteps
      | cons => simp at hsteps
    cases hfault with
    | severalLines h => exact absurd h (by simp [hn, hr])
    | reads _ _ hkind =>
      rw [tokenize_stepsBlock_eq hn]
      exact ⟨_, _, rfl, rfl, kind_of_ne_statement hkind, rfl, rfl⟩
  · intro h
    exact makeStage_eq_error_iff.mpr ⟨[], step, [], _, rfl, by simp, .severalLines h, rfl⟩

/-- A step with blanks around it is read back without them, one that opens a script is refused as
that, and a carriage return is refused in the middle of a step too. -/
theorem makeStage_singleton_threeSteps :
    ((∃ stage, makeStage "A".toList [" make ".toList] = .ok stage) ∧
      (parse (stepsBlock " make ".toList)).pipeline
        = ⟨[.block Role.steps [.statement "make".toList]]⟩) ∧
    (∃ token fault, (tokenize (stepsBlock "sh '''".toList))[1]? = some token ∧
      token.kind = .scriptOpen ∧
      makeStage "A".toList ["sh '''".toList] = .error (.badStep "sh '''".toList fault) ∧
      fault.reason = "parses as SH_OPEN, not a statement".toList) ∧
    makeStage "A".toList ["a\rb".toList] = .error (.badStep "a\rb".toList .severalLines) := by
  refine ⟨?_, ?_, ?_⟩
  · obtain ⟨hread, -⟩ :=
      (makeStage_singleton "A".toList " make ".toList).1 (by decide) (by decide)
    have hmake : ∃ stage, makeStage "A".toList [" make ".toList] = .ok stage := ⟨_, rfl⟩
    exact ⟨hmake, hread.mp hmake⟩
  · obtain ⟨-, hrefused⟩ :=
      (makeStage_singleton "A".toList "sh '''".toList).1 (by decide) (by decide)
    cases hmake : makeStage "A".toList ["sh '''".toList] with
    | ok stage => exact absurd hmake (by rintro ⟨⟩)
    | error e =>
      obtain ⟨token, fault, htoken, -, -, rfl, hreason⟩ := hrefused e hmake
      obtain rfl := Option.some.inj htoken
      exact ⟨_, fault, rfl, rfl, rfl, hreason⟩
  · exact (makeStage_singleton "A".toList "a\rb".toList).2 (Or.inr (by decide))

end Jenkinsfile
