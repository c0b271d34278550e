/-
# Line numbers

A reading hands the line numbers of its tokens on, to open blocks, to an open script, to recoveries
and to refusals, and never looks at them.  So to number the lines of the tokens anew is to number
the lines of all that is read from them anew: `build_renumber` for lenient readings and
`buildStrict_renumber` for strict ones.  The tree has no line numbers, and stays as it is.

That a reading commutes with a change of the builder follows, whatever the change is, from what it
does to the four things that a token can do (`Builder.Carried`).
-/
import Jenkinsfile.Proofs.Building

namespace Jenkinsfile

/-! ## 1. Numbering anew -/

section Renumber

variable (f : Int → Int)

/-- The token at another line. -/
def Token.renumber (t : Token) : Token := { t with line := f t.line }

/-- The frame of a block that was opened at another line. -/
def Frame.renumber (frame : Frame) : Frame := { frame with line := f frame.line }

/-- The script that was opened at another line. -/
def OpenScript.renumber (s : OpenScript) : OpenScript := { s with line := f s.line }

/-- The recovery at another line. -/
def Recovery.renumber : Recovery → Recovery
  | .strayBrace line => .strayBrace (f line)
  | .openScript line => .openScript (f line)
  | .openBlocks count header line => .openBlocks count header (f line)

/-- The refusal at another line. -/
def ParseError.renumber : ParseError → ParseError
  | .strayBrace line => .strayBrace (f line)
  | .openScript line marker => .openScript (f line) marker
  | .openBlock header line => .openBlock header (f line)

/-- The builder with everything in it at other lines. -/
def Builder.renumber (b : Builder) : Builder :=
  ⟨b.elements, b.frames.map (Frame.renumber f), b.script.map (OpenScript.renumber f),
    b.recoveries.map (Recovery.renumber f)⟩

/-- The reading with everything it recovered from at other lines. -/
def Parsed.renumber (r : Parsed) : Parsed := ⟨r.pipeline, r.recoveries.map (Recovery.renumber f)⟩

end Renumber

/-! ## 2. Changes that a reading carries along -/

namespace Builder

/-- A change of builders that a reading carries along: what is done to a changed builder, at a line
that is numbered anew, is the change of what is done to the builder. -/
structure Carried (f : Int → Int) (φ : Builder → Builder) : Prop where
  frames (b : Builder) : (φ b).frames = b.frames.map (Frame.renumber f)
  add (b : Builder) (e : Element) : (φ b).add e = φ (b.add e)
  openBlock (b : Builder) (header : Text) (line : Int) :
    (φ b).openBlock header (f line) = φ (b.openBlock header line)
  closeBlock (b : Builder) (line : Int) : (φ b).closeBlock (f line) = φ (b.closeBlock line)
  setScript (b : Builder) (s : Option OpenScript) :
    (φ b).setScript (s.map (OpenScript.renumber f)) = φ (b.setScript s)

namespace Carried

variable {f : Int → Int} {φ : Builder → Builder}

/-- **A token does to a changed builder what it does to the builder.** -/
theorem step (h : Carried f φ) (b : Builder) (t : Token) :
    (φ b).step (t.renumber f) = φ (b.step t) := by
  obtain ⟨kind, value, line⟩ := t
  cases kind with
  | blank => rfl
  | blockOpen => exact h.openBlock b value line
  | blockClose => exact h.closeBlock b line
  | scriptOpen =>
    show ((φ b).add _).setScript _ = _
    rw [h.add]
    exact h.setScript _ (some ⟨line, markerOf value⟩)
  | scriptClose =>
    show ((φ b).add _).setScript _ = _
    rw [h.add]
    exact h.setScript _ none
  | _ => exact h.add b _

theorem foldl_step (h : Carried f φ) (ts : List Token) (b : Builder) :
    (ts.map (Token.renumber f)).foldl Builder.step (φ b) = φ (ts.foldl Builder.step b) := by
  induction ts generalizing b with
  | nil => rfl
  | cons t ts ih => rw [List.map_cons, List.foldl_cons, h.step, ih, List.foldl_cons]

theorem strictStep (h : Carried f φ) (b : Builder) (t : Token) :
    (φ b).strictStep (t.renumber f)
      = ((b.strictStep t).map φ).mapError (ParseError.renumber f) := by
  have hframes : (φ b).frames.isEmpty = b.frames.isEmpty := by
    rw [h.frames]
    cases b.frames <;> rfl
  have hkind : (t.renumber f).kind = t.kind := rfl
  rw [Builder.strictStep, Builder.strictStep, hframes, hkind, h.step]
  by_cases hstray : t.kind = .blockClose ∧ b.frames.isEmpty
  · rw [if_pos hstray, if_pos hstray]
    rfl
  · rw [if_neg hstray, if_neg hstray]
    rfl

theorem foldlM_strictStep (h : Carried f φ) (ts : List Token) (b : Builder) :
    (ts.map (Token.renumber f)).foldlM Builder.strictStep (φ b)
      = ((ts.foldlM Builder.strictStep b).map φ).mapError (ParseError.renumber f) := by
  induction ts generalizing b with
  | nil => rfl
  | cons t ts ih =>
    rw [List.map_cons, List.foldlM_cons, List.foldlM_cons, h.strictStep]
    cases b.strictStep t with
    | error e => rfl
    | ok b' => exact ih b'

end Carried

/-! ## 3. Lenient readings -/

variable (f : Int → Int) (b : Builder)

theorem add_renumber (e : Element) : (b.renumber f).add e = (b.add e).renumber f := by
  obtain ⟨elements, frames, script, recoveries⟩ := b
  cases frames <;> rfl

theorem closeBlock_renumber (line : Int) :
    (b.renumber f).closeBlock (f line) = (b.closeBlock line).renumber f := by
  obtain ⟨elements, frames, script, recoveries⟩ := b
  cases frames with
  | nil => simp [closeBlock, renumber, Recovery.renumber]
  | cons frame frames => exact add_renumber f ⟨elements, frames, script, recoveries⟩ frame.close

/-- **A reading hands line numbers on and does not look at them.** -/
theorem carried_renumber : Carried f (renumber f) where
  frames _ := rfl
  add := add_renumber f
  openBlock _ _ _ := rfl
  closeBlock := closeBlock_renumber f
  setScript _ _ := rfl

theorem finish_renumber : (b.renumber f).finish = b.finish.renumber f := by
  obtain ⟨elements, frames, script, recoveries⟩ := b
  have hend : (renumber f ⟨elements, frames, script, recoveries⟩).endRecoveries
      = (endRecoveries ⟨elements, frames, script, recoveries⟩).map (Recovery.renumber f) := by
    rw [endRecoveries, endRecoveries, renumber]
    cases script <;> cases h : frames.getLast? <;>
      simp [h, Recovery.renumber, Frame.renumber, OpenScript.renumber]
  rw [finish, hend, finish, Parsed.renumber, List.map_append]
  rfl

end Builder

/-- **What is read from tokens at other lines** is what is read from the tokens, at those lines. -/
theorem build_renumber (f : Int → Int) (ts : List Token) :
    build (ts.map (Token.renumber f)) = (build ts).renumber f := by
  have hempty : Builder.empty = Builder.empty.renumber f := rfl
  rw [build, hempty, (Builder.carried_renumber f).foldl_step, Builder.finish_renumber, build]

/-! ## 4. Strict readings -/

theorem Builder.strictFinish_renumber (f : Int → Int) (b : Builder) :
    (b.renumber f).strictFinish = b.strictFinish.mapError (ParseError.renumber f) := by
  obtain ⟨elements, frames, script, recoveries⟩ := b
  cases script <;> cases frames <;> rfl

/-- **What is refused in tokens at other lines** is what is refused in the tokens, at that line. -/
theorem buildStrict_renumber (f : Int → Int) (ts : List Token) :
    buildStrict (ts.map (Token.renumber f))
      = (buildStrict ts).mapError (ParseError.renumber f) := by
  have hempty : Builder.empty = Builder.empty.renumber f := rfl
  rw [buildStrict, hempty, (Builder.carried_renumber f).foldlM_strictStep, buildStrict]
  cases ts.foldlM Builder.strictStep .empty with
  | error e => rfl
  | ok b => exact Builder.strictFinish_renumber f b

end Jenkinsfile
