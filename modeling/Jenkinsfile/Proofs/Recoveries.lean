/-
# What a reading recovers from, and what it refuses

While tokens are read, the builder keeps track of what has no partner among them
(`Builder.Tracks`): a recovery for every stray closing, a frame for every unclosed opening, from the
innermost out, and a script if the last token that opens or closes one opens it.  One more token
keeps it so (`Tracks.step`), so the end of the tokens is known from the tokens alone:

* `warnings` are the recoveries of a lenient reading (`recoveries_build`);
* `refusal?` is what a strict reading refuses them for, if it does (`buildStrict_eq`).

The first of the warnings is what the refusal is about (`refused_head_warnings`).
-/
import Jenkinsfile.Proofs.LoneBrackets
import Jenkinsfile.Proofs.ParsedTree

namespace Jenkinsfile

open Brackets

/-! ## 1. Unclosed scripts -/

/-- The last token that opens or closes a script, if it opens one. -/
def unclosedScript? (ts : List Token) : Option Token :=
  (ts.reverse.find? fun t => t.kind = .scriptOpen ∨ t.kind = .scriptClose).filter
    (·.kind = .scriptOpen)

theorem unclosedScript?_concat (ts : List Token) (t : Token) :
    unclosedScript? (ts ++ [t])
      = if t.kind = .scriptOpen then some t else if t.kind = .scriptClose then none
        else unclosedScript? ts := by
  rw [unclosedScript?, List.reverse_concat, List.find?_cons, unclosedScript?]
  cases hkind : t.kind <;> simp [hkind]

/-- **An unclosed script** is opened by a token after which no token opens or closes one. -/
theorem unclosedScript?_eq_some_iff {ts : List Token} {o : Token} :
    unclosedScript? ts = some o ↔ ∃ a b, ts = a ++ o :: b ∧ o.kind = .scriptOpen ∧
      ∀ t ∈ b, t.kind ≠ .scriptOpen ∧ t.kind ≠ .scriptClose := by
  rw [unclosedScript?, Option.filter_eq_some_iff, List.find?_eq_some_iff_append]
  constructor
  · rintro ⟨⟨-, b, a, hts, hb⟩, ho⟩
    refine ⟨a.reverse, b.reverse, ?_, by simpa using ho, ?_⟩
    · rw [← List.reverse_reverse ts, hts]
      simp
    · intro t ht
      simpa using hb t (List.mem_reverse.mp ht)
  · rintro ⟨a, b, rfl, ho, hb⟩
    refine ⟨⟨by simp [ho], b.reverse, a.reverse, by simp, ?_⟩, by simp [ho]⟩
    intro t ht
    simpa using hb t (List.mem_reverse.mp ht)

theorem mem_of_unclosedScript? {ts : List Token} {o : Token} (h : unclosedScript? ts = some o) :
    o ∈ ts := by
  obtain ⟨a, b, rfl, -⟩ := unclosedScript?_eq_some_iff.mp h
  simp

/-! ## 2. What the builder keeps track of -/

/-- Where a token stands and what it says. -/
def Token.opening (t : Token) : Text × Int := (t.value, t.line)

namespace Builder

/-- The headers of the open blocks and where they were opened, from the innermost out. -/
def openings (b : Builder) : List (Text × Int) := b.frames.map fun f => (f.header, f.line)

theorem openings_add (b : Builder) (e : Element) : (b.add e).openings = b.openings := by
  obtain ⟨elements, frames, script, recoveries⟩ := b
  cases frames <;> rfl

theorem openings_step (b : Builder) (t : Token) :
    (b.step t).openings
      = if t.kind = .blockOpen then t.opening :: b.openings
        else if t.kind = .blockClose then b.openings.tail
        else b.openings := by
  obtain ⟨kind, value, line⟩ := t
  obtain ⟨elements, frames, script, recoveries⟩ := b
  cases kind with
  | blank => rfl
  | blockOpen => rfl
  | blockClose =>
    cases frames with
    | nil => rfl
    | cons f frames => exact openings_add _ _
  | _ => exact openings_add _ _

/-- The builder knows what has no partner among the tokens. -/
structure Tracks (ts : List Token) (b : Builder) : Prop where
  recoveries : b.recoveries = (strays [] ts).map fun c => .strayBrace c.line
  openings : b.openings = (unclosed ts).reverse.map Token.opening
  script : b.script = (unclosedScript? ts).map fun o => ⟨o.line, markerOf o.value⟩

namespace Tracks

variable {ts : List Token} {b : Builder}

theorem empty : Tracks [] Builder.empty := ⟨rfl, rfl, rfl⟩

/-- A block is open in the builder exactly where one is open in the tokens. -/
theorem frames_eq_nil_iff (h : Tracks ts b) : b.frames = [] ↔ unclosed ts = [] := by
  have hopenings : b.frames = [] ↔ b.openings = [] := List.map_eq_nil_iff.symm
  rw [hopenings, h.openings, List.map_eq_nil_iff, List.reverse_eq_nil_iff]

/-- **One more token is kept track of.** -/
theorem step (h : Tracks ts b) (t : Token) : Tracks (ts ++ [t]) (b.step t) where
  recoveries := by
    have hframes : b.frames = [] ↔ depth ts = 0 := by
      rw [h.frames_eq_nil_iff, ← length_unclosed, List.length_eq_zero_iff]
    rw [recoveries_step, strays_concat, h.recoveries, List.map_append]
    simp only [hframes]
    split <;> rfl
  openings := by
    rw [openings_step, unclosed_concat, h.openings]
    split
    · rw [List.reverse_concat, List.map_cons]
    · split
      · rw [← List.map_tail, List.tail_reverse]
      · rfl
  script := by
    rw [script_of_step, unclosedScript?_concat, h.script]
    split
    · rfl
    · split <;> rfl

end Tracks

/-- **What has been read is kept track of.** -/
theorem tracks_foldl (ts : List Token) : Tracks ts (ts.foldl step .empty) := by
  induction ts using List.reverseRecOn with
  | nil => exact .empty
  | append_singleton ts t ih =>
    rw [List.foldl_append]
    exact ih.step t

end Builder

/-! ## 3. Lenient readings -/

/-- What a lenient reading of tokens recovers from: each stray closing, then an unclosed script,
then all unclosed blocks, of which the outermost is named. -/
def warnings (ts : List Token) : List Recovery :=
  (strays [] ts).map (fun c => .strayBrace c.line)
    ++ ((unclosedScript? ts).map fun o => .openScript o.line).toList
    ++ ((unclosed ts).head?.map fun o =>
        .openBlocks (unclosed ts).length o.value o.line).toList

theorem Builder.endRecoveries_eq (b : Builder) :
    b.endRecoveries = (b.script.map fun s => Recovery.openScript s.line).toList
      ++ (b.openings.getLast?.map fun o => Recovery.openBlocks b.openings.length o.1 o.2).toList := by
  rw [endRecoveries, openings, List.getLast?_map, List.length_map, Option.map_map]
  rfl

/-- **A lenient reading recovers from exactly what has no partner.** -/
theorem recoveries_build (ts : List Token) : (build ts).recoveries = warnings ts := by
  have h := Builder.tracks_foldl ts
  rw [build, Builder.finish, Builder.endRecoveries_eq, h.recoveries, h.openings, h.script, warnings,
    List.getLast?_map, List.getLast?_reverse, List.length_map, List.length_reverse, Option.map_map,
    Option.map_map, List.append_assoc]
  rfl

/-! ## 4. Strict readings -/

/-- What a strict reading refuses tokens for: the first stray closing, or else an unclosed script,
or else the innermost unclosed block. -/
def refusal? (ts : List Token) : Option ParseError :=
  match (strays [] ts).head?, unclosedScript? ts, (unclosed ts).getLast? with
  | some c, _, _ => some (.strayBrace c.line)
  | none, some o, _ => some (.openScript o.line (Builder.markerOf o.value))
  | none, none, some o => some (.openBlock o.value o.line)
  | none, none, none => none

namespace Builder

/-- The end of tokens without a stray closing. -/
theorem Tracks.strictFinish_eq {ts : List Token} {b : Builder} (h : Tracks ts b)
    (hstrays : strays [] ts = []) :
    b.strictFinish = match refusal? ts with
      | some e => .error e
      | none => .ok ⟨b.elements⟩ := by
  have hscript := h.script
  have hinnermost : b.frames.head?.map (fun f => (f.header, f.line))
      = (unclosed ts).getLast?.map Token.opening := by
    rw [← List.head?_map, ← List.head?_reverse, ← List.head?_map, ← h.openings, Builder.openings]
  rw [refusal?, hstrays, List.head?_nil, strictFinish]
  cases ho : unclosedScript? ts with
  | some o => rw [hscript, ho]; rfl
  | none =>
    rw [hscript, ho]
    cases hframes : b.frames with
    | nil =>
      rw [hframes] at hinnermost
      rw [Option.map_eq_none_iff.mp hinnermost.symm]
      rfl
    | cons f frames =>
      rw [hframes] at hinnermost
      obtain ⟨o, hlast, hopening⟩ := Option.map_eq_some_iff.mp hinnermost.symm
      obtain ⟨hvalue, hline⟩ := Prod.mk.inj hopening
      rw [hlast]
      show Except.error (ParseError.openBlock f.header f.line) = .error (.openBlock o.value o.line)
      rw [hvalue, hline]

/-- The first stray closing ends a strict reading. -/
theorem foldlM_strictStep_of_stray {ts rest : List Token} {c : Token}
    (h : strays [] ts = c :: rest) :
    ts.foldlM strictStep .empty = .error (.strayBrace c.line) := by
  obtain ⟨a, r, rfl, hc, ha, hdepth⟩ := exists_of_strays_eq_cons h
  have htracks := tracks_foldl a
  have hbefore : a.foldlM strictStep .empty = .ok (a.foldl step .empty) := by
    refine foldlM_strictStep_eq_ok_iff.mpr ⟨rfl, ?_⟩
    rw [htracks.recoveries, ha]
    rfl
  have hframes : (a.foldl step .empty).frames = [] := by
    rw [htracks.frames_eq_nil_iff, ← List.length_eq_zero_iff, length_unclosed, hdepth]
  rw [List.foldlM_append, hbefore]
  show (c :: r).foldlM strictStep _ = _
  rw [List.foldlM_cons, strictStep, hframes, if_pos ⟨hc, rfl⟩]
  rfl

end Builder

/-- **A strict reading refuses exactly what has no partner**, and reads the same tree where it
refuses nothing. -/
theorem buildStrict_eq (ts : List Token) :
    buildStrict ts = match refusal? ts with
      | some e => .error e
      | none => .ok (build ts).pipeline := by
  rw [buildStrict]
  cases hstrays : strays [] ts with
  | cons c rest =>
    rw [Builder.foldlM_strictStep_of_stray hstrays, refusal?, hstrays]
    rfl
  | nil =>
    have htracks := Builder.tracks_foldl ts
    have hread : ts.foldlM Builder.strictStep .empty = .ok (ts.foldl Builder.step .empty) := by
      refine Builder.foldlM_strictStep_eq_ok_iff.mpr ⟨rfl, ?_⟩
      rw [htracks.recoveries, hstrays]
      rfl
    rw [hread]
    exact htracks.strictFinish_eq hstrays

theorem buildStrict_eq_error_iff {ts : List Token} {e : ParseError} :
    buildStrict ts = .error e ↔ refusal? ts = some e := by
  rw [buildStrict_eq]
  cases refusal? ts <;> simp

theorem exists_buildStrict_eq_ok_iff {ts : List Token} :
    (∃ p, buildStrict ts = .ok p) ↔ refusal? ts = none := by
  rw [buildStrict_eq]
  cases refusal? ts <;> simp

/-! ## 5. Warnings and refusals -/

/-- The refusal is about what the recovery is from. -/
inductive Recovery.Refused : Recovery → ParseError → Prop
  | strayBrace (line : Int) : Refused (.strayBrace line) (.strayBrace line)
  | openScript (line : Int) (marker : Text) : Refused (.openScript line) (.openScript line marker)
  | openBlocks (count : Nat) (outermost innermost : Text) (first last : Int) :
      Refused (.openBlocks count outermost first) (.openBlock innermost last)

/-- Tokens are refused if a lenient reading warns of something, for the first thing it warns of. -/
theorem refused_head_warnings (ts : List Token) :
    (refusal? ts = none ∧ warnings ts = []) ∨
      ∃ e r rest, refusal? ts = some e ∧ warnings ts = r :: rest ∧ r.Refused e := by
  rw [refusal?, warnings]
  cases hstrays : strays [] ts with
  | cons c rest => exact Or.inr ⟨_, _, _, rfl, rfl, .strayBrace _⟩
  | nil =>
    cases hscript : unclosedScript? ts with
    | some o => exact Or.inr ⟨_, _, _, rfl, rfl, .openScript _ _⟩
    | none =>
      cases hlast : (unclosed ts).getLast? with
      | none =>
        rw [List.getLast?_eq_none_iff.mp hlast]
        exact Or.inl ⟨rfl, rfl⟩
      | some o =>
        obtain ⟨first, hfirst⟩ : ∃ first, (unclosed ts).head? = some first := by
          cases hunclosed : unclosed ts with
          | nil => rw [hunclosed] at hlast; exact absurd hlast (by simp)
          | cons first rest => exact ⟨first, rfl⟩
        rw [hfirst]
        exact Or.inr ⟨_, _, _, rfl, rfl, .openBlocks _ _ _ _ _⟩

end Jenkinsfile
