/-
# Tokens that know their lines

Tokens from elsewhere are read by their positions, and each position is turned into a line at the
end.  Where every token knows its line, and those that open a script have its quotes, nothing can go
wrong on the way: reading them is the same as reading the tokens with their lines
(`build_map_loose`, `buildStrict_map_loose`).
-/
import Jenkinsfile.Parse.Loose
import Jenkinsfile.Proofs.LineNumbers
import Jenkinsfile.Proofs.Recoveries

namespace Jenkinsfile

open Brackets

/-! ## 1. Lines that are named

Recoveries and refusals name lines of tokens, and no others. -/

/-- The line a recovery points at. -/
def Recovery.line : Recovery → Int
  | .strayBrace line | .openScript line | .openBlocks _ _ line => line

theorem exists_line_of_mem_warnings {ts : List Token} {r : Recovery} (h : r ∈ warnings ts) :
    ∃ t ∈ ts, r.line = t.line := by
  simp only [warnings, List.mem_append, List.mem_map, Option.mem_toList, Option.map_eq_some_iff]
    at h
  rcases h with (⟨c, hc, rfl⟩ | ⟨o, ho, rfl⟩) | ⟨o, ho, rfl⟩
  · exact ⟨c, mem_of_mem_strays hc, rfl⟩
  · exact ⟨o, mem_of_unclosedScript? ho, rfl⟩
  · exact ⟨o, mem_of_mem_unclosed (List.mem_of_mem_head? ho), rfl⟩

theorem exists_line_of_refusal? {ts : List Token} {e : ParseError} (h : refusal? ts = some e) :
    ∃ t ∈ ts, e.line = t.line := by
  rw [refusal?] at h
  split at h
  · rename_i c hc
    obtain rfl := Option.some.inj h
    exact ⟨c, mem_of_mem_strays (List.mem_of_mem_head? hc), rfl⟩
  · rename_i o _ ho
    obtain rfl := Option.some.inj h
    exact ⟨o, mem_of_unclosedScript? ho, rfl⟩
  · rename_i o _ _ ho
    obtain rfl := Option.some.inj h
    exact ⟨o, mem_of_mem_unclosed (List.mem_of_mem_getLast? ho), rfl⟩
  · exact absurd h (by simp)

/-! ## 2. Positions and lines -/

/-- The token as one from elsewhere. -/
def Token.loose (t : Token) : LooseToken := ⟨t.kind, t.value, some t.line⟩

/-- Every token that opens a script has its quotes. -/
def ScriptsQuoted (ts : List Token) : Prop :=
  ∀ t ∈ ts, t.kind = .scriptOpen → (Script.start? t.value).isSome = true

instance (ts : List Token) : Decidable (ScriptsQuoted ts) :=
  inferInstanceAs (Decidable (∀ t ∈ ts, t.kind = .scriptOpen → (Script.start? t.value).isSome = true))

namespace LooseToken

/-- The line of the token at a position. -/
def lineOf (ts : List Token) (i : Int) : Int := ((ts[i.toNat]?).map (·.line)).getD 0

theorem takeWhile_isReadable {ts : List Token} (h : ScriptsQuoted ts) :
    (ts.map Token.loose).takeWhile isReadable = ts.map Token.loose := by
  refine List.takeWhile_eq_self_iff.mpr ?_
  rw [List.forall_mem_map]
  intro t ht
  rw [isReadable, Bool.or_eq_true, decide_eq_true_eq]
  by_cases hkind : t.kind = .scriptOpen
  · exact Or.inr (h t ht hkind)
  · exact Or.inl hkind

/-- The placed tokens at their lines are the tokens. -/
theorem map_renumber_placed (ts : List Token) :
    (placed (ts.map Token.loose)).map (Token.renumber (lineOf ts)) = ts := by
  refine List.ext_getElem (by simp [placed]) fun n _ hn => ?_
  simp [placed, Token.renumber, Token.loose, lineOf, hn]

/-- The line of every placed token is known. -/
theorem lineAt_of_mem_placed {ts : List Token} {t : Token}
    (h : t ∈ placed (ts.map Token.loose)) :
    lineAt (ts.map Token.loose) t.line = some (lineOf ts t.line) := by
  obtain ⟨⟨l, n⟩, hl, rfl⟩ := List.mem_map.mp h
  have hn : n < ts.length := by simpa using (List.mem_zipIdx hl).2.1
  simp [lineAt, lineOf, Token.loose, hn]

/-! ## 3. Lenient readings -/

section Lenient

variable {tokens : List LooseToken} {f : Int → Int}

theorem recoveryAt_eq_renumber {r : Recovery} (h : lineAt tokens r.line = some (f r.line)) :
    recoveryAt tokens r = some (r.renumber f) := by
  cases r <;> exact congrArg (Option.map _) h

/-- Recoveries at known lines are noted, and the reading goes on to its result. -/
theorem note_eq {recoveries : List Recovery}
    (h : ∀ r ∈ recoveries, lineAt tokens r.line = some (f r.line))
    (result : Except LooseError Pipeline) :
    note tokens recoveries result = ⟨recoveries.map (Recovery.renumber f), result⟩ := by
  have hnoted : recoveries.map (recoveryAt tokens)
      = (recoveries.map (Recovery.renumber f)).map some := by
    rw [List.map_map]
    exact List.map_congr_left fun r hr => recoveryAt_eq_renumber (h r hr)
  have hall : ((recoveries.map (Recovery.renumber f)).map some).all Option.isSome = true := by
    simp
  rw [note, hnoted, if_pos hall, List.filterMap_map]
  simp

end Lenient

/-- A script whose line is known stays open. -/
theorem settle_eq {tokens : List LooseToken} {b : Builder}
    (h : ∀ s ∈ b.script, (lineAt tokens s.line).isSome = true) : settle tokens b = b := by
  obtain ⟨elements, frames, script, recoveries⟩ := b
  cases script with
  | none => rfl
  | some s => rw [settle, Option.filter_some, if_pos (h s rfl)]

theorem settle_foldl (ts : List Token) :
    settle (ts.map Token.loose) ((placed (ts.map Token.loose)).foldl Builder.step .empty)
      = (placed (ts.map Token.loose)).foldl Builder.step .empty := by
  refine settle_eq fun s hs => ?_
  rw [(Builder.tracks_foldl _).script] at hs
  obtain ⟨o, ho, rfl⟩ := Option.map_eq_some_iff.mp hs
  rw [lineAt_of_mem_placed (mem_of_unclosedScript? ho)]
  rfl

/-- **Tokens from elsewhere that know their lines are read like any others**, and nothing goes
wrong. -/
theorem build_map_loose {ts : List Token} (h : ScriptsQuoted ts) :
    build (ts.map Token.loose) = ⟨(Jenkinsfile.build ts).recoveries,
      .ok (Jenkinsfile.build ts).pipeline⟩ := by
  have hrenumber := build_renumber (lineOf ts) (placed (ts.map Token.loose))
  rw [map_renumber_placed] at hrenumber
  have hread : ¬ (ts.map Token.loose).length < (ts.map Token.loose).length := Nat.lt_irrefl _
  rw [build, takeWhile_isReadable h]
  dsimp only
  rw [if_neg hread, settle_foldl, hrenumber]
  refine note_eq (fun r hr => ?_) _
  have hr' : r ∈ warnings (placed (ts.map Token.loose)) := by
    rw [← recoveries_build]
    exact hr
  obtain ⟨t, ht, hline⟩ := exists_line_of_mem_warnings hr'
  rw [hline]
  exact lineAt_of_mem_placed ht

/-! ## 4. Strict readings -/

/-- A strict reading of placed tokens, with each refusal turned into one at its line. -/
theorem buildStrict_map_loose_eq {ts : List Token} (h : ScriptsQuoted ts) :
    buildStrict (ts.map Token.loose)
      = (Jenkinsfile.buildStrict (placed (ts.map Token.loose))).mapError
          (refusalAt (ts.map Token.loose)) := by
  have hread : ¬ (ts.map Token.loose).length < (ts.map Token.loose).length := Nat.lt_irrefl _
  rw [buildStrict, takeWhile_isReadable h, Jenkinsfile.buildStrict]
  cases hfold : (placed (ts.map Token.loose)).foldlM Builder.strictStep .empty with
  | error e => rfl
  | ok b =>
    obtain ⟨rfl, -⟩ := Builder.foldlM_strictStep_eq_ok_iff.mp hfold
    show (if _ then _ else _) = _
    rw [if_neg hread, settle_foldl]
    rfl

end LooseToken

/-- The refusal that names its line, if that is known. -/
def LooseError.located? : LooseError → Option ParseError
  | .refused error (some line) => some (error.renumber fun _ => line)
  | _ => none

namespace LooseToken

/-- **Tokens from elsewhere that know their lines are refused like any others**, and for nothing
else. -/
theorem buildStrict_map_loose {ts : List Token} (h : ScriptsQuoted ts) :
    (buildStrict (ts.map Token.loose)).mapError LooseError.located?
      = (Jenkinsfile.buildStrict ts).mapError some := by
  have hrenumber := buildStrict_renumber (lineOf ts) (placed (ts.map Token.loose))
  rw [map_renumber_placed] at hrenumber
  rw [buildStrict_map_loose_eq h, hrenumber]
  cases hplaced : Jenkinsfile.buildStrict (placed (ts.map Token.loose)) with
  | ok p => rfl
  | error e =>
    obtain ⟨t, ht, hline⟩ := exists_line_of_refusal? (buildStrict_eq_error_iff.mp hplaced)
    have hknown : lineAt (ts.map Token.loose) e.line = some (lineOf ts e.line) := by
      rw [hline]
      exact lineAt_of_mem_placed ht
    show Except.error (LooseError.located? (refusalAt _ e)) = .error (some (e.renumber _))
    rw [refusalAt, hknown]
    cases e <;> rfl

/-- They are never taken to open a script without quotes. -/
theorem buildAs_ne_noQuotes {ts : List Token} (h : ScriptsQuoted ts) (strict : Bool) :
    (buildAs strict (ts.map Token.loose)).result ≠ .error .noQuotes := by
  cases strict with
  | false =>
    show (build (ts.map Token.loose)).result ≠ _
    rw [build_map_loose h]
    simp
  | true =>
    intro hresult
    have hstrict : buildStrict (ts.map Token.loose) = .error .noQuotes := hresult
    have hlocated := buildStrict_map_loose h
    rw [hstrict] at hlocated
    cases hbuild : Jenkinsfile.buildStrict ts with
    | ok p =>
      rw [hbuild] at hlocated
      exact absurd hlocated (by simp [Except.mapError])
    | error e =>
      rw [hbuild] at hlocated
      exact absurd hlocated (by simp [Except.mapError, LooseError.located?])

end LooseToken

end Jenkinsfile
