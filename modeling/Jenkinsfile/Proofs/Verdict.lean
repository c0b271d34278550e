/-
# The verdict on a list of tokens

Whether tokens are refused, and for what, can be told by counting brackets and by looking at the
last token that opens or closes a script.  `Verdict` says how; `buildStrict_eq_error_iff_verdict`
says that a strict reading gives this verdict and no other.

A lenient reading gives a tree in any case, and warns of all it recovers from.  The two agree
(`build_warns`): a strict reading accepts exactly what a lenient one does not warn of, with the same
tree, and refuses everything else for the first thing it is warned of.
-/
import Jenkinsfile.Notice
import Jenkinsfile.Proofs.LooseReading

namespace Jenkinsfile

open Brackets

/-! ## 1. Strict readings -/

/-- What tokens are refused for, if they are. -/
inductive Verdict (ts : List Token) : Option ParseError → Prop
  /-- This is the first closing by which more blocks have closed than opened; what comes after it
  does not matter. -/
  | strayBrace {a b : List Token} {c : Token} (h : ts = a ++ c :: b) (hc : c.kind = .blockClose)
      (hbefore : NeverBelow a) (hbelow : balance (a ++ [c]) < 0) :
      Verdict ts (some (.strayBrace c.line))
  /-- No closing is stray, and the last token that opens or closes a script opens one with these
  quotes; whether blocks are open does not matter. -/
  | openScript {o : Token} {s : Script.Start} (hbalance : NeverBelow ts)
      (ho : unclosedScript? ts = some o) (hs : Script.start? o.value = some s) :
      Verdict ts (some (.openScript o.line s.marker))
  /-- No closing is stray and no script is open, but blocks are, and this is the last opening
  without a partner. -/
  | openBlock {o : Token} (hbalance : NeverBelow ts) (hscript : unclosedScript? ts = none)
      (hopen : 0 < balance ts) (ho : (unclosed ts).getLast? = some o) :
      Verdict ts (some (.openBlock o.value o.line))
  /-- No closing is stray, no script is open, and as many blocks have closed as opened. -/
  | accepted (hbalance : NeverBelow ts) (hscript : unclosedScript? ts = none)
      (hclosed : balance ts = 0) : Verdict ts none

/-- A closing that takes the balance below zero for the first time is the first stray one. -/
theorem strays_of_below {a : List Token} {c : Token} (b : List Token) (hbefore : NeverBelow a)
    (hbelow : balance (a ++ [c]) < 0) : ∃ rest, strays [] (a ++ c :: b) = c :: rest := by
  rw [balance_concat, hbefore.balance_eq_depth, add_weight_neg_iff] at hbelow
  have hfirst : strays [] (a ++ [c]) = [c] := by
    rw [strays_concat, strays_eq_nil_iff.mpr hbefore, if_pos hbelow, List.nil_append]
  rw [List.append_cons, strays_append, hfirst]
  exact ⟨_, rfl⟩

/-- The verdict is no other than what is refused. -/
theorem Verdict.refusal?_eq {ts : List Token} {v : Option ParseError} (h : Verdict ts v) :
    refusal? ts = v := by
  cases h with
  | @strayBrace a b c h _ hbefore hbelow =>
    obtain ⟨rest, hstrays⟩ := strays_of_below b hbefore hbelow
    rw [refusal?, h, hstrays]
    rfl
  | openScript hbalance ho hs =>
    rw [refusal?, strays_eq_nil_iff.mpr hbalance, ho, ← Builder.markerOf_eq hs]
    rfl
  | openBlock hbalance hscript _ ho =>
    rw [refusal?, strays_eq_nil_iff.mpr hbalance, hscript, ho]
    rfl
  | accepted hbalance hscript hclosed =>
    rw [hbalance.balance_eq_length] at hclosed
    have hunclosed : unclosed ts = [] := List.length_eq_zero_iff.mp (by omega)
    rw [refusal?, strays_eq_nil_iff.mpr hbalance, hscript, hunclosed]
    rfl

/-- What is refused is a verdict, where every script that is opened has its quotes. -/
theorem verdict_refusal? {ts : List Token} (h : ScriptsQuoted ts) : Verdict ts (refusal? ts) := by
  cases hstrays : strays [] ts with
  | cons c rest =>
    obtain ⟨a, b, hts, hc, ha, hdepth⟩ := exists_of_strays_eq_cons hstrays
    have hbefore : NeverBelow a := strays_eq_nil_iff.mp ha
    have hbelow : balance (a ++ [c]) < 0 := by
      rw [balance_concat, hbefore.balance_eq_depth, add_weight_neg_iff]
      exact ⟨hc, hdepth⟩
    rw [refusal?, hstrays]
    exact .strayBrace hts hc hbefore hbelow
  | nil =>
    have hbalance : NeverBelow ts := strays_eq_nil_iff.mp hstrays
    rw [refusal?, hstrays]
    cases ho : unclosedScript? ts with
    | some o =>
      obtain ⟨a, b, hts, hopen, -⟩ := unclosedScript?_eq_some_iff.mp ho
      obtain ⟨s, hs⟩ := Option.isSome_iff_exists.mp (h o (mem_of_unclosedScript? ho) hopen)
      have hverdict := Verdict.openScript hbalance ho hs
      rwa [← Builder.markerOf_eq hs] at hverdict
    | none =>
      cases hlast : (unclosed ts).getLast? with
      | some o =>
        have hpos : 0 < (unclosed ts).length :=
          List.length_pos_of_mem (List.mem_of_mem_getLast? hlast)
        refine .openBlock hbalance ho ?_ hlast
        rw [hbalance.balance_eq_length]
        omega
      | none =>
        refine .accepted hbalance ho ?_
        rw [hbalance.balance_eq_length, List.getLast?_eq_none_iff.mp hlast]
        rfl

theorem verdict_iff {ts : List Token} (h : ScriptsQuoted ts) {v : Option ParseError} :
    Verdict ts v ↔ refusal? ts = v := by
  constructor
  · exact Verdict.refusal?_eq
  · rintro rfl
    exact verdict_refusal? h

/-- **A strict reading gives the verdict**, and nothing else: it refuses for exactly one reason, at
its line, or accepts.  So does a strict reading of tokens from elsewhere. -/
theorem buildStrict_eq_error_iff_verdict {ts : List Token} (h : ScriptsQuoted ts) :
    (∀ e, buildStrict ts = .error e ↔ Verdict ts (some e)) ∧
      ((∃ p, buildStrict ts = .ok p) ↔ Verdict ts none) ∧
      (LooseToken.buildStrict (ts.map Token.loose)).mapError LooseError.located?
        = (buildStrict ts).mapError some := by
  refine ⟨fun e => ?_, ?_, LooseToken.buildStrict_map_loose h⟩
  · rw [verdict_iff h, buildStrict_eq_error_iff]
  · rw [verdict_iff h, exists_buildStrict_eq_ok_iff]

/-- An open script is refused although the block it stands in is open too. -/
theorem buildStrict_eq_error_openScript :
    ScriptsQuoted [⟨.blockOpen, Role.steps, 1⟩, ⟨.scriptOpen, "sh '''".toList, 2⟩] ∧
      buildStrict [⟨.blockOpen, Role.steps, 1⟩, ⟨.scriptOpen, "sh '''".toList, 2⟩]
        = .error (.openScript 2 Script.singleQuotes) := by
  have hquoted : ScriptsQuoted
      [⟨.blockOpen, Role.steps, 1⟩, ⟨.scriptOpen, "sh '''".toList, 2⟩] := by decide
  refine ⟨hquoted, ((buildStrict_eq_error_iff_verdict hquoted).1 _).mpr ?_⟩
  have hbalance : NeverBelow [⟨.blockOpen, Role.steps, 1⟩, ⟨.scriptOpen, "sh '''".toList, 2⟩] :=
    strays_eq_nil_iff.mp (by decide)
  exact .openScript (s := ⟨Script.singleQuotes, []⟩) hbalance rfl (by decide)

/-! ## 2. Lenient readings -/

/-- **A lenient reading warns of all it recovers from**, and never fails; a strict one accepts
exactly what it does not warn of, with the same tree, and refuses all else for the first thing that
it warns of. -/
theorem build_warns {ts : List Token} (h : ScriptsQuoted ts) :
    LooseToken.build (ts.map Token.loose) = ⟨warnings ts, .ok (build ts).pipeline⟩ ∧
      (build ts).notices = (warnings ts).map .recovered ∧
      (∀ p, buildStrict ts = .ok p ↔ warnings ts = [] ∧ (build ts).pipeline = p) ∧
      ∀ r rest, warnings ts = r :: rest → ∃ e, buildStrict ts = .error e ∧ r.Refused e := by
  refine ⟨?_, ?_, fun p => ?_, fun r rest hwarnings => ?_⟩
  · rw [LooseToken.build_map_loose h, recoveries_build]
  · rw [Parsed.notices, recoveries_build]
  · rw [buildStrict_eq_ok_iff, recoveries_build]
  · obtain ⟨-, hnone⟩ | ⟨e, r', rest', he, hwarnings', hrefused⟩ := refused_head_warnings ts
    · rw [hnone] at hwarnings
      exact absurd hwarnings (by simp)
    · rw [hwarnings'] at hwarnings
      obtain ⟨rfl, -⟩ := List.cons.inj hwarnings
      exact ⟨e, buildStrict_eq_error_iff.mpr he, hrefused⟩

/-- A document with a stray closing, an unclosed script and two unclosed blocks. -/
def nothingCloses : List Token :=
  [⟨.blockClose, ['\x7d'], 1⟩, ⟨.blockOpen, Role.stages, 2⟩, ⟨.blockOpen, Role.steps, 3⟩,
    ⟨.scriptOpen, "sh '''".toList, 4⟩]

/-- All of it is warned of, and the stray closing is what it is refused for. -/
theorem build_warns_nothingCloses :
    ScriptsQuoted nothingCloses ∧
      (build nothingCloses).notices = [.recovered (.strayBrace 1), .recovered (.openScript 4),
        .recovered (.openBlocks 2 Role.stages 2)] ∧
      ∃ e, buildStrict nothingCloses = .error e ∧ Recovery.Refused (.strayBrace 1) e := by
  have hquoted : ScriptsQuoted nothingCloses := by decide
  have hwarnings : warnings nothingCloses
      = [.strayBrace 1, .openScript 4, .openBlocks 2 Role.stages 2] := by decide
  obtain ⟨-, hnotices, -, hrefused⟩ := build_warns hquoted
  refine ⟨hquoted, ?_, hrefused _ _ hwarnings⟩
  rw [hnotices, hwarnings]
  rfl

end Jenkinsfile
