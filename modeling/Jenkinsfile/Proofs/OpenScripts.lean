/-
# The script that stands open

While a document is read, the script that stands open is known twice.  The lines are read under its
quotes, which every line hands on to the next one; and the builder holds the line of its step with
its quotes, which it finds a second time in the text of that line.  Where blocks open and close
depends on the quotes, and what a strict reading refuses depends on the builder's script.

* `marker_foldl_of_tokenize_eq_append`: the builder's script has the quotes that stand open;
* `scriptsQuoted_tokenize`: the builder finds quotes in every line that opens a script;
* `kind_of_mem_upToClosing`: under quotes there are only lines of the script until it closes, and
  these keep the open blocks, as all tokens do in which every block closes (`Balanced.sameBlocks`);
* `sameScript_of_tokenize_eq_append`: all of this together, after any first tokens of a document.
-/
import Jenkinsfile.Proofs.LineSpan
import Jenkinsfile.Proofs.LooseReading

namespace Jenkinsfile

open Brackets

/-! ## 1. The same script -/

/-- The quotes that stand open after some tokens, and the script that is open in the builder. -/
inductive SameScript (before : List Token) : Option Text → Option OpenScript → Prop
  /-- No quotes stand open, and no script is open. -/
  | closed : SameScript before none none
  /-- The open script is the one that the last opening among the tokens opens, which no token
  closes again, and it has the quotes that stand open. -/
  | opened {a b : List Token} {o : Token} (m : Text) (h : before = a ++ o :: b)
      (ho : o.kind = .scriptOpen) (hb : ∀ t ∈ b, t.kind ≠ .scriptOpen ∧ t.kind ≠ .scriptClose) :
      SameScript before (some m) (some ⟨o.line, m⟩)

/-- The script in the builder is the one that the last opening opens. -/
theorem Builder.Tracks.sameScript {ts : List Token} {b : Builder} (h : Tracks ts b) :
    SameScript ts (b.script.map (·.marker)) b.script := by
  rw [h.script]
  cases ho : unclosedScript? ts with
  | none => exact .closed
  | some o =>
    obtain ⟨a, c, hts, hopen, hc⟩ := unclosedScript?_eq_some_iff.mp ho
    exact .opened _ hts hopen hc

/-- The quotes of the script that stands open after the first lines of a document. -/
def openQuotes (t : Text) (k : Nat) : Option Text :=
  Line.markerAfter none (((Text.documentLines t).take k).map Text.trim)

/-- The first tokens of a document are those of its first lines, and the others are those of the
lines below, read under the quotes that stand open there. -/
theorem eq_of_tokenize_eq_append {t : Text} {before after : List Token}
    (h : tokenize t = before ++ after) :
    before = Token.ofLines (1 + (Text.leadingBlanks t).count '\n') none
        ((Text.documentLines t).take before.length) ∧
      after = Token.ofLines (1 + (Text.leadingBlanks t).count '\n' + before.length)
        (openQuotes t before.length) ((Text.documentLines t).drop before.length) :=
  Token.eq_of_ofLines_eq_append h

/-- **The builder's script has the quotes that stand open**, after any first tokens of a
document. -/
theorem marker_foldl_of_tokenize_eq_append {t : Text} {before after : List Token}
    (h : tokenize t = before ++ after) :
    (before.foldl Builder.step .empty).script.map (·.marker) = openQuotes t before.length := by
  have hempty : Builder.empty.script.map (·.marker) = none := rfl
  have hmarker := Builder.marker_foldl_ofLines hempty
    (1 + (Text.leadingBlanks t).count '\n') ((Text.documentLines t).take before.length)
  rwa [← (eq_of_tokenize_eq_append h).1] at hmarker

/-! ## 2. Lines that open a script -/

/-- **Every line that opens a script has the quotes it opens.** -/
theorem scriptsQuoted_ofLines (n : Nat) (m : Option Text) (raws : List Text) :
    ScriptsQuoted (Token.ofLines n m raws) := by
  induction raws generalizing n m with
  | nil => simp [Token.ofLines, ScriptsQuoted]
  | cons raw raws ih =>
    refine List.forall_mem_cons.mpr ⟨fun hkind => ?_, ih _ _⟩
    obtain ⟨s, hs, -⟩ := Line.exists_start_of_scriptOpen hkind
    exact Option.isSome_iff_exists.mpr ⟨s, hs⟩

theorem scriptsQuoted_tokenize (t : Text) : ScriptsQuoted (tokenize t) :=
  scriptsQuoted_ofLines _ _ _

/-! ## 3. Lines of a script -/

/-- The kinds of the lines that stand in a script, the one that closes it among them. -/
def LineKind.inScript : List LineKind := [.scriptOpen, .scriptLine, .scriptClose, .blank]

/-- A line under quotes is a line of the script, and the script goes on after it unless it closes
it. -/
theorem Line.classify_inside (line m : Text) :
    (classify line (some m)).kind ∈ LineKind.inScript ∧
      ((classify line (some m)).kind ≠ .scriptClose →
        ∃ m', (classify line (some m)).marker = some m') := by
  have hreads := reads_classify line (some m)
  generalize classify line (some m) = l at hreads
  cases hreads <;> simp [LineKind.inScript]

/-- The first tokens up to one that closes a script, with that one. -/
def upToClosing : List Token → List Token
  | [] => []
  | t :: ts => if t.kind = .scriptClose then [t] else t :: upToClosing ts

/-- **Under quotes there are only lines of the script until it closes.** -/
theorem kind_of_mem_upToClosing (n : Nat) (m : Text) (raws : List Text) :
    ∀ t ∈ upToClosing (Token.ofLines n (some m) raws), t.kind ∈ LineKind.inScript := by
  -- the quotes are not fixed: a line may open the script anew under others
  induction raws generalizing n m with
  | nil => simp [Token.ofLines, upToClosing]
  | cons raw raws ih =>
    obtain ⟨hkind, hopen⟩ := Line.classify_inside (Text.trim raw) m
    rw [Token.ofLines, upToClosing]
    split
    · exact List.forall_mem_singleton.mpr hkind
    · rename_i hne
      obtain ⟨m', hm'⟩ := hopen hne
      rw [hm']
      exact List.forall_mem_cons.mpr ⟨hkind, ih (n + 1) m'⟩

/-! ## 4. Open blocks -/

/-- The same blocks are open, and nothing is new but children of the innermost one. -/
inductive SameBlocks : List Frame → List Frame → Prop
  | outside : SameBlocks [] []
  | inside (f : Frame) (frames : List Frame) (es : List Element) :
      SameBlocks (f :: frames) ({ f with children := f.children ++ es } :: frames)

theorem sameBlocks_addAll (b : Builder) (es : List Element) :
    SameBlocks b.frames (b.addAll es).frames := by
  cases hframes : b.frames with
  | nil =>
    rw [Builder.addAll_of_frames_nil hframes]
    dsimp only
    rw [hframes]
    exact .outside
  | cons f frames =>
    rw [Builder.addAll_of_frames_cons hframes]
    exact .inside f frames es

/-- **Tokens in which every block closes keep the open blocks.** -/
theorem Brackets.Balanced.sameBlocks {ts : List Token} (h : Balanced ts) (b : Builder) :
    SameBlocks b.frames (ts.foldl Builder.step b).frames := by
  obtain ⟨es, s, -, hs⟩ := Builder.exists_foldl_step_eq h b
  rw [hs]
  exact sameBlocks_addAll b es

/-- A strict reading does not refuse them. -/
theorem Brackets.Balanced.foldlM_strictStep {ts : List Token} (h : Balanced ts) (b : Builder) :
    ts.foldlM Builder.strictStep b = .ok (ts.foldl Builder.step b) := by
  obtain ⟨es, s, -, hs⟩ := Builder.exists_foldl_step_eq h b
  refine Builder.foldlM_strictStep_eq_ok_iff.mpr ⟨rfl, ?_⟩
  rw [hs, Builder.setScript_recoveries, Builder.recoveries_addAll]

theorem balanced_of_inScript {ts : List Token} (h : ∀ t ∈ ts, t.kind ∈ LineKind.inScript) :
    Balanced ts := by
  induction ts with
  | nil => exact .nil
  | cons t ts ih =>
    obtain ⟨ht, hts⟩ := List.forall_mem_cons.mp h
    refine .other ?_ ?_ (ih hts)
    · intro hopen
      rw [hopen] at ht
      exact absurd ht (by decide)
    · intro hclose
      rw [hclose] at ht
      exact absurd ht (by decide)

/-! ## 5. Documents -/

/-- **The two are the same script**, after any first tokens of a document that are read, leniently
or strictly.  The tokens that follow are those of the lines below, read under the quotes that stand
open there, and the builder's script is the one that the last opening opened, with these quotes.
While quotes stand open, everything up to the next closing of a script is a line of the script or
blank, is not refused, and keeps the open blocks.  And no reading of the tokens of a document meets
one that opens a script without quotes. -/
theorem sameScript_of_tokenize_eq_append {t : Text} {before after : List Token}
    (h : tokenize t = before ++ after) {b : Builder}
    (hb : before.foldl Builder.step .empty = b ∨
      before.foldlM Builder.strictStep .empty = .ok b) :
    after = Token.ofLines (1 + (Text.leadingBlanks t).count '\n' + before.length)
        (openQuotes t before.length) ((Text.documentLines t).drop before.length) ∧
      SameScript before (openQuotes t before.length) b.script ∧
      (openQuotes t before.length ≠ none → ∀ body, body <+: upToClosing after →
        (∀ token ∈ body, token.kind ∈ LineKind.inScript) ∧
          body.foldlM Builder.strictStep b = .ok (body.foldl Builder.step b) ∧
          SameBlocks b.frames (body.foldl Builder.step b).frames) ∧
      ScriptsQuoted (tokenize t) ∧
      ∀ strict, (LooseToken.buildAs strict ((tokenize t).map Token.loose)).result
        ≠ .error .noQuotes := by
  have hread : before.foldl Builder.step .empty = b := by
    rcases hb with hb | hb
    · exact hb
    · exact (Builder.foldlM_strictStep_eq_ok_iff.mp hb).1
  have hafter := (eq_of_tokenize_eq_append h).2
  refine ⟨hafter, ?_, ?_, scriptsQuoted_tokenize t, fun strict => ?_⟩
  · have hscript := (Builder.tracks_foldl before).sameScript
    rwa [marker_foldl_of_tokenize_eq_append h, hread] at hscript
  · intro hopen body hbody
    obtain ⟨m, hm⟩ := Option.ne_none_iff_exists'.mp hopen
    have hkinds : ∀ token ∈ body, token.kind ∈ LineKind.inScript := by
      intro token htoken
      have hmem : token ∈ upToClosing after := hbody.subset htoken
      rw [hafter, hm] at hmem
      exact kind_of_mem_upToClosing _ m _ token hmem
    -- lines of a script open and close no block
    have hbalanced : Balanced body := balanced_of_inScript hkinds
    exact ⟨hkinds, hbalanced.foldlM_strictStep b, hbalanced.sameBlocks b⟩
  · exact LooseToken.buildAs_ne_noQuotes (scriptsQuoted_tokenize t) strict

/-- Steps with a script that is opened again under other quotes before it closes. -/
def reopenedScript : Text :=
  "steps \x7b\n  sh '''\n    bat \"\"\"\n\n    make '''\n  \"\"\")\n\x7d".toList

/-- On the blank line the script stands open that the third line opens, under its quotes and not
under those of the second line, and the steps stay open until it closes. -/
theorem sameScript_reopenedScript :
    ∃ before after b, tokenize reopenedScript = before ++ after ∧
      before.map (·.kind) = [.blockOpen, .scriptOpen, .scriptOpen, .blank] ∧
      before.foldlM Builder.strictStep .empty = .ok b ∧
      openQuotes reopenedScript before.length = some Script.doubleQuotes ∧
      b.script = some ⟨3, Script.doubleQuotes⟩ ∧
      SameScript before (some Script.doubleQuotes) b.script ∧
      (upToClosing after).map (·.kind) = [.scriptLine, .scriptClose] ∧
      SameBlocks b.frames ((upToClosing after).foldl Builder.step b).frames := by
  have hsplit : tokenize reopenedScript
      = (tokenize reopenedScript).take 4 ++ (tokenize reopenedScript).drop 4 :=
    (List.take_append_drop 4 _).symm
  have hread : ((tokenize reopenedScript).take 4).foldlM Builder.strictStep .empty
      = .ok (((tokenize reopenedScript).take 4).foldl Builder.step .empty) := rfl
  have hquotes : openQuotes reopenedScript ((tokenize reopenedScript).take 4).length
      = some Script.doubleQuotes := by decide
  obtain ⟨-, hscript, hinside, -, -⟩ := sameScript_of_tokenize_eq_append hsplit (.inr hread)
  rw [hquotes] at hscript hinside
  obtain ⟨-, -, hblocks⟩ := hinside (by simp) _ List.prefix_rfl
  exact ⟨_, _, _, hsplit, rfl, hread, hquotes, rfl, hscript, rfl, hblocks⟩

end Jenkinsfile
