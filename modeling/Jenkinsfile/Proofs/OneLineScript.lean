/-
# Scripts that end on the line they start on

A script may end on the line it starts on, where its quotes come again
(`Script.Start.ClosesOnLine`).  Such a line should be a statement like any other, and the lines
below it should have nothing to do with the script.

What a line opens is decided by how it ends.  If the quotes are the last thing on it, spaces and
closing parentheses apart (`Script.Start.ClosesAtEnd`), the line is read on its own; if anything
else follows them, the line opens a script that takes the lines below it:

* `readOnItsOwn_iff_closesAtEnd`: a line that starts a script is read on its own exactly if it ends
  with the quotes of the script;
* `not_readOnItsOwn_beforeComment`: quotes that come again in front of a comment, and the steps
  that are lost to them.
-/
import Jenkinsfile.Proofs.LineSpan

namespace Jenkinsfile

/-! ## 1. Quotes that come again -/

namespace Script

/-- The quotes of the script come again on the line it starts on. -/
def Start.ClosesOnLine (s : Start) : Prop := s.marker <:+: s.rest

/-- They are the last thing on the line, spaces and closing parentheses apart. -/
def Start.ClosesAtEnd (s : Start) : Prop :=
  ∃ script tail, s.rest = script ++ s.marker ++ tail ∧ ∀ c ∈ tail, c = ' ' ∨ c = ')'

theorem Start.ClosesAtEnd.closesOnLine {s : Start} (h : s.ClosesAtEnd) : s.ClosesOnLine := by
  obtain ⟨script, tail, hrest, -⟩ := h
  exact ⟨script, tail, hrest.symm⟩

/-- A text ends with quotes if they are the last thing in it, spaces and closing parentheses
apart. -/
theorem endsWith_iff {m t : Text} (hm : m ∈ markers) :
    endsWith m t = true ↔
      ∃ script tail, t = script ++ m ++ tail ∧ ∀ c ∈ tail, c = ' ' ∨ c = ')' := by
  unfold endsWith
  rw [List.isSuffixOf_iff_suffix]
  constructor
  · rintro ⟨script, hscript⟩
    obtain ⟨tail, htail, ht⟩ := Text.exists_eq_dropEndWhile (fun c => c = ' ' || c = ')') t
    refine ⟨script, tail, ?_, ?_⟩
    · rw [hscript, ← ht]
    · intro c hc
      simpa using htail c hc
  · rintro ⟨script, tail, rfl, htail⟩
    have hcut : ∀ c ∈ tail, (c = ' ' || c = ')') = true := by
      intro c hc
      simpa using htail c hc
    rw [Text.dropEndWhile_append hcut]
    -- nothing more is cut off, since quotes are neither spaces nor parentheses
    obtain ⟨q, hq, rfl⟩ := exists_of_mem_markers hm
    have hspace : q ≠ ' ' := ne_of_isQuote hq (by decide)
    have hparenthesis : q ≠ ')' := ne_of_isQuote hq (by decide)
    have hkeep : Text.dropEndWhile (fun c => c = ' ' || c = ')') (script ++ [q, q] ++ [q])
        = script ++ [q, q] ++ [q] :=
      List.rdropWhile_concat_neg _ _ _ (by simp [hspace, hparenthesis])
    refine ⟨script, ?_⟩
    simpa using hkeep.symm

theorem closesAtEnd_iff {line : Text} {s : Start} (hs : start? line = some s) :
    s.ClosesAtEnd ↔ endsWith s.marker s.rest = true :=
  (endsWith_iff (marker_mem_of_start? hs)).symm

/-- A line that starts a script leaves it open unless it ends with its quotes. -/
theorem opening?_of_start? {line : Text} {s : Start} (hs : start? line = some s) :
    opening? line = none ↔ s.ClosesAtEnd := by
  rw [closesAtEnd_iff hs, opening?, hs]
  cases h : endsWith s.marker s.rest <;> simp [h]

end Script

/-! ## 2. A token and those after it -/

/-- A token among those of several lines is that of one of them, and the tokens after it are those
of the lines after it. -/
theorem Token.exists_of_ofLines_eq_append {n : Nat} {m : Option Text} {raws : List Text}
    {before after : List Token} {token : Token} (h : ofLines n m raws = before ++ token :: after) :
    ∃ above raw below, raws = above ++ raw :: below ∧
      token = ⟨(Line.classify (Text.trim raw) (Line.markerAfter m (above.map Text.trim))).kind,
        (Line.classify (Text.trim raw) (Line.markerAfter m (above.map Text.trim))).value,
        (n + above.length : Nat)⟩ ∧
      after = ofLines (n + above.length + 1)
        (Line.markerAfter m ((above ++ [raw]).map Text.trim)) below := by
  obtain ⟨hbefore, hafter⟩ := eq_of_ofLines_eq_append h
  have hlength : (raws.take before.length).length = before.length := by
    rw [← length_ofLines n m (raws.take before.length), ← hbefore]
  have hraws := List.take_append_drop before.length raws
  cases hbelow : raws.drop before.length with
  | nil =>
    rw [hbelow] at hafter
    exact absurd hafter (by simp [ofLines])
  | cons raw below =>
    rw [hbelow, ofLines] at hafter
    obtain ⟨rfl, rfl⟩ := List.cons.inj hafter
    rw [hbelow] at hraws
    refine ⟨raws.take before.length, raw, below, hraws.symm, ?_, ?_⟩
    · rw [hlength]
    · rw [hlength, List.map_append, Line.markerAfter_append]
      rfl

/-- A token of a text is that of one of its lines, read after the lines above that one, and the
tokens after it are those of the lines below. -/
theorem exists_lines_of_tokenize_eq_append {t : Text} {before after : List Token} {token : Token}
    (h : tokenize t = before ++ token :: after) :
    ∃ above line below rest,
      (t.splitOn '\n').map Text.trim = above ++ line :: (below ++ rest) ∧
      token = ⟨(Line.classify line (Line.markerAfter none above)).kind,
        (Line.classify line (Line.markerAfter none above)).value, (above.length + 1 : Nat)⟩ ∧
      after = Token.ofLines (above.length + 2) (Line.markerAfter none (above ++ [line])) below := by
  obtain ⟨above, raw, below, hdocument, rfl, rfl⟩ := Token.exists_of_ofLines_eq_append h
  obtain ⟨n, hlines⟩ := Text.map_trim_splitOn t
  generalize (Text.leadingBlanks t).count '\n' = k at hlines ⊢
  -- the lines in front of the document are blank, and nothing is open after them
  have hopen : ∀ lines, Line.markerAfter none (List.replicate k [] ++ lines)
      = Line.markerAfter none lines := by
    intro lines
    have hblank := Line.markerAfter_replicate none k
    rw [List.map_replicate, Text.trim_nil] at hblank
    rw [Line.markerAfter_append, hblank]
  have hnumber : (List.replicate k ([] : Text) ++ above.map Text.trim).length
      = k + above.length := by
    simp
  refine ⟨List.replicate k [] ++ above.map Text.trim, Text.trim raw, below.map Text.trim,
    List.replicate n [], ?_, ?_, ?_⟩
  · rw [hlines, hdocument]
    simp
  · rw [hopen, hnumber]
    congr 2
    omega
  · rw [List.append_assoc, hopen, hnumber, Token.ofLines_map_trim, List.map_append]
    congr 1
    omega

/-- The quotes of the script that stands open before a line of a text, counted from zero. -/
def quotesBefore (t : Text) (k : Nat) : Option Text :=
  Line.markerAfter none (((t.splitOn '\n').map Text.trim).take k)

/-- **A token is that of the line with its number**, read under the quotes that stand open before
that line, and the tokens after it are those of the lines below. -/
theorem token_of_tokenize_eq_append {t : Text} {before after : List Token} {token : Token}
    (h : tokenize t = before ++ token :: after) {k : Nat} (hnumber : token.line = k + 1)
    {line : Text} (hline : ((t.splitOn '\n').map Text.trim)[k]? = some line) :
    token.kind = (Line.classify line (quotesBefore t k)).kind ∧
      quotesBefore t (k + 1) = (Line.classify line (quotesBefore t k)).marker ∧
      after = Token.ofLines (k + 2) (quotesBefore t (k + 1))
        ((((t.splitOn '\n').map Text.trim).drop (k + 1)).take after.length) := by
  obtain ⟨above, line', below, rest, hlines, rfl, rfl⟩ := exists_lines_of_tokenize_eq_append h
  obtain rfl : above.length = k := by
    dsimp only at hnumber
    omega
  unfold quotesBefore
  rw [hlines] at hline ⊢
  obtain rfl : line' = line := by simpa using hline
  have hsplit : above ++ line' :: (below ++ rest) = (above ++ [line']) ++ (below ++ rest) := by
    simp
  have htake : (above ++ line' :: (below ++ rest)).take (above.length + 1) = above ++ [line'] := by
    rw [hsplit]
    exact List.take_left' (by simp)
  have hdrop : (above ++ line' :: (below ++ rest)).drop (above.length + 1) = below ++ rest := by
    rw [hsplit]
    exact List.drop_left' (by simp)
  rw [htake, hdrop, List.take_left, Token.length_ofLines, List.take_left]
  refine ⟨rfl, ?_, rfl⟩
  rw [Line.markerAfter_append]
  rfl

/-! ## 3. Lines that start a script -/

/-- The quotes that a line opens stand open after it, whatever script it stands in. -/
theorem Line.classify_of_opening? {line m : Text} (h : Script.opening? line = some m)
    (m' : Option Text) : classify line m' = ⟨.scriptOpen, line, some m⟩ := by
  have hreads := reads_classify line m'
  generalize classify line m' = l at hreads
  cases hreads with
  | blank hnil =>
    have hnone : Script.opening? [] = none := by decide
    rw [hnil, hnone] at h
    exact absurd h (by simp)
  | blockClose hbrace =>
    have hnone : Script.opening? ['\x7d'] = none := by decide
    rw [hbrace, hnone] at h
    exact absurd h (by simp)
  | _ => simp_all

/-- A line that opens nothing is no opening, and outside of scripts nothing is open after it. -/
theorem Line.classify_of_opening?_eq_none {line : Text} (h : Script.opening? line = none)
    (m : Option Text) :
    (classify line m).kind ≠ .scriptOpen ∧ (m = none → (classify line m).marker = none) := by
  have hreads := reads_classify line m
  generalize classify line m = l at hreads
  cases hreads with
  | scriptOpen _ ho =>
    rw [h] at ho
    exact absurd ho (by simp)
  | _ => simp

/-- The token of a line that is read on its own.  It opens no script, and outside of scripts none
is open after it: the tokens after it are those of the lines below as they are read where no script
is open. -/
structure Token.ReadOnItsOwn (token : Token) (t : Text) (k : Nat) (after : List Token) : Prop where
  kind : token.kind ≠ .scriptOpen
  closed : quotesBefore t k = none → quotesBefore t (k + 1) = none
  below : quotesBefore t k = none → after = Token.ofLines (k + 2) none
    ((((t.splitOn '\n').map Text.trim).drop (k + 1)).take after.length)

/-- **A line that starts a script is read on its own exactly if it ends with the quotes of the
script**, spaces and closing parentheses apart.  So the quotes have to come again on the line, but
that is not enough: where anything else follows them, the line opens the script, and it is open
after the line. -/
theorem readOnItsOwn_iff_closesAtEnd {t : Text} {before after : List Token} {token : Token}
    (htokens : tokenize t = before ++ token :: after) {k : Nat} (hnumber : token.line = k + 1)
    {line : Text} (hline : ((t.splitOn '\n').map Text.trim)[k]? = some line) {s : Script.Start}
    (hs : Script.start? line = some s) :
    (s.ClosesAtEnd → s.ClosesOnLine) ∧
      (token.ReadOnItsOwn t k after ↔ s.ClosesAtEnd) ∧
      (¬ s.ClosesAtEnd →
        token.kind = .scriptOpen ∧ quotesBefore t (k + 1) = some s.marker) := by
  obtain ⟨hkind, hquotes, hafter⟩ := token_of_tokenize_eq_append htokens hnumber hline
  have hopen : ¬ s.ClosesAtEnd →
      token.kind = .scriptOpen ∧ quotesBefore t (k + 1) = some s.marker := by
    intro hend
    have hopening : Script.opening? line = some s.marker := by
      rw [Script.closesAtEnd_iff hs, Bool.not_eq_true] at hend
      exact Script.opening?_eq_some_iff.mpr ⟨s, hs, hend, rfl⟩
    rw [hkind, hquotes, Line.classify_of_opening? hopening]
    exact ⟨rfl, rfl⟩
  refine ⟨Script.Start.ClosesAtEnd.closesOnLine, ⟨?_, ?_⟩, hopen⟩
  · intro hown
    by_contra hend
    exact hown.kind (hopen hend).1
  · intro hend
    obtain ⟨hne, hnone⟩ :=
      Line.classify_of_opening?_eq_none ((Script.opening?_of_start? hs).mpr hend) (quotesBefore t k)
    have hclosed : quotesBefore t k = none → quotesBefore t (k + 1) = none := by
      intro houtside
      rw [hquotes]
      exact hnone houtside
    refine ⟨by rwa [hkind], hclosed, fun houtside => ?_⟩
    rw [hclosed houtside] at hafter
    exact hafter

/-- Steps of which the first is a script on one line, with something behind it. -/
def scriptThenTest (behind : String) : Text :=
  "steps \x7b\n  sh('''make''')".toList ++ behind.toList ++ "\n  test\n\x7d".toList

/-- With nothing but a blank behind it, the script is a step like the one below it. -/
theorem readOnItsOwn_scriptThenTest :
    ∃ before token after, tokenize (scriptThenTest " ") = before ++ token :: after ∧
      token.line = 2 ∧ token.ReadOnItsOwn (scriptThenTest " ") 1 after ∧
      after.map (·.kind) = [.statement, .blockClose] := by
  have htokens : ∃ first token after, tokenize (scriptThenTest " ") = [first] ++ token :: after ∧
      token.line = 2 ∧ after.map (·.kind) = [.statement, .blockClose] :=
    ⟨_, _, _, rfl, rfl, rfl⟩
  obtain ⟨first, token, after, htokens, hnumber, hkinds⟩ := htokens
  have hline : (((scriptThenTest " ").splitOn '\n').map Text.trim)[1]? =
      some "sh('''make''')".toList := by decide
  have hstart : Script.start? "sh('''make''')".toList =
      some ⟨Script.singleQuotes, "make''')".toList⟩ := by decide
  have hend : Script.Start.ClosesAtEnd ⟨Script.singleQuotes, "make''')".toList⟩ :=
    ⟨"make".toList, [')'], by decide, by simp⟩
  have hown := (readOnItsOwn_iff_closesAtEnd htokens hnumber hline hstart).2.1.mpr hend
  exact ⟨[first], token, after, htokens, hnumber, hown, hkinds⟩

/-- **With a comment behind it, the script takes the lines below.**  Its quotes come again on the
line, but the line opens it; the step below is a line of the script, and so is the brace, so that
nothing is left of the block. -/
theorem not_readOnItsOwn_beforeComment :
    ∃ before token after s, tokenize (scriptThenTest " // all") = before ++ token :: after ∧
      token.line = 2 ∧ Script.start? token.value = some s ∧ s.ClosesOnLine ∧
      quotesBefore (scriptThenTest " // all") 1 = none ∧ token.kind = .scriptOpen ∧
      ¬ token.ReadOnItsOwn (scriptThenTest " // all") 1 after ∧
      after.map (·.kind) = [.scriptLine, .scriptLine] ∧
      (parse (scriptThenTest " // all")).pipeline.elements = [] := by
  refine ⟨[_], _, _, ⟨Script.singleQuotes, "make''') // all".toList⟩, rfl, rfl, by decide,
    ⟨"make".toList, ") // all".toList, by decide⟩, by decide, rfl, ?_, rfl, rfl⟩
  intro hown
  exact hown.kind rfl

end Jenkinsfile
