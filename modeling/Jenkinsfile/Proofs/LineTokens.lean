/-
# The tokens of the lines of a text

A document is trimmed as a whole before it is cut into lines, and its tokens are numbered by the
line breaks that went with the blanks in front.  Cut the text into lines as it is, and nothing but
blank tokens is new: at every place where a token is not blank, it is the token of the line of the
text with that number (`solidTokens_eq_ofLines`).

So texts can be put together line by line.  A text with another one below has the tokens of the
first one, and then those of the second one at the lines where it stands now, provided that the
first one leaves no quotes open (`solidTokens_append_break`).
-/
import Jenkinsfile.Proofs.Layout
import Jenkinsfile.Proofs.ParsedTree

namespace Jenkinsfile

/-! ## 1. Tokens of lines -/

/-- Blank lines leave the quotes as they are. -/
theorem Line.markerAfter_replicate (m : Option Text) (k : Nat) :
    markerAfter m ((List.replicate k []).map Text.trim) = m := by
  induction k with
  | zero => rfl
  | succ k ih =>
    rw [List.replicate_succ, List.map_cons, Text.trim_nil, markerAfter_cons, classify_nil]
    exact ih

namespace Token

/-- Blanks around a line do not change its token. -/
theorem ofLines_congr {as bs : List Text} (h : as.map Text.trim = bs.map Text.trim) (n : Nat)
    (m : Option Text) : ofLines n m as = ofLines n m bs := by
  induction as generalizing bs n m with
  | nil => rw [List.map_eq_nil_iff.mp h.symm]
  | cons a as ih =>
    cases bs with
    | nil => exact absurd h (by simp)
    | cons b bs =>
      obtain ⟨hline, hlines⟩ := List.cons.inj h
      rw [ofLines, hline, ih hlines, ofLines]

theorem ofLines_map_trim (n : Nat) (m : Option Text) (raws : List Text) :
    ofLines n m (raws.map Text.trim) = ofLines n m raws := by
  refine ofLines_congr ?_ n m
  rw [List.map_map]
  exact List.map_congr_left fun raw _ => Text.trim_trim raw

theorem ofLines_append (n : Nat) (m : Option Text) (as bs : List Text) :
    ofLines n m (as ++ bs)
      = ofLines n m as ++ ofLines (n + as.length) (Line.markerAfter m (as.map Text.trim)) bs := by
  induction as generalizing n m with
  | nil => rfl
  | cons a as ih =>
    rw [List.cons_append, ofLines, ih, ofLines, List.cons_append, List.map_cons,
      Line.markerAfter_cons, List.length_cons, Nat.add_assoc, Nat.add_comm 1]

/-- Lines further down have the same tokens at other lines. -/
theorem ofLines_add (n k : Nat) (m : Option Text) (raws : List Text) :
    ofLines (n + k) m raws = (ofLines n m raws).map (renumber (· + k)) := by
  induction raws generalizing n m with
  | nil => rfl
  | cons raw raws ih =>
    rw [ofLines, Nat.add_right_comm, ih, ofLines, List.map_cons]
    rfl

theorem filter_ofLines_replicate (n : Nat) (m : Option Text) (k : Nat) :
    (ofLines n m (List.replicate k [])).filter (·.kind ≠ .blank) = [] := by
  induction k generalizing n with
  | zero => rfl
  | succ k ih =>
    rw [List.replicate_succ, ofLines, Text.trim_nil, Line.classify_nil,
      List.filter_cons_of_neg (by simp)]
    exact ih (n + 1)

end Token

/-! ## 2. Tokens of texts -/

/-- **The tokens of a text that are not blank are those of its lines**, with the numbers that the
lines have in the text. -/
theorem solidTokens_eq_ofLines (t : Text) :
    solidTokens t = (Token.ofLines 1 none (t.splitOn '\n')).filter (·.kind ≠ .blank) := by
  obtain ⟨k, h⟩ := Text.map_trim_splitOn t
  have hlines : (t.splitOn '\n').map Text.trim
      = (List.replicate ((Text.leadingBlanks t).count '\n') [] ++ Text.documentLines t
          ++ List.replicate k []).map Text.trim := by
    rw [h, List.map_append, List.map_append, List.map_replicate, List.map_replicate, Text.trim_nil]
  rw [Token.ofLines_congr hlines, Token.ofLines_append, Token.ofLines_append, List.filter_append,
    List.filter_append, Token.filter_ofLines_replicate, Token.filter_ofLines_replicate,
    Line.markerAfter_replicate, List.length_replicate, List.append_nil, List.nil_append,
    solidTokens, tokenize]

theorem Text.length_splitOn (t : Text) : (t.splitOn '\n').length = 1 + t.count '\n' := by
  induction t with
  | nil => rfl
  | cons c t ih =>
    by_cases hc : c = '\n'
    · rw [hc, splitOn_break, List.length_cons, ih, List.count_cons_self, Nat.add_assoc]
    · rw [splitOn_cons_of_ne hc, List.length_modifyHead, ih, List.count_cons_of_ne hc]

/-- The quotes that stand open after all lines of a text are those at the end of the document. -/
theorem markerAfter_splitOn (t : Text) :
    Line.markerAfter none ((t.splitOn '\n').map Text.trim) = finalMarker t := by
  rw [finalMarker, Text.solidLines, Line.markerAfter_filter]

/-- Where a line of a text stands when the text is put below another one. -/
def lineBelow (t : Text) (line : Int) : Int := line + (1 + t.count '\n' : Nat)

theorem solidTokens_append_break_eq (t t' : Text) :
    solidTokens (t ++ '\n' :: t')
      = solidTokens t ++ ((Token.ofLines 1 (finalMarker t) (t'.splitOn '\n')).filter
          (·.kind ≠ .blank)).map (Token.renumber (lineBelow t)) := by
  rw [solidTokens_eq_ofLines, List.splitOn_append_cons_self, Token.ofLines_append,
    markerAfter_splitOn, Text.length_splitOn, List.filter_append, ← solidTokens_eq_ofLines,
    Token.ofLines_add, List.filter_map]
  rfl

/-- What stands below a text does not change its tokens. -/
theorem solidTokens_prefix (t t' : Text) : solidTokens t <+: solidTokens (t ++ '\n' :: t') := by
  rw [solidTokens_append_break_eq]
  exact List.prefix_append _ _

/-- **A text that leaves no quotes open does not change the tokens of a text below it**, the numbers
of their lines apart. -/
theorem solidTokens_append_break {t : Text} (h : finalMarker t = none) (t' : Text) :
    solidTokens (t ++ '\n' :: t')
      = solidTokens t ++ (solidTokens t').map (Token.renumber (lineBelow t)) := by
  rw [solidTokens_append_break_eq, h, ← solidTokens_eq_ofLines]

end Jenkinsfile
