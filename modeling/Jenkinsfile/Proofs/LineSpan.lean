/-
# Which lines have tokens

A document is trimmed as a whole before it is cut into lines, and the line breaks that go with the
blanks in front of it are counted apart.  In the text as it is, the document is the lines from the
first to the last that is not blank (`Text.Spans`).  Each of them has one token, numbered by its
place in the text and read under the quotes that the lines before it leave open, and no other line
has one (`tokenize_lines`).
-/
import Jenkinsfile.Proofs.LineTokens

namespace Jenkinsfile

namespace Text

/-! ## 1. The first and the last line -/

/-- The first of these lines that is not empty stands at `f`, and the last one at `g`. -/
structure Spans (lines : List Text) (f g : Nat) : Prop where
  first : ∃ line, lines[f]? = some line ∧ line ≠ []
  before : ∀ k line, k < f → lines[k]? = some line → line = []
  last : ∃ line, lines[g]? = some line ∧ line ≠ []
  after : ∀ k line, g < k → lines[k]? = some line → line = []

section Spans

variable {lines : List Text} {f f' g g' : Nat}

theorem Spans.unique (h : Spans lines f g) (h' : Spans lines f' g') : f = f' ∧ g = g' := by
  obtain ⟨a, ha, hane⟩ := h.first
  obtain ⟨a', ha', hane'⟩ := h'.first
  obtain ⟨b, hb, hbne⟩ := h.last
  obtain ⟨b', hb', hbne'⟩ := h'.last
  constructor
  · rcases Nat.lt_trichotomy f f' with hlt | heq | hlt
    · exact absurd (h'.before f a hlt ha) hane
    · exact heq
    · exact absurd (h.before f' a' hlt ha') hane'
  · rcases Nat.lt_trichotomy g g' with hlt | heq | hlt
    · exact absurd (h.after g' b' hlt hb') hbne'
    · exact heq
    · exact absurd (h'.after g b hlt hb) hbne

/-- Lines that begin and end with one that is not empty, with empty lines around them. -/
theorem spans_padded {middle : List Text} (hne : middle ≠ [])
    (hfirst : ∀ line ∈ middle.head?, line ≠ []) (hlast : ∀ line ∈ middle.getLast?, line ≠ [])
    (a n : Nat) :
    Spans (List.replicate a [] ++ middle ++ List.replicate n []) a (a + middle.length - 1) := by
  have hpos : 0 < middle.length := List.length_pos_of_ne_nil hne
  have hmiddle : ∀ i, i < middle.length →
      (List.replicate a [] ++ middle ++ List.replicate n [])[a + i]? = middle[i]? := by
    intro i hi
    have ha : a + i < (List.replicate a [] ++ middle).length := by
      rw [List.length_append, List.length_replicate]
      omega
    rw [List.getElem?_append_left ha, List.getElem?_append_right (by simp), List.length_replicate,
      Nat.add_sub_cancel_left]
  refine ⟨⟨middle.head hne, ?_, hfirst _ (List.head?_eq_some_head hne)⟩, ?_,
    ⟨middle.getLast hne, ?_, hlast _ (List.getLast?_eq_some_getLast hne)⟩, ?_⟩
  · have hhead := hmiddle 0 hpos
    rw [Nat.add_zero, ← List.head?_eq_getElem?, List.head?_eq_some_head hne] at hhead
    exact hhead
  · intro k line hk hline
    rw [List.append_assoc, List.getElem?_append_left (by simpa using hk)] at hline
    exact List.eq_of_mem_replicate (List.mem_of_getElem? hline)
  · rw [Nat.add_sub_assoc hpos, hmiddle _ (by omega), ← List.getLast?_eq_getElem?,
      List.getLast?_eq_some_getLast hne]
  · intro k line hk hline
    have hle : (List.replicate a [] ++ middle).length ≤ k := by
      rw [List.length_append, List.length_replicate]
      omega
    rw [List.getElem?_append_right hle] at hline
    exact List.eq_of_mem_replicate (List.mem_of_getElem? hline)

/-- Those lines are the ones from the first that is not empty to the last. -/
theorem take_drop_padded {middle : List Text} (hne : middle ≠ []) (a n : Nat) :
    ((List.replicate a [] ++ middle ++ List.replicate n []).drop a).take
      (a + middle.length - 1 + 1 - a) = middle := by
  have hpos : 0 < middle.length := List.length_pos_of_ne_nil hne
  rw [Nat.sub_add_cancel (by omega), Nat.add_sub_cancel_left, List.append_assoc,
    List.drop_left' List.length_replicate, List.take_left]

end Spans

/-! ## 2. The ends of a document -/

/-- A text that begins with a character other than a line break has it in its first line. -/
theorem mem_of_mem_head?_splitOn {c : Char} (hc : c ≠ '\n') (t : Text) :
    ∀ line ∈ ((c :: t).splitOn '\n').head?, c ∈ line := by
  intro line hline
  rw [splitOn_cons_of_ne hc] at hline
  cases hs : t.splitOn '\n' with
  | nil => exact absurd hs (List.splitOn_ne_nil _ _)
  | cons first lines =>
    rw [hs, List.modifyHead_cons, List.head?_cons] at hline
    rw [← Option.some.inj hline]
    exact List.mem_cons_self

/-- A text that ends with a character other than a line break has it in its last line. -/
theorem mem_of_mem_getLast?_splitOn {c : Char} (hc : c ≠ '\n') (t : Text) :
    ∀ line ∈ ((t ++ [c]).splitOn '\n').getLast?, c ∈ line := by
  induction t with
  | nil =>
    intro line hline
    rw [List.nil_append, List.splitOn_eq_singleton (by simpa using Ne.symm hc)] at hline
    rw [← Option.some.inj hline]
    exact List.mem_singleton_self c
  | cons d t ih =>
    intro line hline
    rw [List.cons_append] at hline
    cases hs : (t ++ [c]).splitOn '\n' with
    | nil => exact absurd hs (List.splitOn_ne_nil _ _)
    | cons first lines =>
      rw [hs] at ih
      by_cases hd : d = '\n'
      · rw [hd, splitOn_break, hs, List.getLast?_cons_cons] at hline
        exact ih line hline
      · rw [splitOn_cons_of_ne hd, hs, List.modifyHead_cons] at hline
        cases lines with
        | nil =>
          rw [← Option.some.inj hline]
          exact List.mem_cons_of_mem d (ih first rfl)
        | cons second lines =>
          rw [List.getLast?_cons_cons] at hline
          exact ih line (by rwa [List.getLast?_cons_cons])

/-- **A document neither begins nor ends with a blank line.** -/
theorem ends_documentLines (t : Text) :
    (∀ line ∈ ((documentLines t).map trim).head?, line ≠ []) ∧
      ∀ line ∈ ((documentLines t).map trim).getLast?, line ≠ [] := by
  have hbreak : ∀ c, isBlank c = false → c ≠ '\n' := by
    rintro c hc rfl
    exact absurd hc (by decide)
  have hsolid : ∀ c line, isBlank c = false → c ∈ line → trim line ≠ [] := by
    intro c line hc hmem hnil
    rw [trim_eq_nil_iff.mp hnil c hmem] at hc
    exact absurd hc (by simp)
  cases List.eq_nil_or_concat' (trim t) with
  | inl hnil =>
    have hdoc : documentLines t = [] := by rw [documentLines, hnil]
    rw [hdoc]
    exact ⟨by simp, by simp⟩
  | inr hconcat =>
    obtain ⟨r, d, hlast⟩ := hconcat
    cases hbody : trim t with
    | nil => exact absurd (hbody.symm.trans hlast) (by simp)
    | cons c s =>
      -- carriage returns do not matter to the trimmed lines
      have hdoc : (documentLines t).map trim = ((trim t).splitOn '\n').map trim := by
        rw [documentLines, hbody, map_trim_eq, map_trimEnd_joinReturns, ← map_trim_eq]
      have hc : isBlank c = false := isBlank_of_mem_head?_trim (t := t) (by rw [hbody]; rfl)
      have hd : isBlank d = false := isBlank_of_mem_getLast?_trim (t := t) (by rw [hlast]; simp)
      rw [hdoc, List.head?_map, List.getLast?_map]
      constructor
      · intro line hline
        obtain ⟨raw, hraw, rfl⟩ := Option.map_eq_some_iff.mp hline
        rw [hbody] at hraw
        exact hsolid c raw hc (mem_of_mem_head?_splitOn (hbreak c hc) s raw hraw)
      · intro line hline
        obtain ⟨raw, hraw, rfl⟩ := Option.map_eq_some_iff.mp hline
        rw [hlast] at hraw
        exact hsolid d raw hd (mem_of_mem_getLast?_splitOn (hbreak d hd) r raw hraw)

/-- In a text with a line that is not blank, the lines of the document are those from the first that
is not blank to the last. -/
theorem exists_spans {t : Text} (h : documentLines t ≠ []) :
    ∃ g, Spans ((t.splitOn '\n').map trim) ((leadingBlanks t).count '\n') g ∧
      (((t.splitOn '\n').map trim).drop ((leadingBlanks t).count '\n')).take
        (g + 1 - (leadingBlanks t).count '\n') = (documentLines t).map trim := by
  obtain ⟨n, hlines⟩ := map_trim_splitOn t
  obtain ⟨hfirst, hlast⟩ := ends_documentLines t
  have hne : (documentLines t).map trim ≠ [] := by simpa using h
  rw [hlines]
  exact ⟨_, spans_padded hne hfirst hlast _ n, take_drop_padded hne _ n⟩

/-- A text without a document has blank lines only. -/
theorem eq_nil_of_documentLines_eq_nil {t : Text} (h : documentLines t = []) :
    ∀ line ∈ (t.splitOn '\n').map trim, line = [] := by
  obtain ⟨n, hlines⟩ := map_trim_splitOn t
  rw [hlines, h]
  intro line hline
  rw [List.map_nil, List.append_nil, List.mem_append] at hline
  rcases hline with hline | hline <;> exact List.eq_of_mem_replicate hline

end Text

/-! ## 3. Their tokens -/

namespace Token

theorem length_ofLines (n : Nat) (m : Option Text) (raws : List Text) :
    (ofLines n m raws).length = raws.length := by
  induction raws generalizing n m with
  | nil => rfl
  | cons raw raws ih => rw [ofLines, List.length_cons, ih, List.length_cons]

/-- Tokens of several lines, cut anywhere: those in front are the tokens of the first lines, and the
others are those of the lines below, read under the quotes that the first lines leave open. -/
theorem eq_of_ofLines_eq_append {n : Nat} {m : Option Text} {raws : List Text}
    {before after : List Token} (h : ofLines n m raws = before ++ after) :
    before = ofLines n m (raws.take before.length) ∧
      after = ofLines (n + before.length)
        (Line.markerAfter m ((raws.take before.length).map Text.trim))
        (raws.drop before.length) := by
  have hlength : (raws.take before.length).length = before.length := by
    refine List.length_take_of_le ?_
    rw [← length_ofLines n m raws, h, List.length_append]
    exact Nat.le_add_right _ _
  have hcut : ofLines n m (raws.take before.length ++ raws.drop before.length)
      = before ++ after := by
    rw [List.take_append_drop, h]
  rw [ofLines_append, hlength] at hcut
  obtain ⟨hbefore, hafter⟩ := List.append_inj hcut (by rw [length_ofLines, hlength])
  exact ⟨hbefore.symm, hafter.symm⟩

/-- A token is read under the quotes that the lines before its own leave open. -/
theorem getElem?_ofLines {n k : Nat} {m : Option Text} {raws : List Text} {raw : Text}
    (h : raws[k]? = some raw) :
    (ofLines n m raws)[k]? =
      some ⟨(Line.classify (Text.trim raw) (Line.markerAfter m ((raws.take k).map Text.trim))).kind,
        (Line.classify (Text.trim raw) (Line.markerAfter m ((raws.take k).map Text.trim))).value,
        (n + k : Nat)⟩ := by
  induction k generalizing n m raws with
  | zero =>
    cases raws with
    | nil => exact absurd h (by simp)
    | cons first raws =>
      obtain rfl : first = raw := Option.some.inj h
      rfl
  | succ k ih =>
    cases raws with
    | nil => exact absurd h (by simp)
    | cons first raws =>
      rw [List.getElem?_cons_succ] at h
      rw [ofLines, List.getElem?_cons_succ, ih h, List.take_succ_cons, List.map_cons,
        Line.markerAfter_cons, Nat.add_assoc, Nat.add_comm 1 k]

/-- Tokens are numbered in their order. -/
theorem line_of_getElem?_ofLines {n k : Nat} {m : Option Text} {raws : List Text} {t : Token}
    (h : (ofLines n m raws)[k]? = some t) : t.line = n + k := by
  have hk := (List.getElem?_eq_some_iff.mp h).1
  rw [length_ofLines] at hk
  rw [getElem?_ofLines (List.getElem?_eq_getElem hk)] at h
  rw [← Option.some.inj h]
  exact Int.natCast_add n k

/-- These are the tokens of the lines from `f` to `g`, one for each and in their order.  A line is
read under the quotes that stand open before it, which are none before the first one. -/
def ReadsLines (lines : List Text) (f g : Nat) (tokens : List Token) : Prop :=
  tokens.length = g + 1 - f ∧
    ∃ marker : Nat → Option Text, marker f = none ∧
      ∀ k line, f ≤ k → k ≤ g → lines[k]? = some line →
        tokens[k - f]? = some ⟨(Line.classify line (marker k)).kind,
          (Line.classify line (marker k)).value, k + 1⟩ ∧
        marker (k + 1) = (Line.classify line (marker k)).marker

/-- The tokens of trimmed lines from `f` to `g`. -/
theorem readsLines_ofLines {lines : List Text} (htrim : ∀ line ∈ lines, Text.trim line = line)
    (f : Nat) {g : Nat} (hg : g < lines.length) :
    ReadsLines lines f g (ofLines (f + 1) none ((lines.drop f).take (g + 1 - f))) := by
  refine ⟨?_, fun k => Line.markerAfter none ((lines.drop f).take (k - f)), ?_, ?_⟩
  · rw [length_ofLines, List.length_take, List.length_drop, Nat.min_eq_left (by omega)]
  · dsimp only
    rw [Nat.sub_self, List.take_zero, Line.markerAfter_nil]
  · intro k line hf hk hline
    have hdrop : (lines.drop f)[k - f]? = some line := by
      rw [List.getElem?_drop, Nat.add_sub_cancel' hf, hline]
    have htake : ((lines.drop f).take (g + 1 - f))[k - f]? = some line := by
      rw [List.getElem?_take_of_lt (by omega), hdrop]
    -- the lines before this one, which are trimmed already
    have hbefore : (((lines.drop f).take (g + 1 - f)).take (k - f)).map Text.trim
        = (lines.drop f).take (k - f) := by
      have hsame : ∀ line ∈ (lines.drop f).take (k - f), Text.trim line = id line := fun line h =>
        htrim line (List.mem_of_mem_drop (List.mem_of_mem_take h))
      rw [List.take_take, Nat.min_eq_left (by omega), List.map_congr_left hsame, List.map_id]
    rw [getElem?_ofLines htake, hbefore, htrim line (List.mem_of_getElem? hline)]
    dsimp only
    constructor
    · congr 2
      omega
    · rw [Nat.sub_add_comm hf, List.take_add_one, hdrop, Line.markerAfter_append]
      rfl

end Token

/-- **The tokens of a document** are those of the lines from the first that is not blank to the
last. -/
theorem tokenize_eq_ofLines {t : Text} {f g : Nat}
    (h : Text.Spans ((t.splitOn '\n').map Text.trim) f g) :
    tokenize t =
      Token.ofLines (f + 1) none ((((t.splitOn '\n').map Text.trim).drop f).take (g + 1 - f)) := by
  have hdoc : Text.documentLines t ≠ [] := by
    intro hnil
    obtain ⟨line, hline, hne⟩ := h.first
    exact hne (Text.eq_nil_of_documentLines_eq_nil hnil line (List.mem_of_getElem? hline))
  obtain ⟨g', hspans, hlines⟩ := Text.exists_spans hdoc
  obtain ⟨rfl, rfl⟩ := h.unique hspans
  rw [hlines, Token.ofLines_map_trim, tokenize, Nat.add_comm]

theorem readsLines_tokenize {t : Text} {f g : Nat}
    (h : Text.Spans ((t.splitOn '\n').map Text.trim) f g) :
    Token.ReadsLines ((t.splitOn '\n').map Text.trim) f g (tokenize t) := by
  have htrim : ∀ line ∈ (t.splitOn '\n').map Text.trim, Text.trim line = line := by
    intro line hline
    obtain ⟨raw, -, rfl⟩ := List.mem_map.mp hline
    exact Text.trim_trim raw
  obtain ⟨line, hline, -⟩ := h.last
  have hg : g < ((t.splitOn '\n').map Text.trim).length := (List.getElem?_eq_some_iff.mp hline).1
  rw [tokenize_eq_ofLines h]
  exact Token.readsLines_ofLines htrim f hg

/-- **Tokens are numbered by the lines of the text.**  Either all lines are blank, and there are no
tokens; or every line from the first that is not blank to the last has one, whose number is the
place of the line counted from one, and which is the trimmed line as it is read there. -/
theorem tokenize_lines (t : Text) :
    ((∀ line ∈ (t.splitOn '\n').map Text.trim, line = []) ∧ tokenize t = []) ∨
      ∃ f g, Text.Spans ((t.splitOn '\n').map Text.trim) f g ∧
        Token.ReadsLines ((t.splitOn '\n').map Text.trim) f g (tokenize t) := by
  by_cases hdoc : Text.documentLines t = []
  · left
    refine ⟨Text.eq_nil_of_documentLines_eq_nil hdoc, ?_⟩
    rw [tokenize, hdoc]
    rfl
  · right
    obtain ⟨g, hspans, -⟩ := Text.exists_spans hdoc
    exact ⟨_, g, hspans, readsLines_tokenize hspans⟩

example : (tokenize " \r\n\t\n make \r\n\r\n test ".toList).map (·.line) = [3, 4, 5] := by decide

end Jenkinsfile
