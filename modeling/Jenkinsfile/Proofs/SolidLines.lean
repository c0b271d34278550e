/-
# The solid lines of a text

A document is trimmed as a whole, the pairs "carriage return, line feed" in it are joined, it is
cut into lines, and every line is trimmed.  All that remains of this are the lines of the text that
are not blank, each without the blanks around it: its *solid lines*.

* `map_trim_splitOn`: the trimmed lines of a text are those of the document, with blank lines
  before and after them;
* `solidLines_eq_documentLines`: the solid lines of a text are those of the document;
* `solidLines_append_left`, `solidLines_append_break`, `solidLines_of_notMem`: what blanks, line
  breaks and single lines do to the solid lines, by which any text that was written line by line
  can be read.
-/
import Jenkinsfile.Proofs.Trim
import Jenkinsfile.Text.Lines

namespace Jenkinsfile.Text

/-! ## 1. Cutting at line breaks -/

theorem splitOn_break (t : Text) : ('\n' :: t).splitOn '\n' = [] :: t.splitOn '\n' := by
  simp [List.splitOn_cons_eq_if_modifyHead]

theorem splitOn_cons_of_ne {c : Char} (h : c ≠ '\n') (t : Text) :
    (c :: t).splitOn '\n' = (t.splitOn '\n').modifyHead (c :: ·) := by
  simp [List.splitOn_cons_eq_if_modifyHead, h]

/-- No line holds a line break. -/
theorem notMem_of_mem_splitOn {t line : Text} (h : line ∈ t.splitOn '\n') : '\n' ∉ line := by
  induction t generalizing line with
  | nil => simp_all
  | cons c t ih =>
    by_cases hc : c = '\n'
    · rw [hc, splitOn_break] at h
      rcases List.mem_cons.mp h with rfl | h
      · simp
      · exact ih h
    · rw [splitOn_cons_of_ne hc] at h
      cases hs : t.splitOn '\n' with
      | nil => exact absurd hs (List.splitOn_ne_nil _ _)
      | cons first lines =>
        rw [hs, List.modifyHead_cons] at h
        rcases List.mem_cons.mp h with rfl | h
        · have hfirst : '\n' ∉ first := ih (by rw [hs]; simp)
          simp [hfirst, Ne.symm hc]
        · exact ih (by rw [hs]; simp [h])

/-! ## 2. Trimmed lines

The ends of the lines are trimmed first: how a line ends after `c` was put in front of it follows
from how it ended before, and this carries the induction on a text from its front. -/

/-- A trimmed end after a character was put in front. -/
def consEnd (c : Char) (line : Text) : Text :=
  if isBlank c = true ∧ line = [] then [] else c :: line

theorem map_trimEnd_splitOn_cons {c : Char} (h : c ≠ '\n') (t : Text) :
    ((c :: t).splitOn '\n').map trimEnd
      = ((t.splitOn '\n').map trimEnd).modifyHead (consEnd c) := by
  rw [splitOn_cons_of_ne h]
  cases t.splitOn '\n' with
  | nil => rfl
  | cons line lines =>
    rw [List.modifyHead_cons, List.map_cons, trimEnd_cons, List.map_cons, List.modifyHead_cons,
      consEnd]

/-- A carriage return before a line feed belongs to the end of its line, and is trimmed. -/
theorem map_trimEnd_joinReturns (t : Text) :
    ((joinReturns t).splitOn '\n').map trimEnd = (t.splitOn '\n').map trimEnd := by
  fun_induction joinReturns t with
  | case1 t ih =>
    rw [splitOn_break, map_trimEnd_splitOn_cons (c := '\r') (by decide), splitOn_break,
      List.map_cons, List.map_cons, List.modifyHead_cons, ih]
    rfl
  | case2 c t _ ih =>
    by_cases hc : c = '\n'
    · rw [hc, splitOn_break, splitOn_break, List.map_cons, ih, List.map_cons]
    · rw [map_trimEnd_splitOn_cons hc, map_trimEnd_splitOn_cons hc, ih]
  | case3 => rfl

theorem map_trimEnd_splitOn_of_blank {b : Text} (h : Blank b) :
    (b.splitOn '\n').map trimEnd = [] :: List.replicate (b.count '\n') [] := by
  induction b with
  | nil => rfl
  | cons c b ih =>
    obtain ⟨hc, hb⟩ := blank_cons.mp h
    by_cases hbreak : c = '\n'
    · rw [hbreak, splitOn_break, List.map_cons, ih hb, List.count_cons_self]
      rfl
    · rw [map_trimEnd_splitOn_cons hbreak, ih hb, List.modifyHead_cons, consEnd, if_pos ⟨hc, rfl⟩,
        List.count_cons_of_ne hbreak]

/-- Blanks at the end of a text add blank lines. -/
theorem map_trimEnd_splitOn_append {b : Text} (h : Blank b) (t : Text) :
    ((t ++ b).splitOn '\n').map trimEnd
      = (t.splitOn '\n').map trimEnd ++ List.replicate (b.count '\n') [] := by
  induction t with
  | nil => rw [List.nil_append, map_trimEnd_splitOn_of_blank h]; rfl
  | cons c t ih =>
    by_cases hc : c = '\n'
    · rw [hc, List.cons_append, splitOn_break, splitOn_break, List.map_cons, ih]
      rfl
    · rw [List.cons_append, map_trimEnd_splitOn_cons hc, map_trimEnd_splitOn_cons hc, ih]
      cases hs : t.splitOn '\n' with
      | nil => exact absurd hs (List.splitOn_ne_nil _ _)
      | cons line lines => rfl

theorem map_trim_eq (lines : List Text) : lines.map trim = (lines.map trimEnd).map trimStart := by
  rw [List.map_map]
  exact List.map_congr_left fun line _ => trim_eq_trimStart_trimEnd line

/-- Blanks at the start of a text add blank lines. -/
theorem map_trim_splitOn_append {a : Text} (h : Blank a) (t : Text) :
    ((a ++ t).splitOn '\n').map trim
      = List.replicate (a.count '\n') [] ++ (t.splitOn '\n').map trim := by
  induction a with
  | nil => rfl
  | cons c a ih =>
    obtain ⟨hc, ha⟩ := blank_cons.mp h
    by_cases hbreak : c = '\n'
    · rw [hbreak, List.cons_append, splitOn_break, List.map_cons, ih ha, List.count_cons_self]
      rfl
    · rw [List.cons_append, splitOn_cons_of_ne hbreak, List.count_cons_of_ne hbreak, ← ih ha]
      cases (a ++ t).splitOn '\n' with
      | nil => rfl
      | cons line lines =>
        have hline : trim (c :: line) = trim line := trim_append_left (a := [c]) (by simp [hc]) line
        rw [List.modifyHead_cons, List.map_cons, List.map_cons, hline]

/-! ## 3. The lines of a document -/

/-- **The trimmed lines of a text are those of the document, with blank lines around them.**  In
front there are as many as the leading blanks have line breaks. -/
theorem map_trim_splitOn (t : Text) :
    ∃ n, (t.splitOn '\n').map trim
      = List.replicate ((leadingBlanks t).count '\n') [] ++ (documentLines t).map trim
        ++ List.replicate n [] := by
  have hlead := map_trim_splitOn_append (blank_leadingBlanks t) (trimStart t)
  rw [leadingBlanks_append_trimStart] at hlead
  obtain ⟨b, hb, hbody⟩ := exists_eq_trimEnd (trimStart t)
  rw [← trim] at hbody
  cases hbody' : trim t with
  | nil =>
    have hdoc : documentLines t = [] := by rw [documentLines, hbody']
    refine ⟨1, ?_⟩
    rw [hlead, trimStart_eq_nil_iff.mpr (trim_eq_nil_iff.mp hbody'), hdoc, List.map_nil,
      List.append_nil]
    rfl
  | cons c r =>
    have hdoc : documentLines t = (joinReturns (trim t)).splitOn '\n' := by
      rw [documentLines, hbody']
    refine ⟨b.count '\n', ?_⟩
    rw [hlead, hdoc, List.append_assoc, map_trim_eq, map_trim_eq, map_trimEnd_joinReturns]
    conv_lhs => rw [hbody, map_trimEnd_splitOn_append hb]
    rw [List.map_append, List.map_replicate]
    rfl

theorem notMem_of_mem_documentLines {t line : Text} (h : line ∈ documentLines t) :
    '\n' ∉ line := by
  rw [documentLines] at h
  split at h
  · simp at h
  · exact notMem_of_mem_splitOn h

/-! ## 4. Solid lines -/

/-- The lines of a text that are not blank, without the blanks around them. -/
def solidLines (t : Text) : List Text := ((t.splitOn '\n').map trim).filter (· ≠ [])

/-- **The solid lines of a text are those of the document.** -/
theorem solidLines_eq_documentLines (t : Text) :
    solidLines t = ((documentLines t).map trim).filter (· ≠ []) := by
  obtain ⟨n, h⟩ := map_trim_splitOn t
  rw [solidLines, h, List.filter_append, List.filter_append]
  simp

/-- A carriage return before a line feed is a blank at the end of its line. -/
theorem solidLines_joinReturns (t : Text) : solidLines (joinReturns t) = solidLines t := by
  rw [solidLines, map_trim_eq, map_trimEnd_joinReturns, ← map_trim_eq, ← solidLines]

theorem solidLines_append_left {a : Text} (h : Blank a) (t : Text) :
    solidLines (a ++ t) = solidLines t := by
  rw [solidLines, map_trim_splitOn_append h, List.filter_append, ← solidLines]
  simp

theorem solidLines_append_break (s t : Text) :
    solidLines (s ++ '\n' :: t) = solidLines s ++ solidLines t := by
  rw [solidLines, List.splitOn_append_cons_self, List.map_append, List.filter_append, ← solidLines,
    ← solidLines]

@[simp] theorem solidLines_nil : solidLines [] = [] := rfl

/-- One line is solid unless it is blank. -/
theorem solidLines_of_notMem {line : Text} (h : '\n' ∉ line) :
    solidLines line = [trim line].filter (· ≠ []) := by
  rw [solidLines, List.splitOn_eq_singleton h]
  rfl

end Jenkinsfile.Text
