/-
# What a line can be

`Line.Reads` lists the seven things a line can be, each with everything that makes it so, and
`reads_classify` says that the classification is one of them.  Every argument about classified
lines starts with that case distinction.

A header is written as its name, a blank and a brace.  What is read back is the name
(`classify_headerLine`), and every header that was read is one that can be written that way
(`name_of_blockOpen`).
-/
import Jenkinsfile.Line
import Jenkinsfile.Proofs.ScriptStart

namespace Jenkinsfile.Line

/-! ## 1. The seven kinds -/

/-- What a line is read as, under the quotes of the script it stands in. -/
inductive Reads (line : Text) : Option Text → Line → Prop
  | blank {m : Option Text} (h : line = []) : Reads line m ⟨.blank, [], m⟩
  | scriptOpen {m : Option Text} {opened : Text} (h : line ≠ [])
      (ho : Script.opening? line = some opened) : Reads line m ⟨.scriptOpen, line, some opened⟩
  | scriptClose {m : Text} (h : line ≠ []) (ho : Script.opening? line = none)
      (he : Script.endsWith m line = true) : Reads line (some m) ⟨.scriptClose, line, none⟩
  | scriptLine {m : Text} (h : line ≠ []) (ho : Script.opening? line = none)
      (he : Script.endsWith m line = false) : Reads line (some m) ⟨.scriptLine, line, some m⟩
  | blockOpen {start : Text} (h : line = start ++ ['\x7b']) (ho : Script.opening? line = none) :
      Reads line none ⟨.blockOpen, Text.trimEnd start, none⟩
  | blockClose (h : line = ['\x7d']) : Reads line none ⟨.blockClose, line, none⟩
  | statement (h : line ≠ []) (ho : Script.opening? line = none)
      (hb : line.getLast? ≠ some '\x7b') (hc : line ≠ ['\x7d']) :
      Reads line none ⟨.statement, line, none⟩

/-- **The classification is one of the seven.** -/
theorem reads_classify (line : Text) (m : Option Text) : Reads line m (classify line m) := by
  unfold classify
  split
  · rename_i hnil
    exact .blank (List.isEmpty_iff.mp hnil)
  · rename_i hnil
    have hne : line ≠ [] := fun h => hnil (List.isEmpty_iff.mpr h)
    split
    · rename_i opened ho
      exact .scriptOpen hne ho
    · rename_i ho
      split
      · rename_i marker
        rw [classifyInside]
        split
        · rename_i he
          exact .scriptClose hne ho he
        · rename_i he
          exact .scriptLine hne ho (Bool.eq_false_iff.mpr he)
      · rw [classifyPlain]
        split
        · rename_i hlast
          have hline : line = line.dropLast ++ ['\x7b'] :=
            (List.dropLast_append_getLast? _ hlast).symm
          exact .blockOpen hline ho
        · rename_i hlast
          split
          · rename_i hbrace
            exact .blockClose hbrace
          · rename_i hbrace
            exact .statement hne ho hlast hbrace

/-- A line that is read as an opening starts a script, and leaves its quotes open. -/
theorem exists_start_of_scriptOpen {line : Text} {m : Option Text}
    (h : (classify line m).kind = .scriptOpen) :
    ∃ s, Script.start? (classify line m).value = some s ∧
      (classify line m).marker = some s.marker := by
  have hreads := reads_classify line m
  generalize classify line m = l at h hreads
  cases hreads with
  | scriptOpen _ ho =>
    obtain ⟨s, hs, -, rfl⟩ := Script.opening?_eq_some_iff.mp ho
    exact ⟨s, hs, rfl⟩
  | _ => exact absurd h (by simp)

/-! ## 2. Headers -/

/-- The line that a header with a name is written as, without the blanks around it. -/
def headerLine (name : Text) : Text := Text.trim (name ++ [' ', '\x7b'])

/-- A line with a brace at its end is a header unless it opens a script. -/
theorem classify_brace {start : Text} (ho : Script.opening? (start ++ ['\x7b']) = none) :
    classify (start ++ ['\x7b']) none = ⟨.blockOpen, Text.trimEnd start, none⟩ := by
  have hne : (start ++ ['\x7b']).isEmpty = false := by simp
  have hlast : (start ++ ['\x7b']).getLast? = some '\x7b' := List.getLast?_concat
  rw [classify, hne, ho]
  show classifyPlain (start ++ ['\x7b']) = _
  rw [classifyPlain, if_pos hlast, List.dropLast_concat]

/-- A name and a brace, with blanks between them, are a header unless the name starts a script. -/
theorem classify_header {name b : Text} (hname : Text.trimEnd name = name) (hb : Text.Blank b)
    (hstart : Script.start? name = none) :
    classify (name ++ b ++ ['\x7b']) none = ⟨.blockOpen, name, none⟩ := by
  rw [classify_brace ((Script.opening?_header_eq_none_iff hb).mpr hstart), Text.trimEnd_append hb,
    hname]

/-- A trimmed name and its brace, as a line of their own. -/
theorem exists_headerLine {name : Text} (hname : Text.trim name = name) :
    ∃ b, Text.Blank b ∧ headerLine name = name ++ b ++ ['\x7b'] := by
  cases name with
  | nil => exact ⟨[], Text.blank_nil, by decide⟩
  | cons c r =>
    refine ⟨[' '], by decide, ?_⟩
    have hhead := (Text.trim_eq_self_iff.mp hname).1
    have hsplit : c :: r ++ [' ', '\x7b'] = c :: r ++ [' '] ++ ['\x7b'] := by simp
    rw [headerLine, hsplit]
    refine Text.trim_eq_self_iff.mpr ⟨fun d hd => hhead d hd, fun d hd => ?_⟩
    rw [List.getLast?_concat, Option.mem_some_iff] at hd
    rw [← hd]
    decide

theorem trimEnd_of_trim {t : Text} (h : Text.trim t = t) : Text.trimEnd t = t := by
  rw [← h, Text.trim, Text.trimEnd_trimEnd]

/-- **The header of a trimmed name is read back**, unless the name starts a script. -/
theorem classify_headerLine {name : Text} (hname : Text.trim name = name)
    (hstart : Script.start? name = none) :
    classify (headerLine name) none = ⟨.blockOpen, name, none⟩ := by
  obtain ⟨b, hb, hline⟩ := exists_headerLine hname
  rw [hline]
  exact classify_header (trimEnd_of_trim hname) hb hstart

/-- **A header that was read has a trimmed name that starts no script.** -/
theorem name_of_blockOpen {line name : Text} {m m' : Option Text} (hline : Text.trim line = line)
    (h : classify line m = ⟨.blockOpen, name, m'⟩) :
    Text.trim name = name ∧ Script.start? name = none := by
  have hreads := reads_classify line m
  rw [h] at hreads
  cases hreads with
  | @blockOpen start hbrace ho =>
    obtain ⟨b, hb, hstart⟩ := Text.exists_eq_trimEnd start
    rw [hstart] at hbrace
    constructor
    · refine Text.trim_eq_self_iff.mpr
        ⟨fun c hc => ?_, fun c => Text.isBlank_of_mem_getLast?_trimEnd⟩
      refine (Text.trim_eq_self_iff.mp hline).1 c ?_
      rw [hbrace, List.append_assoc, List.head?_append, hc]
      rfl
    · rw [hbrace] at ho
      exact (Script.opening?_header_eq_none_iff hb).mp ho

end Jenkinsfile.Line
