/-
# Where a script starts

`start?` finds a keyword, blanks with at most one parenthesis among them, and the quotes
(`start?_eq_some_iff`).  What comes after the quotes does not matter for that, and neither does
anything without quotes at the end of a line: a line starts a script exactly if it does without its
brace and the blanks in front of it (`opening?_header_eq_none_iff`).  Hence no header is ever taken
for a script because of how it is written.
-/
import Jenkinsfile.Proofs.Trim
import Jenkinsfile.Script

namespace Jenkinsfile

/-! ## 1. The first of several starts -/

/-- Where no text of a list begins with another, a text begins with at most one of them. -/
theorem Text.findSome?_after?_eq_some_iff {starts : List Text}
    (hfree : ∀ s ∈ starts, ∀ s' ∈ starts, s <+: s' → s = s') {t rest : Text} :
    starts.findSome? (fun s => Text.after? s t) = some rest ↔ ∃ s ∈ starts, t = s ++ rest := by
  constructor
  · intro h
    obtain ⟨s, hs, ht⟩ := List.exists_of_findSome?_eq_some h
    exact ⟨s, hs, Text.after?_eq_some_iff.mp ht⟩
  · rintro ⟨s, hs, rfl⟩
    induction starts with
    | nil => simp at hs
    | cons first starts ih =>
      rw [List.findSome?_cons]
      cases hfirst : Text.after? first (s ++ rest) with
      | some r =>
        have heq : s ++ rest = first ++ r := Text.after?_eq_some_iff.mp hfirst
        have hsame : s = first := by
          have hprefix : first <+: s ++ rest := ⟨r, heq.symm⟩
          rcases List.prefix_or_prefix_of_prefix ⟨rest, rfl⟩ hprefix with h | h
          · exact hfree s hs first (by simp) h
          · exact (hfree first (by simp) s hs h).symm
        rw [hsame] at heq
        rw [List.append_cancel_left heq]
      | none =>
        have hne : s ≠ first := by
          rintro rfl
          rw [Text.after?_eq_some_iff.mpr rfl] at hfirst
          exact absurd hfirst (by simp)
        refine ih (fun a ha b hb => hfree a (by simp [ha]) b (by simp [hb])) ?_
        exact (List.mem_cons.mp hs).resolve_left hne

namespace Script

/-! ## 2. Quotes -/

/-- A character that the quotes of a script are made of. -/
def isQuote (c : Char) : Bool := c = '\x27' || c = '"'

theorem exists_of_mem_markers {m : Text} (h : m ∈ markers) :
    ∃ q, isQuote q = true ∧ m = [q, q, q] := by
  simp only [markers, List.mem_cons, List.not_mem_nil, or_false] at h
  rcases h with rfl | rfl
  · exact ⟨_, by decide, rfl⟩
  · exact ⟨_, by decide, rfl⟩

theorem ne_of_isQuote {c d : Char} (hc : isQuote c = true) (hd : isQuote d = false) : c ≠ d := by
  rintro rfl
  rw [hc] at hd
  exact absurd hd (by decide)

theorem isQuote_eq_false_of_isBlank {c : Char} (h : isBlank c = true) : isQuote c = false := by
  by_contra hq
  simp only [isQuote, Bool.not_eq_false, Bool.or_eq_true, decide_eq_true_eq] at hq
  rcases hq with rfl | rfl
  · exact absurd h (by decide)
  · exact absurd h (by decide)

/-! ## 3. The gap between keyword and quotes -/

/-- Blanks with at most one parenthesis among them. -/
inductive Gap : Text → Prop
  | blank {a : Text} (ha : Text.Blank a) : Gap a
  | parenthesis {a b : Text} (ha : Text.Blank a) (hb : Text.Blank b) : Gap (a ++ '(' :: b)

/-- What is left of a text after the gap it begins with. -/
def afterGap (t : Text) : Text := Text.trimStart (dropParenthesis (Text.trimStart t))

theorem trimStart_append_marker {a : Text} (ha : Text.Blank a) {m : Text} (hm : m ∈ markers)
    (x : Text) : Text.trimStart (a ++ (m ++ x)) = m ++ x := by
  obtain ⟨q, hq, rfl⟩ := exists_of_mem_markers hm
  have hblank : isBlank q = false := by
    by_contra h
    exact absurd hq (by simp [isQuote_eq_false_of_isBlank (Bool.of_not_eq_false h)])
  rw [Text.trimStart_append ha, List.cons_append, Text.trimStart_cons, hblank]
  rfl

theorem dropParenthesis_marker {m : Text} (hm : m ∈ markers) (x : Text) :
    dropParenthesis (m ++ x) = m ++ x := by
  obtain ⟨q, hq, rfl⟩ := exists_of_mem_markers hm
  have hne : q ≠ '(' := ne_of_isQuote hq (by decide)
  rw [List.cons_append, dropParenthesis]
  intro t h
  exact hne (List.cons.inj h).1

/-- The quotes follow a gap. -/
theorem afterGap_eq_iff {m : Text} (hm : m ∈ markers) {t x : Text} :
    afterGap t = m ++ x ↔ ∃ gap, Gap gap ∧ t = gap ++ (m ++ x) := by
  constructor
  · intro h
    have ht := Text.leadingBlanks_append_trimStart t
    have hlead := Text.blank_leadingBlanks t
    cases hrest : Text.trimStart t with
    | nil =>
      have hnil : afterGap t = [] := by rw [afterGap, hrest]; rfl
      obtain ⟨q, -, rfl⟩ := exists_of_mem_markers hm
      rw [hnil] at h
      exact absurd h (by simp)
    | cons c r =>
      by_cases hc : c = '('
      · rw [afterGap, hrest, hc, dropParenthesis] at h
        refine ⟨_, .parenthesis hlead (Text.blank_leadingBlanks r), ?_⟩
        rw [← h, List.append_assoc, List.cons_append, Text.leadingBlanks_append_trimStart, ← hc,
          ← hrest, ht]
      · have hkeep : dropParenthesis (c :: r) = c :: r := by
          rw [dropParenthesis]
          intro u hu
          exact hc (List.cons.inj hu).1
        have hsolid : Text.trimStart (c :: r) = c :: r := by
          have hhead : isBlank c = false :=
            Text.isBlank_of_mem_head?_trimStart (t := t) (by rw [hrest]; rfl)
          rw [Text.trimStart_cons, hhead]
          rfl
        rw [afterGap, hrest, hkeep, hsolid, ← hrest] at h
        exact ⟨_, .blank hlead, by rw [← h, ht]⟩
  · rintro ⟨gap, hgap, rfl⟩
    cases hgap with
    | blank ha =>
      have h0 : Text.trimStart (m ++ x) = m ++ x := trimStart_append_marker Text.blank_nil hm x
      rw [afterGap, trimStart_append_marker ha hm, dropParenthesis_marker hm, h0]
    | @parenthesis a b ha hb =>
      have hstop : Text.trimStart ('(' :: (b ++ (m ++ x))) = '(' :: (b ++ (m ++ x)) := rfl
      rw [afterGap, List.append_assoc, List.cons_append, Text.trimStart_append ha, hstop,
        dropParenthesis, trimStart_append_marker hb hm]

/-! ## 4. Starts -/

/-- **A line starts a script** with a keyword, a gap and the quotes. -/
theorem start?_eq_some_iff {line : Text} {s : Start} :
    start? line = some s ↔ s.marker ∈ markers ∧ ∃ keyword ∈ keywords, ∃ gap, Gap gap ∧
      line = keyword ++ (gap ++ (s.marker ++ s.rest)) := by
  rw [start?]
  constructor
  · intro h
    obtain ⟨t, ht, hquotes⟩ := Option.bind_eq_some_iff.mp h
    obtain ⟨keyword, hkeyword, rfl⟩ :=
      (Text.findSome?_after?_eq_some_iff (by decide)).mp ht
    obtain ⟨m, hm, hs⟩ := List.exists_of_findSome?_eq_some hquotes
    obtain ⟨rest, hrest, rfl⟩ := Option.map_eq_some_iff.mp hs
    obtain ⟨gap, hgap, rfl⟩ := (afterGap_eq_iff hm).mp (Text.after?_eq_some_iff.mp hrest)
    exact ⟨hm, keyword, hkeyword, gap, hgap, rfl⟩
  · rintro ⟨hm, keyword, hkeyword, gap, hgap, rfl⟩
    refine Option.bind_eq_some_iff.mpr ⟨gap ++ (s.marker ++ s.rest), ?_, ?_⟩
    · exact (Text.findSome?_after?_eq_some_iff (by decide)).mpr ⟨keyword, hkeyword, rfl⟩
    · have hgap' : afterGap (gap ++ (s.marker ++ s.rest)) = s.marker ++ s.rest :=
        (afterGap_eq_iff hm).mpr ⟨gap, hgap, rfl⟩
      rw [afterGap] at hgap'
      rw [hgap']
      obtain ⟨marker, rest⟩ := s
      simp only [markers, List.mem_cons, List.not_mem_nil, or_false] at hm
      rcases hm with rfl | rfl
      · simp [markers, singleQuotes, Text.after?]
      · simp [markers, singleQuotes, doubleQuotes, Text.after?]

/-- What comes after the quotes does not matter. -/
theorem start?_append {line : Text} {s : Start} (h : start? line = some s) (x : Text) :
    start? (line ++ x) = some ⟨s.marker, s.rest ++ x⟩ := by
  obtain ⟨hm, keyword, hkeyword, gap, hgap, rfl⟩ := start?_eq_some_iff.mp h
  refine start?_eq_some_iff.mpr ⟨hm, keyword, hkeyword, gap, hgap, ?_⟩
  simp only [List.append_assoc]

/-- A tail without quotes takes no part in a start. -/
theorem start?_of_append {line x : Text} {s : Start} (h : start? (line ++ x) = some s)
    (hx : ∀ c ∈ x, isQuote c = false) :
    ∃ rest, start? line = some ⟨s.marker, rest⟩ ∧ s.rest = rest ++ x := by
  obtain ⟨hm, keyword, hkeyword, gap, hgap, heq⟩ := start?_eq_some_iff.mp h
  have heq' : line ++ x = (keyword ++ (gap ++ s.marker)) ++ s.rest := by
    rw [heq]; simp only [List.append_assoc]
  rcases List.append_eq_append_iff.mp heq' with ⟨u, hstart, hxu⟩ | ⟨u, hline, hrest⟩
  · -- the quotes would reach into the tail
    cases u using List.reverseRecOn with
    | nil =>
      rw [List.append_nil] at hstart
      refine ⟨[], start?_eq_some_iff.mpr ⟨hm, keyword, hkeyword, gap, hgap, ?_⟩, ?_⟩
      · rw [List.append_nil, ← hstart]
      · rw [hxu]; rfl
    | append_singleton u c =>
      obtain ⟨q, hq, hquotes⟩ := exists_of_mem_markers hm
      have hlast : keyword ++ (gap ++ [q, q]) ++ [q] = (line ++ u) ++ [c] := by
        rw [hquotes] at hstart
        simpa only [List.append_assoc, List.cons_append, List.nil_append] using hstart
      have hqc : q = c := by simpa using (List.append_inj' hlast rfl).2
      have hc : isQuote c = false := hx c (by rw [hxu]; simp)
      exact absurd hqc (ne_of_isQuote hq hc)
  · refine ⟨u, start?_eq_some_iff.mpr ⟨hm, keyword, hkeyword, gap, hgap, ?_⟩, hrest⟩
    rw [hline]
    simp only [List.append_assoc]

theorem marker_mem_of_start? {line : Text} {s : Start} (h : start? line = some s) :
    s.marker ∈ markers := (start?_eq_some_iff.mp h).1

/-- What a line opens is the script it starts, unless that ends on the same line. -/
theorem opening?_eq_some_iff {line m : Text} :
    opening? line = some m ↔
      ∃ s, start? line = some s ∧ endsWith s.marker s.rest = false ∧ s.marker = m := by
  rw [opening?]
  constructor
  · intro h
    obtain ⟨s, hs, h⟩ := Option.bind_eq_some_iff.mp h
    split at h
    · exact absurd h (by simp)
    · rename_i hend
      exact ⟨s, hs, Bool.eq_false_iff.mpr hend, Option.some.inj h⟩
  · rintro ⟨s, hs, hend, rfl⟩
    refine Option.bind_eq_some_iff.mpr ⟨s, hs, ?_⟩
    rw [hend]
    rfl

theorem marker_mem_of_opening? {line m : Text} (h : opening? line = some m) : m ∈ markers := by
  obtain ⟨s, hs, -, rfl⟩ := opening?_eq_some_iff.mp h
  exact marker_mem_of_start? hs

/-! ## 5. Headers -/

/-- A line with a brace at its end does not end with quotes. -/
theorem endsWith_brace {m : Text} (hm : m ∈ markers) (line : Text) :
    endsWith m (line ++ ['\x7b']) = false := by
  obtain ⟨q, hq, rfl⟩ := exists_of_mem_markers hm
  have hdrop : Text.dropEndWhile (fun c => c = ' ' || c = ')') (line ++ ['\x7b'])
      = line ++ ['\x7b'] :=
    List.rdropWhile_concat_neg _ _ _ (by decide)
  rw [endsWith, hdrop]
  by_contra h
  rw [Bool.not_eq_false, List.isSuffixOf_iff_suffix] at h
  obtain ⟨u, hu⟩ := h
  have hlast : (u ++ [q, q]) ++ [q] = line ++ ['\x7b'] := by simpa using hu
  have hqc : q = '\x7b' := by simpa using (List.append_inj' hlast rfl).2
  exact ne_of_isQuote hq (by decide) hqc

/-- **A header opens a script exactly if it starts one without its brace**, whatever blanks stand
between them. -/
theorem opening?_header_eq_none_iff {name b : Text} (hb : Text.Blank b) :
    opening? (name ++ b ++ ['\x7b']) = none ↔ start? name = none := by
  constructor
  · intro h
    by_contra hsome
    obtain ⟨s, hs⟩ := Option.ne_none_iff_exists'.mp hsome
    have hline := start?_append hs (b ++ ['\x7b'])
    have hend : endsWith s.marker (s.rest ++ (b ++ ['\x7b'])) = false := by
      rw [← List.append_assoc]
      exact endsWith_brace (marker_mem_of_start? hs) _
    rw [← List.append_assoc] at hline
    rw [opening?, hline] at h
    simp [hend] at h
  · intro h
    have hline : start? (name ++ b ++ ['\x7b']) = none := by
      by_contra hsome
      obtain ⟨s, hs⟩ := Option.ne_none_iff_exists'.mp hsome
      rw [List.append_assoc] at hs
      obtain ⟨rest, hname, -⟩ := start?_of_append hs (by
        intro c hc
        rcases List.mem_append.mp hc with hc | hc
        · exact isQuote_eq_false_of_isBlank (hb c hc)
        · rw [List.mem_singleton.mp hc]; decide)
      rw [h] at hname
      exact absurd hname (by simp)
    rw [opening?, hline]
    rfl

end Script

end Jenkinsfile
