/-
# Trimming

A text is made of blanks, a solid middle, and blanks: `trim` gives the middle
(`exists_eq_trim`), blanks around a text do not change it (`trim_append_left`,
`trim_append_right`), and a text whose first and last characters are not blank is its own middle
(`trim_eq_self_iff`).
-/
import Jenkinsfile.Text.Blank
import Mathlib.Data.List.DropRight

namespace Jenkinsfile.Text

/-! ## 1. Blank texts -/

/-- Nothing but blanks. -/
def Blank (t : Text) : Prop := ∀ c ∈ t, isBlank c = true

instance (t : Text) : Decidable (Blank t) :=
  decidable_of_iff (t.all isBlank = true) List.all_eq_true

@[simp] theorem blank_nil : Blank [] := by simp [Blank]

@[simp] theorem blank_cons {c : Char} {t : Text} : Blank (c :: t) ↔ isBlank c = true ∧ Blank t := by
  simp [Blank]

@[simp] theorem blank_append {s t : Text} : Blank (s ++ t) ↔ Blank s ∧ Blank t := by
  simp [Blank, or_imp, forall_and]

theorem mem_of_mem_replicate {c : Char} {t : Text} {n : Nat} (h : c ∈ replicate n t) : c ∈ t := by
  obtain ⟨copy, hcopy, hc⟩ := List.mem_flatten.mp h
  rwa [List.eq_of_mem_replicate hcopy] at hc

theorem blank_replicate {t : Text} (h : Blank t) (n : Nat) : Blank (replicate n t) :=
  fun c hc => h c (mem_of_mem_replicate hc)

theorem blank_leadingBlanks (t : Text) : Blank (leadingBlanks t) :=
  fun _ hc => List.mem_takeWhile_imp hc

/-! ## 2. One end -/

@[simp] theorem trimStart_nil : trimStart [] = [] := rfl

@[simp] theorem trimEnd_nil : trimEnd [] = [] := rfl

theorem trimStart_cons (c : Char) (t : Text) :
    trimStart (c :: t) = if isBlank c then trimStart t else c :: t := by
  rw [trimStart, List.dropWhile_cons]
  rfl

theorem trimEnd_concat (t : Text) (c : Char) :
    trimEnd (t ++ [c]) = if isBlank c then trimEnd t else t ++ [c] :=
  List.rdropWhile_concat isBlank t c

theorem trimStart_append {a : Text} (h : Blank a) (t : Text) :
    trimStart (a ++ t) = trimStart t :=
  List.dropWhile_append_of_pos h

/-- A tail of such characters is cut off. -/
theorem dropEndWhile_append {p : Char → Bool} {b : Text} (h : ∀ c ∈ b, p c = true) (t : Text) :
    dropEndWhile p (t ++ b) = dropEndWhile p t := by
  induction b using List.reverseRecOn with
  | nil => rw [List.append_nil]
  | append_singleton b c ih =>
    obtain ⟨hb, hc⟩ := List.forall_mem_append.mp h
    have hlast : dropEndWhile p (t ++ b ++ [c]) = dropEndWhile p (t ++ b) :=
      List.rdropWhile_concat_pos _ _ _ (hc c (by simp))
    rw [← List.append_assoc, hlast, ih hb]

/-- What is cut off the end are such characters only. -/
theorem exists_eq_dropEndWhile (p : Char → Bool) (t : Text) :
    ∃ b : Text, (∀ c ∈ b, p c = true) ∧ t = dropEndWhile p t ++ b := by
  refine ⟨(t.reverse.takeWhile p).reverse, ?_, ?_⟩
  · intro c hc
    exact List.mem_takeWhile_imp (List.mem_reverse.mp hc)
  · rw [dropEndWhile, ← List.reverse_append, List.takeWhile_append_dropWhile, List.reverse_reverse]

theorem trimEnd_append {b : Text} (h : Blank b) (t : Text) : trimEnd (t ++ b) = trimEnd t :=
  dropEndWhile_append h t

theorem trimStart_eq_nil_iff {t : Text} : trimStart t = [] ↔ Blank t := by
  simp [trimStart, Blank]

theorem trimEnd_eq_nil_iff {t : Text} : trimEnd t = [] ↔ Blank t :=
  List.rdropWhile_eq_nil_iff

/-- What is cut off the end is blank. -/
theorem exists_eq_trimEnd (t : Text) : ∃ b, Blank b ∧ t = trimEnd t ++ b :=
  exists_eq_dropEndWhile isBlank t

theorem trimEnd_cons (c : Char) (t : Text) :
    trimEnd (c :: t) = if isBlank c = true ∧ trimEnd t = [] then [] else c :: trimEnd t := by
  induction t using List.reverseRecOn with
  | nil => simpa using trimEnd_concat [] c
  | append_singleton t d ih =>
    rw [← List.cons_append, trimEnd_concat, trimEnd_concat, ih]
    by_cases hd : isBlank d <;> simp [hd]

/-- The last character that is not cut off is no blank. -/
theorem isBlank_of_mem_getLast?_trimEnd {t : Text} {c : Char} (h : c ∈ (trimEnd t).getLast?) :
    isBlank c = false := by
  induction t using List.reverseRecOn with
  | nil => simp at h
  | append_singleton t d ih =>
    rw [trimEnd_concat] at h
    split at h
    · exact ih h
    · simp_all

@[simp] theorem trimEnd_trimEnd (t : Text) : trimEnd (trimEnd t) = trimEnd t :=
  List.rdropWhile_idempotent isBlank t

theorem isBlank_of_mem_head?_trimStart {t : Text} {c : Char} (h : c ∈ (trimStart t).head?) :
    isBlank c = false := by
  induction t with
  | nil => simp at h
  | cons d t ih =>
    rw [trimStart_cons] at h
    split at h
    · exact ih h
    · simp_all

/-! ## 3. Both ends -/

/-- It does not matter which end is trimmed first. -/
theorem trim_eq_trimStart_trimEnd (t : Text) : trim t = trimStart (trimEnd t) := by
  induction t with
  | nil => rfl
  | cons c t ih =>
    rw [trim, trimStart_cons, trimEnd_cons]
    by_cases hc : isBlank c
    · rw [if_pos hc, ← trim, ih]
      by_cases ht : trimEnd t = []
      · simp [hc, ht]
      · simp [hc, ht, trimStart_cons]
    · simp [hc, trimEnd_cons, trimStart_cons]

@[simp] theorem trim_nil : trim [] = [] := rfl

theorem trim_append_left {a : Text} (h : Blank a) (t : Text) : trim (a ++ t) = trim t := by
  rw [trim, trimStart_append h, ← trim]

theorem trim_append_right {b : Text} (h : Blank b) (t : Text) : trim (t ++ b) = trim t := by
  rw [trim_eq_trimStart_trimEnd, trimEnd_append h, ← trim_eq_trimStart_trimEnd]

theorem trim_eq_nil_iff {t : Text} : trim t = [] ↔ Blank t := by
  constructor
  · intro h
    rw [trim, trimEnd_eq_nil_iff] at h
    rw [← leadingBlanks_append_trimStart t, blank_append]
    exact ⟨blank_leadingBlanks t, h⟩
  · intro h
    rw [trim, trimStart_eq_nil_iff.mpr h]
    rfl

/-- **A text is its trimmed middle with blanks on both sides.** -/
theorem exists_eq_trim (t : Text) : ∃ a b, Blank a ∧ Blank b ∧ t = a ++ trim t ++ b := by
  obtain ⟨b, hb, ht⟩ := exists_eq_trimEnd (trimStart t)
  refine ⟨leadingBlanks t, b, blank_leadingBlanks t, hb, ?_⟩
  rw [List.append_assoc, trim, ← ht, leadingBlanks_append_trimStart]

@[simp] theorem trim_trim (t : Text) : trim (trim t) = trim t := by
  obtain ⟨a, b, ha, hb, ht⟩ := exists_eq_trim t
  conv_rhs => rw [ht, trim_append_right hb, trim_append_left ha]

theorem isBlank_of_mem_getLast?_trim {t : Text} {c : Char} (h : c ∈ (trim t).getLast?) :
    isBlank c = false := isBlank_of_mem_getLast?_trimEnd h

theorem isBlank_of_mem_head?_trim {t : Text} {c : Char} (h : c ∈ (trim t).head?) :
    isBlank c = false := by
  rw [trim_eq_trimStart_trimEnd] at h
  exact isBlank_of_mem_head?_trimStart h

/-- A text that neither begins nor ends with a blank is trimmed. -/
theorem trim_eq_self_iff {t : Text} :
    trim t = t ↔ (∀ c ∈ t.head?, isBlank c = false) ∧ ∀ c ∈ t.getLast?, isBlank c = false := by
  constructor
  · intro h
    rw [← h]
    exact ⟨fun _ => isBlank_of_mem_head?_trim, fun _ => isBlank_of_mem_getLast?_trim⟩
  · rintro ⟨hhead, hlast⟩
    have hstart : trimStart t = t := by
      cases t with
      | nil => rfl
      | cons c r => rw [trimStart_cons, hhead c rfl]; rfl
    rw [trim, hstart]
    cases t using List.reverseRecOn with
    | nil => rfl
    | append_singleton r c => rw [trimEnd_concat, hlast c (by simp)]; rfl

/-- No character is new after trimming. -/
theorem mem_of_mem_trim {t : Text} {c : Char} (h : c ∈ trim t) : c ∈ t := by
  obtain ⟨a, b, -, -, ht⟩ := exists_eq_trim t
  rw [ht]
  simp [h]

end Jenkinsfile.Text
