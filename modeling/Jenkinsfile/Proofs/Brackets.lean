/-
# Which blocks close

Tokens that open and close blocks are brackets, whatever they say otherwise.  A run of tokens is
`Balanced` if every bracket in it has its partner in it.  A closing has a partner before it if a
balanced run reaches back to an opening (`HasOpening`), and an opening has one after it if a
balanced run reaches on to a closing (`HasClosing`).  Both can be found by counting:
`hasOpening_iff_depth` and `hasClosing_iff_falls`.

Every run of tokens has one of three shapes (`shape`): it is balanced, or it goes on to a closing
without a partner, or it goes on to an opening without one.  This is the induction that everything
about brackets is proved by.

`kept` are the tokens that a lenient reading keeps: all but the closings without a partner, and
nothing from the first opening without one onwards.
-/
import Jenkinsfile.Token
import Mathlib.Data.List.Basic

namespace Jenkinsfile.Brackets

/-! ## 1. Balanced runs -/

/-- Every block that opens closes, and nothing else does. -/
inductive Balanced : List Token → Prop
  | nil : Balanced []
  | other {t : Token} {ts : List Token} (ho : t.kind ≠ .blockOpen) (hc : t.kind ≠ .blockClose)
      (h : Balanced ts) : Balanced (t :: ts)
  | block {o c : Token} {body ts : List Token} (ho : o.kind = .blockOpen)
      (hc : c.kind = .blockClose) (hbody : Balanced body) (h : Balanced ts) :
      Balanced (o :: (body ++ c :: ts))

theorem Balanced.append {as bs : List Token} (ha : Balanced as) (hb : Balanced bs) :
    Balanced (as ++ bs) := by
  induction ha with
  | nil => exact hb
  | other ho hc _ ih => exact .other ho hc ih
  | block ho hc hbody _ _ ih =>
    rw [List.cons_append, List.append_assoc, List.cons_append]
    exact .block ho hc hbody ih

/-- A closing after these tokens has a partner among them. -/
def HasOpening (before : List Token) : Prop :=
  ∃ a o b, before = a ++ o :: b ∧ o.kind = .blockOpen ∧ Balanced b

/-- An opening before these tokens has a partner among them. -/
def HasClosing (after : List Token) : Prop :=
  ∃ a c b, after = a ++ c :: b ∧ c.kind = .blockClose ∧ Balanced a

/-! ## 2. The three shapes -/

/-- What a run of tokens looks like to someone outside of all blocks. -/
inductive Shape (ts : List Token) : Prop
  | balanced (h : Balanced ts)
  | closing {a b : List Token} {c : Token} (ha : Balanced a) (hc : c.kind = .blockClose)
      (h : ts = a ++ c :: b)
  | opening {a b : List Token} {o : Token} (ha : Balanced a) (ho : o.kind = .blockOpen)
      (hb : ¬ HasClosing b) (h : ts = a ++ o :: b)

theorem Shape.prepend {as ts : List Token} (ha : Balanced as) (h : Shape ts) :
    Shape (as ++ ts) := by
  cases h with
  | balanced hts => exact .balanced (ha.append hts)
  | closing hbody hc h => exact .closing (ha.append hbody) hc (by rw [h, List.append_assoc])
  | opening hbody ho hb h => exact .opening (ha.append hbody) ho hb (by rw [h, List.append_assoc])

/-- **Every run of tokens has one of the three shapes.** -/
theorem shape : ∀ ts : List Token, Shape ts
  | [] => .balanced .nil
  | t :: ts => by
    by_cases ho : t.kind = .blockOpen
    · by_cases hclosing : HasClosing ts
      · obtain ⟨a, c, b, rfl, hc, ha⟩ := hclosing
        have hb : Shape b := shape b
        have hblock : Balanced (t :: (a ++ [c])) := .block ho hc ha .nil
        have h := Shape.prepend hblock hb
        rwa [List.cons_append, List.append_assoc, List.cons_append, List.nil_append] at h
      · exact .opening .nil ho hclosing rfl
    · by_cases hc : t.kind = .blockClose
      · exact .closing .nil hc rfl
      · have hone : Balanced [t] := .other ho hc .nil
        exact Shape.prepend hone (shape ts)
termination_by ts => ts.length
decreasing_by
  · subst_vars
    simp only [List.length_cons, List.length_append]
    omega
  · simp

/-! ## 3. Counting -/

/-- The number of open blocks after a token, where a closing without a partner counts for
nothing. -/
def depthStep (d : Nat) (t : Token) : Nat :=
  if t.kind = .blockOpen then d + 1 else if t.kind = .blockClose then d - 1 else d

/-- The number of open blocks after several tokens. -/
def depth (ts : List Token) : Nat := ts.foldl depthStep 0

theorem depthStep_of_open {t : Token} (h : t.kind = .blockOpen) (d : Nat) :
    depthStep d t = d + 1 := if_pos h

theorem depthStep_of_close {t : Token} (h : t.kind = .blockClose) (d : Nat) :
    depthStep d t = d - 1 := by
  rw [depthStep, if_neg (by rw [h]; decide), if_pos h]

theorem depthStep_of_other {t : Token} (ho : t.kind ≠ .blockOpen) (hc : t.kind ≠ .blockClose)
    (d : Nat) : depthStep d t = d := by
  rw [depthStep, if_neg ho, if_neg hc]

/-- A balanced run leaves the depth as it is. -/
theorem Balanced.foldl_depthStep {ts : List Token} (h : Balanced ts) (d : Nat) :
    ts.foldl depthStep d = d := by
  induction h generalizing d with
  | nil => rfl
  | other ho hc _ ih => rw [List.foldl_cons, depthStep_of_other ho hc, ih]
  | block ho hc _ _ ihbody ih =>
    rw [List.foldl_cons, List.foldl_append, List.foldl_cons, depthStep_of_open ho, ihbody,
      depthStep_of_close hc, Nat.add_sub_cancel, ih]

@[simp] theorem depth_nil : depth [] = 0 := rfl

theorem depth_concat (ts : List Token) (t : Token) :
    depth (ts ++ [t]) = depthStep (depth ts) t := by
  rw [depth, List.foldl_append]
  rfl

theorem depth_append_balanced {ts body : List Token} (h : Balanced body) :
    depth (ts ++ body) = depth ts := by
  rw [depth, List.foldl_append, h.foldl_depthStep]
  rfl

theorem depth_append_open {ts body : List Token} {o : Token} (ho : o.kind = .blockOpen)
    (h : Balanced body) : depth (ts ++ o :: body) = depth ts + 1 := by
  rw [List.append_cons, depth_append_balanced h, depth_concat, depthStep_of_open ho]

/-- Where a block is open, there is the opening of the innermost one, and the blocks around it are
those that were open before it. -/
theorem exists_of_depth_pos {ts : List Token} (h : 0 < depth ts) :
    ∃ a o b, ts = a ++ o :: b ∧ o.kind = .blockOpen ∧ Balanced b ∧ depth ts = depth a + 1 := by
  induction hn : ts.length using Nat.strongRecOn generalizing ts with
  | _ n ih =>
    rcases List.eq_nil_or_concat' ts with rfl | ⟨r, t, rfl⟩
    · exact absurd h (by decide)
    · rw [List.length_append, List.length_singleton] at hn
      rw [depth_concat] at h ⊢
      by_cases ho : t.kind = .blockOpen
      · exact ⟨r, t, [], rfl, ho, .nil, depthStep_of_open ho _⟩
      · by_cases hc : t.kind = .blockClose
        · -- the closing takes the innermost block away: what is left is the next one out
          rw [depthStep_of_close hc] at h ⊢
          obtain ⟨a, o, b, rfl, ho, hb, hdepth⟩ := ih r.length (by omega) (by omega) rfl
          rw [List.length_append, List.length_cons] at hn
          obtain ⟨a', o', b', rfl, ho', hb', hdepth'⟩ := ih a.length (by omega) (by omega) rfl
          refine ⟨a', o', b' ++ o :: (b ++ t :: []), ?_, ho', hb'.append (.block ho hc hb .nil), ?_⟩
          · simp only [List.append_assoc, List.cons_append]
          · omega
        · rw [depthStep_of_other ho hc] at h ⊢
          obtain ⟨a, o, b, rfl, ho', hb, hdepth⟩ := ih r.length (by omega) h rfl
          refine ⟨a, o, b ++ [t], ?_, ho', hb.append (.other ho hc .nil), hdepth⟩
          rw [List.append_assoc, List.cons_append]

/-- **A closing has a partner exactly where a block is open.** -/
theorem hasOpening_iff_depth {ts : List Token} : HasOpening ts ↔ 0 < depth ts := by
  constructor
  · rintro ⟨a, o, b, rfl, ho, hb⟩
    rw [depth_append_open ho hb]
    exact Nat.succ_pos _
  · intro h
    obtain ⟨a, o, b, hts, ho, hb, -⟩ := exists_of_depth_pos h
    exact ⟨a, o, b, hts, ho, hb⟩

instance (ts : List Token) : Decidable (HasOpening ts) :=
  decidable_of_iff _ hasOpening_iff_depth.symm

/-- More blocks close than these and the ones that open first. -/
def falls (d : Nat) : List Token → Bool
  | [] => false
  | t :: ts =>
    if t.kind = .blockOpen then falls (d + 1) ts
    else if t.kind = .blockClose then if d = 0 then true else falls (d - 1) ts
    else falls d ts

theorem falls_open {t : Token} (h : t.kind = .blockOpen) (d : Nat) (ts : List Token) :
    falls d (t :: ts) = falls (d + 1) ts := by
  rw [falls, if_pos h]

theorem falls_close {t : Token} (h : t.kind = .blockClose) (d : Nat) (ts : List Token) :
    falls d (t :: ts) = if d = 0 then true else falls (d - 1) ts := by
  rw [falls, if_neg (by rw [h]; decide), if_pos h]

theorem falls_other {t : Token} (ho : t.kind ≠ .blockOpen) (hc : t.kind ≠ .blockClose) (d : Nat)
    (ts : List Token) : falls d (t :: ts) = falls d ts := by
  rw [falls, if_neg ho, if_neg hc]

theorem Balanced.falls_append {as : List Token} (h : Balanced as) (d : Nat) (ts : List Token) :
    falls d (as ++ ts) = falls d ts := by
  induction h generalizing d ts with
  | nil => rfl
  | other ho hc _ ih => rw [List.cons_append, falls_other ho hc, ih]
  | block ho hc _ _ ihbody ih =>
    rw [List.cons_append, falls_open ho, List.append_assoc, ihbody, List.cons_append,
      falls_close hc, if_neg (Nat.succ_ne_zero d), Nat.add_sub_cancel, ih]

/-- Without a closing for the next block out, no block closes that was open before. -/
theorem falls_eq_false_of_not_hasClosing : ∀ {ts : List Token}, ¬ HasClosing ts →
    ∀ d, falls d ts = false := by
  intro ts h d
  cases shape ts with
  | balanced hts =>
    have hfalls := hts.falls_append d []
    rwa [List.append_nil] at hfalls
  | @closing a b c ha hc hts => exact absurd ⟨a, c, b, hts, hc, ha⟩ h
  | @opening a b o ha ho hb hts =>
    rw [hts, ha.falls_append, falls_open ho]
    exact falls_eq_false_of_not_hasClosing hb (d + 1)
termination_by ts => ts.length
decreasing_by
  rw [hts]
  simp only [List.length_append, List.length_cons]
  omega

/-- **An opening has a partner exactly where the blocks that open after it close again and one
more does.** -/
theorem hasClosing_iff_falls {ts : List Token} : HasClosing ts ↔ falls 0 ts = true := by
  constructor
  · rintro ⟨a, c, b, rfl, hc, ha⟩
    rw [ha.falls_append, falls_close hc, if_pos rfl]
  · intro h
    by_contra hnone
    rw [falls_eq_false_of_not_hasClosing hnone] at h
    exact absurd h (by decide)

instance (ts : List Token) : Decidable (HasClosing ts) :=
  decidable_of_iff _ hasClosing_iff_falls.symm

/-! ## 4. What is kept -/

/-- The tokens, coming after `before`, without the closings that have no partner, and without
everything from the first opening on that has none. -/
def kept (before : List Token) : List Token → List Token
  | [] => []
  | t :: ts =>
    if t.kind = .blockOpen ∧ ¬ HasClosing ts then []
    else if t.kind = .blockClose ∧ ¬ HasOpening before then kept (before ++ [t]) ts
    else t :: kept (before ++ [t]) ts

theorem kept_other {t : Token} (ho : t.kind ≠ .blockOpen) (hc : t.kind ≠ .blockClose)
    (before ts : List Token) : kept before (t :: ts) = t :: kept (before ++ [t]) ts := by
  rw [kept, if_neg (fun h => ho h.1), if_neg (fun h => hc h.1)]

theorem kept_open {t : Token} (ho : t.kind = .blockOpen) {ts : List Token} (h : HasClosing ts)
    (before : List Token) : kept before (t :: ts) = t :: kept (before ++ [t]) ts := by
  have hc : t.kind ≠ .blockClose := by rw [ho]; decide
  rw [kept, if_neg (fun h' => h'.2 h), if_neg (fun h => hc h.1)]

theorem kept_lost {t : Token} (ho : t.kind = .blockOpen) {ts : List Token} (h : ¬ HasClosing ts)
    (before : List Token) : kept before (t :: ts) = [] := by
  rw [kept, if_pos ⟨ho, h⟩]

theorem kept_close {t : Token} (hc : t.kind = .blockClose) {before : List Token}
    (h : HasOpening before) (ts : List Token) :
    kept before (t :: ts) = t :: kept (before ++ [t]) ts := by
  have ho : t.kind ≠ .blockOpen := by rw [hc]; decide
  rw [kept, if_neg (fun h => ho h.1), if_neg (fun h' => h'.2 h)]

theorem kept_stray {t : Token} (hc : t.kind = .blockClose) {before : List Token}
    (h : ¬ HasOpening before) (ts : List Token) :
    kept before (t :: ts) = kept (before ++ [t]) ts := by
  have ho : t.kind ≠ .blockOpen := by rw [hc]; decide
  rw [kept, if_neg (fun h => ho h.1), if_pos ⟨hc, h⟩]

/-- **A balanced run is kept as it is**, wherever it stands. -/
theorem Balanced.kept_append {as : List Token} (h : Balanced as) (before ts : List Token) :
    kept before (as ++ ts) = as ++ kept (before ++ as) ts := by
  induction h generalizing before ts with
  | nil => rw [List.nil_append, List.nil_append, List.append_nil]
  | @other t as ho hc _ ih =>
    rw [List.cons_append, kept_other ho hc, ih, List.cons_append, List.append_assoc]
    rfl
  | @block o c body as ho hc hbody _ ihbody ih =>
    have hclosing : HasClosing (body ++ c :: (as ++ ts)) := ⟨body, c, _, rfl, hc, hbody⟩
    have hopening : HasOpening (before ++ [o] ++ body) := ⟨before, o, body, by simp, ho, hbody⟩
    rw [List.cons_append, List.append_assoc, List.cons_append, kept_open ho hclosing, ihbody,
      kept_close hc hopening, ih]
    simp only [List.append_assoc, List.cons_append, List.nil_append]

theorem Balanced.kept_eq {ts : List Token} (h : Balanced ts) (before : List Token) :
    kept before ts = ts := by
  have hkept := h.kept_append before []
  rwa [List.append_nil, kept, List.append_nil] at hkept

end Jenkinsfile.Brackets
