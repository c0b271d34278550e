/-
# Brackets without a partner

`strays` are the closings that have no partner before them, and `unclosed` the openings that have
none after them, both in the order of the document.  They are defined through what stands before a
closing and after an opening; what one more token does to them is `strays_concat` and
`unclosed_concat`.  In particular the unclosed openings are a stack: an opening comes on top of it
and a closing takes the top away, so that there are as many of them as blocks are open
(`length_unclosed`).

Nothing is stray as long as the number of openings less the number of closings never falls below
zero (`strays_eq_nil_iff`), and then it is the number of unclosed openings
(`NeverBelow.balance_eq_length`).
-/
import Jenkinsfile.Proofs.Brackets
import Mathlib.Data.List.Induction

namespace Jenkinsfile.Brackets

/-! ## 1. Stray closings -/

/-- The closings without a partner among these tokens, which come after `before`. -/
def strays (before : List Token) : List Token → List Token
  | [] => []
  | t :: ts =>
    if t.kind = .blockClose ∧ ¬ HasOpening before then t :: strays (before ++ [t]) ts
    else strays (before ++ [t]) ts

@[simp] theorem strays_nil (before : List Token) : strays before [] = [] := rfl

theorem strays_cons (before : List Token) (t : Token) (ts : List Token) :
    strays before (t :: ts)
      = (if t.kind = .blockClose ∧ ¬ HasOpening before then [t] else [])
        ++ strays (before ++ [t]) ts := by
  rw [strays]
  split <;> rfl

theorem strays_append (before as bs : List Token) :
    strays before (as ++ bs) = strays before as ++ strays (before ++ as) bs := by
  induction as generalizing before with
  | nil => rw [List.nil_append, List.append_nil, strays_nil, List.nil_append]
  | cons a as ih =>
    rw [List.cons_append, strays_cons, ih, strays_cons, List.append_assoc, List.append_assoc]
    rfl

/-- In a balanced run no closing is stray. -/
theorem Balanced.strays_append {as : List Token} (h : Balanced as) (before ts : List Token) :
    strays before (as ++ ts) = strays (before ++ as) ts := by
  induction h generalizing before ts with
  | nil => rw [List.nil_append, List.append_nil]
  | other _ hc _ ih =>
    rw [List.cons_append, strays_cons, if_neg fun h => hc h.1, List.nil_append, ih,
      List.append_assoc]
    rfl
  | @block o c body as ho hc hbody _ ihbody ih =>
    have hopen : o.kind ≠ .blockClose := by rw [ho]; decide
    have hpartner : HasOpening (before ++ [o] ++ body) := ⟨before, o, body, by simp, ho, hbody⟩
    rw [List.cons_append, strays_cons, if_neg fun h => hopen h.1, List.append_assoc, ihbody,
      List.cons_append, strays_cons, if_neg fun h => h.2 hpartner, ih]
    simp only [List.append_assoc, List.cons_append, List.nil_append]

/-- One more token is stray if it closes a block and none is open. -/
theorem strays_concat (ts : List Token) (t : Token) :
    strays [] (ts ++ [t])
      = strays [] ts ++ if t.kind = .blockClose ∧ depth ts = 0 then [t] else [] := by
  rw [strays_append, strays_cons, strays_nil, List.append_nil, List.nil_append]
  simp only [hasOpening_iff_depth, Nat.not_lt, Nat.le_zero]

/-- Before the first stray closing no block is open and nothing is stray. -/
theorem exists_of_strays_eq_cons {ts rest : List Token} {c : Token}
    (h : strays [] ts = c :: rest) :
    ∃ a b, ts = a ++ c :: b ∧ c.kind = .blockClose ∧ strays [] a = [] ∧ depth a = 0 := by
  induction ts using List.reverseRecOn generalizing rest with
  | nil => exact absurd h (by simp)
  | append_singleton ts t ih =>
    rw [strays_concat] at h
    cases hts : strays [] ts with
    | cons d more =>
      rw [hts, List.cons_append] at h
      obtain ⟨rfl, -⟩ := List.cons.inj h
      obtain ⟨a, b, hab, hc, ha, hdepth⟩ := ih hts
      refine ⟨a, b ++ [t], ?_, hc, ha, hdepth⟩
      rw [hab, List.append_assoc, List.cons_append]
    | nil =>
      rw [hts, List.nil_append] at h
      split at h
      · rename_i hstray
        obtain ⟨rfl, -⟩ := List.cons.inj h
        exact ⟨ts, [], rfl, hstray.1, hts, hstray.2⟩
      · exact absurd h (by simp)

theorem mem_of_mem_strays {ts : List Token} {c : Token} (h : c ∈ strays [] ts) : c ∈ ts := by
  induction ts using List.reverseRecOn with
  | nil => exact absurd h (by simp)
  | append_singleton ts t ih =>
    rw [strays_concat, List.mem_append] at h
    rcases h with h | h
    · exact List.mem_append_left _ (ih h)
    · split at h
      · exact List.mem_append_right _ h
      · exact absurd h (by simp)

/-! ## 2. Unclosed openings -/

/-- The openings without a partner. -/
def unclosed : List Token → List Token
  | [] => []
  | t :: ts => if t.kind = .blockOpen ∧ ¬ HasClosing ts then t :: unclosed ts else unclosed ts

theorem unclosed_other {t : Token} (ho : t.kind ≠ .blockOpen) (ts : List Token) :
    unclosed (t :: ts) = unclosed ts := by
  rw [unclosed, if_neg (fun h => ho h.1)]

theorem unclosed_closed {ts : List Token} (h : HasClosing ts) (t : Token) :
    unclosed (t :: ts) = unclosed ts := by
  rw [unclosed, if_neg (fun h' => h'.2 h)]

theorem unclosed_lone {t : Token} (ho : t.kind = .blockOpen) {ts : List Token}
    (h : ¬ HasClosing ts) : unclosed (t :: ts) = t :: unclosed ts := by
  rw [unclosed, if_pos ⟨ho, h⟩]

theorem mem_of_mem_unclosed {ts : List Token} {o : Token} (h : o ∈ unclosed ts) : o ∈ ts := by
  induction ts with
  | nil => exact h
  | cons t ts ih =>
    rw [unclosed] at h
    split at h
    · rcases List.mem_cons.mp h with rfl | h
      · exact List.mem_cons_self
      · exact List.mem_cons_of_mem t (ih h)
    · exact List.mem_cons_of_mem t (ih h)

/-- In a balanced run every opening has its partner. -/
theorem Balanced.unclosed_append {as : List Token} (h : Balanced as) (ts : List Token) :
    unclosed (as ++ ts) = unclosed ts := by
  induction h generalizing ts with
  | nil => rfl
  | other ho _ _ ih => rw [List.cons_append, unclosed_other ho, ih]
  | @block o c body as _ hc hbody _ ihbody ih =>
    have hclosing : HasClosing (body ++ c :: (as ++ ts)) := ⟨body, c, _, rfl, hc, hbody⟩
    have hother : c.kind ≠ .blockOpen := by rw [hc]; decide
    rw [List.cons_append, List.append_assoc, List.cons_append, unclosed_closed hclosing, ihbody,
      unclosed_other hother, ih]

/-- What neither closes a block from outside nor leaves one open is balanced. -/
theorem balanced_iff {ts : List Token} : Balanced ts ↔ ¬ HasClosing ts ∧ unclosed ts = [] := by
  constructor
  · intro h
    have hfalls := h.falls_append 0 []
    have hunclosed := h.unclosed_append []
    rw [List.append_nil] at hfalls hunclosed
    rw [hasClosing_iff_falls, hfalls]
    exact ⟨by decide, hunclosed⟩
  · rintro ⟨hclosing, hunclosed⟩
    cases shape ts with
    | balanced h => exact h
    | @closing a b c ha hc h => exact absurd ⟨a, c, b, h, hc, ha⟩ hclosing
    | @opening a b o ha ho hb h =>
      rw [h, ha.unclosed_append, unclosed_lone ho hb] at hunclosed
      exact absurd hunclosed (by simp)

/-- One more token is the partner of an opening if it closes a block and all between them is
balanced. -/
theorem hasClosing_concat {ts : List Token} {t : Token} :
    HasClosing (ts ++ [t]) ↔ HasClosing ts ∨ (t.kind = .blockClose ∧ Balanced ts) := by
  constructor
  · rintro ⟨a, c, b, h, hc, ha⟩
    rcases List.eq_nil_or_concat' b with rfl | ⟨b, d, rfl⟩
    · obtain ⟨rfl, hlast⟩ := List.append_inj' h rfl
      obtain ⟨rfl, -⟩ := List.cons.inj hlast
      exact Or.inr ⟨hc, ha⟩
    · rw [← List.cons_append, ← List.append_assoc] at h
      exact Or.inl ⟨a, c, b, (List.append_inj' h rfl).1, hc, ha⟩
  · rintro (⟨a, c, b, rfl, hc, ha⟩ | ⟨hc, hts⟩)
    · exact ⟨a, c, b ++ [t], by simp, hc, ha⟩
    · exact ⟨ts, t, [], rfl, hc, hts⟩

/-- A closing takes the last unclosed opening away. -/
theorem unclosed_concat_close {t : Token} (hc : t.kind = .blockClose) (ts : List Token) :
    unclosed (ts ++ [t]) = (unclosed ts).dropLast := by
  have ho : t.kind ≠ .blockOpen := by rw [hc]; decide
  induction ts with
  | nil => rw [List.nil_append, unclosed_other ho]; rfl
  | cons s ts ih =>
    rw [List.cons_append]
    by_cases hs : s.kind = .blockOpen
    · by_cases hclosing : HasClosing ts
      · rw [unclosed_closed (hasClosing_concat.mpr (Or.inl hclosing)), ih, unclosed_closed hclosing]
      · by_cases hts : Balanced ts
        · -- the closing is the partner of this opening
          rw [unclosed_closed (hasClosing_concat.mpr (Or.inr ⟨hc, hts⟩)), ih,
            unclosed_lone hs hclosing, (balanced_iff.mp hts).2]
          rfl
        · -- it is the partner of an opening further on
          have hlone : ¬ HasClosing (ts ++ [t]) := by
            rw [hasClosing_concat, not_or]
            exact ⟨hclosing, fun h => hts h.2⟩
          have hne : unclosed ts ≠ [] := fun h => hts (balanced_iff.mpr ⟨hclosing, h⟩)
          rw [unclosed_lone hs hlone, ih, unclosed_lone hs hclosing,
            List.dropLast_cons_of_ne_nil hne]
    · rw [unclosed_other hs, ih, unclosed_other hs]

theorem unclosed_concat_of_ne_close {t : Token} (hc : t.kind ≠ .blockClose) (ts : List Token) :
    unclosed (ts ++ [t]) = unclosed ts ++ unclosed [t] := by
  induction ts with
  | nil => rfl
  | cons s ts ih =>
    have hclosing : HasClosing (ts ++ [t]) ↔ HasClosing ts := by simp [hasClosing_concat, hc]
    by_cases hs : s.kind = .blockOpen ∧ ¬ HasClosing ts
    · rw [List.cons_append, unclosed_lone hs.1 (fun h => hs.2 (hclosing.mp h)),
        unclosed_lone hs.1 hs.2, ih, List.cons_append]
    · rw [List.cons_append, unclosed, unclosed, if_neg hs, if_neg (by rwa [hclosing]), ih]

/-- **The unclosed openings are a stack**: an opening comes on top, a closing takes the top away,
and any other token leaves them as they are. -/
theorem unclosed_concat (ts : List Token) (t : Token) :
    unclosed (ts ++ [t])
      = if t.kind = .blockOpen then unclosed ts ++ [t]
        else if t.kind = .blockClose then (unclosed ts).dropLast
        else unclosed ts := by
  by_cases ho : t.kind = .blockOpen
  · have hc : t.kind ≠ .blockClose := by rw [ho]; decide
    rw [if_pos ho, unclosed_concat_of_ne_close hc, unclosed_lone ho (by decide), unclosed]
  · rw [if_neg ho]
    by_cases hc : t.kind = .blockClose
    · rw [if_pos hc, unclosed_concat_close hc]
    · rw [if_neg hc, unclosed_concat_of_ne_close hc, unclosed_other ho, unclosed, List.append_nil]

/-- As many openings are unclosed as blocks are open. -/
theorem length_unclosed (ts : List Token) : (unclosed ts).length = depth ts := by
  induction ts using List.reverseRecOn with
  | nil => rfl
  | append_singleton ts t ih =>
    rw [unclosed_concat, depth_concat, depthStep, ← ih]
    split
    · rw [List.length_append, List.length_singleton]
    · split
      · rw [List.length_dropLast]
      · rfl

/-! ## 3. Counting both -/

/-- The number of blocks that open less the number of blocks that close. -/
def balance (ts : List Token) : Int :=
  ts.countP (·.kind = .blockOpen) - ts.countP (·.kind = .blockClose)

@[simp] theorem balance_nil : balance [] = 0 := rfl

/-- What a token adds to it. -/
def weight (t : Token) : Int :=
  if t.kind = .blockOpen then 1 else if t.kind = .blockClose then -1 else 0

theorem balance_concat (ts : List Token) (t : Token) :
    balance (ts ++ [t]) = balance ts + weight t := by
  rw [balance, balance, List.countP_append, List.countP_append, List.countP_singleton,
    List.countP_singleton, weight]
  cases t.kind <;> simp <;> omega

/-- The depth follows the balance, but does not fall below zero. -/
theorem depthStep_eq_max (d : Nat) (t : Token) : (depthStep d t : Int) = max 0 (d + weight t) := by
  rw [depthStep, weight]
  split
  · omega
  · split <;> omega

/-- At no point have more blocks closed than opened. -/
def NeverBelow (ts : List Token) : Prop := ∀ a, a <+: ts → 0 ≤ balance a

theorem neverBelow_concat {ts : List Token} {t : Token} :
    NeverBelow (ts ++ [t]) ↔ NeverBelow ts ∧ 0 ≤ balance (ts ++ [t]) := by
  constructor
  · intro h
    exact ⟨fun a ha => h a (ha.trans (List.prefix_append ts [t])), h _ List.prefix_rfl⟩
  · rintro ⟨hts, hlast⟩ a ha
    rcases List.prefix_concat_iff.mp ha with rfl | ha
    · exact hlast
    · exact hts a ha

theorem NeverBelow.balance_eq_depth {ts : List Token} (h : NeverBelow ts) :
    balance ts = depth ts := by
  induction ts using List.reverseRecOn with
  | nil => rfl
  | append_singleton ts t ih =>
    obtain ⟨hts, hlast⟩ := neverBelow_concat.mp h
    rw [balance_concat, ih hts] at hlast ⊢
    rw [depth_concat, depthStep_eq_max, Int.max_eq_right hlast]

/-- As many openings are unclosed as the balance says, where it is never below zero. -/
theorem NeverBelow.balance_eq_length {ts : List Token} (h : NeverBelow ts) :
    balance ts = (unclosed ts).length := by
  rw [h.balance_eq_depth, length_unclosed]

theorem add_weight_neg_iff (d : Nat) (t : Token) :
    (d : Int) + weight t < 0 ↔ t.kind = .blockClose ∧ d = 0 := by
  rw [weight]
  split
  · rename_i ho
    exact iff_of_false (by omega) fun h => absurd (ho.symm.trans h.1) (by decide)
  · split
    · rename_i hc
      rw [and_iff_right hc]
      omega
    · rename_i hc
      exact iff_of_false (by omega) fun h => hc h.1

/-- **A closing is stray as soon as more blocks have closed than opened, and not before.** -/
theorem strays_eq_nil_iff {ts : List Token} : strays [] ts = [] ↔ NeverBelow ts := by
  induction ts using List.reverseRecOn with
  | nil => simp [NeverBelow]
  | append_singleton ts t ih =>
    rw [strays_concat, List.append_eq_nil_iff, ih, neverBelow_concat]
    refine and_congr_right fun hts => ?_
    rw [balance_concat, hts.balance_eq_depth, ← Int.not_lt, add_weight_neg_iff]
    simp

/-- In a balanced run no more blocks close than have opened. -/
theorem Balanced.neverBelow {ts : List Token} (h : Balanced ts) : NeverBelow ts := by
  have hstrays := h.strays_append [] []
  rw [List.append_nil, strays_nil] at hstrays
  exact strays_eq_nil_iff.mp hstrays

end Jenkinsfile.Brackets
