/-
# What the builder does

A token acts on a builder through its entry alone, the lines and the open script apart: a leaf is
added, a block is opened or closed, and a token without an entry does nothing (section 2).  Two
consequences carry everything about trees:

* `adds_listingAll`: tokens that say what a forest says add that forest;
* `exists_forest`: balanced tokens say what some forest says, and add it.

Recoveries are never taken back, and a strict reading is a lenient one that recovers from nothing
(`foldlM_strictStep_eq_ok_iff`, `buildStrict_eq_ok_iff`).
-/
import Jenkinsfile.Parse
import Jenkinsfile.Proofs.Brackets
import Jenkinsfile.Proofs.Entry
import Jenkinsfile.Proofs.Outcome

namespace Jenkinsfile

/-! ## 1. Adding elements -/

namespace Builder

variable {b : Builder} {s : Option OpenScript}

/-- The same builder with another open script. -/
def setScript (b : Builder) (s : Option OpenScript) : Builder := { b with script := s }

@[simp] theorem setScript_elements : (b.setScript s).elements = b.elements := rfl

@[simp] theorem setScript_frames : (b.setScript s).frames = b.frames := rfl

@[simp] theorem setScript_recoveries : (b.setScript s).recoveries = b.recoveries := rfl

@[simp] theorem setScript_setScript (s' : Option OpenScript) :
    (b.setScript s).setScript s' = b.setScript s' := rfl

@[simp] theorem setScript_script : b.setScript b.script = b := rfl

theorem add_setScript (e : Element) : (b.setScript s).add e = (b.add e).setScript s := by
  rw [add, add, setScript_frames]
  cases b.frames <;> rfl

theorem closeBlock_setScript (line : Int) :
    (b.setScript s).closeBlock line = (b.closeBlock line).setScript s := by
  rw [closeBlock, closeBlock, setScript_frames]
  cases b.frames with
  | nil => rfl
  | cons f frames => exact add_setScript (b := { b with frames := frames }) f.close

/-- Attaches several elements. -/
def addAll (b : Builder) (es : List Element) : Builder := es.foldl add b

@[simp] theorem addAll_nil : b.addAll [] = b := rfl

@[simp] theorem addAll_cons (e : Element) (es : List Element) :
    b.addAll (e :: es) = (b.add e).addAll es := rfl

theorem addAll_append (as bs : List Element) : b.addAll (as ++ bs) = (b.addAll as).addAll bs :=
  List.foldl_append

theorem addAll_setScript (es : List Element) :
    (b.setScript s).addAll es = (b.addAll es).setScript s := by
  induction es generalizing b with
  | nil => rfl
  | cons e es ih => rw [addAll_cons, add_setScript, ih, addAll_cons]

theorem recoveries_add (e : Element) : (b.add e).recoveries = b.recoveries := by
  rw [add]
  cases b.frames <;> rfl

theorem recoveries_addAll (es : List Element) : (b.addAll es).recoveries = b.recoveries := by
  induction es generalizing b with
  | nil => rfl
  | cons e es ih => rw [addAll_cons, ih, recoveries_add]

/-- Outside of all blocks, elements go to the document. -/
theorem addAll_of_frames_nil (h : b.frames = []) (es : List Element) :
    b.addAll es = { b with elements := b.elements ++ es } := by
  induction es generalizing b with
  | nil => rw [List.append_nil, addAll_nil]
  | cons e es ih =>
    have hadd : b.add e = { b with elements := b.elements ++ [e] } := by rw [add, h]
    rw [addAll_cons, hadd, ih (b := { b with elements := b.elements ++ [e] }) h, List.append_assoc]
    rfl

/-- Inside of a block, they go to the innermost one. -/
theorem addAll_of_frames_cons {f : Frame} {frames : List Frame} (h : b.frames = f :: frames)
    (es : List Element) :
    b.addAll es = { b with frames := { f with children := f.children ++ es } :: frames } := by
  induction es generalizing b f with
  | nil =>
    rw [List.append_nil, addAll_nil, ← h]
  | cons e es ih =>
    have hadd : b.add e =
        { b with frames := { f with children := f.children ++ [e] } :: frames } := by
      rw [add, h]
    rw [addAll_cons, hadd, ih rfl, List.append_assoc]
    rfl

theorem addAll_openBlock (header : Text) (line : Int) (es : List Element) :
    (b.openBlock header line).addAll es = { b with frames := ⟨header, line, es⟩ :: b.frames } := by
  have hframes : (b.openBlock header line).frames = ⟨header, line, []⟩ :: b.frames := rfl
  rw [addAll_of_frames_cons hframes]
  rfl

/-- A block that opens and closes is one element. -/
theorem closeBlock_addAll_openBlock (header : Text) (opened closed : Int) (es : List Element) :
    ((b.openBlock header opened).addAll es).closeBlock closed = b.add (.block header es) := by
  rw [addAll_openBlock]
  rfl

/-! ## 2. Steps -/

theorem step_of_meaning?_none {t : Token} (h : t.meaning? = none) (b : Builder) : b.step t = b := by
  obtain ⟨kind, value, line⟩ := t
  cases kind with
  | blank => rfl
  | _ => exact absurd h (by simp [Token.meaning?, Entry.of?])

theorem exists_step_of_meaning?_leaf {t : Token} {kind : ElementKind} {line : Text}
    (h : t.meaning? = some (.leaf kind line)) (b : Builder) :
    ∃ s, b.step t = (b.add (.leaf kind line)).setScript s := by
  obtain ⟨k, value, n⟩ := t
  cases k with
  | blank => exact absurd h (by simp [Token.meaning?, Entry.of?])
  | blockOpen => exact absurd h (by simp [Token.meaning?, Entry.of?])
  | blockClose => exact absurd h (by simp [Token.meaning?, Entry.of?])
  | _ =>
    simp only [Token.meaning?, Entry.of?, Option.some.injEq, Entry.leaf.injEq] at h
    obtain ⟨rfl, rfl⟩ := h
    exact ⟨_, rfl⟩

theorem kind_ne_block_of_meaning? {t : Token} {kind : ElementKind} {line : Text}
    (h : t.meaning? = some (.leaf kind line)) : kind ≠ .block := by
  obtain ⟨k, value, n⟩ := t
  rintro rfl
  cases k <;> simp [Token.meaning?, Entry.of?] at h

theorem meaning?_opens_iff {t : Token} {header : Text} :
    t.meaning? = some (.opens header) ↔ t.kind = .blockOpen ∧ t.value = header := by
  obtain ⟨kind, value, line⟩ := t
  cases kind <;> simp [Token.meaning?, Entry.of?]

theorem meaning?_closes_iff {t : Token} : t.meaning? = some .closes ↔ t.kind = .blockClose := by
  obtain ⟨kind, value, line⟩ := t
  cases kind <;> simp [Token.meaning?, Entry.of?]

theorem step_of_open {t : Token} (h : t.kind = .blockOpen) (b : Builder) :
    b.step t = b.openBlock t.value t.line := by
  rw [step, h]

theorem step_of_close {t : Token} (h : t.kind = .blockClose) (b : Builder) :
    b.step t = b.closeBlock t.line := by
  rw [step, h]

/-- Only a closing outside of all blocks is recovered from on the way. -/
theorem recoveries_step (b : Builder) (t : Token) :
    (b.step t).recoveries
      = b.recoveries ++
        if t.kind = .blockClose ∧ b.frames = [] then [.strayBrace t.line] else [] := by
  obtain ⟨kind, value, line⟩ := t
  cases kind with
  | blockClose =>
    rw [step_of_close rfl, closeBlock]
    cases hf : b.frames with
    | nil => simp
    | cons f frames => simp [recoveries_add]
  | _ => simp [step, openBlock, recoveries_add]

/-! ## 3. Forests -/

/-- Reading these tokens adds these elements, wherever it starts, and does nothing else to the
tree. -/
def Adds (ts : List Token) (es : List Element) : Prop :=
  ∀ b : Builder, ∃ s, ts.foldl step b = (b.addAll es).setScript s

namespace Adds

variable {ts us : List Token} {es fs : List Element}

theorem nil : Adds [] [] := fun b => ⟨b.script, rfl⟩

theorem append (h : Adds ts es) (h' : Adds us fs) : Adds (ts ++ us) (es ++ fs) := by
  intro b
  obtain ⟨s, hs⟩ := h b
  obtain ⟨s', hs'⟩ := h' ((b.addAll es).setScript s)
  refine ⟨s', ?_⟩
  rw [List.foldl_append, hs, hs', addAll_setScript, setScript_setScript, addAll_append]

theorem skip {t : Token} (ht : t.meaning? = none) : Adds [t] [] :=
  fun b => ⟨b.script, step_of_meaning?_none ht b⟩

theorem leaf {t : Token} {kind : ElementKind} {line : Text}
    (ht : t.meaning? = some (.leaf kind line)) : Adds [t] [.leaf kind line] :=
  fun b => exists_step_of_meaning?_leaf ht b

/-- What the tokens between an opening and its closing add becomes the block. -/
theorem block {o c : Token} (ho : o.kind = .blockOpen) (hc : c.kind = .blockClose)
    (h : Adds ts es) : Adds (o :: (ts ++ [c])) [.block o.value es] := by
  intro b
  obtain ⟨s, hs⟩ := h (b.openBlock o.value o.line)
  refine ⟨s, ?_⟩
  rw [List.foldl_cons, step_of_open ho, List.foldl_append, hs, List.foldl_cons, List.foldl_nil,
    step_of_close hc, closeBlock_setScript, closeBlock_addAll_openBlock]
  rfl

theorem of_filterMap_eq_nil (h : ts.filterMap Token.meaning? = []) : Adds ts [] := by
  induction ts with
  | nil => exact .nil
  | cons t ts ih =>
    have ht : t.meaning? = none := List.filterMap_eq_nil_iff.mp h t (by simp)
    rw [List.filterMap_cons_none ht] at h
    exact (skip ht).append (ih h)

end Adds

end Builder

/-- An element that has no more to it than its kind and its line, or its header and its
children. -/
inductive Element.Plain : Element → Prop
  | leaf {kind : ElementKind} (h : kind ≠ .block) (line : Text) : Plain (.leaf kind line)
  | block (header : Text) {children : List Element} (h : ∀ e ∈ children, Plain e) :
      Plain (.block header children)

namespace Builder

/-- Where each element of a forest is added by tokens that say what it says, so is the forest. -/
theorem adds_of_listingAll {es : List Element}
    (hes : ∀ e ∈ es, ∀ ts, ts.filterMap Token.meaning? = e.listing → Adds ts [e]) :
    ∀ ts, ts.filterMap Token.meaning? = Element.listingAll es → Adds ts es := by
  induction es with
  | nil => exact fun ts hts => .of_filterMap_eq_nil hts
  | cons e es ih =>
    intro ts hts
    rw [Element.listingAll_cons] at hts
    obtain ⟨ts₁, ts₂, rfl, h₁, h₂⟩ := List.filterMap_eq_append_iff.mp hts
    obtain ⟨he, hes⟩ := List.forall_mem_cons.mp hes
    exact (he ts₁ h₁).append (ih hes ts₂ h₂)

theorem adds_of_listing {e : Element} (he : e.Plain) :
    ∀ ts, ts.filterMap Token.meaning? = e.listing → Adds ts [e] := by
  induction he with
  | @leaf kind hkind line =>
    intro ts hts
    rw [Element.listing_leaf hkind] at hts
    obtain ⟨ts₁, t, ts₂, rfl, h₁, ht, h₂⟩ := List.filterMap_eq_cons_iff.mp hts
    have hskip : Adds ts₁ [] := .of_filterMap_eq_nil (List.filterMap_eq_nil_iff.mpr h₁)
    exact hskip.append ((Adds.leaf ht).append (.of_filterMap_eq_nil h₂))
  | @block header children _ ih =>
    intro ts hts
    rw [Element.listing_block] at hts
    obtain ⟨ts₁, o, rest, rfl, h₁, ho, hrest⟩ := List.filterMap_eq_cons_iff.mp hts
    obtain ⟨body, rest, rfl, hbody, hrest⟩ := List.filterMap_eq_append_iff.mp hrest
    obtain ⟨ts₂, c, ts₃, rfl, h₂, hc, h₃⟩ := List.filterMap_eq_cons_iff.mp hrest
    obtain ⟨hopen, rfl⟩ := meaning?_opens_iff.mp ho
    have hbefore : Adds ts₁ [] := .of_filterMap_eq_nil (List.filterMap_eq_nil_iff.mpr h₁)
    have hskip : Adds ts₂ [] := .of_filterMap_eq_nil (List.filterMap_eq_nil_iff.mpr h₂)
    have hchildren : Adds (body ++ ts₂) (children ++ []) :=
      (adds_of_listingAll ih body hbody).append hskip
    rw [List.append_nil] at hchildren
    have hblock := Adds.block hopen (meaning?_closes_iff.mp hc) hchildren
    have hall := hbefore.append (hblock.append (Adds.of_filterMap_eq_nil h₃))
    rwa [List.nil_append, List.append_nil, List.cons_append, List.append_assoc, List.append_assoc]
      at hall

/-- **Tokens that say what a forest says add that forest.** -/
theorem adds_listingAll {es : List Element} (hes : ∀ e ∈ es, e.Plain) {ts : List Token}
    (hts : ts.filterMap Token.meaning? = Element.listingAll es) : Adds ts es :=
  adds_of_listingAll (fun e he => adds_of_listing (hes e he)) ts hts

/-- **Balanced tokens say what some forest says, and add it.** -/
theorem exists_forest {ts : List Token} (h : Brackets.Balanced ts) :
    ∃ es, Element.listingAll es = ts.filterMap Token.meaning? ∧ Adds ts es := by
  induction h with
  | nil => exact ⟨[], rfl, .nil⟩
  | @other t ts ho hc _ ih =>
    obtain ⟨es, hlisting, hadds⟩ := ih
    cases ht : t.meaning? with
    | none =>
      refine ⟨es, ?_, (Adds.skip ht).append hadds⟩
      rw [hlisting, List.filterMap_cons_none ht]
    | some entry =>
      rw [List.filterMap_cons_some ht]
      cases entry with
      | opens header => exact absurd (meaning?_opens_iff.mp ht).1 ho
      | closes => exact absurd (meaning?_closes_iff.mp ht) hc
      | leaf kind line =>
        have hkind : kind ≠ .block := kind_ne_block_of_meaning? ht
        refine ⟨.leaf kind line :: es, ?_, (Adds.leaf ht).append hadds⟩
        rw [Element.listingAll_cons, Element.listing_leaf hkind, hlisting]
        rfl
  | @block o c body ts ho hc _ _ ihbody ih =>
    obtain ⟨children, hchildren, hbody⟩ := ihbody
    obtain ⟨es, hlisting, hadds⟩ := ih
    refine ⟨.block o.value children :: es, ?_, ?_⟩
    · have ho' : o.meaning? = some (.opens o.value) := meaning?_opens_iff.mpr ⟨ho, rfl⟩
      have hc' : c.meaning? = some .closes := meaning?_closes_iff.mpr hc
      rw [Element.listingAll_cons, Element.listing_block, hchildren, hlisting,
        List.filterMap_cons_some ho', List.filterMap_append, List.filterMap_cons_some hc']
      simp
    · have hall := (Adds.block ho hc hbody).append hadds
      rwa [List.cons_append, List.append_assoc] at hall

/-- Reading balanced tokens adds the forest that they say. -/
theorem exists_foldl_step_eq {ts : List Token} (h : Brackets.Balanced ts) (b : Builder) :
    ∃ es s, Element.listingAll es = ts.filterMap Token.meaning? ∧
      ts.foldl step b = (b.addAll es).setScript s := by
  obtain ⟨es, hlisting, hadds⟩ := exists_forest h
  obtain ⟨s, hs⟩ := hadds b
  exact ⟨es, s, hlisting, hs⟩

/-! ## 4. Blocks that never close

From the first opening without a partner on, the document gets nothing more. -/

theorem add_frames_ne_nil {b : Builder} (h : b.frames ≠ []) (e : Element) :
    (b.add e).elements = b.elements ∧ (b.add e).frames ≠ [] := by
  rw [add]
  cases hf : b.frames with
  | nil => exact absurd hf h
  | cons f frames => exact ⟨rfl, by simp⟩

theorem addAll_frames_ne_nil {b : Builder} (h : b.frames ≠ []) (es : List Element) :
    (b.addAll es).elements = b.elements ∧ (b.addAll es).frames ≠ [] := by
  induction es generalizing b with
  | nil => exact ⟨rfl, h⟩
  | cons e es ih =>
    obtain ⟨helements, hframes⟩ := add_frames_ne_nil h e
    rw [addAll_cons, ← helements]
    exact ih hframes

/-- An open block that nothing closes keeps the document as it is. -/
theorem foldl_step_of_not_hasClosing {ts : List Token} (h : ¬ Brackets.HasClosing ts)
    {b : Builder} (hb : b.frames ≠ []) :
    (ts.foldl step b).elements = b.elements ∧ (ts.foldl step b).frames ≠ [] := by
  induction hn : ts.length using Nat.strongRecOn generalizing ts b with
  | _ n ih =>
    cases Brackets.shape ts with
    | balanced hts =>
      obtain ⟨es, s, -, hs⟩ := exists_foldl_step_eq hts b
      rw [hs]
      exact addAll_frames_ne_nil hb es
    | @closing a r c ha hc hts => exact absurd ⟨a, c, r, hts, hc, ha⟩ h
    | @opening a r o ha ho hr hts =>
      subst hts
      rw [List.length_append, List.length_cons] at hn
      obtain ⟨es, s, -, hs⟩ := exists_foldl_step_eq ha b
      have hopen : (((b.addAll es).setScript s).openBlock o.value o.line).frames ≠ [] := by
        simp [openBlock]
      rw [List.foldl_append, hs, List.foldl_cons, step_of_open ho,
        ← (addAll_frames_ne_nil hb es).1]
      exact ih r.length (by omega) hr hopen rfl

/-! ## 5. Strict readings -/

theorem recoveries_foldl_step (ts : List Token) (b : Builder) :
    b.recoveries <+: (ts.foldl step b).recoveries := by
  induction ts generalizing b with
  | nil => exact List.prefix_rfl
  | cons t ts ih =>
    refine List.IsPrefix.trans ?_ (ih (b.step t))
    rw [recoveries_step]
    exact List.prefix_append _ _

/-- **A strict reading goes on exactly as long as a lenient one recovers from nothing**, and does
the same. -/
theorem foldlM_strictStep_eq_ok_iff {ts : List Token} {b b' : Builder} :
    ts.foldlM strictStep b = .ok b' ↔ ts.foldl step b = b' ∧ b'.recoveries = b.recoveries := by
  induction ts generalizing b with
  | nil =>
    rw [List.foldlM_nil, List.foldl_nil]
    constructor
    · intro h
      obtain rfl := Except.ok.inj h
      exact ⟨rfl, rfl⟩
    · rintro ⟨rfl, -⟩
      rfl
  | cons t ts ih =>
    rw [List.foldlM_cons, List.foldl_cons, strictStep]
    by_cases hstray : t.kind = .blockClose ∧ b.frames = []
    · rw [if_pos (by simpa [List.isEmpty_iff] using hstray)]
      constructor
      · intro h
        obtain ⟨after, hafter, -⟩ := bind_eq_ok_iff.mp h
        exact absurd hafter (by simp)
      · rintro ⟨rfl, hrec⟩
        have hlen := (recoveries_foldl_step ts (b.step t)).length_le
        rw [hrec, recoveries_step, if_pos hstray, List.length_append, List.length_singleton] at hlen
        omega
    · rw [if_neg (by simpa [List.isEmpty_iff] using hstray)]
      have hkeep : (b.step t).recoveries = b.recoveries := by
        rw [recoveries_step, if_neg hstray, List.append_nil]
      rw [← hkeep]
      exact ih

theorem endRecoveries_eq_nil_iff {b : Builder} :
    b.endRecoveries = [] ↔ b.script = none ∧ b.frames = [] := by
  rw [endRecoveries]
  cases b.script <;> cases hf : b.frames <;> simp

theorem strictFinish_eq_ok_iff {b : Builder} {p : Pipeline} :
    b.strictFinish = .ok p ↔ (b.script = none ∧ b.frames = []) ∧ ⟨b.elements⟩ = p := by
  rw [strictFinish]
  cases b.script <;> cases b.frames <;> simp

end Builder

/-- **A strict reading is a lenient one that recovers from nothing.** -/
theorem buildStrict_eq_ok_iff {ts : List Token} {p : Pipeline} :
    buildStrict ts = .ok p ↔ (build ts).recoveries = [] ∧ (build ts).pipeline = p := by
  have hend : (build ts).recoveries = [] ↔ (ts.foldl Builder.step .empty).recoveries = [] ∧
      (ts.foldl Builder.step .empty).script = none ∧
      (ts.foldl Builder.step .empty).frames = [] := by
    rw [← Builder.endRecoveries_eq_nil_iff]
    exact List.append_eq_nil_iff
  rw [hend, buildStrict, bind_eq_ok_iff]
  constructor
  · rintro ⟨b, hfold, hfinish⟩
    obtain ⟨rfl, hrec⟩ := Builder.foldlM_strictStep_eq_ok_iff.mp hfold
    obtain ⟨hend, hp⟩ := Builder.strictFinish_eq_ok_iff.mp hfinish
    exact ⟨⟨hrec, hend⟩, hp⟩
  · rintro ⟨⟨hrec, hend⟩, hp⟩
    exact ⟨_, Builder.foldlM_strictStep_eq_ok_iff.mpr ⟨rfl, hrec⟩,
      Builder.strictFinish_eq_ok_iff.mpr ⟨hend, hp⟩⟩

end Jenkinsfile
