/-
# Nothing is lost on the way into the tree

A tree lists what was read, in the order in which it was read.  A strict reading lists every token
that is not blank; a lenient one leaves out the closings without a partner, and all that follows
the first opening without one (`listing_build`).  So no line is lost, said twice, put before
another, or moved to another block.

The induction is on the three shapes that tokens outside of all blocks can have: a balanced run
goes into the document as the forest it is, a closing without a partner is passed over, and an
opening without one keeps everything after it out of the document.
-/
import Jenkinsfile.Proofs.Building

namespace Jenkinsfile

open Brackets

/-! ## 1. Lenient readings -/

namespace Builder

/-- A closing outside of all blocks changes neither the document nor the open blocks. -/
theorem step_of_stray {b : Builder} {t : Token} (ht : t.kind = .blockClose) (hb : b.frames = []) :
    (b.step t).elements = b.elements ∧ (b.step t).frames = [] := by
  rw [step_of_close ht, closeBlock, hb]
  exact ⟨rfl, rfl⟩

/-- What is read outside of all blocks is listed, as far as it is kept. -/
theorem listingAll_foldl_step {ts before : List Token} {b : Builder} (hb : b.frames = [])
    (hbefore : ¬ HasOpening before) :
    Element.listingAll (ts.foldl step b).elements
      = Element.listingAll b.elements ++ (kept before ts).filterMap Token.meaning? := by
  induction hn : ts.length using Nat.strongRecOn generalizing ts before b with
  | _ n ih =>
    cases shape ts with
    | balanced hts =>
      obtain ⟨es, s, hlisting, hs⟩ := exists_foldl_step_eq hts b
      rw [hs, setScript_elements, addAll_of_frames_nil hb, Element.listingAll_append, hlisting,
        hts.kept_eq]
    | @closing a r c ha hc hts =>
      subst hts
      rw [List.length_append, List.length_cons] at hn
      obtain ⟨es, s, hlisting, hs⟩ := exists_foldl_step_eq ha b
      have hafter : ¬ HasOpening (before ++ a) := by
        rw [hasOpening_iff_depth, depth_append_balanced ha, ← hasOpening_iff_depth]
        exact hbefore
      have hstray : ¬ HasOpening (before ++ a ++ [c]) := by
        rw [hasOpening_iff_depth, depth_concat, depthStep_of_close hc]
        rw [hasOpening_iff_depth] at hafter
        omega
      have hframes : ((b.addAll es).setScript s).frames = [] := by
        rw [addAll_of_frames_nil hb]
        exact hb
      obtain ⟨helements, hframes'⟩ := step_of_stray hc hframes
      rw [List.foldl_append, hs, List.foldl_cons, ih r.length (by omega) hframes' hstray rfl,
        helements, ha.kept_append, kept_stray hc hafter, List.filterMap_append, setScript_elements,
        addAll_of_frames_nil hb, Element.listingAll_append, hlisting, List.append_assoc]
    | @opening a r o ha ho hr hts =>
      subst hts
      obtain ⟨es, s, hlisting, hs⟩ := exists_foldl_step_eq ha b
      have hopen : (((b.addAll es).setScript s).openBlock o.value o.line).frames ≠ [] := by
        simp [openBlock]
      have helements : (((b.addAll es).setScript s).openBlock o.value o.line).elements
          = b.elements ++ es := by
        rw [addAll_of_frames_nil hb]
        rfl
      rw [List.foldl_append, hs, List.foldl_cons, step_of_open ho,
        (foldl_step_of_not_hasClosing hr hopen).1, helements, ha.kept_append, kept_lost ho hr,
        List.append_nil, Element.listingAll_append, hlisting]

end Builder

/-! ## 2. Strict readings -/

/-- A reading that recovers from nothing has read balanced tokens. -/
theorem balanced_of_recoveries_eq_nil {ts : List Token} (h : (build ts).recoveries = []) :
    Balanced ts := by
  obtain ⟨hrec, hend⟩ := List.append_eq_nil_iff.mp h
  obtain ⟨-, hframes⟩ := Builder.endRecoveries_eq_nil_iff.mp hend
  cases shape ts with
  | balanced hts => exact hts
  | @closing a r c ha hc hts =>
    subst hts
    obtain ⟨es, s, -, hs⟩ := Builder.exists_foldl_step_eq ha .empty
    have houtside : ((Builder.empty.addAll es).setScript s).frames = [] := by
      rw [Builder.addAll_of_frames_nil rfl]
      rfl
    rw [List.foldl_append, hs, List.foldl_cons] at hrec
    have hlen := (Builder.recoveries_foldl_step r
      (((Builder.empty.addAll es).setScript s).step c)).length_le
    rw [hrec, Builder.recoveries_step, if_pos ⟨hc, houtside⟩, List.length_append,
      List.length_singleton, List.length_nil] at hlen
    omega
  | @opening a r o ha ho hr hts =>
    subst hts
    rw [List.foldl_append, List.foldl_cons, Builder.step_of_open ho] at hframes
    refine absurd hframes (Builder.foldl_step_of_not_hasClosing hr ?_).2
    simp [Builder.openBlock]

/-! ## 3. The listing of what was read -/

/-- **A tree lists what was read.**  Read leniently, these are the tokens that are kept; read
strictly, all of them. -/
theorem listing_build (tokens : List Token) :
    (build tokens).pipeline.listing = (kept [] tokens).filterMap Token.meaning? ∧
      ∀ p, buildStrict tokens = .ok p → p.listing = tokens.filterMap Token.meaning? := by
  have houtside : ¬ HasOpening [] := by decide
  have hlenient : (build tokens).pipeline.listing = (kept [] tokens).filterMap Token.meaning? :=
    Builder.listingAll_foldl_step (b := .empty) rfl houtside
  refine ⟨hlenient, fun p hp => ?_⟩
  obtain ⟨hrec, rfl⟩ := buildStrict_eq_ok_iff.mp hp
  rw [hlenient, (balanced_of_recoveries_eq_nil hrec).kept_eq]

/-- A block of steps, read strictly, is listed with its braces, without the blank line in it and
with the line of an unknown kind as a statement. -/
theorem listing_build_steps :
    ∃ p, buildStrict [⟨.blockOpen, Role.steps, 1⟩, ⟨.blank, [], 2⟩,
          ⟨.other "NOTE".toList, "make".toList, 3⟩, ⟨.blockClose, ['\x7d'], 4⟩] = .ok p ∧
      p.listing = [.opens Role.steps, .leaf .statement "make".toList, .closes] := by
  obtain ⟨p, hp⟩ : ∃ p, buildStrict [⟨.blockOpen, Role.steps, 1⟩, ⟨.blank, [], 2⟩,
      ⟨.other "NOTE".toList, "make".toList, 3⟩, ⟨.blockClose, ['\x7d'], 4⟩] = .ok p := ⟨_, rfl⟩
  refine ⟨p, hp, ?_⟩
  rw [(listing_build _).2 p hp]
  rfl

end Jenkinsfile
