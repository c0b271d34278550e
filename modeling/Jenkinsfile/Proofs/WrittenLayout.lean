/-
# The layout of a written pipeline

A written pipeline says where its lines belong.  Read its lines one after the other, and count the
blocks that have opened and not closed before each: this depth gives the indentation of the line,
and the line of the outline too (`Token.writtenAt`, `Token.outlinedAt?`,
`tellsLayout_render_parse`).

The tree does not say what its lines are read as, and the lines do not say which tree they are of.
What both have in common is `LaidOut`: lines that are read under some quotes as a balanced run of
tokens, and that look as these tokens do at their depths.  It holds of the line of a leaf, of lines
below other lines and of the lines of a block around those in it, and so of every canonical tree
(`Element.Canonical.writtenLaidOut`).
-/
import Jenkinsfile.Proofs.LineSpan
import Jenkinsfile.Proofs.LoneBrackets
import Jenkinsfile.Proofs.Written

namespace Jenkinsfile

/-! ## 1. Lines with their ends -/

namespace Text

/-- Several lines, each with a line break at its end. -/
def unlines (lines : List Text) : Text := lines.flatMap (· ++ ['\n'])

/-- One line that is not blank and does not end with a blank. -/
structure Tidy (line : Text) : Prop where
  unbroken : '\n' ∉ line
  notBlank : ¬ Blank line
  last : ∀ c ∈ line.getLast?, isBlank c = false

theorem unlines_append (as bs : List Text) : unlines (as ++ bs) = unlines as ++ unlines bs :=
  List.flatMap_append

theorem unlines_singleton (line : Text) : unlines [line] = line ++ ['\n'] := by
  rw [unlines, List.flatMap_singleton]

theorem splitOn_unlines {lines : List Text} (h : ∀ line ∈ lines, '\n' ∉ line) :
    (unlines lines).splitOn '\n' = lines ++ [[]] := by
  induction lines with
  | nil => rfl
  | cons line lines ih =>
    obtain ⟨hline, hlines⟩ := List.forall_mem_cons.mp h
    have hcons : unlines (line :: lines) = line ++ '\n' :: unlines lines := by
      rw [unlines, List.flatMap_cons, List.append_assoc]
      rfl
    rw [hcons, List.splitOn_append_cons_self, List.splitOn_eq_singleton hline, ih hlines]
    rfl

theorem Tidy.append {line margin : Text} (h : Tidy line) (hmargin : '\n' ∉ margin) :
    Tidy (margin ++ line) := by
  have hne : line ≠ [] := by
    rintro rfl
    exact h.notBlank blank_nil
  refine ⟨by simp [hmargin, h.unbroken], fun hblank => ?_, ?_⟩
  · exact h.notBlank (blank_append.mp hblank).2
  · rw [List.getLast?_append_of_ne_nil _ hne]
    exact h.last

theorem tidy_of_trim {line : Text} (hbreak : '\n' ∉ line) (hne : line ≠ [])
    (htrim : trim line = line) : Tidy line := by
  refine ⟨hbreak, fun hblank => ?_, fun c hc => ?_⟩
  · rw [trim_eq_nil_iff.mpr hblank] at htrim
    exact hne htrim.symm
  · rw [← htrim] at hc
    exact isBlank_of_mem_getLast?_trim hc

theorem tidy_singleton {c : Char} (h : isBlank c = false) : Tidy [c] := by
  refine ⟨?_, ?_, ?_⟩
  · rw [List.mem_singleton]
    rintro rfl
    exact absurd h (by decide)
  · rw [blank_cons, h]
    simp
  · intro d hd
    rw [← Option.some.inj hd]
    exact h

theorem replicate_succ (n : Nat) (t : Text) : replicate (n + 1) t = replicate n t ++ t := by
  rw [replicate, replicate, List.replicate_succ', List.flatten_append, List.flatten_singleton]

end Text

/-- Tidy lines have a token each. -/
theorem tokenize_unlines {lines : List Text} (h : ∀ line ∈ lines, Text.Tidy line) :
    tokenize (Text.unlines lines) = Token.ofLines 1 none lines := by
  by_cases hnil : lines = []
  · rw [hnil]
    rfl
  · have hsolid : ∀ line ∈ lines.map Text.trim, line ≠ [] := by
      intro line hline
      obtain ⟨raw, hraw, rfl⟩ := List.mem_map.mp hline
      exact fun htrim => (h raw hraw).notBlank (Text.trim_eq_nil_iff.mp htrim)
    have hlines : ((Text.unlines lines).splitOn '\n').map Text.trim
        = List.replicate 0 [] ++ lines.map Text.trim ++ List.replicate 1 [] := by
      rw [Text.splitOn_unlines fun line hline => (h line hline).unbroken, List.map_append]
      rfl
    have hne : lines.map Text.trim ≠ [] := by simpa using hnil
    have hspans := Text.spans_padded hne (fun line h => hsolid line (List.mem_of_mem_head? h))
      (fun line h => hsolid line (List.mem_of_mem_getLast? h)) 0 1
    rw [← hlines] at hspans
    rw [tokenize_eq_ofLines hspans, hlines, Text.take_drop_padded hne, Token.ofLines_map_trim]

/-! ## 2. Depths -/

namespace Brackets

/-- The tokens, each with the number of blocks that open before it less the number of those that
close. -/
def withBalance (ts : List Token) : List (Token × Int) :=
  ts.zipIdx.map fun x => (x.1, balance (ts.take x.2))

/-- The tokens, each with the number of blocks that are open before it, where `d` are open before
the first one. -/
def withDepth (d : Nat) : List Token → List (Token × Nat)
  | [] => []
  | t :: ts => (t, d) :: withDepth (depthStep d t) ts

theorem withBalance_concat (ts : List Token) (t : Token) :
    withBalance (ts ++ [t]) = withBalance ts ++ [(t, balance ts)] := by
  have hsame : ∀ x ∈ ts.zipIdx, (ts ++ [t]).take x.2 = ts.take x.2 := by
    intro x hx
    have hlt : x.2 < ts.length := by simpa using (List.mem_zipIdx hx).2.1
    exact List.take_append_of_le_length (Nat.le_of_lt hlt)
  rw [withBalance, List.zipIdx_append, List.map_append, withBalance]
  congr 1
  · exact List.map_congr_left fun x hx => by rw [hsame x hx]
  · simp

theorem withDepth_append (d : Nat) (as bs : List Token) :
    withDepth d (as ++ bs) = withDepth d as ++ withDepth (as.foldl depthStep d) bs := by
  induction as generalizing d with
  | nil => rfl
  | cons a as ih =>
    rw [List.cons_append, withDepth, ih, withDepth, List.foldl_cons, List.cons_append]

theorem Balanced.withDepth_append {as : List Token} (h : Balanced as) (d : Nat) (bs : List Token) :
    withDepth d (as ++ bs) = withDepth d as ++ withDepth d bs := by
  rw [Brackets.withDepth_append, h.foldl_depthStep]

theorem Balanced.withDepth_block {o c : Token} {body : List Token} (h : Balanced body)
    (ho : o.kind = .blockOpen) (d : Nat) :
    withDepth d (o :: (body ++ [c])) = (o, d) :: (withDepth (d + 1) body ++ [(c, d + 1)]) := by
  rw [withDepth, depthStep_of_open ho, h.withDepth_append]
  rfl

theorem NeverBelow.withBalance_eq {ts : List Token} (h : NeverBelow ts) :
    withBalance ts = (withDepth 0 ts).map fun x => (x.1, (x.2 : Int)) := by
  induction ts using List.reverseRecOn with
  | nil => rfl
  | append_singleton ts t ih =>
    obtain ⟨hts, -⟩ := neverBelow_concat.mp h
    rw [withBalance_concat, ih hts, hts.balance_eq_depth, Brackets.withDepth_append,
      List.map_append]
    rfl

end Brackets

/-! ## 3. Laying out -/

namespace Token

/-- The tokens of a block that is written around lines that leave no quotes open. -/
theorem ofLines_block {margin name : Text} {lines : List Text} (hmargin : Text.Blank margin)
    (hline : Line.classify (Line.headerLine name) none = ⟨.blockOpen, name, none⟩)
    (hmarker : Line.markerAfter none (lines.map Text.trim) = none) (n : Nat) :
    ofLines n none ((margin ++ (name ++ [' ', '\x7b'])) :: (lines ++ [margin ++ ['\x7d']]))
      = ⟨.blockOpen, name, n⟩ :: (ofLines (n + 1) none lines
        ++ [⟨.blockClose, ['\x7d'], (n + 1 + lines.length : Nat)⟩]) := by
  have hclose : Line.classify (Text.trim ['\x7d']) none = ⟨.blockClose, ['\x7d'], none⟩ := by decide
  rw [ofLines, Text.trim_append_left hmargin, ← Line.headerLine, hline, ofLines_append, hmarker,
    ofLines, Text.trim_append_left hmargin, hclose, ofLines]

/-- The line of a token before which `d` blocks are open.  The brace that closes a block stands
below its header, and a line of a script one unit further in than the script unless `d` is zero. -/
def writtenAt (indent : Text) (d : Nat) (t : Token) : Text :=
  match t.kind with
  | .blockOpen => Text.replicate d indent ++ t.value ++ [' ', '\x7b']
  | .blockClose => Text.replicate (d - 1) indent ++ ['\x7d']
  | .scriptLine => (if d = 0 then [] else Text.replicate (d + 1) indent) ++ t.value
  | _ => Text.replicate d indent ++ t.value

/-- The line that a token has in the outline: none if it closes a block. -/
def outlinedAt? (d : Nat) (t : Token) : Option Text :=
  if t.kind = .blockClose then none else some (List.replicate (2 * d) ' ' ++ t.value)

/-- The lines of tokens at their depths. -/
def linesOf (indent : Text) (ts : List Token) : List Text :=
  (Brackets.withBalance ts).map fun x => x.1.writtenAt indent x.2.toNat

/-- The lines of tokens in the outline. -/
def namesOf (ts : List Token) : List Text :=
  (Brackets.withBalance ts).filterMap fun x => x.1.outlinedAt? x.2.toNat

end Token

/-- Lines that are read under the quotes `m` as a balanced run of tokens, whatever the number of the
first one, and leave the quotes `m'`; with `d` blocks open before them, they are laid out as these
tokens are, and so are the lines of the outline. -/
structure LaidOut (indent : Text) (d : Nat) (m : Option Text) (lines names : List Text)
    (m' : Option Text) : Prop where
  tidy : ∀ line ∈ lines, Text.Tidy line
  unbroken : ∀ name ∈ names, '\n' ∉ name
  marker : Line.markerAfter m (lines.map Text.trim) = m'
  balanced : ∀ n, Brackets.Balanced (Token.ofLines n m lines)
  written : ∀ n, (Brackets.withDepth d (Token.ofLines n m lines)).map
    (fun x => x.1.writtenAt indent x.2) = lines
  outlined : ∀ n, (Brackets.withDepth d (Token.ofLines n m lines)).filterMap
    (fun x => x.1.outlinedAt? x.2) = names

namespace LaidOut

variable {indent : Text} {d : Nat} {m m' m'' : Option Text} {as as' bs bs' : List Text}

theorem nil (m : Option Text) : LaidOut indent d m [] [] m where
  tidy := by simp
  unbroken := by simp
  marker := rfl
  balanced _ := .nil
  written _ := rfl
  outlined _ := rfl

/-- Lines below other lines. -/
theorem append (ha : LaidOut indent d m as as' m') (hb : LaidOut indent d m' bs bs' m'') :
    LaidOut indent d m (as ++ bs) (as' ++ bs') m'' where
  tidy := List.forall_mem_append.mpr ⟨ha.tidy, hb.tidy⟩
  unbroken := List.forall_mem_append.mpr ⟨ha.unbroken, hb.unbroken⟩
  marker := by rw [List.map_append, Line.markerAfter_append, ha.marker, hb.marker]
  balanced n := by
    rw [Token.ofLines_append, ha.marker]
    exact (ha.balanced n).append (hb.balanced _)
  written n := by
    rw [Token.ofLines_append, ha.marker, (ha.balanced n).withDepth_append, List.map_append,
      ha.written, hb.written]
  outlined n := by
    rw [Token.ofLines_append, ha.marker, (ha.balanced n).withDepth_append, List.filterMap_append,
      ha.outlined, hb.outlined]

/-- The line of a leaf. -/
theorem leaf {kind : ElementKind} {margin line : Text} (hkind : kind ≠ .block)
    (hmargin : Text.Blank margin) (hbreak : '\n' ∉ margin) (hline : '\n' ∉ line) (hne : line ≠ [])
    (htrim : Text.trim line = line) (hreads : Line.classify line m = ⟨kind.lineKind, line, m'⟩)
    (hwritten : ∀ n : Int, Token.writtenAt indent d ⟨kind.lineKind, line, n⟩ = margin ++ line) :
    LaidOut indent d m [margin ++ line] [List.replicate (2 * d) ' ' ++ line] m' := by
  have htoken : ∀ n, Token.ofLines n m [margin ++ line] = [⟨kind.lineKind, line, n⟩] := by
    intro n
    rw [Token.ofLines, Text.trim_append_left hmargin, htrim, hreads]
    rfl
  have hopen : kind.lineKind ≠ .blockOpen := by cases kind <;> first | decide | contradiction
  have hclose : kind.lineKind ≠ .blockClose := by cases kind <;> decide
  refine ⟨?_, by simp [hline], ?_, fun n => ?_, fun n => ?_, fun n => ?_⟩
  · exact List.forall_mem_singleton.mpr ((Text.tidy_of_trim hline hne htrim).append hbreak)
  · rw [List.map_singleton, Text.trim_append_left hmargin, htrim, Line.markerAfter_cons, hreads]
    rfl
  · rw [htoken]
    exact .other hopen hclose .nil
  · rw [htoken, Brackets.withDepth, Brackets.withDepth, List.map_singleton, hwritten]
  · rw [htoken, Brackets.withDepth, Brackets.withDepth]
    simp [Token.outlinedAt?, hclose]

/-- The lines of a block around those in it, which stand one unit deeper. -/
theorem block {name : Text} (hindent : Text.Blank indent) (hbreak : '\n' ∉ indent)
    (hname : '\n' ∉ name)
    (hline : Line.classify (Line.headerLine name) none = ⟨.blockOpen, name, none⟩)
    (h : LaidOut indent (d + 1) none as as' none) :
    LaidOut indent d none
      ((Text.replicate d indent ++ (name ++ [' ', '\x7b']))
        :: (as ++ [Text.replicate d indent ++ ['\x7d']]))
      ((List.replicate (2 * d) ' ' ++ name) :: as') none := by
  have hmargin := Text.blank_replicate hindent d
  have hmarginBreak : '\n' ∉ Text.replicate d indent := fun h =>
    hbreak (Text.mem_of_mem_replicate h)
  have htokens := Token.ofLines_block hmargin hline h.marker
  have hbrace : Text.Tidy ['\x7b'] := Text.tidy_singleton (by decide)
  have hspace : '\n' ∉ [' '] := by decide
  have hopen : Text.Tidy (Text.replicate d indent ++ (name ++ [' ', '\x7b'])) :=
    ((hbrace.append hspace).append hname).append hmarginBreak
  have hclose : Text.Tidy (Text.replicate d indent ++ ['\x7d']) :=
    (Text.tidy_singleton (by decide)).append hmarginBreak
  refine ⟨?_, ?_, ?_, fun n => ?_, fun n => ?_, fun n => ?_⟩
  · exact List.forall_mem_cons.mpr
      ⟨hopen, List.forall_mem_append.mpr ⟨h.tidy, List.forall_mem_singleton.mpr hclose⟩⟩
  · exact List.forall_mem_cons.mpr ⟨by simp [hname], h.unbroken⟩
  · rw [List.map_cons, Line.markerAfter_cons, Text.trim_append_left hmargin, ← Line.headerLine,
      hline, List.map_append, Line.markerAfter_append, h.marker, List.map_singleton,
      Text.trim_append_left hmargin]
    decide
  · rw [htokens]
    exact .block rfl rfl (h.balanced _) .nil
  · rw [htokens, (h.balanced _).withDepth_block rfl, List.map_cons, List.map_append, h.written,
      List.map_singleton]
    simp [Token.writtenAt]
  · rw [htokens, (h.balanced _).withDepth_block rfl, List.filterMap_cons,
      List.filterMap_append, h.outlined]
    simp [Token.outlinedAt?]

end LaidOut

/-! ## 4. Canonical trees -/

theorem Stands.eq_none_of_block {m m' : Option Text} {e : Element} (h : Stands m e m')
    (hkind : e.kind = .block) : m = none ∧ m' = none := by
  cases h with
  | block => exact ⟨rfl, rfl⟩
  | _ => simp_all

namespace Element

/-- What stands before the header or the line of an element at a depth. -/
def marginAt (indent : Text) (d : Nat) (e : Element) : Text :=
  if e.kind = .scriptLine then if d = 0 then [] else Text.replicate (d + 1) indent
  else Text.replicate d indent

theorem exists_marginAt_eq (indent : Text) (d : Nat) (e : Element) :
    ∃ n, e.marginAt indent d = Text.replicate n indent := by
  rw [marginAt]
  split
  · split
    · exact ⟨0, rfl⟩
    · exact ⟨d + 1, rfl⟩
  · exact ⟨d, rfl⟩

theorem marginAt_zero (indent : Text) (e : Element) : e.marginAt indent 0 = [] := by
  rw [marginAt]
  split <;> rfl

theorem marginAt_succ (indent : Text) (d : Nat) (e : Element) :
    e.marginAt indent (d + 1) = Text.replicate d indent ++ deeper indent e := by
  rw [marginAt, deeper]
  split
  · rw [if_neg (Nat.succ_ne_zero d), Text.replicate_succ, Text.replicate_succ, List.append_assoc]
  · exact Text.replicate_succ d indent

/-- The token of a leaf is laid out as the leaf. -/
theorem writtenAt_leaf {e : Element} (h : e.kind ≠ .block) (indent : Text) (d : Nat) (n : Int) :
    Token.writtenAt indent d ⟨e.kind.lineKind, e.name, n⟩ = e.marginAt indent d ++ e.name := by
  rw [Token.writtenAt, marginAt]
  cases hkind : e.kind with
  | block => exact absurd hkind h
  | _ => rfl

/-- Siblings at a depth, written one after the other. -/
theorem renderChildren_eq_flatMap (indent : Text) (d : Nat) (es : List Element) :
    renderChildren indent (Text.replicate d indent) es
      = es.flatMap fun e => renderAt indent (e.marginAt indent (d + 1)) e := by
  induction es with
  | nil => rfl
  | cons e es ih => rw [renderChildren, ih, List.flatMap_cons, marginAt_succ]

theorem outlineAt_eq (d : Nat) (e : Element) :
    outlineAt d e
      = List.replicate (2 * d) ' ' ++ e.name ++ ['\n'] ++ outlineChildren (d + 1) e.children := by
  obtain ⟨kind, name, content, role, children⟩ := e
  rw [outlineAt]

/-- An element that stands at a depth, where the quotes `m` are open before it and `m'` after it,
is written as lines that are laid out. -/
def WrittenLaidOut (indent : Text) (d : Nat) (m : Option Text) (e : Element) (m' : Option Text) :
    Prop :=
  ∃ lines names, renderAt indent (e.marginAt indent d) e = Text.unlines lines ∧
    outlineAt d e = Text.unlines names ∧ LaidOut indent d m lines names m'

variable {indent : Text}

theorem exists_laidOut_of_row {d : Nat} {es : List Element}
    (hes : ∀ e ∈ es, ∀ m m', Stands m e m' → WrittenLaidOut indent d m e m') :
    ∀ {m m' : Option Text}, Row m es m' → ∃ lines names,
      (es.flatMap fun e => renderAt indent (e.marginAt indent d) e) = Text.unlines lines ∧
        outlineChildren d es = Text.unlines names ∧ LaidOut indent d m lines names m' := by
  induction es with
  | nil =>
    intro m m' hrow
    cases hrow
    exact ⟨[], [], rfl, rfl, .nil m⟩
  | cons e es ih =>
    intro m m' hrow
    cases hrow with
    | cons he hrow =>
      obtain ⟨hfirst, hes⟩ := List.forall_mem_cons.mp hes
      obtain ⟨lines, names, hlines, hnames, h⟩ := hfirst _ _ he
      obtain ⟨lines', names', hlines', hnames', h'⟩ := ih hes hrow
      refine ⟨lines ++ lines', names ++ names', ?_, ?_, h.append h'⟩
      · rw [List.flatMap_cons, hlines, hlines', Text.unlines_append]
      · rw [outlineChildren, hnames, hnames', Text.unlines_append]

/-- **A canonical element is laid out as its lines are read.** -/
theorem Canonical.writtenLaidOut {e : Element} (h : e.Canonical) (hindent : Text.Blank indent)
    (hbreak : '\n' ∉ indent) : ∀ d m m', Stands m e m' → WrittenLaidOut indent d m e m' := by
  induction h with
  | @block e hkind _ _ hname hline _ hrow ih =>
    intro d m m' hstands
    -- the row of the children begins and ends outside of scripts, one unit deeper
    obtain ⟨lines, names, hlines, hnames, hinner⟩ :=
      exists_laidOut_of_row (d := d + 1) (fun c hc => ih c hc (d + 1)) hrow
    have hmargin : e.marginAt indent d = Text.replicate d indent := by
      rw [marginAt, if_neg (by rw [hkind]; decide)]
    obtain ⟨rfl, rfl⟩ := hstands.eq_none_of_block hkind
    refine ⟨_, _, ?_, ?_, hinner.block hindent hbreak hname hline⟩
    · rw [renderAt_of_block hkind, hmargin, renderChildren_eq_flatMap, hlines]
      simp only [Text.unlines, List.flatMap_cons, List.flatMap_append, List.flatMap_nil,
        List.append_assoc, List.cons_append, List.nil_append, List.append_nil]
    · rw [outlineAt_eq, hnames, Text.unlines, Text.unlines, List.flatMap_cons]
  | @leaf e hkind hcontent hrole hchildren hname hne htrim =>
    intro d m m' hstands
    have heq : e = Element.leaf e.kind e.name := by
      obtain ⟨kind, name, content, role, children⟩ := e
      simp_all [Element.leaf]
    obtain ⟨k, hk⟩ := exists_marginAt_eq indent d e
    have hmargin : Text.Blank (e.marginAt indent d) := by
      rw [hk]
      exact Text.blank_replicate hindent k
    have hmarginBreak : '\n' ∉ e.marginAt indent d := by
      rw [hk]
      exact fun h => hbreak (Text.mem_of_mem_replicate h)
    have hwritten : renderAt indent (e.marginAt indent d) e
        = Text.unlines [e.marginAt indent d ++ e.name] := by
      generalize e.marginAt indent d = margin
      rw [heq, renderAt_leaf hkind, Text.unlines_singleton]
      rfl
    refine ⟨_, _, hwritten, ?_, .leaf hkind hmargin hmarginBreak hname hne htrim
      (hstands.classify_eq hkind) (writtenAt_leaf hkind indent d)⟩
    rw [outlineAt_eq, hchildren, outlineChildren, List.append_nil, Text.unlines_singleton]

end Element

/-! ## 5. Written pipelines -/

/-- The lines of a text have a token each, which tells how the line is laid out, and the lines of
the names are those of the tokens that close no block.  No more blocks close than have opened. -/
structure TellsLayout (indent text names : Text) : Prop where
  numbered : ∀ (k : Nat) (t : Token), (tokenize text)[k]? = some t → t.line = k + 1
  neverBelow : Brackets.NeverBelow (tokenize text)
  lines : text.splitOn '\n' = Token.linesOf indent (tokenize text) ++ [[]]
  tidy : ∀ line ∈ Token.linesOf indent (tokenize text), Text.Tidy line
  names : names.splitOn '\n' = Token.namesOf (tokenize text) ++ [[]]

theorem LaidOut.tellsLayout {indent : Text} {lines names : List Text} {m : Option Text}
    (h : LaidOut indent 0 none lines names m) :
    TellsLayout indent (Text.unlines lines) (Text.unlines names) := by
  have htokens : tokenize (Text.unlines lines) = Token.ofLines 1 none lines :=
    tokenize_unlines h.tidy
  have hnever : Brackets.NeverBelow (Token.ofLines 1 none lines) := (h.balanced 1).neverBelow
  have hlines : Token.linesOf indent (Token.ofLines 1 none lines) = lines := by
    rw [Token.linesOf, hnever.withBalance_eq, List.map_map]
    exact h.written 1
  have hnames : Token.namesOf (Token.ofLines 1 none lines) = names := by
    rw [Token.namesOf, hnever.withBalance_eq, List.filterMap_map]
    exact h.outlined 1
  rw [← htokens] at hnever hlines hnames
  refine ⟨fun k t ht => ?_, hnever, ?_, ?_, ?_⟩
  · rw [htokens] at ht
    rw [Token.line_of_getElem?_ofLines ht, Int.add_comm]
    rfl
  · rw [hlines, Text.splitOn_unlines fun line hline => (h.tidy line hline).unbroken]
  · rw [hlines]
    exact h.tidy
  · rw [hnames, Text.splitOn_unlines h.unbroken]

/-- **The lines of a written pipeline tell how it is laid out**, and its outline too: what a line is
read as, and how many blocks have opened and not closed before it, is all that its indentation
depends on. -/
theorem tellsLayout_render_parse (t : Text) {indent : Text} (hindent : Text.Blank indent)
    (hbreak : '\n' ∉ indent) :
    TellsLayout indent (render (parse t).pipeline indent) (outline (parse t).pipeline) := by
  obtain ⟨m, hrow⟩ := (canonical_parse t).row
  obtain ⟨lines, names, hlines, hnames, h⟩ := Element.exists_laidOut_of_row (d := 0)
    (fun e he => ((canonical_parse t).elements e he).writtenLaidOut hindent hbreak 0) hrow
  have hrender : render (parse t).pipeline indent = Text.unlines lines := by
    rw [← hlines, render]
    exact List.flatMap_congr fun e _ => by rw [Element.marginAt_zero]
  have houtline : outline (parse t).pipeline = Text.unlines names := hnames
  rw [hrender, houtline]
  exact h.tellsLayout

example : Token.linesOf ['\t'] (tokenize "steps \x7b\nsh '''\nmake\n'''\n\x7d".toList)
    = ["steps \x7b".toList, "\tsh '''".toList, "\t\tmake".toList, "\t'''".toList,
      "\x7d".toList] := by decide

/-- A block without a header, and a script that stands open outside of all blocks. -/
theorem tellsLayout_openScript :
    TellsLayout ['\t']
      (render (parse "\x7b\nsh '''\nmake\n'''\n\x7d\nsh '''\n\x7d".toList).pipeline ['\t'])
      (outline (parse "\x7b\nsh '''\nmake\n'''\n\x7d\nsh '''\n\x7d".toList).pipeline) :=
  tellsLayout_render_parse _ (by decide) (by decide)

end Jenkinsfile
