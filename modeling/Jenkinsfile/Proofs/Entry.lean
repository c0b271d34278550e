/-
# Entries

A token says one of three things: that a block opens, that a block closes, or that a leaf stands
here.  A blank line says nothing, and a token of a kind that no line has says what a statement
says.  These *entries* are what a tree and the tokens it was built from have in common:

* `Token.meaning?` is the entry of a token;
* `Element.listing` and `Pipeline.listing` are the entries of a tree in the order of the document;
* `Line.entries` are the entries of lines that are read one after the other, and
  `filterMap_meaning?_tokenize` says that the tokens of a text have those of its solid lines.
-/
import Jenkinsfile.Element
import Jenkinsfile.Proofs.Classify
import Jenkinsfile.Proofs.SolidLines
import Jenkinsfile.Token

namespace Jenkinsfile

/-! ## 1. Tokens -/

/-- What a token says. -/
inductive Entry
  /-- A leaf of this kind stands here. -/
  | leaf (kind : ElementKind) (line : Text)
  /-- A block with this header opens. -/
  | opens (header : Text)
  /-- A block closes. -/
  | closes
  deriving DecidableEq, Repr

/-- What a line of a kind says. -/
def Entry.of? : LineKind → Text → Option Entry
  | .blank, _ => none
  | .scriptOpen, line => some (.leaf .scriptOpen line)
  | .scriptClose, line => some (.leaf .scriptClose line)
  | .scriptLine, line => some (.leaf .scriptLine line)
  | .blockOpen, header => some (.opens header)
  | .blockClose, _ => some .closes
  | .statement, line => some (.leaf .statement line)
  | .other _, line => some (.leaf .statement line)

/-- The entry of a token. -/
def Token.meaning? (t : Token) : Option Entry := Entry.of? t.kind t.value

/-- The entry of a line that has been classified. -/
def Line.meaning? (l : Line) : Option Entry := Entry.of? l.kind l.value

/-! ## 2. Trees -/

namespace Element

mutual

/-- The entries of an element: its own, and for a block those of its children and its closing. -/
def listing : Element → List Entry
  | ⟨kind, name, _, _, children⟩ =>
    if kind = .block then .opens name :: (listingAll children ++ [.closes]) else [.leaf kind name]

/-- The entries of several elements. -/
def listingAll : List Element → List Entry
  | [] => []
  | e :: es => listing e ++ listingAll es

end

@[simp] theorem listingAll_nil : listingAll [] = [] := rfl

@[simp] theorem listingAll_cons (e : Element) (es : List Element) :
    listingAll (e :: es) = e.listing ++ listingAll es := rfl

@[simp] theorem listingAll_append (as bs : List Element) :
    listingAll (as ++ bs) = listingAll as ++ listingAll bs := by
  induction as with
  | nil => rfl
  | cons a as ih => rw [List.cons_append, listingAll_cons, ih, listingAll_cons, List.append_assoc]

theorem listing_of_block {e : Element} (h : e.kind = .block) :
    e.listing = .opens e.name :: (listingAll e.children ++ [.closes]) := by
  obtain ⟨kind, name, content, role, children⟩ := e
  rw [listing, if_pos h]

theorem listing_of_ne_block {e : Element} (h : e.kind ≠ .block) :
    e.listing = [.leaf e.kind e.name] := by
  obtain ⟨kind, name, content, role, children⟩ := e
  rw [listing, if_neg h]

@[simp] theorem listing_block (name : Text) (children : List Element) :
    (block name children).listing = .opens name :: (listingAll children ++ [.closes]) :=
  listing_of_block rfl

theorem listing_leaf {kind : ElementKind} (h : kind ≠ .block) (line : Text) :
    (leaf kind line).listing = [.leaf kind line] := listing_of_ne_block h

end Element

/-- The entries of a pipeline. -/
def Pipeline.listing (p : Pipeline) : List Entry := Element.listingAll p.elements

/-! ## 3. Texts -/

namespace Line

/-- The entries of lines that are read one after the other, the first under the quotes `m`. -/
def entries (m : Option Text) : List Text → List Entry
  | [] => []
  | line :: lines => (classify line m).meaning?.toList ++ entries (classify line m).marker lines

/-- The quotes of the script that stands open after several lines. -/
def markerAfter (m : Option Text) (lines : List Text) : Option Text :=
  lines.foldl (fun m line => (classify line m).marker) m

@[simp] theorem entries_nil (m : Option Text) : entries m [] = [] := rfl

theorem entries_cons (m : Option Text) (line : Text) (lines : List Text) :
    entries m (line :: lines)
      = (classify line m).meaning?.toList ++ entries (classify line m).marker lines := rfl

@[simp] theorem markerAfter_nil (m : Option Text) : markerAfter m [] = m := rfl

theorem markerAfter_cons (m : Option Text) (line : Text) (lines : List Text) :
    markerAfter m (line :: lines) = markerAfter (classify line m).marker lines := rfl

theorem entries_append (m : Option Text) (as bs : List Text) :
    entries m (as ++ bs) = entries m as ++ entries (markerAfter m as) bs := by
  induction as generalizing m with
  | nil => rfl
  | cons a as ih =>
    rw [List.cons_append, entries_cons, ih, entries_cons, List.append_assoc, markerAfter_cons]

theorem markerAfter_append (m : Option Text) (as bs : List Text) :
    markerAfter m (as ++ bs) = markerAfter (markerAfter m as) bs :=
  List.foldl_append

theorem classify_nil (m : Option Text) : classify [] m = ⟨.blank, [], m⟩ := rfl

/-- Blank lines have no entry and leave the quotes as they are. -/
theorem entries_filter (m : Option Text) (lines : List Text) :
    entries m (lines.filter (· ≠ [])) = entries m lines := by
  induction lines generalizing m with
  | nil => rfl
  | cons line lines ih =>
    by_cases h : line = []
    · rw [List.filter_cons_of_neg (by simpa using h), ih, h, entries_cons, classify_nil]
      rfl
    · rw [List.filter_cons_of_pos (by simpa using h), entries_cons, ih, entries_cons]

theorem markerAfter_filter (m : Option Text) (lines : List Text) :
    markerAfter m (lines.filter (· ≠ [])) = markerAfter m lines := by
  induction lines generalizing m with
  | nil => rfl
  | cons line lines ih =>
    by_cases h : line = []
    · rw [List.filter_cons_of_neg (by simpa using h), ih, h, markerAfter_cons, classify_nil]
    · rw [List.filter_cons_of_pos (by simpa using h), markerAfter_cons, ih, markerAfter_cons]

end Line

theorem Token.filterMap_meaning?_ofLines (n : Nat) (m : Option Text) (raws : List Text) :
    (ofLines n m raws).filterMap meaning? = Line.entries m (raws.map Text.trim) := by
  induction raws generalizing n m with
  | nil => rfl
  | cons raw raws ih =>
    have hfirst : meaning? ⟨(Line.classify (Text.trim raw) m).kind,
        (Line.classify (Text.trim raw) m).value, n⟩ =
        (Line.classify (Text.trim raw) m).meaning? := rfl
    rw [ofLines, List.filterMap_cons, hfirst, ih (n + 1), List.map_cons, Line.entries_cons]
    cases (Line.classify (Text.trim raw) m).meaning? <;> rfl

/-- **The tokens of a text say what its solid lines say.** -/
theorem filterMap_meaning?_tokenize (t : Text) :
    (tokenize t).filterMap Token.meaning? = Line.entries none (Text.solidLines t) := by
  rw [tokenize, Token.filterMap_meaning?_ofLines, Text.solidLines_eq_documentLines,
    Line.entries_filter]

end Jenkinsfile
