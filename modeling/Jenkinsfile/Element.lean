/-
# Elements and pipelines

A pipeline file is a tree: blocks with a header and children, and between them leaves, each of one
line.  Every element carries a role, the part a block plays in a declarative pipeline:

    pipeline { stages { stage('Build') { steps { ... } } } }

The role follows from the header (`Role.ofHeader`) unless the element was given another one.  The
name of a leaf is its line; its content, the text that searches look at, is the same line unless
the leaf comes from elsewhere.
-/
import Jenkinsfile.Text.Blank
import Jenkinsfile.Text.Quoted

namespace Jenkinsfile

/-! ## 1. Roles -/

namespace Role

/-- The role of the block around everything. -/
def pipeline : Text := "pipeline".toList

/-- The role of the block that holds the stages. -/
def stages : Text := "stages".toList

/-- The role of a stage. -/
def stage : Text := "stage".toList

/-- The role of the block that holds the steps of a stage. -/
def steps : Text := "steps".toList

/-- The header of a stage: the word and, blanks apart, a parenthesis. -/
def isStageHeader (name : Text) : Bool :=
  match Text.after? stage name with
  | some rest => (Text.trimStart rest).head? = some '('
  | none => false

/-- The role of a block with a header; a header that means nothing gives none. -/
def ofHeader (name : Text) : Text :=
  if name = pipeline ∨ name = stages ∨ name = steps then name
  else if isStageHeader name then stage
  else []

end Role

/-! ## 2. Kinds -/

/-- What an element is: a block, a line of a script, or a statement. -/
inductive ElementKind
  | block
  | scriptOpen
  | scriptClose
  | scriptLine
  | statement
  deriving DecidableEq, Repr

namespace ElementKind

/-- Every kind. -/
def all : List ElementKind := [.block, .scriptOpen, .scriptClose, .scriptLine, .statement]

/-- The written form of a kind. -/
def label : ElementKind → Text
  | .block => "block".toList
  | .scriptOpen => "sh-open".toList
  | .scriptClose => "sh-close".toList
  | .scriptLine => "sh-line".toList
  | .statement => "element".toList

/-- The kind with a written form. -/
def ofLabel? (label : Text) : Option ElementKind := all.find? fun kind => kind.label = label

/-- A line of a script, of whatever place in it. -/
def isScript : ElementKind → Bool
  | .scriptOpen | .scriptClose | .scriptLine => true
  | .block | .statement => false

@[simp] theorem ofLabel?_label (kind : ElementKind) : ofLabel? kind.label = some kind := by
  cases kind <;> rfl

/-- Kinds that are written alike are the same. -/
theorem label_inj {kind kind' : ElementKind} : kind.label = kind'.label ↔ kind = kind' := by
  cases kind <;> cases kind' <;> decide

end ElementKind

/-! ## 3. Elements -/

/-- A node of the tree of a pipeline file. -/
structure Element where
  kind : ElementKind
  name : Text
  content : Text
  role : Text
  children : List Element
  deriving Repr

namespace Element

/-- An element of any shape.  A block without a role gets that of its header. -/
def make (kind : ElementKind) (name content role : Text) (children : List Element) : Element :=
  let ownRole := if kind = .block ∧ role = [] then Role.ofHeader name else role
  ⟨kind, name, content, ownRole, children⟩

/-- A block as the parser makes it. -/
def block (name : Text) (children : List Element) : Element :=
  ⟨.block, name, [], Role.ofHeader name, children⟩

/-- A leaf that is a line of its own. -/
def leaf (kind : ElementKind) (line : Text) : Element := ⟨kind, line, line, [], []⟩

/-- A statement. -/
def statement (line : Text) : Element := leaf .statement line

/-- Only blocks are written with braces. -/
def hasBraces (e : Element) : Bool := e.kind = .block

/-- The first child with a role. -/
def findChild? (e : Element) (role : Text) : Option Element := e.children.find? (·.role = role)

/-! ### Induction -/

mutual

/-- What holds of an element as soon as it holds of its children holds of every element. -/
theorem induction_on_children {P : Element → Prop}
    (h : ∀ e : Element, (∀ c ∈ e.children, P c) → P e) : ∀ e, P e
  | ⟨_, _, _, _, children⟩ => h _ (forall_mem_of_children h children)

theorem forall_mem_of_children {P : Element → Prop}
    (h : ∀ e : Element, (∀ c ∈ e.children, P c) → P e) : ∀ es : List Element, ∀ c ∈ es, P c
  | [] => fun _ hc => absurd hc List.not_mem_nil
  | e :: es => List.forall_mem_cons.mpr
      ⟨induction_on_children h e, forall_mem_of_children h es⟩

end

/-! ### From written kinds -/

/-- A written kind that an element cannot have. -/
inductive KindError
  /-- No element has this kind. -/
  | unknown (label : Text)
  /-- No line of a script has this kind. -/
  | notScript (label : Text)
  deriving Inhabited, DecidableEq, Repr

def KindError.message : KindError → Text
  | .unknown label => "unknown element kind: ".toList ++ Text.quoted label
  | .notScript label => "not an sh element kind: ".toList ++ Text.quoted label

/-- An element of any shape, of a written kind. -/
def ofLabel (label name content role : Text) (children : List Element) :
    Except KindError Element :=
  match ElementKind.ofLabel? label with
  | some kind => .ok (make kind name content role children)
  | none => .error (.unknown label)

/-- A line of a script, of a written kind. -/
def scriptOfLabel (label line : Text) : Except KindError Element :=
  match ElementKind.ofLabel? label with
  | some kind => if kind.isScript then .ok (leaf kind line) else .error (.notScript label)
  | none => .error (.notScript label)

end Element

/-! ## 4. Pipelines -/

/-- A pipeline file: its elements outside of every block. -/
structure Pipeline where
  elements : List Element
  deriving Repr

/-- The first element outside of every block with a role. -/
def Pipeline.find? (p : Pipeline) (role : Text) : Option Element :=
  p.elements.find? (·.role = role)

end Jenkinsfile
