/-
# What a line is

A pipeline file is read line by line.  What a line is depends on whether it stands inside a
script, which the quotes that opened the script tell: inside, every line belongs to the script
until one ends with those quotes, and only a line that opens a script anew is more than that.

`Line.classify` is given the line without the blanks around it.
-/
import Jenkinsfile.Script

namespace Jenkinsfile

/-! ## 1. Kinds -/

/-- What a line is.  `other` is a kind that no line has; who reads tokens from elsewhere may meet
one, and treats it as a statement. -/
inductive LineKind
  | scriptOpen
  | scriptClose
  | scriptLine
  | blockOpen
  | blockClose
  | statement
  | blank
  | other (label : Text)
  deriving DecidableEq, Repr

namespace LineKind

/-- The kinds a line can have. -/
def proper : List LineKind :=
  [.scriptOpen, .scriptClose, .scriptLine, .blockOpen, .blockClose, .statement, .blank]

/-- The written form of a kind. -/
def label : LineKind → Text
  | .scriptOpen => "SH_OPEN".toList
  | .scriptClose => "SH_CLOSE".toList
  | .scriptLine => "SH_LINE".toList
  | .blockOpen => "BLOCK_OPEN".toList
  | .blockClose => "BLOCK_CLOSE".toList
  | .statement => "STATEMENT".toList
  | .blank => "BLANK".toList
  | .other label => label

/-- The kind with a written form. -/
def ofLabel (label : Text) : LineKind :=
  (proper.find? fun kind => kind.label = label).getD (.other label)

theorem ofLabel_label {kind : LineKind} (h : kind ∈ proper) : ofLabel kind.label = kind := by
  simp only [proper, List.mem_cons, List.not_mem_nil, or_false] at h
  rcases h with rfl | rfl | rfl | rfl | rfl | rfl | rfl <;> rfl

end LineKind

/-! ## 2. Classification -/

/-- A line that has been classified: its kind, its text without a block's opening brace, and the
quotes of the script that the next line stands in. -/
structure Line where
  kind : LineKind
  value : Text
  marker : Option Text
  deriving DecidableEq, Repr

namespace Line

/-- A line outside of scripts that opens none. -/
def classifyPlain (line : Text) : Line :=
  if line.getLast? = some '\x7b' then ⟨.blockOpen, Text.trimEnd line.dropLast, none⟩
  else if line = ['\x7d'] then ⟨.blockClose, line, none⟩
  else ⟨.statement, line, none⟩

/-- A line inside a script that opens none. -/
def classifyInside (line marker : Text) : Line :=
  if Script.endsWith marker line then ⟨.scriptClose, line, none⟩
  else ⟨.scriptLine, line, some marker⟩

/-- What a line is, given the quotes of the script it stands in. -/
def classify (line : Text) (marker : Option Text) : Line :=
  if line.isEmpty then ⟨.blank, [], marker⟩
  else
    match Script.opening? line with
    | some opened => ⟨.scriptOpen, line, some opened⟩
    | none =>
      match marker with
      | some marker => classifyInside line marker
      | none => classifyPlain line

end Line

end Jenkinsfile
