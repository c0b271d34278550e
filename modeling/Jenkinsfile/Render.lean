/-
# Writing a pipeline file

The layout of a file follows from its tree alone.  A child stands one unit of indentation deeper
than its block, a line of a script's body two units deeper, and a block closes at the depth of its
header.  `render` writes a whole file, `outline` only the names with two spaces per level.
-/
import Jenkinsfile.Element

namespace Jenkinsfile

/-! ## 1. Whole files -/

/-- The unit of indentation where none is asked for. -/
def defaultIndent : Text := [' ', ' ', ' ', ' ']

namespace Element

/-- How much deeper than its block an element stands. -/
def deeper (indent : Text) (e : Element) : Text :=
  if e.kind = .scriptLine then indent ++ indent else indent

mutual

/-- An element whose header stands after `margin`. -/
def renderAt (indent margin : Text) : Element → Text
  | ⟨kind, name, _, _, children⟩ =>
    if kind = .block then
      margin ++ name ++ [' ', '\x7b', '\n'] ++ renderChildren indent margin children
        ++ margin ++ ['\x7d', '\n']
    else
      margin ++ name ++ ['\n'] ++ renderChildren indent margin children

/-- The children of an element whose header stands after `margin`. -/
def renderChildren (indent margin : Text) : List Element → Text
  | [] => []
  | e :: children =>
    renderAt indent (margin ++ deeper indent e) e ++ renderChildren indent margin children

end

end Element

/-- The text of a pipeline file. -/
def render (p : Pipeline) (indent : Text) : Text := p.elements.flatMap (Element.renderAt indent [])

/-! ## 2. Outlines -/

namespace Element

mutual

/-- The names of an element and of everything in it. -/
def outlineAt (depth : Nat) : Element → Text
  | ⟨_, name, _, _, children⟩ =>
    List.replicate (2 * depth) ' ' ++ name ++ ['\n'] ++ outlineChildren (depth + 1) children

/-- The names of several elements and of everything in them. -/
def outlineChildren (depth : Nat) : List Element → Text
  | [] => []
  | e :: children => outlineAt depth e ++ outlineChildren depth children

end

end Element

/-- The names in a pipeline file, one per line, two spaces per level. -/
def outline (p : Pipeline) : Text := Element.outlineChildren 0 p.elements

end Jenkinsfile
