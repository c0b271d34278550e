/-
# Blanks

The blank characters are those that Unicode gives the bidirectional class B, S or WS or the
category Zs: the ASCII spacing characters with the four separators U+001C to U+001F, the next
line, and the spaces of other scripts.  The zero-width characters (U+200B, U+2060, U+FEFF), the
soft hyphen and U+180E are not among them.

Trimming removes blanks at the two ends and nowhere else.
-/
import Jenkinsfile.Text.Basic

namespace Jenkinsfile

/-! ## 1. The characters -/

/-- A blank character. -/
def isBlank (c : Char) : Bool :=
  let n := c.toNat
  (0x09 ≤ n && n ≤ 0x0d) || (0x1c ≤ n && n ≤ 0x20) || n == 0x85 || n == 0xa0 || n == 0x1680 ||
    (0x2000 ≤ n && n ≤ 0x200a) || n == 0x2028 || n == 0x2029 || n == 0x202f || n == 0x205f ||
    n == 0x3000

/-! ## 2. Trimming -/

namespace Text

/-- Removes the blanks a text begins with. -/
def trimStart (t : Text) : Text := t.dropWhile isBlank

/-- Removes the blanks a text ends with. -/
def trimEnd (t : Text) : Text := dropEndWhile isBlank t

/-- Removes the blanks at both ends. -/
def trim (t : Text) : Text := trimEnd (trimStart t)

/-- The blanks a text begins with. -/
def leadingBlanks (t : Text) : Text := t.takeWhile isBlank

/-- The leading blanks and the rest make up the text. -/
theorem leadingBlanks_append_trimStart (t : Text) : leadingBlanks t ++ trimStart t = t :=
  List.takeWhile_append_dropWhile

end Text

end Jenkinsfile
