/-
# Quoted text

How a value is shown inside a message: between quotes, with everything that would not be visible
written as an escape.  A text is put between single quotes unless it holds a single quote and no
double quote.
-/
import Jenkinsfile.Text.Printable

namespace Jenkinsfile

namespace Text

/-- The quote a text is put in. -/
def quoteFor (t : Text) : Char :=
  if t.contains '\x27' && !t.contains '"' then '"' else '\x27'

/-- One character between the quotes `q`. -/
def escaped (q c : Char) : Text :=
  if c = q || c = '\\' then ['\\', c]
  else if c = '\n' then ['\\', 'n']
  else if c = '\r' then ['\\', 'r']
  else if c = '\t' then ['\\', 't']
  else if isPrintable c then [c]
  else if c.toNat < 0x100 then '\\' :: 'x' :: hex 2 c.toNat
  else if c.toNat < 0x10000 then '\\' :: 'u' :: hex 4 c.toNat
  else '\\' :: 'U' :: hex 8 c.toNat

/-- A text as messages show it. -/
def quoted (t : Text) : Text :=
  let q := quoteFor t
  q :: t.flatMap (escaped q) ++ [q]

end Text

end Jenkinsfile
