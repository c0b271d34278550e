/-
# The file format of a value

`Json.pretty` writes a value over several lines, each level two spaces deeper than the one around
it; an empty array or object stays on its line.  Only ASCII is written: every other character, and
every control character, is an escape, and a character past U+FFFF is the escape of its two
surrogates.
-/
import Jenkinsfile.Json.Display

namespace Jenkinsfile.Json

/-! ## 1. Strings -/

/-- A code unit of 16 bits as an escape. -/
def unitEscape (n : Nat) : Text := '\\' :: 'u' :: Text.hex 4 n

/-- One character inside a string. -/
def escaped (c : Char) : Text :=
  let n := c.toNat
  if c = '"' || c = '\\' then ['\\', c]
  else if c = '\n' then ['\\', 'n']
  else if c = '\r' then ['\\', 'r']
  else if c = '\t' then ['\\', 't']
  else if n = 0x08 then ['\\', 'b']
  else if n = 0x0c then ['\\', 'f']
  else if 0x20 ≤ n && n ≤ 0x7e then [c]
  else if n < 0x10000 then unitEscape n
  else unitEscape (0xd800 + (n - 0x10000) / 0x400) ++ unitEscape (0xdc00 + (n - 0x10000) % 0x400)

/-- A string between its quotes. -/
def stringLiteral (t : Text) : Text := '"' :: t.flatMap escaped ++ ['"']

/-! ## 2. Values -/

/-- A floating-point number; those that JSON does not have are written by their names. -/
def floatLiteral : Double → Text
  | .infinite false => "Infinity".toList
  | .infinite true => "-Infinity".toList
  | .nan => "NaN".toList
  | x => x.toText

/-- The blanks in front of a line at a depth. -/
def margin (depth : Nat) : Text := List.replicate (2 * depth) ' '

mutual

/-- A value whose first character stands at a depth. -/
def prettyAt (depth : Nat) : Json → Text
  | .null => "null".toList
  | .bool true => "true".toList
  | .bool false => "false".toList
  | .int n => Text.ofInt n
  | .float x => floatLiteral x
  | .text t => stringLiteral t
  | .array [] => ['[', ']']
  | .array items => '[' :: '\n' :: prettyItems (depth + 1) items ++ margin depth ++ [']']
  | .object [] => ['\x7b', '\x7d']
  | .object members =>
    '\x7b' :: '\n' :: prettyMembers (depth + 1) members ++ margin depth ++ ['\x7d']

/-- The lines of an array's items. -/
def prettyItems (depth : Nat) : List Json → Text
  | [] => []
  | [v] => margin depth ++ prettyAt depth v ++ ['\n']
  | v :: items => margin depth ++ prettyAt depth v ++ [',', '\n'] ++ prettyItems depth items

/-- The lines of an object's members. -/
def prettyMembers (depth : Nat) : List (Text × Json) → Text
  | [] => []
  | [(key, v)] =>
    margin depth ++ stringLiteral key ++ [':', ' '] ++ prettyAt depth v ++ ['\n']
  | (key, v) :: members =>
    margin depth ++ stringLiteral key ++ [':', ' '] ++ prettyAt depth v ++ [',', '\n']
      ++ prettyMembers depth members

end

/-- A value as a file holds it. -/
def pretty (v : Json) : Text := prettyAt 0 v

end Jenkinsfile.Json
