/-
# Texts

A text is the list of its Unicode characters.  Everything a pipeline file consists of (lines,
headers, scripts) and everything this library prints about it is one, so that the lemmas on
lists apply to all of it.

The operations here are the ones that lists do not bring along:

* `dropEndWhile`: cut a tail off;
* `after?`: what follows a given start (`after?_eq_some_iff`);
* `holds`: whether one text occurs inside another (`holds_iff`);
* `replicate`, `ofNat`, `ofInt` and `hex`: repetition, and numbers in decimal and hexadecimal.
-/
namespace Jenkinsfile

/-- A text: its characters in reading order. -/
abbrev Text := List Char

namespace Text

/-! ## 1. Cutting -/

/-- Removes the longest tail whose characters all satisfy `p`. -/
def dropEndWhile (p : Char → Bool) (t : Text) : Text :=
  (t.reverse.dropWhile p).reverse

/-- What follows `start` in a text that begins with it. -/
def after? : (start t : Text) → Option Text
  | [], t => some t
  | _ :: _, [] => none
  | c :: start, d :: t => if c = d then after? start t else none

theorem after?_eq_some_iff {start t rest : Text} :
    after? start t = some rest ↔ t = start ++ rest := by
  induction start generalizing t with
  | nil => simp [after?]
  | cons c start ih =>
    cases t with
    | nil => simp [after?]
    | cons d t =>
      by_cases h : c = d
      · simp [after?, h, ih]
      · simp [after?, h, Ne.symm h]

/-! ## 2. Searching -/

/-- `needle` occurs in the text; the empty needle occurs in every text. -/
def holds (needle : Text) : Text → Bool
  | [] => needle.isEmpty
  | c :: t => needle.isPrefixOf (c :: t) || holds needle t

theorem holds_iff {needle t : Text} : holds needle t = true ↔ needle <:+: t := by
  induction t with
  | nil => simp [holds]
  | cons c t ih =>
    simp [holds, ih, List.infix_cons_iff, List.isPrefixOf_iff_prefix]

/-! ## 3. Writing -/

/-- `n` copies of a text in a row. -/
def replicate (n : Nat) (t : Text) : Text :=
  (List.replicate n t).flatten

/-- A natural number in decimal. -/
def ofNat (n : Nat) : Text :=
  Nat.toDigits 10 n

/-- An integer in decimal, with a minus sign below zero. -/
def ofInt : Int → Text
  | .ofNat n => ofNat n
  | .negSucc n => '-' :: ofNat (n + 1)

/-- The last `width` hexadecimal digits of a number, in lower case. -/
def hex : (width n : Nat) → Text
  | 0, _ => []
  | width + 1, n => hex width (n / 16) ++ [Nat.digitChar (n % 16)]

end Text

end Jenkinsfile
