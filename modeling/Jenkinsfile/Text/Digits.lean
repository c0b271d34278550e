/-
# Decimal digits and the integers written with them

Unicode has the ten decimal digits of many scripts, each as a run of ten characters from the
digit zero on.  `Text.toInt?` reads an integer written in any of them: blanks around it and a
sign are allowed, and so is a single underscore between two digits.
-/
import Jenkinsfile.Text.Blank

namespace Jenkinsfile

/-! ## 1. Digits -/

/-- The digits zero of Unicode 14. -/
def digitZeros : List Nat :=
  [0x30, 0x660, 0x6f0, 0x7c0, 0x966, 0x9e6, 0xa66, 0xae6, 0xb66, 0xbe6, 0xc66, 0xce6, 0xd66,
   0xde6, 0xe50, 0xed0, 0xf20, 0x1040, 0x1090, 0x17e0, 0x1810, 0x1946, 0x19d0, 0x1a80, 0x1a90,
   0x1b50, 0x1bb0, 0x1c40, 0x1c50, 0xa620, 0xa8d0, 0xa900, 0xa9d0, 0xa9f0, 0xaa50, 0xabf0, 0xff10,
   0x104a0, 0x10d30, 0x11066, 0x110f0, 0x11136, 0x111d0, 0x112f0, 0x11450, 0x114d0, 0x11650,
   0x116c0, 0x11730, 0x118e0, 0x11950, 0x11c50, 0x11d50, 0x11da0, 0x16a60, 0x16ac0,
   0x16b50, 0x1d7ce, 0x1d7d8, 0x1d7e2, 0x1d7ec, 0x1d7f6, 0x1e140, 0x1e2f0, 0x1e950,
   0x1fbf0]

/-- The value of a decimal digit of any script. -/
def digitValue? (c : Char) : Option Nat :=
  (digitZeros.find? fun z => z ≤ c.toNat && c.toNat < z + 10).map (c.toNat - ·)

/-! ## 2. Integers -/

namespace Text

/-- A blank that may stand around a number: the separators U+001C to U+001F may not. -/
def isNumberBlank (c : Char) : Bool :=
  isBlank c && !(0x1c ≤ c.toNat && c.toNat ≤ 0x1f)

/-- The digit values of a number, given whether a digit stands directly before. -/
def digitValues? : (afterDigit : Bool) → Text → Option (List Nat)
  | afterDigit, [] => if afterDigit then some [] else none
  | true, '_' :: t => digitValues? false t
  | _, c :: t => do return (← digitValue? c) :: (← digitValues? true t)

/-- The most digits a written number may have. -/
def maxDigits : Nat := 4300

/-- An integer without a sign. -/
def toNat? (t : Text) : Option Nat := do
  let digits ← digitValues? false t
  if digits.length ≤ maxDigits then some (digits.foldl (fun n d => 10 * n + d) 0) else none

/-- The integer a text denotes. -/
def toInt? (t : Text) : Option Int :=
  match dropEndWhile isNumberBlank (t.dropWhile isNumberBlank) with
  | '-' :: digits => (toNat? digits).map fun n => -(n : Int)
  | '+' :: digits => (toNat? digits).map Int.ofNat
  | digits => (toNat? digits).map Int.ofNat

end Text

end Jenkinsfile
