/-
# How a floating-point number is written

A number is written with the fewest digits that read back as it, and of those with the digits
nearest to it.  It is written out in full if its leading digit stands between the fourth place
after the point and the sixteenth before it, always with at least one digit after the point, and
with a power of ten otherwise.
-/
import Jenkinsfile.Double.Basic
import Jenkinsfile.Text.Basic

namespace Jenkinsfile.Double

/-! ## 1. Digits -/

/-- The number `digits` times ten to the power `exponent`. -/
structure Decimal where
  digits : Nat
  exponent : Int
  deriving DecidableEq, Repr

/-- The exact value of a significand and its exponent. -/
def magnitude (significand : Nat) (exponent : Int) : Ratio :=
  (Ratio.mk significand 1).timesPower 2 exponent

/-- How many digits a positive fraction has before the point; zeros after the point count
negatively. -/
def wholeLength (r : Ratio) : Int :=
  let k := (decimalLength r.num : Int) - decimalLength r.den
  let scaled := r.timesPower 10 (-k)
  if scaled.num < scaled.den then k else k + 1

/-- The multiple of ten to the power `grid` next to a number that reads back as it.  Of two, the
nearer is taken, and the even one if both are equally near. -/
def candidate? (significand : Nat) (exponent grid : Int) : Option Decimal :=
  let scaled := (magnitude significand exponent).timesPower 10 (-grid)
  let low := scaled.num / scaled.den
  let readsBack (digits : Nat) : Bool :=
    ofDecimal false digits grid = .finite false significand exponent
  let lowIsNearer : Bool :=
    match compare (2 * scaled.num) ((2 * low + 1) * scaled.den) with
    | .lt => true
    | .eq => low % 2 = 0
    | .gt => false
  if readsBack low && (lowIsNearer || !readsBack (low + 1)) then some ⟨low, grid⟩
  else if readsBack (low + 1) then some ⟨low + 1, grid⟩
  else none

/-- All the digits of a number. -/
def allDigits (significand : Nat) : Int → Decimal
  | .ofNat n => ⟨significand * Nat.pow 2 n, 0⟩
  | .negSucc n => ⟨significand * Nat.pow 5 (n + 1), .negSucc n⟩

/-- The fewest digits that read back as a number; seventeen are always enough. -/
def shortest (significand : Nat) (exponent : Int) : Decimal :=
  let length := wholeLength (magnitude significand exponent)
  let found := (List.range 17).findSome? fun n =>
    candidate? significand exponent (length - (n + 1 : Nat))
  found.getD (allDigits significand exponent)

/-! ## 2. Layout -/

/-- A row of zeros. -/
def zeros (n : Nat) : Text := List.replicate n '0'

/-- A power of ten with its sign and at least two digits. -/
def powerText (power : Int) : Text :=
  let digits := Text.ofNat power.natAbs
  'e' :: (if power < 0 then '-' else '+') :: (zeros (2 - digits.length) ++ digits)

/-- Digits without zeros at the end, the first of which stands for ones times ten to the power
`power`. -/
def layout (digits : Text) (power : Int) : Text :=
  if -4 ≤ power ∧ power < 0 then
    '0' :: '.' :: (zeros (-power - 1).toNat ++ digits)
  else if 0 ≤ power ∧ power < 16 then
    let whole := power.toNat + 1
    if digits.length ≤ whole then digits ++ zeros (whole - digits.length) ++ ['.', '0']
    else digits.take whole ++ '.' :: digits.drop whole
  else
    let fraction := digits.drop 1
    digits.take 1 ++ (if fraction.isEmpty then [] else '.' :: fraction) ++ powerText power

/-- A decimal number as it is written. -/
def Decimal.toText (d : Decimal) : Text :=
  let digits := Text.ofNat d.digits
  layout (Text.dropEndWhile (· = '0') digits) (digits.length - 1 + d.exponent)

/-- The sign of a negative number. -/
def signText (negative : Bool) : Text := if negative then ['-'] else []

/-- A number as it is written. -/
def toText : Double → Text
  | .finite negative 0 _ => signText negative ++ "0.0".toList
  | .finite negative significand exponent =>
    signText negative ++ (shortest significand exponent).toText
  | .infinite negative => signText negative ++ "inf".toList
  | .nan => "nan".toList

example : toText (ofDecimal false 1 16) = "1e+16".toList := by decide +kernel

example : toText (ofDecimal false 15 (-8)) = "1.5e-07".toList := by decide +kernel

example : toText (ofDecimal false 30000000000000004 (-17)) = "0.30000000000000004".toList := by
  decide +kernel

end Jenkinsfile.Double
