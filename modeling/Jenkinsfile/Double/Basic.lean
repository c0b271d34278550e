/-
# Floating-point numbers

The numbers of the binary format with 64 bits: a sign, a whole number below 2 ^ 53 and a power of
two, the two infinities, and one value that is no number.  `Double.ofDecimal` gives the number
nearest to a decimal one, computed exactly on natural numbers.
-/

namespace Jenkinsfile

/-- A floating-point number.  `finite negative significand exponent` is `significand` times two to
the power `exponent`, with its sign; zero has one too. -/
inductive Double
  | finite (negative : Bool) (significand : Nat) (exponent : Int)
  | infinite (negative : Bool)
  | nan
  deriving DecidableEq, Repr

/-! ## 1. Fractions -/

/-- A fraction whose denominator is not zero. -/
structure Ratio where
  num : Nat
  den : Nat
  deriving Repr

namespace Ratio

/-- A fraction times a power of a base, of either sign. -/
def timesPower (r : Ratio) (base : Nat) : Int → Ratio
  | .ofNat n => ⟨r.num * Nat.pow base n, r.den⟩
  | .negSucc n => ⟨r.num, r.den * Nat.pow base (n + 1)⟩

/-- The whole number nearest to a fraction; of two equally near the even one. -/
def round (r : Ratio) : Nat :=
  let whole := r.num / r.den
  let twice := 2 * (r.num % r.den)
  if r.den < twice ∨ (twice = r.den ∧ whole % 2 = 1) then whole + 1 else whole

end Ratio

/-! ## 2. The nearest number -/

namespace Double

/-- The least number with 53 bits. -/
def normalMin : Nat := 0x10000000000000

/-- The exponent of the smallest numbers. -/
def exponentMin : Int := -1074

/-- The exponent of the largest numbers. -/
def exponentMax : Int := 971

/-- The exponent at which a positive fraction has 53 bits before the point, or the least one.  The
logarithms give it or one less. -/
def exponentFor (r : Ratio) : Int :=
  let e := max ((Nat.log2 r.num : Int) - Nat.log2 r.den - 53) exponentMin
  let scaled := r.timesPower 2 (-e)
  if scaled.num / scaled.den < 2 * normalMin then e else e + 1

/-- The number nearest to a positive fraction. -/
def nearest (negative : Bool) (r : Ratio) : Double :=
  let e := exponentFor r
  let m := (r.timesPower 2 (-e)).round
  let carried := m = 2 * normalMin
  let exponent := if carried then e + 1 else e
  if exponentMax < exponent then .infinite negative
  else .finite negative (if carried then normalMin else m) exponent

/-- Zero, with its sign. -/
def zero (negative : Bool) : Double := .finite negative 0 exponentMin

/-- How many digits a number has in decimal. -/
def decimalLength (n : Nat) : Nat := (Nat.toDigits 10 n).length

/-- The number nearest to `digits` times ten to the power `exponent`.  What is far beyond every
number is infinite, and what is far below the smallest one is zero. -/
def ofDecimal (negative : Bool) (digits : Nat) (exponent : Int) : Double :=
  let length : Int := decimalLength digits + exponent
  if digits = 0 ∨ length < -330 then zero negative
  else if 330 < length then .infinite negative
  else nearest negative ((Ratio.mk digits 1).timesPower 10 exponent)

end Double

end Jenkinsfile
