/-!
# Decimals rounded to binary64

The numbers of the IEEE 754 format binary64, and the nearest of them to a decimal. All arithmetic is
exact and on natural numbers; of two nearest numbers the one with the even significand is taken.

## Main definitions

* `Binary64`.
* `Binary64.ofRatio` and `Binary64.ofDecimal`.

## Main results

* Examples at the ends of the range and on ties.
-/

namespace Generics

/-- A binary64 number. -/
inductive Binary64 where
  /-- `significand · 2 ^ exponent`, with a sign that zero has too. -/
  | finite (negative : Bool) (significand : Nat) (exponent : Int)
  /-- An infinity. -/
  | infinite (negative : Bool)
  /-- Not a number. -/
  | nan
deriving DecidableEq, Repr

namespace Binary64

/-- The significand below which numbers of the full precision lie. -/
def significandBound : Nat := Nat.pow 2 53

/-- The least exponent. -/
def minExponent : Int := -1074

/-- The greatest exponent. -/
def maxExponent : Int := 971

/-- `num / den` to the nearest natural number, half to even. -/
def roundDiv (num den : Nat) : Nat :=
  let q := num / den
  let r := num % den
  if den < 2 * r || (2 * r == den && q % 2 == 1) then q + 1 else q

/-- `num / 2 ^ e / den` as numerator and denominator. -/
def scaled (num den : Nat) (e : Int) : Nat × Nat :=
  (num * Nat.pow 2 (-e).toNat, den * Nat.pow 2 e.toNat)

/-- The nearest number to the positive ratio `num / den`. -/
def ofRatio (negative : Bool) (num den : Nat) : Binary64 :=
  let estimate : Int := (num.log2 : Int) - (den.log2 : Int)
  let low := max minExponent (estimate - 53)
  let (n, d) := scaled num den low
  let e := if n / d < significandBound then low else low + 1
  let (n, d) := scaled num den e
  let m := roundDiv n d
  let (m, e) := if m = significandBound then (significandBound / 2, e + 1) else (m, e)
  if maxExponent < e then .infinite negative else .finite negative m e

/-- The number of decimal digits. -/
def digitCount (n : Nat) : Nat := (Nat.toDigits 10 n).length

/-- The nearest number to `digits · 10 ^ exponent`. Far beyond the range nothing is computed. -/
def ofDecimal (negative : Bool) (digits : Nat) (exponent : Int) : Binary64 :=
  let magnitude : Int := (digitCount digits : Int) + exponent
  if digits = 0 || magnitude < -400 then .finite negative 0 minExponent
  else if 400 < magnitude then .infinite negative
  else ofRatio negative (digits * Nat.pow 10 exponent.toNat) (Nat.pow 10 (-exponent).toNat)

example : ofDecimal false 1 0 = .finite false (2 ^ 52) (-52) := by decide +kernel

example : ofDecimal true 5 (-324) = .finite true 1 (-1074) := by decide +kernel

example : ofDecimal false 9007199254740993 0 = .finite false (2 ^ 52) 1 := by decide +kernel

example : ofDecimal false 17976931348623157 292 = .finite false (2 ^ 53 - 1) 971 ∧
    ofDecimal false 18 307 = .infinite false := by decide +kernel

end Binary64

end Generics
