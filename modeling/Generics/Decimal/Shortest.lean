import Generics.Decimal.Binary64

/-!
# The shortest decimal that reads back

Among the decimals that round to a given binary64 number, one with the fewest digits, and of those the
nearest to the number. It is written in positional notation, however long, always with a point.

## Main definitions

* `Binary64.shortest`: digits and exponent of that decimal.
* `Binary64.text`.

## Main results

* Examples: numbers read and written again.
-/

namespace Generics

namespace Binary64

/-- The reals that round to a number, in units of a quarter of its last place. -/
structure Cell where
  /-- The lower end. -/
  low : Nat
  /-- The number itself. -/
  mid : Nat
  /-- The upper end. -/
  high : Nat
  /-- The ends round to the number too. -/
  closed : Bool

/-- The cell of `m · 2 ^ e`. Below a power of two the neighbours are twice as dense. -/
def cell (m : Nat) (e : Int) : Cell where
  low := if m = significandBound / 2 ∧ minExponent < e then 4 * m - 1 else 4 * m - 2
  mid := 4 * m
  high := 4 * m + 2
  closed := m % 2 = 0

/-- `digits · num` lies in the cell, where the unit of the cell is `den`. -/
def Cell.holds (c : Cell) (num den digits : Nat) : Bool :=
  if c.closed then c.low * den ≤ digits * num && digits * num ≤ c.high * den
  else c.low * den < digits * num && digits * num < c.high * den

/-- The better of the two multiples of `num` around the middle of the cell, if one is inside. -/
def Cell.nearest (c : Cell) (num den : Nat) : Option Nat :=
  let below := c.mid * den / num
  let above := below + 1
  match c.holds num den below, c.holds num den above with
  | true, true =>
    some (if c.mid * den - below * num < above * num - c.mid * den then below else above)
  | true, false => some below
  | false, true => some above
  | false, false => none

/-- The first grid of decimals, from coarse to fine, with a member in the cell. A member just above a
power of ten has one digit less than its grid. `point` is the number
of digits before the point, and the unit of the cell is `2 ^ (e - 2)`. -/
def onGrids (c : Cell) (e point : Int) : List Nat → Option (Nat × Int)
  | [] => none
  | d :: ds =>
    let exponent := point - (d : Int)
    let num := Nat.pow 10 exponent.toNat * Nat.pow 2 (2 - e).toNat
    let den := Nat.pow 10 (-exponent).toNat * Nat.pow 2 (e - 2).toNat
    match c.nearest num den with
    | some digits =>
      some (if digits % 10 = 0 then (digits / 10, exponent + 1) else (digits, exponent))
    | none => onGrids c e point ds

/-- The number of digits before the point of `m · 2 ^ e`, negative for zeros behind it. -/
def pointOf (m : Nat) (e : Int) : Int :=
  (digitCount (m * Nat.pow 2 e.toNat * Nat.pow 10 400 / Nat.pow 2 (-e).toNat) : Int) - 400

/-- Digits and exponent of the shortest decimal that rounds to `m · 2 ^ e`. Seventeen digits are always
enough. -/
def shortest (m : Nat) (e : Int) : Nat × Int :=
  if m = 0 then (0, 0)
  else ((onGrids (cell m e) e (pointOf m e) ((List.range 17).map (· + 1))).getD (0, 0))

/-- `digits · 10 ^ exponent` in positional notation with a point. -/
def positional (digits : Nat) (exponent : Int) : String :=
  let ds := Nat.toDigits 10 digits
  if 0 ≤ exponent then
    String.ofList (ds ++ List.replicate exponent.toNat '0') ++ ".0"
  else
    let places := (-exponent).toNat
    let padded := List.replicate (places + 1 - ds.length) '0' ++ ds
    let cut := padded.length - places
    String.ofList (padded.take cut) ++ "." ++ String.ofList (padded.drop cut)

/-- The number as text. -/
def text : Binary64 → String
  | .nan => "NaN"
  | .infinite negative => if negative then "-inf" else "inf"
  | .finite negative m e =>
    let (digits, exponent) := shortest m e
    (if negative then "-" else "") ++ positional digits exponent

example : (ofDecimal false 125 (-2)).text = "1.25" := by decide +kernel

example : (ofDecimal false 1 (-7)).text = "0.0000001" := by decide +kernel

example : (ofDecimal true 3 1).text = "-30.0" := by decide +kernel

end Binary64

end Generics
