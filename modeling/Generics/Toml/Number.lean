import Generics.Decimal.Binary64
import Generics.Toml.Text

/-!
# TOML numbers

Integers to base ten, sixteen, eight and two, and floating point numbers. Underscores may stand
between digits; a decimal number has no leading zeros. Integers must fit into 64 bits, and a number
too large for the floating point range is refused unless it is negative.

## Main definitions

* `Toml.Reader.integer`.
* `Toml.Reader.float`.
-/

namespace Generics

namespace Toml

namespace Reader

/-- A digit, perhaps after an underscore. -/
def nextDigit (isDigit : Char → Bool) : Reader Char :=
  one isDigit <|> (do let _ ← char '_'; one isDigit)

/-- Digits with underscores between them. -/
def digitRow (isDigit : Char → Bool) : Reader (List Char) := do
  let c ← one isDigit
  let cs ← many (nextDigit isDigit)
  return c :: cs

/-- A sign, `true` for minus. -/
def sign : Reader Bool := do
  match ← attempt (one fun c => c == '+' || c == '-') with
  | some '-' => return true
  | _ => return false

/-- A digit other than zero. -/
def isLeadingDigit (c : Char) : Bool := c.isDigit && c != '0'

/-- A decimal number without leading zeros. -/
def decimalDigits : Reader (List Char) :=
  (do let c ← one isLeadingDigit
      let cs ← many (nextDigit Char.isDigit)
      return c :: cs) <|>
  (do let c ← one Char.isDigit
      return [c])

/-! ### Integers -/

/-- An integer of 64 bits. -/
def inRange (i : Int) : Bool := -(Int.pow 2 63) ≤ i && i < Int.pow 2 63

/-- A number, if it fits into 64 bits. -/
def checkedInteger (i : Int) : Reader Int := if inRange i then return i else failure

/-- A number to another base, after its two marking characters. -/
def basedInteger (mark : String) (base : Nat) (isDigit : Char → Bool) : Reader Int := do
  exactly mark
  let digits ← digitRow isDigit
  checkedInteger (numberOf base digits)

/-- A decimal integer. -/
def decimalInteger : Reader Int := do
  let negative ← sign
  let digits ← decimalDigits
  let n : Int := numberOf 10 digits
  checkedInteger (if negative then -n else n)

/-- An integer. -/
def integer : Reader Int :=
  basedInteger "0x" 16 isHexDigit <|>
  basedInteger "0o" 8 (fun c => '0' ≤ c && c ≤ '7') <|>
  basedInteger "0b" 2 (fun c => c == '0' || c == '1') <|>
  decimalInteger

/-! ### Floating point numbers -/

/-- The digits behind the point. -/
def fraction : Reader (List Char) := do
  let _ ← char '.'
  digitRow Char.isDigit

/-- The exponent. -/
def exponent : Reader Int := do
  let _ ← one fun c => c == 'e' || c == 'E'
  let negative ← sign
  let digits ← digitRow Char.isDigit
  let n : Int := numberOf 10 digits
  return if negative then -n else n

/-- Fraction and exponent, of which one may be missing. -/
def scale : Reader (List Char × Int) :=
  (do let e ← exponent
      return ([], e)) <|>
  (do let ds ← fraction
      let e ← attempt exponent
      return (ds, e.getD 0))

/-- A number with fraction or exponent. -/
def scaledNumber : Reader Binary64 := do
  let negative ← sign
  let whole ← decimalDigits
  let (decimals, e) ← scale
  let x := Binary64.ofDecimal negative (numberOf 10 (whole ++ decimals)) (e - decimals.length)
  if x = .infinite false then failure else return x

/-- An infinity or not a number. -/
def specialNumber : Reader Binary64 := do
  let negative ← sign
  (do exactly "inf"
      return .infinite negative) <|>
  (do exactly "nan"
      return .nan)

/-- A floating point number. -/
def float : Reader Binary64 := scaledNumber <|> specialNumber

end Reader

end Toml

end Generics
