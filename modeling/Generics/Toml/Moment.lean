import Generics.Toml.Text

/-!
# TOML dates and times

A date, a time of day, or both, in which case an offset from universal time may follow. The parts must
lie in their ranges, and the day in its month.

## Main definitions

* `Toml.Reader.moment`.
-/

namespace Generics

namespace Toml

namespace Reader

/-- A number of exactly `n` digits. -/
def fixedNumber (n : Nat) : Reader Nat := do
  let digits ← digits n
  return numberOf 10 digits
where
  /-- Exactly `n` decimal digits. -/
  digits : Nat → Reader (List Char)
    | 0 => return []
    | n + 1 => do
      let c ← one Char.isDigit
      let cs ← digits n
      return c :: cs

/-- A number of two digits within bounds. -/
def twoDigits (low high : Nat) : Reader Nat := do
  let n ← fixedNumber 2
  if low ≤ n && n ≤ high then return n else failure

/-- The year has a twenty-ninth of February. -/
def isLeap (year : Nat) : Bool := year % 4 == 0 && (year % 100 != 0 || year % 400 == 0)

/-- The number of days in a month. -/
def daysIn (year month : Nat) : Nat :=
  if month = 2 then (if isLeap year then 29 else 28)
  else if month = 4 || month = 6 || month = 9 || month = 11 then 30
  else 31

/-- A date. -/
def date : Reader Unit := do
  let year ← fixedNumber 4
  let _ ← char '-'
  let month ← twoDigits 1 12
  let _ ← char '-'
  let _ ← twoDigits 1 (daysIn year month)

/-- A time of day; a minute may have a leap second. -/
def time : Reader Unit := do
  let _ ← twoDigits 0 23
  let _ ← char ':'
  let _ ← twoDigits 0 59
  let _ ← char ':'
  let _ ← twoDigits 0 60
  let _ ← attempt (do let _ ← char '.'; span1 Char.isDigit)

/-- An offset from universal time. -/
def offset : Reader Unit :=
  (do let _ ← one fun c => c == 'Z' || c == 'z') <|>
  (do let _ ← one fun c => c == '+' || c == '-'
      let _ ← twoDigits 0 23
      let _ ← char ':'
      let _ ← twoDigits 0 59)

/-- The time that may follow a date. -/
def timeOfDate : Reader Unit := do
  let _ ← one fun c => c == 'T' || c == 't' || c == ' '
  time
  let _ ← attempt offset

/-- A date, a time or both, as written. -/
def moment : Reader String := do
  let (_, text) ← withText ((do date; let _ ← attempt timeOfDate) <|> time)
  return text

end Reader

end Toml

end Generics
