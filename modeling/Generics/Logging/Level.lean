/-!
# Levels of logging

## Main definitions

* `Level`, with `Level.ofText?` and `Level.name`.

## Main results

* `ofText?_name`: the name of a level is one of its spellings.
-/

namespace Generics

/-- How much is logged. -/
inductive Level where
  | off
  | error
  | warn
  | info
  | debug
  | trace
deriving DecidableEq, Repr

namespace Level

/-- All levels, from least to most. -/
def all : List Level := [.off, .error, .warn, .info, .debug, .trace]

/-- The name of a level. -/
def name : Level → String
  | .off => "off"
  | .error => "error"
  | .warn => "warn"
  | .info => "info"
  | .debug => "debug"
  | .trace => "trace"

/-- The number that digits stand for. -/
def numberOf (digits : List Char) : Nat :=
  digits.foldl (fun n c => n * 10 + (c.toNat - '0'.toNat)) 0

/-- A number written with digits, perhaps after a plus sign. -/
def number? (s : String) : Option Nat :=
  let digits := match s.toList with
    | '+' :: rest => rest
    | cs => cs
  if !digits.isEmpty && digits.all Char.isDigit then some (numberOf digits) else none

/-- Two texts are the same but for the case of their ASCII letters. -/
def sameLetters (s t : String) : Bool := s.toList.map Char.toLower == t.toList.map Char.toLower

/-- The level of a text: its name in any case, or its number, `off` being zero. -/
def ofText? (s : String) : Option Level :=
  match (number? s).bind fun n => all[n]? with
  | some l => some l
  | none => all.find? fun l => sameLetters s l.name

/-- The name of a level is one of its spellings. -/
@[simp] theorem ofText?_name (l : Level) : ofText? l.name = some l := by
  cases l <;> decide +kernel

end Level

end Generics
