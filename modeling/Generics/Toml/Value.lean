import Generics.Decimal.Binary64

/-!
# TOML values

What a TOML document says. Tables keep the order in which their keys were first defined; inline and
ordinary tables are not told apart, nor are arrays and arrays of tables.

## Main definitions

* `Toml.Value` and `Toml.Table`.
-/

namespace Generics

namespace Toml

/-- A TOML value. -/
inductive Value where
  /-- A string. -/
  | string (s : String)
  /-- An integer of 64 bits. -/
  | integer (i : Int)
  /-- A floating point number. -/
  | float (x : Binary64)
  /-- A truth value. -/
  | boolean (b : Bool)
  /-- A date, a time or both, as written. -/
  | moment (text : String)
  /-- An array. -/
  | array (items : List Value)
  /-- A table. -/
  | table (entries : List (String × Value))
deriving Inhabited, Repr

/-- The entries of a table. -/
abbrev Table : Type := List (String × Value)

end Toml

end Generics
