import Generics.Text.Printable

/-!
# Texts in quotes

A text between double quotes, with everything escaped that could not be told apart otherwise: quotes,
backslashes and characters that cannot be shown as they are.

## Main definitions

* `Text.escape` and `Text.quoted`.
-/

namespace Generics

namespace Text

/-- The digits of a number to base sixteen, without leading zeros. -/
def hexDigits (n : Nat) : String := String.ofList (Nat.toDigits 16 n)

/-- A character as it stands between quotes. -/
def escape (ch : Char) : String :=
  if ch = '\x00' then "\\0"
  else if ch = '\t' then "\\t"
  else if ch = '\r' then "\\r"
  else if ch = '\n' then "\\n"
  else if ch = '"' then "\\\""
  else if ch = '\\' then "\\\\"
  else if isPrintable ch then ch.toString
  else "\\u\x7b" ++ hexDigits ch.toNat ++ "\x7d"

/-- The text in double quotes. -/
def quoted (s : String) : String := "\"" ++ String.join (s.toList.map escape) ++ "\""

end Text

end Generics
