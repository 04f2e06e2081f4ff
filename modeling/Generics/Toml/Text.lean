import Generics.Toml.Reader

/-!
# TOML strings

The four kinds of strings: basic and literal, each on one line or on several. Only basic strings have
escapes. Several lines start after a first line end that does not count, and up to two quotes may stand
directly before the closing three.

## Main definitions

* `Toml.Reader.quotedText`: a string of any kind.
* `Toml.Reader.lineText`: a string on one line, as keys may be written.
-/

namespace Generics

namespace Toml

namespace Reader

/-! ### Escapes -/

/-- A digit to base sixteen. -/
def isHexDigit (c : Char) : Bool := c.isDigit || ('a' ≤ c && c ≤ 'f') || ('A' ≤ c && c ≤ 'F')

/-- The value of a digit to base sixteen. -/
def hexValue (c : Char) : Nat :=
  if c.isDigit then c.toNat - '0'.toNat
  else if 'a' ≤ c then c.toNat - 'a'.toNat + 10
  else c.toNat - 'A'.toNat + 10

/-- The number that digits to a base stand for. -/
def numberOf (base : Nat) (digits : List Char) : Nat :=
  digits.foldl (fun n c => n * base + hexValue c) 0

/-- Exactly `n` digits to base sixteen. -/
def hexDigits : Nat → Reader (List Char)
  | 0 => return []
  | n + 1 => do
    let c ← one isHexDigit
    let cs ← hexDigits n
    return c :: cs

/-- A character by its code point, written with `n` digits. -/
def codePoint (n : Nat) : Reader Char := do
  let digits ← hexDigits n
  let code := numberOf 16 digits
  if code.isValidChar then return Char.ofNat code else failure

/-- An escaped character. -/
def escaped : Reader Char := do
  let _ ← char '\\'
  match ← one fun _ => true with
  | 'b' => return '\x08'
  | 't' => return '\t'
  | 'n' => return '\n'
  | 'f' => return '\x0c'
  | 'r' => return '\r'
  | '"' => return '"'
  | '\\' => return '\\'
  | 'u' => codePoint 4
  | 'U' => codePoint 8
  | _ => failure

/-! ### One line -/

/-- A character of a basic string that stands for itself. -/
def isBasic (c : Char) : Bool := isText c && c != '"' && c != '\\'

/-- A character of a literal string. -/
def isLiteral (c : Char) : Bool := isText c && c != '\''

/-- A basic string on one line. -/
def basicLine : Reader String := do
  let _ ← char '"'
  let cs ← many (one isBasic <|> escaped)
  let _ ← char '"'
  return String.ofList cs

/-- A literal string on one line. -/
def literalLine : Reader String := do
  let _ ← char '\''
  let cs ← span isLiteral
  let _ ← char '\''
  return String.ofList cs

/-- A string on one line. -/
def lineText : Reader String := basicLine <|> literalLine

/-! ### Several lines -/

/-- The quotes that come next, none of which is taken. -/
def quotesAhead (quote : Char) : Reader Nat := fun cs =>
  some ((cs.takeWhile (· == quote)).length, cs)

/-- One or two quotes that do not close the string. -/
def innerQuotes (quote : Char) : Reader (List Char) := do
  let n ← quotesAhead quote
  if 0 < n && n < 3 then span (· == quote) else failure

/-- The closing quotes, with up to two that belong to the string. -/
def closing (quote : Char) : Reader (List Char) := do
  let n ← quotesAhead quote
  if n < 3 then failure
  let extra := List.replicate (min (n - 3) 2) quote
  exactly (String.ofList (List.replicate 3 quote ++ extra))
  return extra

/-- A line end inside a string is a line feed. -/
def innerNewline : Reader (List Char) := do
  newline
  return ['\n']

/-- A backslash at the end of a line takes away all blanks and line ends up to the next word. -/
def continuation : Reader (List Char) := do
  let _ ← char '\\'
  blanks
  newline
  let _ ← many (newline <|> (do let _ ← one isSpace))
  return []

/-- A string on several lines, given how its content is read. -/
def severalLines (quote : Char) (content : Reader (List Char)) : Reader String := do
  exactly (String.ofList (List.replicate 3 quote))
  let _ ← attempt newline
  let parts ← many (content <|> innerNewline <|> innerQuotes quote)
  let extra ← closing quote
  return String.ofList (parts.flatten ++ extra)

/-- A basic string on several lines. -/
def basicLines : Reader String :=
  severalLines '"' (span1 isBasic <|> continuation <|> (do let c ← escaped; return [c]))

/-- A literal string on several lines. -/
def literalLines : Reader String := severalLines '\'' (span1 isLiteral)

/-- A string of any kind. Three quotes always open a string on several lines. -/
def quotedText : Reader String := do
  let doubles ← quotesAhead '"'
  let singles ← quotesAhead '\''
  if 3 ≤ doubles then basicLines
  else if 3 ≤ singles then literalLines
  else lineText

end Reader

end Toml

end Generics
