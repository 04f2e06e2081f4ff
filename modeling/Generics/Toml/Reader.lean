/-!
# Reading characters

A reader takes characters from the front of a list, or refuses. A refusal takes nothing, so the next
alternative starts where the first one did.

## Main definitions

* `Toml.Reader`, with `peek`, `one`, `exactly`, `span`, `attempt` and `many`.
* `Toml.Reader.blanks`, `newline` and `comment`: what TOML has between its words.
-/

namespace Generics

namespace Toml

/-- Take characters from the front, or refuse. -/
abbrev Reader : Type → Type := StateT (List Char) Option

namespace Reader

/-- The next character, which is not taken; none at the end. -/
def peek : Reader (Option Char) := fun cs => some (cs.head?, cs)

/-- One character of a class. -/
def one (p : Char → Bool) : Reader Char
  | c :: cs => if p c then some (c, cs) else none
  | [] => none

/-- One given character. -/
def char (c : Char) : Reader Char := one (· == c)

/-- The characters after `expected`, if the list starts with it. -/
def after : List Char → List Char → Option (List Char)
  | [], cs => some cs
  | e :: es, c :: cs => if e = c then after es cs else none
  | _ :: _, [] => none

/-- The given characters, one after the other. -/
def exactly (expected : String) : Reader Unit := fun cs =>
  (after expected.toList cs).map fun rest => ((), rest)

/-- The longest row of characters of a class, which may be empty. -/
def span (p : Char → Bool) : Reader (List Char) := fun cs =>
  some (cs.takeWhile p, cs.dropWhile p)

/-- The longest row of characters of a class, at least one. -/
def span1 (p : Char → Bool) : Reader (List Char) := do
  let c ← one p
  let cs ← span p
  return c :: cs

/-- What `r` reads, if it does not refuse. -/
def attempt {α : Type} (r : Reader α) : Reader (Option α) := fun cs =>
  match r cs with
  | some (a, rest) => some (some a, rest)
  | none => some (none, cs)

/-- What `r` reads, again and again until it refuses, at most `n` times. -/
def manyUpTo {α : Type} (r : Reader α) : Nat → Reader (List α)
  | 0 => return []
  | n + 1 => do
    match ← attempt r with
    | none => return []
    | some a =>
      let rest ← manyUpTo r n
      return a :: rest

/-- What `r` reads, again and again until it refuses. A reader that takes something each time cannot
be asked more often than there are characters. -/
def many {α : Type} (r : Reader α) : Reader (List α) := fun cs => manyUpTo r cs.length cs

/-- What `r` reads, with the characters that it takes. -/
def withText {α : Type} (r : Reader α) : Reader (α × String) := fun cs =>
  match r cs with
  | some (a, rest) => some ((a, String.ofList (cs.take (cs.length - rest.length))), rest)
  | none => none

/-- Nothing is left. -/
def atEnd : Reader Unit
  | [] => some ((), [])
  | _ :: _ => none

/-! ### Between the words -/

/-- A space or a tab. -/
def isSpace (c : Char) : Bool := c == ' ' || c == '\t'

/-- No control character but the tab. -/
def isText (c : Char) : Bool := c == '\t' || (' ' ≤ c && c != '\x7f')

/-- Spaces and tabs. -/
def blanks : Reader Unit := do
  let _ ← span isSpace

/-- A line feed, perhaps after a carriage return. -/
def newline : Reader Unit := exactly "\n" <|> exactly "\r\n"

/-- A comment up to the end of the line. -/
def comment : Reader Unit := do
  let _ ← char '#'
  let _ ← span isText

/-- The end of a line or of everything. -/
def lineEnd : Reader Unit := newline <|> atEnd

/-- What may stand behind the words of a line. -/
def trailing : Reader Unit := do
  blanks
  let _ ← attempt comment
  lineEnd

/-- One comment line or line end between the items of an array. -/
def gap : Reader Unit := do
  blanks
  let _ ← attempt comment
  newline

/-- Blanks, line ends and comments between the items of an array. -/
def gaps : Reader Unit := do
  let _ ← many gap
  blanks

end Reader

end Toml

end Generics
