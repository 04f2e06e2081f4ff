import Generics.Toml.Moment
import Generics.Toml.Node
import Generics.Toml.Number

/-!
# TOML documents

Keys, values, lines and documents. Values nest to a limited level, and so do keys; the limits are those
that readers of such files agree to keep. A document is read line by line, and the lines then build the
tables.

## Main definitions

* `Toml.Reader.key` and `Toml.Reader.value`.
* `Toml.Line` and `Toml.Reader.lines`.
* `Toml.build` and `Toml.parse?`.
-/

namespace Generics

namespace Toml

/-- The level that keys and values may not reach. -/
def nestingLimit : Nat := 80

namespace Reader

/-! ### Keys -/

/-- A character of a key without quotes. -/
def isBare (c : Char) : Bool := c.isAlphanum || c == '-' || c == '_'

/-- One part of a key, with the blanks around it. -/
def keyPart : Reader String := do
  blanks
  let part ← lineText <|> (do let cs ← span1 isBare; return String.ofList cs)
  blanks
  return part

/-- The tables on the way, and the key in the last of them. -/
def key : Reader (List String × String) := do
  let first ← keyPart
  let others ← many (do let _ ← char '.'; keyPart)
  let parts := first :: others
  if parts.length < nestingLimit then return (parts.dropLast, parts.getLastD first) else failure

/-- A key with its value, given how values are read. -/
def pair (value : Reader Value) : Reader (List String × String × Value) := do
  let (path, k) ← key
  let _ ← char '='
  blanks
  let v ← value
  return (path, k, v)

/-! ### Values -/

/-- A value that contains no other. -/
def scalar : Reader Value :=
  (do let s ← quotedText; return .string s) <|>
  (do exactly "true"; return .boolean true) <|>
  (do exactly "false"; return .boolean false) <|>
  (do let text ← moment; return .moment text) <|>
  (do let x ← float; return .float x) <|>
  (do let i ← integer; return .integer i)

/-- The items of an array after its opening bracket, up to the closing one; a comma may follow the last
item. The number bounds the items. -/
def items (value : Reader Value) : Nat → Reader (List Value)
  | 0 => failure
  | n + 1 => do
    gaps
    match ← attempt (char ']') with
    | some _ => return []
    | none =>
      let v ← value
      gaps
      match ← attempt (char ',') with
      | some _ =>
        let vs ← items value n
        return v :: vs
      | none =>
        let _ ← char ']'
        return [v]

/-- An array. -/
def array (value : Reader Value) : Reader Value := do
  let _ ← char '['
  let vs ← fun cs => items value (cs.length + 1) cs
  return .array vs

/-- The pairs of an inline table after the first one. -/
def otherPairs (value : Reader Value) : Reader (List (List String × String × Value)) :=
  many (do
    let _ ← char ','
    let p ← pair value
    blanks
    return p)

/-- The pairs of an inline table; none may be missing after a comma. -/
def pairs (value : Reader Value) : Reader (List (List String × String × Value)) := do
  match ← attempt (do let p ← pair value; blanks; return p) with
  | none => return []
  | some p =>
    let ps ← otherPairs value
    return p :: ps

/-- An inline table, on one line. -/
def inlineTable (value : Reader Value) : Reader Value := do
  let _ ← char '{'
  let ps ← pairs value
  blanks
  let _ ← char '}'
  match ps.foldlM (fun entries p => addPair p.1 p.2.1 p.2.2 entries) [] with
  | some entries => return .table (entriesValue entries)
  | none => failure

/-- A value with at most `n` levels of arrays and inline tables. -/
def valueUpTo : Nat → Reader Value
  | 0 => scalar
  | n + 1 => array (valueUpTo n) <|> inlineTable (valueUpTo n) <|> scalar

/-- A value. -/
def value : Reader Value := valueUpTo (nestingLimit - 1)

end Reader

/-! ### Lines -/

/-- What a line of a document says. -/
inductive Line where
  /-- Nothing. -/
  | empty
  /-- A key has a value. -/
  | pair (path : List String) (key : String) (v : Value)
  /-- A table begins. -/
  | table (path : List String) (key : String)
  /-- The next table of an array begins. -/
  | element (path : List String) (key : String)

namespace Reader

/-- The header of a table of an array. -/
def elementHeader : Reader Line := do
  exactly "[["
  let (path, k) ← key
  exactly "]]"
  return .element path k

/-- The header of a table. -/
def tableHeader : Reader Line := do
  let _ ← char '['
  let (path, k) ← key
  let _ ← char ']'
  return .table path k

/-- A line without its end. -/
def lineContent : Reader Line := do
  match ← peek with
  | some '[' => elementHeader <|> tableHeader
  | some '#' | some '\n' | some '\r' => return .empty
  | _ =>
    let (path, k, v) ← pair value
    return .pair path k v

/-- The lines up to the end, at most the given number. -/
def linesUpTo : Nat → Reader (List Line)
  | 0 => failure
  | n + 1 => do
    blanks
    match ← peek with
    | none => return []
    | some _ =>
      let line ← lineContent
      trailing
      let rest ← linesUpTo n
      return line :: rest

/-- All lines, after a byte order mark if there is one. -/
def lines : Reader (List Line) := do
  let _ ← attempt (char '\ufeff')
  fun cs => linesUpTo (cs.length + 1) cs

end Reader

/-! ### Tables -/

/-- Where the keys of the current lines go. -/
inductive Section where
  /-- To the root. -/
  | root
  /-- To the table of a header. -/
  | table (path : List String) (key : String)
  /-- To a table of an array. -/
  | element (path : List String) (key : String)

/-- A document under construction: the root without the current table, and the current table. -/
structure Draft where
  /-- The root as far as it is finished. -/
  root : Entries
  /-- Where the current table belongs. -/
  place : Section
  /-- The entries of the current table. -/
  current : Entries

/-- Put the current table into its place. -/
def Draft.finish (d : Draft) : Option Entries :=
  match d.place with
  | .root => some d.current
  | .table path key => closeTable path key d.current d.root
  | .element path key => addElement path key d.current d.root

/-- Take the next line into account. -/
def Draft.add (d : Draft) : Line → Option Draft
  | .empty => some d
  | .pair path key v => do
    let current ← addPair path key v d.current
    return { d with current }
  | .table path key => do
    let root ← d.finish
    let current ← openTable path key root
    return { root, place := .table path key, current }
  | .element path key => do
    let root ← d.finish
    return { root, place := .element path key, current := [] }

/-- The table that the lines define, unless they contradict each other. -/
def build (lines : List Line) : Option Table := do
  let d ← lines.foldlM Draft.add { root := [], place := .root, current := [] }
  let root ← d.finish
  return entriesValue root

/-- The table that a document defines, if it is valid TOML. -/
def parse? (text : String) : Option Table :=
  match Reader.lines text.toList with
  | some (lines, _) => build lines
  | none => none

end Toml

end Generics
