import Generics.Toml.Value

/-!
# Tables under construction

A TOML document defines its tables piece by piece: by headers, by dotted keys and by headers of arrays
of tables. What may still be added to a table depends on how it came about, so a table under
construction remembers that.

## Main definitions

* `Toml.Node`: a value that is finished, a table that may grow, or an array of tables.
* `Toml.descend`: change the table at the end of a path.
* `Toml.addPair`, `openTable`, `closeTable` and `addElement`: the four ways of adding to a table.
* `Toml.Node.value`.
-/

namespace Generics

namespace Toml

/-- A value or a table under construction. -/
inductive Node where
  /-- A finished value; inline tables are finished too. -/
  | leaf (v : Value)
  /-- A table. It is implicit if no header of its own has defined it, and dotted if dotted keys have
  created it. -/
  | table (implicit dotted : Bool) (entries : List (String × Node))
  /-- An array of tables. -/
  | tables (items : List (List (String × Node)))
deriving Inhabited

/-- The entries of a table under construction. -/
abbrev Entries : Type := List (String × Node)

/-- Put a node in the place of the one with the same key. -/
def replaceEntry (key : String) (node : Node) (entries : Entries) : Entries :=
  entries.map fun e => if e.1 = key then (key, node) else e

/-- The entries without that key. -/
def removeEntry (key : String) (entries : Entries) : Entries :=
  entries.filter fun e => e.1 != key

/-- Change the table at the end of a path by `change`, which is told whether dotted keys have created
that table. Tables that are missing are created. In an array of tables the path goes on in the last
one. A finished value ends the way, and so does, for dotted keys, a table with a header of its own. -/
def descend (dotted : Bool) (change : Bool → Entries → Option Entries) :
    List String → Bool → Entries → Option Entries
  | [], isDotted, entries => change isDotted entries
  | key :: keys, _, entries =>
    match entries.lookup key with
    | none => do
      let child ← descend dotted change keys dotted []
      return entries ++ [(key, .table true dotted child)]
    | some (.leaf _) => none
    | some (.table implicit isDotted child) =>
      if dotted && !implicit then none
      else do
        let child' ← descend dotted change keys isDotted child
        return replaceEntry key (.table implicit isDotted child') entries
    | some (.tables items) =>
      match items.getLast? with
      | none => none
      | some last => do
        let last' ← descend dotted change keys false last
        return replaceEntry key (.tables (items.dropLast ++ [last'])) entries

/-- Add a key with its value at the end of a path of dotted keys. The key must be new, and a table is
filled either by dotted keys or by simple ones. -/
def addPair (path : List String) (key : String) (v : Value) (entries : Entries) : Option Entries :=
  descend true
    (fun isDotted es =>
      if isDotted == path.isEmpty then none
      else if (es.lookup key).isSome then none
      else some (es ++ [(key, .leaf v)]))
    path false entries

/-- What a table holds already when its header is met: nothing, or what headers of its subtables have
put there. -/
def openTable (path : List String) (key : String) (entries : Entries) : Option Entries :=
  match path, entries with
  | [], es =>
    match es.lookup key with
    | none => some []
    | some (.table true false child) => some child
    | some _ => none
  | k :: ks, es =>
    match es.lookup k with
    | none => some []
    | some (.leaf _) => none
    | some (.table _ _ child) => openTable ks key child
    | some (.tables items) =>
      match items.getLast? with
      | none => none
      | some last => openTable ks key last

/-- Put a table with its own header at the end of the table that holds it. -/
def closeTable (path : List String) (key : String) (table : Entries) (entries : Entries) :
    Option Entries :=
  descend false
    (fun _ es => some (removeEntry key es ++ [(key, .table false false table)])) path false entries

/-- Put a table at the end of an array of tables, which is created if the key is new. -/
def addElement (path : List String) (key : String) (table : Entries) (entries : Entries) :
    Option Entries :=
  descend false
    (fun _ es =>
      match es.lookup key with
      | none => some (es ++ [(key, .tables [table])])
      | some (.tables items) => some (replaceEntry key (.tables (items ++ [table])) es)
      | some _ => none)
    path false entries

mutual

/-- The finished value. -/
def Node.value : Node → Value
  | .leaf v => v
  | .table _ _ entries => .table (entriesValue entries)
  | .tables items => .array (itemsValue items)

/-- The finished entries. -/
def entriesValue : List (String × Node) → Table
  | [] => []
  | (key, node) :: rest => (key, node.value) :: entriesValue rest

/-- The finished tables of an array. -/
def itemsValue : List (List (String × Node)) → List Value
  | [] => []
  | entries :: rest => .table (entriesValue entries) :: itemsValue rest

end

end Toml

end Generics
