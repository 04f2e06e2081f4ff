import Generics.Decimal.Shortest
import Generics.Distinct
import Generics.Settings.Basic
import Generics.Text.Quoted
import Generics.Toml.Document

/-!
# Reading settings

Settings are read from a TOML table. Keys that are missing have defaults, and keys that are not known do
no harm. A group of settings may also be given as an array of its values in order. The first value of a
wrong kind, in the order of the document, is refused.

## Main definitions

* `WrongShape` and its message.
* `Settings.ofTable`.
* `Toml.Value.fields?`: how the settings of a group are found.
* `Settings.ofDocument`, `Settings.ofText` and `Settings.ofFile`, with `LoadError`.

## Main results

* `ofTable_nil`: an empty document gives the defaults.
-/

namespace Generics

/-- A value that does not fit. -/
inductive WrongShape where
  /-- The value is of another kind than expected. -/
  | mismatch (found : Toml.Value) (expected : String)
  /-- The integer is out of range. -/
  | outOfRange (found : Int) (expected : String)

/-- A value in the words of an error message. -/
def Toml.Value.describe : Toml.Value → String
  | .string s => "string " ++ Text.quoted s
  | .integer i => "integer `" ++ toString i ++ "`"
  | .float x => "floating point `" ++ x.text ++ "`"
  | .boolean b => "boolean `" ++ (if b then "true" else "false") ++ "`"
  | .array _ => "sequence"
  | .moment _ | .table _ => "map"

/-- The mistake in words. -/
def WrongShape.message : WrongShape → String
  | .mismatch found expected => "invalid type: " ++ found.describe ++ ", expected " ++ expected
  | .outOfRange found expected =>
    "invalid value: " ++ (Toml.Value.integer found).describe ++ ", expected " ++ expected

/-- The key under which the text of a date or time can be found. -/
def momentKey : String := "$__toml_private_datetime"

/-- The settings of a group: the entries of a table, the items of an array in the order of the names, or
the text of a date. -/
def Toml.Value.fields? (names : List String) : Toml.Value → Option Toml.Table
  | .table entries => some entries
  | .array items => some (names.zip items)
  | .moment text => some [(momentKey, .string text)]
  | _ => none

/-! ### Single values -/

/-- A depth is an integer that is not negative. -/
def readDepth : Toml.Value → Except WrongShape Nat
  | .integer i => if 0 ≤ i then .ok i.toNat else .error (.outOfRange i "usize")
  | v => .error (.mismatch v "usize")

/-- A text is a string. -/
def readText : Toml.Value → Except WrongShape String
  | .string s => .ok s
  | v => .error (.mismatch v "a string")

/-- A flag is a truth value. -/
def readFlag : Toml.Value → Except WrongShape Bool
  | .boolean b => .ok b
  | v => .error (.mismatch v "a boolean")

/-! ### Groups -/

namespace GenericsSettings

/-- The keys of the group. -/
def keys : List String := ["max_generic_depth"]

/-- Take one entry into account. -/
def set (s : GenericsSettings) (entry : String × Toml.Value) :
    Except WrongShape GenericsSettings :=
  if entry.1 = "max_generic_depth" then
    (readDepth entry.2).map fun maxGenericDepth => { s with maxGenericDepth }
  else .ok s

/-- The group that a value describes. -/
def ofValue (v : Toml.Value) : Except WrongShape GenericsSettings :=
  match v.fields? keys with
  | some entries => entries.foldlM set {}
  | none => .error (.mismatch v "struct GenericsConfig")

end GenericsSettings

namespace LoggingSettings

/-- The keys of the group. -/
def keys : List String := ["level", "json"]

/-- Take one entry into account. -/
def set (s : LoggingSettings) (entry : String × Toml.Value) : Except WrongShape LoggingSettings :=
  if entry.1 = "level" then (readText entry.2).map fun level => { s with level }
  else if entry.1 = "json" then (readFlag entry.2).map fun json => { s with json }
  else .ok s

/-- The group that a value describes. -/
def ofValue (v : Toml.Value) : Except WrongShape LoggingSettings :=
  match v.fields? keys with
  | some entries => entries.foldlM set {}
  | none => .error (.mismatch v "struct LoggingConfig")

end LoggingSettings

namespace Settings

/-- Take one group into account. -/
def set (s : Settings) (entry : String × Toml.Value) : Except WrongShape Settings :=
  if entry.1 = "generics" then
    (GenericsSettings.ofValue entry.2).map fun generics => { s with generics }
  else if entry.1 = "logging" then
    (LoggingSettings.ofValue entry.2).map fun logging => { s with logging }
  else .ok s

/-- The settings that a table describes. -/
def ofTable (t : Toml.Table) : Except WrongShape Settings := t.foldlM set {}

/-- An empty document gives the defaults. -/
@[simp] theorem ofTable_nil : ofTable [] = .ok {} := rfl

end Settings

/-! ### Documents and files -/

/-- Why there are no settings. -/
inductive LoadError where
  /-- The file cannot be read, or is no text. -/
  | unreadable
  /-- The text is not TOML. -/
  | invalidToml
  /-- A value does not fit. -/
  | wrongShape (e : WrongShape)

/-- The error in words, where its words are part of the answer. -/
def LoadError.message? : LoadError → Option String
  | .wrongShape e => some ("failed to parse toml config: " ++ e.message)
  | _ => none

namespace Settings

/-- The table of a document. -/
def tableOf (text : String) : Except LoadError Toml.Table :=
  match Toml.parse? text with
  | some t => .ok t
  | none => .error .invalidToml

/-- The settings that a document describes, if it could be read. -/
def ofDocument (document : Except LoadError Toml.Table) : Except LoadError Settings :=
  match document with
  | .error e => .error e
  | .ok t => (ofTable t).mapError .wrongShape

/-- The settings that a text describes. -/
def ofText (text : String) : Except LoadError Settings := ofDocument (tableOf text)

/-- The settings in a file of the given bytes; none stands for a file that cannot be read. -/
def ofFile (contents : Option ByteArray) : Except LoadError Settings :=
  match contents.bind String.fromUTF8? with
  | some text => ofText text
  | none => .error .unreadable

/-- The settings in the file that is configured. Where none is, the defaults hold. -/
def ofConfiguredFile : Option (Option ByteArray) → Except LoadError Settings
  | none => .ok {}
  | some contents => ofFile contents

end Settings

end Generics
