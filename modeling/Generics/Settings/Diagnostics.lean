import Generics.Settings.Reading

/-!
# Diagnostics for settings

What a document says beyond the settings, and what of the settings has no effect as it stands.

## Main definitions

* `Settings.unknownKeys`: the keys that are not known, as dotted paths in ascending order.
* `Settings.Warning` and `Settings.warnings`.
* `Settings.diagnose`: settings together with diagnostics; `Settings.diagnoseBy` is told how filters are
  read.

## Main results

* `diagnoseBy_fst`: diagnosing reads the same settings, or fails with the same error.
-/

namespace Generics

namespace Settings

/-! ### Unknown keys -/

/-- The keys of a group that are not known. -/
def strangeKeys (names : List String) (v : Toml.Value) : List String :=
  (((v.fields? names).getD []).map Prod.fst).filter fun k => !names.contains k

/-- The paths of unknown keys at or below an entry of the root. Below an unknown key nothing is
listed. -/
def strangePaths (entry : String × Toml.Value) : List String :=
  if entry.1 = "generics" then
    (strangeKeys GenericsSettings.keys entry.2).map ("generics." ++ ·)
  else if entry.1 = "logging" then
    (strangeKeys LoggingSettings.keys entry.2).map ("logging." ++ ·)
  else [entry.1]

/-- A path without the dots at its beginning. -/
def withoutLeadingDots (path : String) : String :=
  String.ofList (path.toList.dropWhile (· == '.'))

/-- The keys that are not known, as dotted paths without repetition, in ascending order. -/
def unknownKeys (t : Toml.Table) : List String :=
  Ordered.sort (fun a b => decide (a ≤ b))
    (Distinct.ofList ((t.flatMap strangePaths).map withoutLeadingDots))

/-! ### Warnings -/

/-- A setting that does not act as it is written. -/
inductive Warning where
  /-- The depth is beyond what is supported and was lowered. -/
  | depthClamped (configured clamped : Nat)
  /-- The level is no filter, and the fallback is used. -/
  | levelInvalid (value : String)
deriving DecidableEq, Repr

/-- The settings that do not act as they are written, where `parse?` says what the directives of a filter
stand for. -/
def warningsBy {φ : Type} (parse? : String → Option φ) (s : Settings) : List Warning :=
  (if maxSupportedDepth < s.generics.maxGenericDepth then
    [.depthClamped s.generics.maxGenericDepth maxSupportedDepth] else []) ++
  (if s.logging.levelIsValidBy parse? then [] else [.levelInvalid s.logging.level])

/-- The settings that do not act as they are written. -/
def warnings (s : Settings) : List Warning := s.warningsBy Filter.ofText?

/-- What a document says beyond effective settings. -/
structure Diagnostics where
  /-- Keys that are not known. -/
  unknownKeys : List String
  /-- Settings that do not act as written. -/
  warnings : List Warning
deriving DecidableEq, Repr

/-- There is nothing to report. -/
def Diagnostics.isEmpty (d : Diagnostics) : Bool := d.unknownKeys.isEmpty && d.warnings.isEmpty

/-- The settings that a document describes, with diagnostics, if it could be read; `parse?` says what the
directives of a filter stand for. -/
def diagnoseBy {φ : Type} (parse? : String → Option φ) (document : Except LoadError Toml.Table) :
    Except LoadError (Settings × Diagnostics) :=
  match document with
  | .error e => .error e
  | .ok t =>
    match ofTable t with
    | .error e => .error (.wrongShape e)
    | .ok s => .ok (s, { unknownKeys := unknownKeys t, warnings := s.warningsBy parse? })

/-- The settings that a text describes, with diagnostics. -/
def diagnose (text : String) : Except LoadError (Settings × Diagnostics) :=
  diagnoseBy Filter.ofText? (tableOf text)

/-- Diagnosing reads the same settings, or fails with the same error. -/
theorem diagnoseBy_fst {φ : Type} (parse? : String → Option φ)
    (document : Except LoadError Toml.Table) :
    (diagnoseBy parse? document).map Prod.fst = ofDocument document := by
  unfold diagnoseBy ofDocument
  cases document with
  | error e => rfl
  | ok t =>
    dsimp only
    cases ofTable t with
    | error e => rfl
    | ok s => rfl

end Settings

end Generics
