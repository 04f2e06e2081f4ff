import Generics.Logging.Filter
import Generics.Resolution.Basic
import Generics.Text.Blank

/-!
# Settings

How deep types are resolved, and what is logged. A configured depth beyond what is supported is lowered;
a configured log level is put into its usual form and joined with the directives of the environment.

## Main definitions

* `Settings`, `GenericsSettings` and `LoggingSettings`.
* `Settings.effectiveDepth`.
* `LoggingSettings.normalizedLevel` and `LoggingSettings.filter`; `filterBy` and `levelIsValidBy` are told
  how filters are read.

## Main results

* `effectiveDepth_eq_iff`: exactly the depths beyond the supported one are changed.
-/

namespace Generics

/-- Settings of type resolution. -/
structure GenericsSettings where
  /-- The depth beyond which types are left unresolved. -/
  maxGenericDepth : Nat := defaultMaxDepth
deriving DecidableEq, Repr, Inhabited

/-- Settings of logging. -/
structure LoggingSettings where
  /-- A level, or the directives of a filter. -/
  level : String := "info"
  /-- Log output is JSON. -/
  json : Bool := false
deriving DecidableEq, Repr, Inhabited

/-- All settings. -/
structure Settings where
  /-- Type resolution. -/
  generics : GenericsSettings := {}
  /-- Logging. -/
  logging : LoggingSettings := {}
deriving DecidableEq, Repr, Inhabited

/-- The greatest depth that is supported. Deeper nesting only multiplies the work on bounds that refer
to themselves. -/
def maxSupportedDepth : Nat := 64

/-- The depth that is used: the configured one, or the greatest that is supported. -/
def Settings.effectiveDepth (s : Settings) : Nat := min s.generics.maxGenericDepth maxSupportedDepth

/-- Exactly the depths beyond the supported one are changed. -/
theorem effectiveDepth_eq_iff (s : Settings) :
    s.effectiveDepth = s.generics.maxGenericDepth ↔
      s.generics.maxGenericDepth ≤ maxSupportedDepth := by
  unfold Settings.effectiveDepth
  omega

namespace LoggingSettings

/-- The names of levels that are put into lower case. -/
def simpleLevels : List String := ["trace", "debug", "info", "warn", "error"]

/-- The level in its usual form: no white space around it, simple levels in lower case, the default for
nothing. Everything else is a filter and stays as it is. -/
def normalizedLevel (s : LoggingSettings) : String :=
  let level := Text.trim s.level
  if level = "" then "info"
  else if Level.sameLetters level "warning" then "warn"
  else match simpleLevels.find? (Level.sameLetters level) with
    | some simple => simple
    | none => level

/-- The configured directives, then those of the environment, which win. -/
def directives (s : LoggingSettings) (environment : Option String) : String :=
  match environment.map Text.trim with
  | none | some "" => s.normalizedLevel
  | some extra => s.normalizedLevel ++ "," ++ extra

section

variable {φ : Type} (parse? : String → Option φ)

/-- The filter for log output, where `parse?` says what directives stand for. Directives that are no
filter are replaced by `fallback`. -/
def filterBy (fallback : φ) (s : LoggingSettings) (environment : Option String) : φ :=
  (parse? (s.directives environment)).getD fallback

/-- The configured directives are a filter, where `parse?` says what directives stand for. -/
def levelIsValidBy (s : LoggingSettings) : Bool := (parse? s.normalizedLevel).isSome

end

/-- The filter that is used when the directives are no filter. -/
def fallback : Filter := ⟨[⟨none, .info⟩]⟩

/-- The filter for log output. -/
def filter (s : LoggingSettings) (environment : Option String) : Filter :=
  s.filterBy Filter.ofText? fallback environment

/-- The configured directives are a filter. -/
def levelIsValid (s : LoggingSettings) : Bool := s.levelIsValidBy Filter.ofText?

@[simp] theorem directives_none (s : LoggingSettings) :
    s.directives none = s.normalizedLevel := rfl

/-- Without an environment the fallback stands in exactly for invalid directives. -/
theorem filter_none (s : LoggingSettings) :
    s.filter none = if s.levelIsValid then s.filter none else fallback := by
  unfold levelIsValid levelIsValidBy filter filterBy
  rw [directives_none]
  cases Filter.ofText? s.normalizedLevel <;> rfl

end LoggingSettings

end Generics
