import Generics.Proofs.Settings.UnknownKeys

/-!
# Diagnostics describe what the settings do

Settings are read from a document with or without diagnostics, and acted upon later: the depth is lowered
to what is supported, and log output gets a filter. The diagnostics are made by neither of those, they only
look on. Yet what they warn of is what the settings do, because the warnings ask the same questions as the
functions that act.

How documents and filters are read is left open. It matters only that both ways of reading settings are
given the same document, and that a filter depends on nothing but its text.

## Main definitions

* `Settings.Describes` — what diagnostics say about settings and the document that they come from

## Main results

* `Settings.depthClamped_mem_warningsBy_iff`, `Settings.levelInvalid_mem_warningsBy_iff` — when there is a
  warning
* `Settings.diagnoseBy_describes`
-/

namespace Generics

open Toml

variable {φ : Type} {parse? : String → Option φ}

/-- Directives that are no filter give way to the fallback. -/
theorem LoggingSettings.filterBy_of_invalid {s : LoggingSettings} (fallback : φ)
    (h : parse? s.normalizedLevel = none) : s.filterBy parse? fallback none = fallback := by
  rw [filterBy, directives_none, h, Option.getD_none]

namespace Settings

/-! ### Warnings -/

theorem depthClamped_mem_warningsBy_iff {s : Settings} {configured clamped : Nat} :
    .depthClamped configured clamped ∈ s.warningsBy parse? ↔
      maxSupportedDepth < s.generics.maxGenericDepth ∧
        configured = s.generics.maxGenericDepth ∧ clamped = maxSupportedDepth := by
  have hlevel : .depthClamped configured clamped ∉
      if s.logging.levelIsValidBy parse? then [] else [Warning.levelInvalid s.logging.level] := by
    split <;> simp
  rw [warningsBy, List.mem_append, or_iff_left hlevel]
  split <;> rename_i hdeep <;> simp [hdeep]

theorem levelInvalid_mem_warningsBy_iff {s : Settings} {value : String} :
    .levelInvalid value ∈ s.warningsBy parse? ↔
      value = s.logging.level ∧ parse? s.logging.normalizedLevel = none := by
  have hdepth : .levelInvalid value ∉
      if maxSupportedDepth < s.generics.maxGenericDepth then
        [Warning.depthClamped s.generics.maxGenericDepth maxSupportedDepth] else [] := by
    split <;> simp
  rw [warningsBy, List.mem_append, or_iff_right hdepth, LoggingSettings.levelIsValidBy]
  cases parse? s.logging.normalizedLevel <;> simp

/-- The depth that is used differs from the configured one exactly if it is lowered to the supported
one. -/
theorem effectiveDepth_ne_iff {s : Settings} :
    s.effectiveDepth ≠ s.generics.maxGenericDepth ↔
      maxSupportedDepth < s.generics.maxGenericDepth := by
  rw [Ne, effectiveDepth_eq_iff, Nat.not_le]

theorem effectiveDepth_of_lt {s : Settings} (h : maxSupportedDepth < s.generics.maxGenericDepth) :
    s.effectiveDepth = maxSupportedDepth := Nat.min_eq_right (Nat.le_of_lt h)

/-! ### Documents -/

/-- The diagnostics `d` say about a document with the entries `t` what settings do not know in it, and
about the settings `s` from it where they do not act as they are written. -/
structure Describes (parse? : String → Option φ) (fallback : φ) (t : Table) (s : Settings)
    (d : Diagnostics) : Prop where
  /-- Unknown keys are in ascending order, each once. -/
  ascending : d.unknownKeys.Pairwise (· < ·)
  /-- Where groups are looked at as they are written, there are none exactly if settings know all keys of
  the document. -/
  none_unknown : PlainGroups t → (d.unknownKeys = [] ↔ ∀ p ∈ tablePlaces t, p ∈ knownPlaces)
  /-- A depth is reported exactly if another one is used, and with the two of them. -/
  depth_clamped : ∀ configured clamped, .depthClamped configured clamped ∈ d.warnings ↔
    s.effectiveDepth ≠ s.generics.maxGenericDepth ∧
      configured = s.generics.maxGenericDepth ∧ clamped = s.effectiveDepth
  /-- A level is reported exactly if it is no filter, so that log output gets the fallback. -/
  level_invalid : ∀ value, .levelInvalid value ∈ d.warnings ↔
    value = s.logging.level ∧ parse? s.logging.normalizedLevel = none ∧
      s.logging.filterBy parse? fallback none = fallback

theorem describes_of_ofTable {t : Table} {s : Settings} (parse? : String → Option φ) (fallback : φ)
    (h : ofTable t = .ok s) :
    Describes parse? fallback t s ⟨unknownKeys t, s.warningsBy parse?⟩ where
  ascending := unknownKeys_ascending t
  none_unknown := unknownKeys_eq_nil_iff_of_plainGroups h
  depth_clamped configured clamped := by
    rw [depthClamped_mem_warningsBy_iff, effectiveDepth_ne_iff]
    exact and_congr_right fun hdeep => by rw [effectiveDepth_of_lt hdeep]
  level_invalid value := by
    rw [levelInvalid_mem_warningsBy_iff]
    exact and_congr_right fun _ =>
      ⟨fun hnone => ⟨hnone, LoggingSettings.filterBy_of_invalid fallback hnone⟩, And.left⟩

/-- **Diagnostics describe what the settings do.** With and without them the same settings are read from
a text, or the same error is met; and the diagnostics describe these settings. -/
theorem diagnoseBy_describes (parse? : String → Option φ) (fallback : φ)
    (read : String → Except LoadError Table) (text : String) :
    (∃ e, ofDocument (read text) = .error e ∧ diagnoseBy parse? (read text) = .error e) ∨
      ∃ t s d, read text = .ok t ∧ ofDocument (read text) = .ok s ∧
        diagnoseBy parse? (read text) = .ok (s, d) ∧ Describes parse? fallback t s d := by
  cases hread : read text with
  | error e => exact Or.inl ⟨e, rfl, rfl⟩
  | ok t =>
    have hofTable : ofDocument (.ok t) = (ofTable t).mapError .wrongShape := rfl
    cases ht : ofTable t with
    | error e =>
      refine Or.inl ⟨.wrongShape e, ?_, ?_⟩
      · rw [hofTable, ht]
        rfl
      · rw [diagnoseBy, ht]
    | ok s =>
      refine Or.inr ⟨t, s, _, rfl, ?_, ?_, describes_of_ofTable parse? fallback ht⟩
      · rw [hofTable, ht]
        rfl
      · rw [diagnoseBy, ht]

/-! ### Three documents -/

/-- What is found by reading a text and looking at its table. -/
theorem exists_tableOf (text : String) (P : Table → Prop) [DecidablePred P]
    (h : (tableOf text).toOption.any (fun t => decide (P t)) = true) :
    ∃ t, tableOf text = .ok t ∧ P t := by
  obtain ⟨t, ht, hP⟩ := (Option.any_eq_true _ _).1 h
  exact ⟨t, toOption_eq_some_iff.1 ht, of_decide_eq_true hP⟩

/-- A document with a misspelt key, a depth beyond what is supported and a level that does not exist. -/
def carelessText : String :=
  "[generics]\nmax_generic_depth = 100\nmax_depth = 4\n[logging]\nlevel = \"evo.generic=loud\"\n"

/-- The key is reported, the depth is lowered, and log output gets the fallback. -/
theorem diagnoseBy_describes_careless :
    ∃ s d, ofText carelessText = .ok s ∧ diagnose carelessText = .ok (s, d) ∧
      d.unknownKeys ≠ [] ∧ .depthClamped 100 64 ∈ d.warnings ∧ s.effectiveDepth = 64 ∧
      .levelInvalid "evo.generic=loud" ∈ d.warnings ∧
      s.logging.filter none = LoggingSettings.fallback := by
  have hsettings : ofText carelessText =
      .ok { generics := ⟨100⟩, logging := { level := "evo.generic=loud" } } :=
    toOption_eq_some_iff.1 (by decide +kernel)
  obtain ⟨t, ht, hplain, hplace⟩ := exists_tableOf carelessText
    (fun t => PlainGroups t ∧ [.key "generics", .key "max_depth"] ∈ tablePlaces t)
    (by decide +kernel)
  obtain ⟨e, he, -⟩ | ⟨t', s, d, ht', hs, hd, h⟩ :=
    diagnoseBy_describes Filter.ofText? LoggingSettings.fallback tableOf carelessText
  · cases he.symm.trans hsettings
  · obtain rfl : t' = t := Except.ok.inj (ht'.symm.trans ht)
    obtain rfl := Except.ok.inj (hs.symm.trans hsettings)
    have hlevel := (h.level_invalid "evo.generic=loud").2 ⟨rfl, by decide +kernel, by decide +kernel⟩
    refine ⟨_, d, hs, hd, fun hnil => ?_, ?_, by decide, hlevel, ?_⟩
    · exact absurd ((h.none_unknown hplain).1 hnil _ hplace) (by decide)
    · exact (h.depth_clamped 100 64).2 ⟨by decide, rfl, by decide⟩
    · exact ((h.level_invalid _).1 hlevel).2.2

/-- A group given as an array, with an item too many that holds a key. -/
def surplusText : String := "generics = [5, \x7btypo = 1\x7d]"

/-- A group given as a date. -/
def datedText : String := "generics = 1979-05-27"

/-- In a group that is an array unknown keys are missed, and a date is reported to have one: nothing is
reported on the first document, though settings do not know all its keys, and on the second document
something is, though they do. -/
theorem unknownKeys_miss_items :
    (∃ t s d, tableOf surplusText = .ok t ∧ diagnose surplusText = .ok (s, d) ∧
      d.unknownKeys = [] ∧ ¬ ∀ p ∈ tablePlaces t, p ∈ knownPlaces) ∧
    ∃ t s d, tableOf datedText = .ok t ∧ diagnose datedText = .ok (s, d) ∧
      d.unknownKeys ≠ [] ∧ ∀ p ∈ tablePlaces t, p ∈ knownPlaces := by
  constructor
  · obtain ⟨t, ht, hplaces⟩ := exists_tableOf surplusText
      (fun t => ¬ ∀ p ∈ tablePlaces t, p ∈ knownPlaces) (by decide +kernel)
    have hd : diagnose surplusText = .ok ({ generics := ⟨5⟩ }, ⟨[], []⟩) :=
      toOption_eq_some_iff.1 (by decide +kernel)
    exact ⟨t, _, _, ht, hd, rfl, hplaces⟩
  · obtain ⟨t, ht, hplaces⟩ := exists_tableOf datedText
      (fun t => ∀ p ∈ tablePlaces t, p ∈ knownPlaces) (by decide +kernel)
    have hd : diagnose datedText = .ok ({}, ⟨["generics.$__toml_private_datetime"], []⟩) :=
      toOption_eq_some_iff.1 (by decide +kernel)
    exact ⟨t, _, _, ht, hd, by decide, hplaces⟩

end Settings

end Generics
