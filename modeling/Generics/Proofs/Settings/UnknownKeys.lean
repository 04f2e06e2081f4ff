import Generics.Proofs.Attempts
import Generics.Settings.Diagnostics

/-!
# The keys that settings do not know

Which keys of a document are reported as unknown. A key of a document stands in a table, and the way to it
leads through keys and through items of arrays. Settings know two keys of the root, and some keys in the
tables below those two; whatever else a document has should be reported.

This is so for groups of settings that are tables. Two other kinds of values are accepted as a group, and
there the reports and the document part. The items of an array are taken in the order of the settings, and
what is behind the last one is not looked at, with all keys that it may hold. A date counts as a table with
one key of its own, which nobody has written.

## Main definitions

* `Toml.Value.places` and `Toml.tablePlaces` — where the keys of a document stand
* `Settings.knownPlaces` — where the keys that settings know stand
* `Settings.PlainGroups` — no group is a date, or an array that holds keys

## Main results

* `Settings.unknownKeys_ascending` — reports come in ascending order, each once
* `Settings.unknownKeys_eq_nil_iff` — when nothing is reported, on every document that gives settings
* `Settings.unknownKeys_eq_nil_iff_of_plainGroups` — then no key stands elsewhere
-/

namespace Generics

namespace Toml

/-! ### Where the keys of a document stand -/

/-- One step of the way to a key. -/
inductive Step where
  /-- To the value of a key. -/
  | key (name : String)
  /-- To an item of an array, counted from zero. -/
  | item (index : Nat)
deriving DecidableEq, Repr

/-- Where a key stands: the way to it, itself included. -/
abbrev Place : Type := List Step

mutual

/-- The places of the keys inside a value. -/
def Value.places : Value → List Place
  | .array items => itemPlaces 0 items
  | .table entries => tablePlaces entries
  | _ => []

/-- The places of the keys of a table, and of those inside their values. -/
def tablePlaces : List (String × Value) → List Place
  | [] => []
  | (k, v) :: entries => ([.key k] :: v.places.map (.key k :: ·)) ++ tablePlaces entries

/-- The places of the keys inside the items of an array, given the number of the first item. -/
def itemPlaces (index : Nat) : List Value → List Place
  | [] => []
  | v :: items => v.places.map (.item index :: ·) ++ itemPlaces (index + 1) items

end

theorem mem_tablePlaces {t : Table} {p : Place} :
    p ∈ tablePlaces t ↔ ∃ e ∈ t, p = [.key e.1] ∨ ∃ q ∈ e.2.places, p = .key e.1 :: q := by
  induction t with
  | nil => simp [tablePlaces]
  | cons e t ih =>
    obtain ⟨k, v⟩ := e
    simp only [tablePlaces, List.cons_append, List.mem_cons, List.mem_append, List.mem_map, ih,
      exists_eq_or_imp, eq_comm, or_assoc]

/-- Inside an array every way begins with an item. -/
theorem exists_item_of_mem_itemPlaces {index : Nat} {items : List Value} {p : Place}
    (h : p ∈ itemPlaces index items) : ∃ i q, p = .item i :: q := by
  induction items generalizing index with
  | nil => simp [itemPlaces] at h
  | cons v items ih =>
    rw [itemPlaces, List.mem_append, List.mem_map] at h
    rcases h with ⟨q, -, rfl⟩ | h
    · exact ⟨index, q, rfl⟩
    · exact ih h

/-- A date, a time or both. -/
def Value.isMoment : Value → Bool
  | .moment _ => true
  | _ => false

/-- An array. -/
def Value.isArray : Value → Bool
  | .array _ => true
  | _ => false

end Toml

open Toml

namespace Settings

/-! ### Order -/

/-- Reports come in ascending order, each once. -/
theorem unknownKeys_ascending (t : Table) : (unknownKeys t).Pairwise (· < ·) := by
  have hsorted : (unknownKeys t).Pairwise fun a b => decide (a ≤ b) = true := by
    refine Ordered.pairwise_sort (fun a b h => ?_) (fun a b c hab hbc => ?_) _
    · rw [decide_eq_false_iff_not] at h
      exact decide_eq_true ((String.le_total a b).resolve_left h)
    · rw [decide_eq_true_eq] at hab hbc ⊢
      exact String.le_trans hab hbc
  have hnodup : (unknownKeys t).Nodup :=
    (Ordered.sort_perm _ _).nodup_iff.2 (Distinct.nodup_ofList _)
  exact (hsorted.and hnodup).imp fun h => Std.lt_of_le_of_ne (of_decide_eq_true h.1) h.2

/-! ### Known keys -/

/-- The groups of settings with the keys that they know. -/
def groups : List (String × List String) :=
  [("generics", GenericsSettings.keys), ("logging", LoggingSettings.keys)]

theorem groups_unique : ∀ g ∈ groups, ∀ g' ∈ groups, g.1 = g'.1 → g = g' := by decide

theorem momentKey_not_mem : ∀ g ∈ groups, momentKey ∉ g.2 := by decide

/-- The places of the keys that settings know: the settings, and the groups that hold them. -/
def knownPlaces : List Place :=
  [[.key "generics"], [.key "generics", .key "max_generic_depth"],
   [.key "logging"], [.key "logging", .key "level"], [.key "logging", .key "json"]]

theorem mem_knownPlaces_iff {p : Place} :
    p ∈ knownPlaces ↔ ∃ g ∈ groups, p = [.key g.1] ∨ ∃ k ∈ g.2, p = [.key g.1, .key k] := by
  have heq : knownPlaces =
      groups.flatMap fun g => [.key g.1] :: g.2.map fun k => [.key g.1, .key k] := rfl
  simp only [heq, List.mem_flatMap, List.mem_cons, List.mem_map, eq_comm]

/-- An entry of the root is passed over in silence exactly if it is a group without strange keys. -/
theorem strangePaths_eq_nil_iff {e : String × Value} :
    strangePaths e = [] ↔ ∃ g ∈ groups, g.1 = e.1 ∧ strangeKeys g.2 e.2 = [] := by
  obtain ⟨k, v⟩ := e
  rw [strangePaths, groups]
  by_cases hg : k = "generics"
  · subst hg
    simp
  · by_cases hl : k = "logging"
    · subst hl
      simp
    · simp [hg, hl, Ne.symm hg, Ne.symm hl]

theorem unknownKeys_eq_nil_iff_strangePaths {t : Table} :
    unknownKeys t = [] ↔ ∀ e ∈ t, strangePaths e = [] := by
  have hmem : ∀ k, k ∈ unknownKeys t ↔ ∃ p ∈ t.flatMap strangePaths, withoutLeadingDots p = k := by
    intro k
    rw [unknownKeys, Ordered.mem_sort, Distinct.mem_ofList, List.mem_map]
  rw [← List.flatMap_eq_nil_iff, List.eq_nil_iff_forall_not_mem, List.eq_nil_iff_forall_not_mem]
  exact ⟨fun h p hp => h _ ((hmem _).2 ⟨p, hp, rfl⟩),
    fun h k hk => let ⟨p, hp, _⟩ := (hmem k).1 hk; h p hp⟩

/-! ### Groups that can be read -/

/-- A value that can be read as a group of settings with the given keys: it has entries, and what they
hold for those keys holds no keys itself. -/
def Readable (keys : List String) (v : Value) : Prop :=
  ∃ entries, v.fields? keys = some entries ∧ ∀ e ∈ entries, e.1 ∈ keys → e.2.places = []

/-- If a loop over the entries accepts for the given keys only what holds no keys, what it succeeds on is
readable. -/
theorem readable_of_foldlM {γ : Type} {set : γ → String × Value → Except WrongShape γ}
    {keys : List String} {v : Value} {entries : Table} {s s' : γ}
    (hset : ∀ c c' e, e.1 ∈ keys → set c e = .ok c' → e.2.places = [])
    (hv : v.fields? keys = some entries) (h : entries.foldlM set s = .ok s') : Readable keys v := by
  refine ⟨entries, hv, fun e he hk => ?_⟩
  obtain ⟨c, c', hc⟩ := exists_ok_of_foldlM_eq_ok h he
  exact hset c c' e hk hc

theorem places_eq_nil_of_readDepth {v : Value} {n : Nat} (h : readDepth v = .ok n) :
    v.places = [] := by
  cases v with
  | integer i => rfl
  | _ => cases h

theorem places_eq_nil_of_readText {v : Value} {s : String} (h : readText v = .ok s) :
    v.places = [] := by
  cases v with
  | string s => rfl
  | _ => cases h

theorem places_eq_nil_of_readFlag {v : Value} {b : Bool} (h : readFlag v = .ok b) :
    v.places = [] := by
  cases v with
  | boolean b => rfl
  | _ => cases h

theorem readable_generics {v : Value} {s : GenericsSettings}
    (h : GenericsSettings.ofValue v = .ok s) : Readable GenericsSettings.keys v := by
  rw [GenericsSettings.ofValue] at h
  split at h
  · rename_i entries hv
    refine readable_of_foldlM (fun c c' e hk hset => ?_) hv h
    rw [GenericsSettings.set, if_pos (List.mem_singleton.1 hk), except_map_eq_ok_iff] at hset
    obtain ⟨n, hn, -⟩ := hset
    exact places_eq_nil_of_readDepth hn
  · cases h

theorem readable_logging {v : Value} {s : LoggingSettings}
    (h : LoggingSettings.ofValue v = .ok s) : Readable LoggingSettings.keys v := by
  rw [LoggingSettings.ofValue] at h
  split at h
  · rename_i entries hv
    refine readable_of_foldlM (fun c c' e hk hset => ?_) hv h
    rw [LoggingSettings.set] at hset
    split at hset
    · obtain ⟨s, hs, -⟩ := except_map_eq_ok_iff.1 hset
      exact places_eq_nil_of_readText hs
    · rename_i hlevel
      have hjson : e.1 = "json" := by simpa [LoggingSettings.keys, hlevel] using hk
      rw [if_pos hjson] at hset
      obtain ⟨b, hb, -⟩ := except_map_eq_ok_iff.1 hset
      exact places_eq_nil_of_readFlag hb
  · cases h

/-- Where a document gives settings, every group in it is readable. -/
theorem readable_of_ofTable {t : Table} {s : Settings} (h : ofTable t = .ok s)
    {e : String × Value} (he : e ∈ t) {g : String × List String} (hg : g ∈ groups)
    (hname : g.1 = e.1) : Readable g.2 e.2 := by
  obtain ⟨c, c', hc⟩ := exists_ok_of_foldlM_eq_ok h he
  rw [set, ← hname] at hc
  simp only [groups, List.mem_cons, List.not_mem_nil, or_false] at hg
  rcases hg with rfl | rfl
  · obtain ⟨x, hx, -⟩ := except_map_eq_ok_iff.1 hc
    exact readable_generics hx
  · obtain ⟨x, hx, -⟩ := except_map_eq_ok_iff.1 hc
    exact readable_logging hx

theorem strangeKeys_table_eq_nil_iff {keys : List String} {entries : Table} :
    strangeKeys keys (.table entries) = [] ↔ ∀ e ∈ entries, e.1 ∈ keys := by
  simp only [strangeKeys, Value.fields?, Option.getD_some, List.filter_eq_nil_iff, List.mem_map,
    Bool.not_eq_true', List.contains_eq_mem, decide_eq_false_iff_not, Classical.not_not,
    forall_exists_index, and_imp, forall_apply_eq_imp_iff₂]

/-- The items of an array are taken for the keys of the group, so no key is strange. -/
theorem strangeKeys_array (keys : List String) (items : List Value) :
    strangeKeys keys (.array items) = [] := by
  simp only [strangeKeys, Value.fields?, Option.getD_some, List.filter_eq_nil_iff, List.mem_map]
  rintro k ⟨⟨k', v⟩, hmem, rfl⟩
  simpa using (List.of_mem_zip hmem).1

/-- A readable group has no strange key exactly if it is no date and the keys in it are keys of the
group, or stand inside the items of an array. -/
theorem strangeKeys_eq_nil_iff {keys : List String} {v : Value} (h : Readable keys v)
    (hkeys : momentKey ∉ keys) :
    strangeKeys keys v = [] ↔
      (∀ p ∈ v.places, (∃ k ∈ keys, p = [.key k]) ∨ ∃ i q, p = .item i :: q) ∧
        v.isMoment = false := by
  obtain ⟨entries, hv, hsingle⟩ := h
  cases v with
  | table es =>
    obtain rfl : es = entries := Option.some.inj hv
    rw [strangeKeys_table_eq_nil_iff]
    constructor
    · refine fun hknown => ⟨fun p hp => ?_, rfl⟩
      obtain ⟨e, he, rfl | ⟨q, hq, -⟩⟩ := mem_tablePlaces.1 hp
      · exact Or.inl ⟨e.1, hknown e he, rfl⟩
      · rw [hsingle e he (hknown e he)] at hq
        cases hq
    · rintro ⟨hplaces, -⟩ e he
      rcases hplaces [.key e.1] (mem_tablePlaces.2 ⟨e, he, Or.inl rfl⟩) with
        ⟨k, hk, heq⟩ | ⟨i, q, heq⟩
      · cases heq
        exact hk
      · cases heq
  | array items =>
    exact iff_of_true (strangeKeys_array keys items)
      ⟨fun p hp => Or.inr (exists_item_of_mem_itemPlaces hp), rfl⟩
  | moment text =>
    refine iff_of_false (fun hnil => ?_) fun h => by cases h.2
    simp [strangeKeys, Value.fields?, hkeys] at hnil
  | _ => cases hv

/-! ### Nothing to report -/

theorem ne_nil_of_mem_places {v : Value} {p : Place} (h : p ∈ v.places) : p ≠ [] := by
  cases v with
  | array items =>
    obtain ⟨i, q, rfl⟩ := exists_item_of_mem_itemPlaces h
    exact List.cons_ne_nil _ _
  | table es => obtain ⟨e, -, rfl | ⟨q, -, rfl⟩⟩ := mem_tablePlaces.1 h <;> exact List.cons_ne_nil _ _
  | _ => cases h

/-- Only the items of an array are numbered. -/
theorem isArray_of_item_mem_places {v : Value} {i : Nat} {q : Place} (h : .item i :: q ∈ v.places) :
    v.isArray = true := by
  cases v with
  | array items => rfl
  | table es => obtain ⟨e, -, heq | ⟨q', -, heq⟩⟩ := mem_tablePlaces.1 h <;> cases heq
  | _ => cases h

/-- The key stands inside an array that is given as a group of settings. -/
def InGroupArray (p : Place) : Prop := ∃ g ∈ groups, ∃ i q, p = .key g.1 :: .item i :: q

/-- A key inside a group is known exactly if it is a key of the group. -/
theorem inside_mem_knownPlaces_iff {g : String × List String} (hg : g ∈ groups) {q : Place}
    (hq : q ≠ []) : .key g.1 :: q ∈ knownPlaces ↔ ∃ k ∈ g.2, q = [.key k] := by
  rw [mem_knownPlaces_iff]
  constructor
  · rintro ⟨g', hg', heq | ⟨k, hk, heq⟩⟩
    · exact absurd (List.cons.inj heq).2 hq
    · obtain ⟨hname, rfl⟩ := List.cons.inj heq
      obtain rfl := groups_unique g hg g' hg' (Step.key.inj hname)
      exact ⟨k, hk, rfl⟩
  · rintro ⟨k, hk, rfl⟩
    exact ⟨g, hg, Or.inr ⟨k, hk, rfl⟩⟩

/-- A key of the root is known exactly if it names a group. -/
theorem root_mem_knownPlaces_iff {k : String} :
    [.key k] ∈ knownPlaces ↔ ∃ g ∈ groups, g.1 = k := by
  rw [mem_knownPlaces_iff]
  constructor
  · rintro ⟨g, hg, heq | ⟨k', -, heq⟩⟩
    · exact ⟨g, hg, (Step.key.inj (List.cons.inj heq).1).symm⟩
    · cases (List.cons.inj heq).2
  · rintro ⟨g, hg, rfl⟩
    exact ⟨g, hg, Or.inl rfl⟩

/-- **Nothing is reported** on a document that gives settings exactly if settings know all its keys,
those aside that stand inside arrays given as groups, and no group is a date. -/
theorem unknownKeys_eq_nil_iff {t : Table} {s : Settings} (h : ofTable t = .ok s) :
    unknownKeys t = [] ↔
      (∀ p ∈ tablePlaces t, p ∈ knownPlaces ∨ InGroupArray p) ∧
        ∀ e ∈ t, ∀ g ∈ groups, g.1 = e.1 → e.2.isMoment = false := by
  have hgroup : ∀ e ∈ t, ∀ g ∈ groups, g.1 = e.1 → (strangeKeys g.2 e.2 = [] ↔
      (∀ p ∈ e.2.places, (∃ k ∈ g.2, p = [.key k]) ∨ ∃ i q, p = .item i :: q) ∧
        e.2.isMoment = false) := fun e he g hg hname =>
    strangeKeys_eq_nil_iff (readable_of_ofTable h he hg hname) (momentKey_not_mem g hg)
  simp only [unknownKeys_eq_nil_iff_strangePaths, strangePaths_eq_nil_iff]
  constructor
  · refine fun hsilent => ⟨fun p hp => ?_, fun e he g hg hname => ?_⟩
    · obtain ⟨e, he, hp⟩ := mem_tablePlaces.1 hp
      obtain ⟨g, hg, hname, hnil⟩ := hsilent e he
      rcases hp with rfl | ⟨q, hq, rfl⟩
      · exact Or.inl (root_mem_knownPlaces_iff.2 ⟨g, hg, hname⟩)
      · rw [← hname]
        rcases ((hgroup e he g hg hname).1 hnil).1 q hq with hk | ⟨i, r, rfl⟩
        · exact Or.inl ((inside_mem_knownPlaces_iff hg (ne_nil_of_mem_places hq)).2 hk)
        · exact Or.inr ⟨g, hg, i, r, rfl⟩
    · obtain ⟨g', hg', hname', hnil⟩ := hsilent e he
      exact ((hgroup e he g' hg' hname').1 hnil).2
  · rintro ⟨hplaces, hmoment⟩ e he
    obtain ⟨g, hg, hname⟩ : ∃ g ∈ groups, g.1 = e.1 := by
      rcases hplaces [.key e.1] (mem_tablePlaces.2 ⟨e, he, Or.inl rfl⟩) with hk | ⟨g, -, i, q, heq⟩
      · exact root_mem_knownPlaces_iff.1 hk
      · cases (List.cons.inj heq).2
    refine ⟨g, hg, hname, (hgroup e he g hg hname).2 ⟨fun q hq => ?_, hmoment e he g hg hname⟩⟩
    rcases hplaces (.key e.1 :: q) (mem_tablePlaces.2 ⟨e, he, Or.inr ⟨q, hq, rfl⟩⟩) with
      hk | ⟨g', -, i, r, heq⟩
    · rw [← hname] at hk
      exact Or.inl ((inside_mem_knownPlaces_iff hg (ne_nil_of_mem_places hq)).1 hk)
    · exact Or.inr ⟨i, r, (List.cons.inj heq).2⟩

/-- Every group of settings is looked at as it is written: none is a date, and none is an array that
holds keys. -/
def PlainGroups (t : Table) : Prop :=
  ∀ e ∈ t, ∀ g ∈ groups, g.1 = e.1 →
    e.2.isMoment = false ∧ (e.2.isArray = true → e.2.places = [])

instance (t : Table) : Decidable (PlainGroups t) :=
  inferInstanceAs (Decidable (∀ e ∈ t, ∀ g ∈ groups, g.1 = e.1 →
    e.2.isMoment = false ∧ (e.2.isArray = true → e.2.places = [])))

theorem PlainGroups.not_inGroupArray {t : Table} (h : PlainGroups t) {p : Place}
    (hp : p ∈ tablePlaces t) : ¬ InGroupArray p := by
  rintro ⟨g, hg, i, q, rfl⟩
  obtain ⟨e, he, heq | ⟨r, hr, heq⟩⟩ := mem_tablePlaces.1 hp
  · cases (List.cons.inj heq).2
  · obtain ⟨hname, rfl⟩ := List.cons.inj heq
    have hnil := (h e he g hg (Step.key.inj hname)).2 (isArray_of_item_mem_places hr)
    rw [hnil] at hr
    cases hr

/-- Where groups are looked at as they are written, nothing is reported exactly if settings know all keys
of the document. -/
theorem unknownKeys_eq_nil_iff_of_plainGroups {t : Table} {s : Settings} (h : ofTable t = .ok s)
    (hplain : PlainGroups t) :
    unknownKeys t = [] ↔ ∀ p ∈ tablePlaces t, p ∈ knownPlaces := by
  rw [unknownKeys_eq_nil_iff h]
  constructor
  · rintro ⟨hplaces, -⟩ p hp
    exact (hplaces p hp).resolve_right (hplain.not_inGroupArray hp)
  · exact fun hknown => ⟨fun p hp => Or.inl (hknown p hp),
      fun e he g hg hname => (hplain e he g hg hname).1⟩

end Settings

end Generics
