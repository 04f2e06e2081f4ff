import Generics.Proofs.Rebinding.RoundTrip
import Generics.Session.Basic

/-!
# Replacing the registry splits the pool

When the registry of a session is replaced, every recorded type is either carried over or reported.
The types that are carried over are recorded again, and types that became equal would be recorded
once only. Where classes are known by their names this does not happen: recorded types are concrete,
so different ones are carried over to different ones.

## Main definitions

* `Session.Partitions` — what is carried over and what is reported make up the pool

## Main results

* `Session.isRecordable_of_rebind` — what is carried over may be recorded, on every registry
* `Session.reset_partitions`
-/

namespace Generics

namespace Session

variable {s : Session} {registry : Registry} {t u : TypeExpr}

theorem isRecordable_iff :
    s.isRecordable t = true ↔
      (∃ c, t.classId? = some c ∧ s.registry.isDefined c = true) ∧ t.isConcrete = true := by
  rw [isRecordable, Bool.and_eq_true, Option.any_eq_true]

/-- A recorded type that is carried over may be recorded where it goes. -/
theorem isRecordable_of_rebind (ht : s.isRecordable t = true)
    (h : s.registry.rebind registry t = .ok u) :
    (s.reset registry).2.isRecordable u = true := by
  obtain ⟨⟨c, hc, -⟩, hconcrete⟩ := isRecordable_iff.1 ht
  obtain ⟨c', hc', huc⟩ := Registry.classId?_of_rebind h hc
  refine isRecordable_iff.2 ⟨⟨c', huc, Registry.isDefined_of_rebindClass hc'⟩, ?_⟩
  rw [Registry.isConcrete_of_rebind h, hconcrete]

theorem mem_carried_iff :
    u ∈ s.carried registry ↔ ∃ t ∈ s.pool.entries, s.registry.rebind registry t = .ok u := by
  rw [carried, List.mem_filterMap]
  exact exists_congr fun t => and_congr_right fun _ => toOption_eq_some_iff

/-- Replacing the registry of `s` by `registry` splits the pool into the types that are carried over
and the types that are reported. -/
structure Partitions (s : Session) (registry : Registry) : Prop where
  /-- The new pool is what has become of the types that can be carried over, in the old order. -/
  kept : (s.reset registry).2.pool.entries =
    s.pool.entries.filterMap fun t => (s.registry.rebind registry t).toOption
  /-- No two types have become the same. -/
  apart : ∀ t ∈ s.pool.entries, ∀ u ∈ s.pool.entries, ∀ r, s.registry.rebind registry t = .ok r →
    s.registry.rebind registry u = .ok r → t = u
  /-- The other types are reported in the old order, as they were written before. -/
  dropped : (s.reset registry).1.dropped =
    (s.pool.entries.filter fun t => (s.registry.rebind registry t).toOption.isNone).map
      s.registry.typeName
  /-- As many types are retained as the new pool holds. -/
  retained : (s.reset registry).1.retained = (s.reset registry).2.pool.size
  /-- No type is lost. -/
  counted : (s.reset registry).1.retained + (s.reset registry).1.dropped.length = s.pool.size

/-- If no two recorded types become the same, the types that are carried over are the new pool. -/
theorem entries_reset_of_apart (h : ∀ t ∈ s.pool.entries, ∀ u ∈ s.pool.entries, ∀ r,
    s.registry.rebind registry t = .ok r → s.registry.rebind registry u = .ok r → t = u) :
    (s.reset registry).2.pool.entries = s.carried registry := by
  refine Distinct.ofList_eq_self ?_
  rw [carried, List.Nodup, List.pairwise_filterMap]
  refine List.Pairwise.imp_of_mem ?_ s.pool.nodup
  rintro t u ht hu htu r hr r' hr' rfl
  exact htu (h t ht u hu r (toOption_eq_some_iff.1 hr) (toOption_eq_some_iff.1 hr'))

/-- **Replacing the registry neither loses nor merges recorded types,** if in both registries
classes are known by their names. -/
theorem reset_partitions (hold : s.registry.NamesFaithful) (hnew : registry.NamesFaithful)
    (hpool : ∀ t ∈ s.pool.entries, s.isRecordable t = true) : s.Partitions registry := by
  have hconcrete : ∀ t ∈ s.pool.entries, t.isConcrete = true :=
    fun t ht => (isRecordable_iff.1 (hpool t ht)).2
  have hapart : ∀ t ∈ s.pool.entries, ∀ u ∈ s.pool.entries, ∀ r,
      s.registry.rebind registry t = .ok r → s.registry.rebind registry u = .ok r → t = u := by
    intro t ht u hu r
    exact Registry.rebind_injective_of_isConcrete hold hnew (hconcrete t ht) (hconcrete u hu)
  have hkept : (s.reset registry).2.pool.entries = s.carried registry :=
    entries_reset_of_apart hapart
  refine ⟨hkept, hapart, rfl, rfl, ?_⟩
  have hretained : (s.reset registry).1.retained = (s.carried registry).length :=
    congrArg List.length hkept
  have hdropped : (s.reset registry).1.dropped.length = (s.lost registry).length :=
    List.length_map _
  rw [hretained, hdropped, length_carried_add_length_lost]

/-- A session in the workshop that has met a box of boxes, a string and a box. -/
def workshopSession : Session where
  registry := Registry.workshop
  pool := .ofList [.app ⟨2⟩ [.raw ⟨2⟩] none, .raw ⟨1⟩, .raw ⟨2⟩]

/-- The boxes move to the other workshop; there are no strings. -/
theorem reset_partitions_workshop :
    (workshopSession.reset Registry.otherWorkshop).2.pool.entries =
        [.app ⟨1⟩ [.raw ⟨1⟩] none, .raw ⟨1⟩] ∧
      (workshopSession.reset Registry.otherWorkshop).1.dropped = ["String"] ∧
      (workshopSession.reset Registry.otherWorkshop).1.retained + 1 = 3 := by
  have h : workshopSession.Partitions Registry.otherWorkshop :=
    reset_partitions Registry.namesFaithful_workshop Registry.namesFaithful_otherWorkshop
      (by decide +kernel)
  have hkept : (workshopSession.reset Registry.otherWorkshop).2.pool.entries =
      [.app ⟨1⟩ [.raw ⟨1⟩] none, .raw ⟨1⟩] := h.kept.trans (by decide +kernel)
  have hdropped : (workshopSession.reset Registry.otherWorkshop).1.dropped = ["String"] :=
    h.dropped.trans (by decide +kernel)
  have hcounted := h.counted
  rw [hdropped] at hcounted
  exact ⟨hkept, hdropped, hcounted⟩

end Session

end Generics
