import Generics.Proofs.Hierarchy.Reachability
import Generics.Hierarchy.Supertypes

/-!
# Nominal subclassing is reachability

The rounds of the walk over the classes are enough on every registry: only defined classes lead
anywhere, and each round but the last meets one that is new.

## Main definitions

* `Registry.LiesBelow` — one class leads to another through declared supertypes
* `Registry.SupertypesNominal` — every declared supertype is a use of a class

## Main results

* `Registry.mem_ancestors_iff` — the ancestors are what can be reached
* `Registry.isSubclass_iff` — subclassing, with the shortcut to `Object`
-/

namespace Generics

namespace Registry

variable {reg : Registry}

/-- `sup` is `sub` or can be reached from it through declared supertypes. -/
def LiesBelow (reg : Registry) (sub sup : ClassId) : Prop := Search.Reaches reg.superclasses sub sup

/-- Every declared superclass and superinterface is a use of a class, with arguments or without. -/
def SupertypesNominal (reg : Registry) : Prop :=
  ∀ c d, reg.class? c = some d → ∀ t ∈ d.declaredSupertypes, t.classId?.isSome = true

/-- Only a defined class has supertypes. -/
theorem exists_class?_of_mem_supertypes {c : ClassId} {t : TypeExpr} (h : t ∈ reg.supertypes c) :
    ∃ d, reg.class? c = some d := by
  cases hc : reg.class? c with
  | none => simp [hc] at h
  | some d => exact ⟨d, rfl⟩

/-- A supertype is declared, or it is the `Object` above an interface. -/
theorem exists_declared_of_mem_supertypes {c : ClassId} {t : TypeExpr}
    (h : t ∈ reg.supertypes c) :
    ∃ d, reg.class? c = some d ∧ (t ∈ d.declaredSupertypes ∨ t = reg.objectType) := by
  obtain ⟨d, hd⟩ := exists_class?_of_mem_supertypes h
  refine ⟨d, hd, ?_⟩
  simp only [supertypes, hd] at h
  split at h
  · rw [List.mem_append, List.mem_singleton] at h
    exact h
  · exact Or.inl h

/-- Every supertype is a use of a class if every declared one is. -/
theorem SupertypesNominal.classId? (hN : reg.SupertypesNominal) {c : ClassId} {t : TypeExpr}
    (h : t ∈ reg.supertypes c) : ∃ d, t.classId? = some d := by
  obtain ⟨d, hd, hdecl | rfl⟩ := exists_declared_of_mem_supertypes h
  · exact Option.isSome_iff_exists.1 (hN c d hd t hdecl)
  · exact ⟨reg.object, rfl⟩

/-- The classes of the table, by number. -/
def tableIds (reg : Registry) : List ClassId := (List.range reg.classes.size).map ClassId.mk

theorem mem_tableIds_of_superclasses_ne_nil {c : ClassId} (h : reg.superclasses c ≠ []) :
    c ∈ reg.tableIds := by
  obtain ⟨e, he⟩ := List.exists_mem_of_ne_nil _ h
  obtain ⟨t, ht, -⟩ := List.mem_filterMap.1 he
  obtain ⟨d, hd⟩ := exists_class?_of_mem_supertypes ht
  exact List.mem_map.2 ⟨c.idx, List.mem_range.2 (lt_size_of_class? hd), rfl⟩

theorem length_tableIds_lt_rounds (reg : Registry) : reg.tableIds.length < reg.rounds := by
  rw [tableIds, List.length_map, List.length_range]
  exact Nat.lt_succ_self _

/-- The ancestors of a class are the classes that can be reached from it. -/
theorem mem_ancestors_iff {sub sup : ClassId} :
    sup ∈ reg.ancestors sub ↔ reg.LiesBelow sub sup :=
  Search.mem_walk_iff_reaches (fun _ => mem_tableIds_of_superclasses_ne_nil)
    reg.length_tableIds_lt_rounds

/-- A class that leads to another one is defined. -/
theorem LiesBelow.isDefined {sub sup : ClassId} (h : reg.LiesBelow sub sup) (hne : sub ≠ sup) :
    reg.isDefined sub = true := by
  rcases Relation.ReflTransGen.cases_head h with rfl | ⟨c, hc, -⟩
  · exact absurd rfl hne
  · obtain ⟨t, ht, -⟩ := List.mem_filterMap.1 hc
    exact isDefined_iff.2 (exists_class?_of_mem_supertypes ht)

/-- **Subclassing is exact.** A class lies below what it leads to, and every defined class lies
below `Object`. -/
theorem isSubclass_iff {sub sup : ClassId} :
    reg.isSubclass sub sup = true ↔
      reg.LiesBelow sub sup ∨ (sup = reg.object ∧ reg.isDefined sub = true) := by
  rw [isSubclass]
  by_cases heq : sub = sup
  · rw [if_pos heq]
    exact ⟨fun _ => Or.inl (heq ▸ .refl), fun _ => rfl⟩
  rw [if_neg heq]
  by_cases hobj : sup = reg.object
  · rw [if_pos hobj]
    refine ⟨fun h => Or.inr ⟨hobj, h⟩, ?_⟩
    rintro (h | ⟨-, h⟩)
    · exact h.isDefined heq
    · exact h
  · rw [if_neg hobj, List.contains_iff_mem, mem_ancestors_iff]
    exact ⟨Or.inl, fun h => h.resolve_right fun h => hobj h.1⟩

end Registry

end Generics
