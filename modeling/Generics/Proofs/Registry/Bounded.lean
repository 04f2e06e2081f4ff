import Generics.Registry.Edit

/-!
# Type parameters always have a bound

A type parameter that is declared without bounds is bounded by `Object`, so no registry that is
built by the operations has one without.

## Main definitions

* `Registry.Bounded`
* `Registry.Built` — the registries that the operations can make

## Main results

* `Registry.bounded_initial` and `Bounded.intern`, `define`, `addClass`, `addTypeParam`, `setBounds`
* `Registry.Built.bounded`
-/

namespace Generics

namespace Registry

variable {reg : Registry}

/-- Every type parameter has at least one upper bound. -/
def Bounded (reg : Registry) : Prop := ∀ v p, reg.typeParam? v = some p → p.bounds ≠ []

theorem bounded_initial : initial.Bounded := by
  intro v p h
  cases h

theorem Bounded.intern (h : reg.Bounded) (name : String) : (reg.intern name).2.Bounded := by
  intro v p hp
  rw [typeParam?_intern] at hp
  exact h v p hp

theorem Bounded.define (h : reg.Bounded) (c : ClassId) (d : ClassDef) :
    (reg.define c d).Bounded := h

theorem Bounded.addClass (h : reg.Bounded) (d : ClassDef) : (reg.addClass d).2.Bounded :=
  (h.intern d.name).define _ d

theorem Bounded.addTypeParam (h : reg.Bounded) (name : String) (owner : VarOwner)
    (bounds : List TypeExpr) : (reg.addTypeParam name owner bounds).2.Bounded := by
  intro v p hp
  rw [typeParam?_addTypeParam] at hp
  split at hp
  · obtain rfl := Option.some.inj hp
    exact reg.orObject_ne_nil bounds
  · exact h v p hp

theorem Bounded.setBounds (h : reg.Bounded) (v : VarId) (bounds : List TypeExpr) :
    (reg.setBounds v bounds).Bounded := by
  intro w p hp
  rw [typeParam?_setBounds] at hp
  split at hp
  · obtain ⟨q, -, rfl⟩ := Option.map_eq_some_iff.1 hp
    exact reg.orObject_ne_nil bounds
  · exact h w p hp

/-- A registry that is made from the initial one by the operations. -/
inductive Built : Registry → Prop where
  /-- The registry that knows `Object` only. -/
  | initial : Built initial
  /-- A name gets a number. -/
  | intern {reg : Registry} (name : String) (h : Built reg) : Built (reg.intern name).2
  /-- A class gets a definition. -/
  | define {reg : Registry} (c : ClassId) (d : ClassDef) (h : Built reg) : Built (reg.define c d)
  /-- A type parameter is added. -/
  | addTypeParam {reg : Registry} (name : String) (owner : VarOwner) (bounds : List TypeExpr)
    (h : Built reg) : Built (reg.addTypeParam name owner bounds).2
  /-- The bounds of a type parameter are replaced. -/
  | setBounds {reg : Registry} (v : VarId) (bounds : List TypeExpr) (h : Built reg) :
    Built (reg.setBounds v bounds)

/-- Whatever the operations make, no type parameter goes without a bound. -/
theorem Built.bounded (h : reg.Built) : reg.Bounded := by
  induction h with
  | initial => exact bounded_initial
  | intern name _ ih => exact ih.intern name
  | define c d _ ih => exact ih.define c d
  | addTypeParam name owner bounds _ ih => exact ih.addTypeParam name owner bounds
  | setBounds v bounds _ ih => exact ih.setBounds v bounds

end Registry

end Generics
