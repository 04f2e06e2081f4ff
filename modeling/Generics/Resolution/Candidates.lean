import Generics.Resolution.Basic

/-!
# Candidates for a variable or a wildcard

A variable or wildcard that is bound to nothing is resolved by its bounds: by the most specific bound
if that fits all of them, else by a class of the registry.

## Main definitions

* `Registry.mostSpecific`: the bound below all others.
* `Registry.standIns`: the classes that may be tried, best first.
* `Registry.preferable`: the order among them.

## Main results

* `mem_standIns`: exactly the defined classes without type parameters are tried.
-/

namespace Generics

namespace Registry

/-- The first bound whose erasure lies below the erasures of all bounds. -/
def mostSpecific (reg : Registry) (bounds : List TypeExpr) : Option TypeExpr :=
  bounds.find? fun b => (reg.erasure b).any fun e =>
    bounds.all fun o => (reg.erasure o).any fun f => reg.isRawAssignable f e

/-- How far a class is from being constructible: interfaces last, abstract classes before them. -/
def remoteness (reg : Registry) (c : ClassId) : Nat :=
  match reg.class? c with
  | none => 0
  | some d => (if d.isInterface then 2 else 0) + (if d.isAbstract then 1 else 0)

/-- `c` is tried no later than `d` if their names do not decide. -/
def preferable (reg : Registry) (c d : ClassId) : Bool := reg.remoteness c ≤ reg.remoteness d

/-- The class is defined and has no type parameters. -/
def isPlain (reg : Registry) (c : ClassId) : Bool :=
  (reg.class? c).any fun d => !d.isGeneric

/-- The classes that may stand for a variable, best first: classes before interfaces, concrete before
abstract, then by name. -/
def standIns (reg : Registry) : List ClassId :=
  Ordered.sort reg.preferable (reg.classIds.filter reg.isPlain)

/-- The class passes for all bounds as far as these have an erasure. -/
def passesErased (reg : Registry) (bounds : List TypeExpr) (c : ClassId) : Bool :=
  (bounds.filterMap reg.erasure).all fun b => reg.isRawAssignable b (.plain c)

theorem isDefined_of_isPlain {reg : Registry} {c : ClassId} (h : reg.isPlain c = true) :
    reg.isDefined c = true := by
  unfold isPlain at h
  unfold isDefined
  cases hc : reg.class? c <;> simp_all

/-- Exactly the defined classes without type parameters are tried. -/
theorem mem_standIns {reg : Registry} {c : ClassId} :
    c ∈ reg.standIns ↔ reg.isPlain c = true := by
  rw [standIns, Ordered.mem_sort, List.mem_filter, mem_classIds]
  exact ⟨And.right, fun h => ⟨isDefined_of_isPlain h, h⟩⟩

end Registry

end Generics
