import Generics.Hierarchy.Search
import Generics.Registry.Basic

/-!
# Direct supertypes and nominal subclassing

## Main definitions

* `Registry.supertypes`: what a class declares, with `Object` added above interfaces.
* `Registry.declaredTypeParams`: the formals of a class with their bounds.
* `Registry.isSubclass`: reachability through declared supertypes, on any registry.
* `Registry.isArraySupertype`: the three classes above every array.

## Main results

* `isSubclass_self`: a class is its own subclass, known or not.
* `isSubclass_object`: everything else below `Object` is exactly what is defined.
-/

namespace Generics

/-- The interfaces that arrays implement. -/
def arrayInterfaces : List String := ["java.lang.Cloneable", "java.io.Serializable"]

namespace Registry

/-- The direct supertypes of a class over its own type parameters. Every interface but `Object`
itself has `Object` among them. -/
def supertypes (reg : Registry) (c : ClassId) : List TypeExpr :=
  match reg.class? c with
  | none => []
  | some d =>
    let declared := d.declaredSupertypes
    if d.isInterface && c != reg.object && !declared.contains reg.objectType then
      declared ++ [reg.objectType]
    else declared

/-- The type parameters of a class with their declared bounds; unknown variables are left out. -/
def declaredTypeParams (reg : Registry) (c : ClassId) : List (String × List TypeExpr) :=
  ((reg.formals c).filterMap reg.typeParam?).map fun p => (p.name, p.bounds)

/-- The classes directly above a class. -/
def superclasses (reg : Registry) (c : ClassId) : List ClassId :=
  (reg.supertypes c).filterMap TypeExpr.classId?

/-- Rounds enough to walk the whole hierarchy: every round but the last meets a class that is
defined and has not been met before. -/
def rounds (reg : Registry) : Nat := reg.classes.size + 1

/-- A class and everything above it. -/
def ancestors (reg : Registry) (c : ClassId) : List ClassId :=
  Search.walk reg.superclasses id reg.rounds [] [c]

/-- `sub` is `sup` or lies below it. Every defined class lies below `Object`. -/
def isSubclass (reg : Registry) (sub sup : ClassId) : Bool :=
  if sub = sup then true
  else if sup = reg.object then reg.isDefined sub
  else (reg.ancestors sub).contains sup

/-- An array may be used as this class. -/
def isArraySupertype (reg : Registry) (c : ClassId) : Bool :=
  c == reg.object || arrayInterfaces.any fun name => reg.lookup? name == some c

@[simp] theorem supertypes_of_not_defined {reg : Registry} {c : ClassId}
    (h : reg.class? c = none) : reg.supertypes c = [] := by
  simp [supertypes, h]

/-- A class is its own subclass, known or not. -/
@[simp] theorem isSubclass_self (reg : Registry) (c : ClassId) : reg.isSubclass c c = true := by
  simp [isSubclass]

/-- Below `Object` lie `Object` and what is defined. -/
theorem isSubclass_object (reg : Registry) (c : ClassId) :
    reg.isSubclass c reg.object = (c == reg.object || reg.isDefined c) := by
  by_cases h : c = reg.object <;> simp [isSubclass, h]

end Registry

end Generics
