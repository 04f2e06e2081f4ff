/-!
# Identifiers of classes and type variables

A registry numbers its classes and its type variables from zero. Both numbers are natural, so they
get a type each: a class can then never be looked up as a variable.

## Main definitions

* `ClassId` and `VarId`, with `ClassId.describe` and `VarId.describe` for error texts.
-/

namespace Generics

/-- The number of a class in the registry that allocated it. -/
structure ClassId where
  /-- Position in the registry's table of classes. -/
  idx : Nat
deriving DecidableEq, Repr, Inhabited

/-- The number of a type variable in the registry that allocated it. -/
structure VarId where
  /-- Position in the registry's table of type parameters. -/
  idx : Nat
deriving DecidableEq, Repr, Inhabited

namespace ClassId

/-- The identifier as error texts spell it. -/
def describe (c : ClassId) : String := s!"ClassId({c.idx})"

@[simp] theorem mk_idx (c : ClassId) : ClassId.mk c.idx = c := rfl

theorem idx_injective {c d : ClassId} (h : c.idx = d.idx) : c = d := by
  cases c; cases d; simp_all

end ClassId

namespace VarId

/-- The identifier as error texts spell it. -/
def describe (v : VarId) : String := s!"TypeVarId({v.idx})"

@[simp] theorem mk_idx (v : VarId) : VarId.mk v.idx = v := rfl

theorem idx_injective {v w : VarId} (h : v.idx = w.idx) : v = w := by
  cases v; cases w; simp_all

end VarId

end Generics
