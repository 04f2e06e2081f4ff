import Generics.Resolution.Instantiate

/-!
# Checking a candidate

May a type be put in the place of a variable or of a wildcard? Types that are themselves variables or
wildcards have no defined check and are refused rather than approved.

## Main definitions

* `BoundSource`.
* `Resolver.satisfies`.
-/

namespace Generics

/-- The declaration whose bounds count. -/
inductive BoundSource where
  /-- The declared upper bounds of a type variable. -/
  | variable (v : VarId)
  /-- The bounds of a wildcard, as they are written. -/
  | wildcard (uppers lowers : List TypeExpr)
deriving DecidableEq, Repr

namespace Resolver

/-- A bound of a candidate is checked one level below the candidate. -/
def boundsHold (R : Resolver) (candidate : TypeExpr) (source : BoundSource) (σ : Substitution) :
    Option Bool :=
  match source with
  | .variable v =>
    match R.registry.typeParam? v with
    | some p => R.checkBounds (R.canBecomeAt (R.levels 1)) candidate (some v) p.bounds [] σ
    | none => some false
  | .wildcard us ls => R.checkBounds (R.canBecomeAt (R.levels 1)) candidate none us ls σ

/-- `candidate` may be substituted for the variable or wildcard, read with `σ` in effect. An unknown
variable accepts nothing. -/
def satisfies (R : Resolver) (candidate : TypeExpr) (source : BoundSource) (σ : Substitution) :
    ExceptT UnsupportedShape Option Bool :=
  match candidate with
  | .var _ | .wildcard .. => throw ⟨"satisfies_boundaries", candidate.shape⟩
  | _ => R.boundsHold candidate source σ

end Resolver

end Generics
