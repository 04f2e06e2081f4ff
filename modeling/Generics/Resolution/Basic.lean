import Generics.Assignability
import Generics.Inference.Arguments
import Generics.TypeExpr.Written

/-!
# Resolvers and their failures

A resolver turns type expressions with variables and wildcards into concrete ones. It reads one
registry, follows nested types down to a maximal depth, and spends at most a budget of steps on each
question about supertypes.

## Main definitions

* `Failure`: what could not be resolved, and why.
* `Attempt`: a result, a failure, or no answer within the budget.
* `Resolver`, with `isAssignable`, `context` and `levels`.
-/

namespace Generics

/-- Why no type could be found. -/
inductive FailureReason where
  /-- The only candidate violates a bound. -/
  | boundViolation
  /-- No type satisfies all bounds at once. -/
  | noCandidate
  /-- The class is not defined. -/
  | unknownClass
  /-- The type variable is not declared. -/
  | unknownTypeVariable
  /-- The wanted supertype is no supertype. -/
  | notASupertype
deriving DecidableEq, Repr

/-- The reason in words. -/
def FailureReason.describe : FailureReason → String
  | .boundViolation => "bound violation"
  | .noCandidate => "no candidate satisfies all bounds"
  | .unknownClass => "class not found in registry"
  | .unknownTypeVariable => "type variable not found in registry"
  | .notASupertype => "not a supertype"

/-- A type that could not be resolved, and the reason. -/
structure Failure where
  /-- What was to be resolved. -/
  type : TypeExpr
  /-- Why it was not. -/
  reason : FailureReason
deriving DecidableEq, Repr

/-- The failure in words, with the names of a registry. -/
def Failure.message (f : Failure) (reg : Registry) : String :=
  "cannot instantiate " ++ reg.typeName f.type ++ ": " ++ f.reason.describe

/-- A result or a failure, or neither if the budget of steps ran out. -/
abbrev Attempt : Type → Type := ExceptT Failure Option

/-- The depth to which types are resolved unless another one is asked for. -/
def defaultMaxDepth : Nat := 3

/-- The steps that are spent on one question unless another number is asked for. -/
def defaultBudget : Nat := 100000

/-- A registry with the limits of resolution. -/
structure Resolver where
  /-- The classes and type variables. -/
  registry : Registry
  /-- Nesting beyond this depth is left as it is. -/
  maxDepth : Nat := defaultMaxDepth
  /-- Steps that may be spent on one question about supertypes. -/
  budget : Nat := defaultBudget

namespace Resolver

/-- Assignability within the resolver's budget. -/
def isAssignable (R : Resolver) (source target : TypeExpr) : Option Bool :=
  R.registry.assignable? R.budget source target

/-- The bindings under which a source is resolved against a target. -/
def context (R : Resolver) (source target : TypeExpr) : Option Substitution :=
  R.registry.context R.budget source target

/-- How many levels of nesting may still be entered at a depth. None is left beyond the maximal
depth. -/
def levels (R : Resolver) (depth : Nat) : Nat := R.maxDepth + 1 - depth

@[simp] theorem levels_zero (R : Resolver) : R.levels 0 = R.maxDepth + 1 := rfl

theorem levels_eq_zero_iff (R : Resolver) (depth : Nat) :
    R.levels depth = 0 ↔ R.maxDepth < depth := by
  unfold levels; omega

theorem levels_of_le {R : Resolver} {depth : Nat} (h : depth ≤ R.maxDepth) :
    R.levels depth = R.levels (depth + 1) + 1 := by
  unfold levels; omega

/-- Further in there are no more levels left. -/
theorem levels_le_levels (R : Resolver) {outer inner : Nat} (h : outer ≤ inner) :
    R.levels inner ≤ R.levels outer := Nat.sub_le_sub_left h _

end Resolver

end Generics
