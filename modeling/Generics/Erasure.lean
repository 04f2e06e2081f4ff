import Generics.Hierarchy.Supertypes

/-!
# Erasure

The erasure of a type expression is the class, or the array of erasures, that is left when type
arguments are forgotten and variables and wildcards give way to their first upper bound. Bounds may
be cyclic; a variable met for the second time erases to `Object`.

## Main definitions

* `ErasedType`.
* `Registry.erasure`.
* `Registry.isRawAssignable`: assignment between erased types.

## Main results

* An equation for every shape but the variable, and `erasure_var` for that.
-/

namespace Generics

/-- A type without arguments, variables and wildcards. -/
inductive ErasedType where
  /-- A class. -/
  | plain (c : ClassId)
  /-- An array. -/
  | array (elem : ErasedType)
deriving DecidableEq, Repr

namespace Registry

/-- The erasure of an expression, with the erasures of variables given by `onVar`. -/
def erasureWith (reg : Registry) (onVar : VarId → Option ErasedType) : TypeExpr → Option ErasedType
  | .raw c => some (.plain c)
  | .app c _ _ => some (.plain c)
  | .wildcard [] _ => some (.plain reg.object)
  | .wildcard (u :: _) _ => erasureWith reg onVar u
  | .var v => onVar v
  | .array elem => (erasureWith reg onVar elem).map .array

/-- The erasure of an expression below the variables `seen`, through at most the given number of
further variables. -/
def erasureFrom (reg : Registry) : Nat → List VarId → TypeExpr → Option ErasedType
  | 0, _ => reg.erasureWith fun _ => some (.plain reg.object)
  | n + 1, seen => reg.erasureWith fun v =>
    if v ∈ seen then some (.plain reg.object)
    else (reg.bounds v).head?.bind (reg.erasureFrom n (v :: seen))

/-- The number of variables that can be passed before one of them is unknown or comes again. -/
def varRounds (reg : Registry) : Nat := reg.params.size + 1

/-- What is left of an expression without type arguments. A variable that is unknown or has no bound
has no erasure. -/
def erasure (reg : Registry) (t : TypeExpr) : Option ErasedType :=
  reg.erasureFrom reg.varRounds [] t

/-- A value of erased type `source` may be stored in a slot of erased type `target`. -/
def isRawAssignable (reg : Registry) : (target source : ErasedType) → Bool
  | .plain t, .plain s => reg.isSubclass s t
  | .plain t, .array _ => reg.isArraySupertype t
  | .array t, .array s => reg.isRawAssignable t s
  | .array _, .plain _ => false

@[simp] theorem erasure_raw (reg : Registry) (c : ClassId) :
    reg.erasure (.raw c) = some (.plain c) := rfl

@[simp] theorem erasure_app (reg : Registry) (c : ClassId) (args : List TypeExpr)
    (owner : Option TypeExpr) : reg.erasure (.app c args owner) = some (.plain c) := rfl

@[simp] theorem erasure_wildcard_nil (reg : Registry) (lowers : List TypeExpr) :
    reg.erasure (.wildcard [] lowers) = some (.plain reg.object) := rfl

@[simp] theorem erasure_wildcard_cons (reg : Registry) (u : TypeExpr) (us lowers : List TypeExpr) :
    reg.erasure (.wildcard (u :: us) lowers) = reg.erasure u := rfl

@[simp] theorem erasure_array (reg : Registry) (elem : TypeExpr) :
    reg.erasure (.array elem) = (reg.erasure elem).map .array := rfl

theorem erasure_var (reg : Registry) (v : VarId) :
    reg.erasure (.var v) = (reg.bounds v).head?.bind (reg.erasureFrom reg.params.size [v]) := by
  simp [erasure, varRounds, erasureFrom, erasureWith]

end Registry

end Generics
