import Generics.Resolution.Instantiate

/-!
# Members with all types resolved

The signature of a method or constructor as it is used on a receiver or owner. The member's own type
parameters are chosen one after the other, so that a later one may depend on an earlier one.

## Main definitions

* `Signature`.
* `Resolver.instantiateMethod` and `Resolver.instantiateConstructor`.

## Main results

* `length_of_instantiateAll`: lists keep their length.
-/

namespace Generics

/-- A member signature without variables, as far as resolution went. -/
structure Signature where
  /-- What was chosen for the member's own type parameters. -/
  typeArgs : List TypeExpr
  /-- Parameter types. -/
  params : List TypeExpr
  /-- Return type, `none` for a method that returns nothing. -/
  returnType : Option TypeExpr
deriving DecidableEq, Repr

namespace Resolver

variable (R : Resolver)

/-- Choose types for type parameters in order, each with the choices before it in effect. -/
def chooseTypeArgs : List VarId → Substitution → Attempt (List TypeExpr × Substitution)
  | [], σ => return ([], σ)
  | v :: vs, σ => do
    let t ← R.instantiate (.var v) σ
    let (ts, τ) ← chooseTypeArgs vs (σ.bind v t)
    return (t :: ts, τ)

/-- Resolve the members of a list. -/
def instantiateAll (σ : Substitution) : List TypeExpr → Attempt (List TypeExpr)
  | [] => return []
  | t :: ts => do
    let t' ← R.instantiate t σ
    let ts' ← instantiateAll σ ts
    return t' :: ts'

/-- Resolve a return type, if there is one. -/
def instantiateReturn (σ : Substitution) : Option TypeExpr → Attempt (Option TypeExpr)
  | none => return none
  | some t => do
    let t' ← R.instantiate t σ
    return some t'

/-- The signature of a method invoked on `receiver`, which a static method does not look at. -/
def instantiateMethod (receiver : TypeExpr) (m : Method) : Attempt Signature := do
  let implied := if m.isStatic then .empty else R.registry.impliedBindings receiver
  let (typeArgs, σ) ← R.chooseTypeArgs m.typeParams implied
  let params ← R.instantiateAll σ m.params
  let returnType ← R.instantiateReturn σ m.returnType
  return { typeArgs, params, returnType }

/-- The type that a constructor of `d` builds when it is asked for `owner`: a generic class without
arguments is applied to its own formals. -/
def constructedType (c : ClassId) (d : ClassDef) (owner : TypeExpr) : TypeExpr :=
  if d.isGeneric && owner.shape != .parameterized then .ofClass c (TypeExpr.vars d.typeParams)
  else owner

/-- The signature of a constructor of the class of `owner`; what it returns is the constructed
type. -/
def instantiateConstructor (owner : TypeExpr) (k : Constructor) : Attempt Signature :=
  match owner.classId?.bind fun c => (R.registry.class? c).map fun d => (c, d) with
  | none => throw ⟨owner, .unknownClass⟩
  | some (c, d) => do
    let constructed ←
      R.instantiate (constructedType c d owner) (R.registry.impliedBindings owner)
    let (typeArgs, σ) ← R.chooseTypeArgs k.typeParams (R.registry.impliedBindings constructed)
    let params ← R.instantiateAll σ k.params
    return { typeArgs, params, returnType := some constructed }

/-- Resolution keeps the length of a list. -/
theorem length_of_instantiateAll {R : Resolver} {σ : Substitution} {ts us : List TypeExpr}
    (h : (R.instantiateAll σ ts).run = some (.ok us)) : us.length = ts.length := by
  induction ts generalizing us with
  | nil =>
    simp only [instantiateAll, ExceptT.run_pure, Option.pure_def, Option.some.injEq,
      Except.ok.injEq] at h
    simp [← h]
  | cons t ts ih =>
    simp only [instantiateAll, ExceptT.run_bind] at h
    cases ht : (R.instantiate t σ).run with
    | none => simp [ht] at h
    | some r =>
      cases r with
      | error e => simp [ht] at h
      | ok t' =>
        cases hts : (R.instantiateAll σ ts).run with
        | none => simp [ht, hts] at h
        | some r' =>
          cases r' with
          | error e => simp [ht, hts] at h
          | ok ts' =>
            simp only [ht, hts, Option.bind_eq_bind, Option.bind_some, ExceptT.run_pure,
              Option.pure_def, Option.some.injEq, Except.ok.injEq] at h
            simp [← h, ih hts]

end Resolver

end Generics
