import Generics.Registry.Basic

/-!
# Types checked against their declarations

## Main definitions

* `Registry.apply`: a class applied to as many arguments as it declares.
* `Registry.declaredBounds` and `Registry.formalsOf`: what the declaration behind a type says.

## Main results

* `apply_eq_ok_iff`: application succeeds exactly when the number of arguments is right.
-/

namespace Generics

/-- Why a class could not be applied to arguments. -/
inductive ApplicationError where
  /-- The class is not defined. -/
  | unknownClass (c : ClassId)
  /-- The class declares another number of type parameters. -/
  | arityMismatch (name : String) (expected found : Nat)
deriving DecidableEq, Repr

/-- The error in words. -/
def ApplicationError.message : ApplicationError → String
  | .unknownClass c => s!"class {c.describe} is not defined in the registry"
  | .arityMismatch name expected found =>
    s!"{name} declares {expected} type parameter(s) but {found} argument(s) were supplied"

namespace Registry

/-- A class applied to arguments whose number matches its declaration. -/
def apply (reg : Registry) (c : ClassId) (args : List TypeExpr) (owner : Option TypeExpr) :
    Except ApplicationError TypeExpr :=
  match reg.class? c with
  | none => .error (.unknownClass c)
  | some d =>
    if d.typeParams.length = args.length then .ok (.app c args owner)
    else .error (.arityMismatch d.name d.typeParams.length args.length)

/-- Upper bounds of a variable, upper then lower bounds of a wildcard; other shapes have none. -/
def declaredBounds (reg : Registry) : TypeExpr → List TypeExpr
  | .var v => reg.bounds v
  | .wildcard us ls => reg.orObject us ++ ls
  | _ => []

/-- The formals of the class that an expression uses; for an array, those of its component. -/
def formalsOf (reg : Registry) : TypeExpr → List VarId
  | .raw c => reg.formals c
  | .app c _ _ => reg.formals c
  | .array elem => reg.formalsOf elem
  | _ => []

/-- Application succeeds exactly when the class is defined with that many type parameters. -/
theorem apply_eq_ok_iff {reg : Registry} {c : ClassId} {args : List TypeExpr}
    {owner : Option TypeExpr} {t : TypeExpr} :
    reg.apply c args owner = .ok t ↔
      (∃ d, reg.class? c = some d ∧ d.typeParams.length = args.length) ∧
        t = .app c args owner := by
  unfold apply
  cases h : reg.class? c with
  | none => simp
  | some d =>
    by_cases hl : d.typeParams.length = args.length
    · simp [hl, eq_comm]
    · simp [hl]

end Registry

end Generics
