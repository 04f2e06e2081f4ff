import Generics.Erasure
import Generics.Hierarchy.View

/-!
# Assignability

Whether a value of one type may be stored in a slot of another. Type arguments are invariant unless
the target's argument is a wildcard; a raw type on either side is accepted unchecked; a free variable
in the target accepts whatever its erased bounds accept.

The definition follows bounds and supertype views, which on some registries never come to an end. It
therefore takes a budget of steps and answers `none` when the budget is used up.

## Main definitions

* `Registry.fitsErasedBounds`: what a free variable in the target accepts.
* `Registry.contained`: containment of type arguments in a wildcard.
* `Registry.assignable?`, and `Registry.assignableStep`, one step of it.

## Main results

* `assignable?_self`: every type is assignable to itself, in one step.
-/

namespace Generics

namespace Registry

/-- A free variable accepts itself and everything whose erasure fits the erasures of its bounds. -/
def fitsErasedBounds (reg : Registry) (t : TypeExpr) (v : VarId) : Bool :=
  if t = .var v then true
  else match reg.erasure t, reg.typeParam? v with
  | some erased, some p =>
    p.bounds.all fun b => (reg.erasure b).any fun bound => reg.isRawAssignable bound erased
  | _, _ => false

/-- The bounds between which a type argument lies. A type that is no wildcard is its own bound. -/
def argumentBounds (reg : Registry) : TypeExpr → List TypeExpr × List TypeExpr
  | .wildcard us ls => (reg.orObject us, ls)
  | t => ([t], [t])

/-- A type argument lies within the bounds of a wildcard: some upper bound of it is assignable to
each upper bound, and each lower bound is assignable to some lower bound of it. -/
def contained (reg : Registry) (assign : TypeExpr → TypeExpr → Option Bool) (arg : TypeExpr)
    (uppers lowers : List TypeExpr) : Option Bool := do
  let (argUppers, argLowers) := reg.argumentBounds arg
  let below ← uppers.allM fun u => argUppers.anyM fun a => assign a u
  let above ← lowers.allM fun l => argLowers.anyM fun a => assign l a
  return below && above

/-- A type argument fits the argument that the target has in its place. -/
def argumentFits (reg : Registry) (assign : TypeExpr → TypeExpr → Option Bool)
    (arg target : TypeExpr) : Option Bool :=
  if arg = target then some true
  else match target with
  | .wildcard us ls => reg.contained assign arg us ls
  | .var v => some (reg.fitsErasedBounds arg v)
  | _ => some false

/-- The arguments of a supertype view fit those of the target. -/
def argumentsFit (reg : Registry) (assign : TypeExpr → TypeExpr → Option Bool)
    (args targets : List TypeExpr) : Option Bool :=
  if args.length = targets.length then
    (args.zip targets).allM fun e => reg.argumentFits assign e.1 e.2
  else some false

/-- One step: `assign seen` decides the smaller questions below the source variables `seen`, and
`rounds` bounds the walk to a supertype. -/
def assignableStep (reg : Registry) (assign : List VarId → TypeExpr → TypeExpr → Option Bool)
    (rounds : Nat) (seen : List VarId) (source target : TypeExpr) : Option Bool :=
  if source = target then some true
  else match target, source with
  | .var v, s => some (reg.fitsErasedBounds s v)
  | .wildcard us ls, s => reg.contained (assign seen) s us ls
  | t, .var v =>
    if v ∈ seen then some false else (reg.bounds v).anyM fun b => assign (v :: seen) b t
  | t, .wildcard us _ => (reg.orObject us).anyM fun b => assign seen b t
  | .array t, .array s => assign seen s t
  | .array _, _ => some false
  | .raw c, .array _ => some (reg.isArraySupertype c)
  | .app .., .array _ => some false
  | .raw c, s => (reg.view rounds s c).map Option.isSome
  | .app c targets _, s =>
    match reg.view rounds s c with
    | none => none
    | some (some (.raw _)) => some true
    | some (some (.app _ args _)) => reg.argumentsFit (assign seen) args targets
    | some _ => some false

/-- Assignability of `source` to `target` within a budget of steps, below the source variables
`seen`. -/
def assignableFrom (reg : Registry) : Nat → List VarId → TypeExpr → TypeExpr → Option Bool
  | 0, _, _, _ => none
  | n + 1, seen, source, target =>
    reg.assignableStep (reg.assignableFrom n) n seen source target

/-- A value of type `source` may be stored in a slot of type `target`; `none` if the budget does not
suffice to tell. -/
def assignable? (reg : Registry) (budget : Nat) (source target : TypeExpr) : Option Bool :=
  reg.assignableFrom budget [] source target

/-- Every type is assignable to itself. -/
@[simp] theorem assignable?_self (reg : Registry) (n : Nat) (t : TypeExpr) :
    reg.assignable? (n + 1) t t = some true := by
  simp [assignable?, assignableFrom, assignableStep]

end Registry

end Generics
