import Generics.Erasure
import Generics.Inference.Implied

/-!
# Arguments that a supertype determines

Which arguments must a class have so that, seen as a given supertype, it has given arguments there?
The class applied to its own formals is viewed as the supertype, and the arguments of the view are
matched against the wanted ones.

## Main definitions

* `matchFormals`: one argument of the view against one wanted argument.
* `Registry.determined`: bindings of the formals of a class.
* `Registry.context`: the bindings under which a source is resolved against a target.
-/

namespace Generics

mutual

/-- The formals in a pattern with what stands in their place. Wildcards and owners are not entered, and
where the classes differ nothing is bound. -/
def matchFormals (formals : List VarId) : TypeExpr → TypeExpr → Bindings
  | .var v, t => if v ∈ formals then [(v, t)] else []
  | .app c patterns _, .app d args _ =>
    if c = d ∧ patterns.length = args.length then matchAllFormals formals patterns args else []
  | .array p, .array t => matchFormals formals p t
  | _, _ => []

/-- The same for lists, member by member. -/
def matchAllFormals (formals : List VarId) : List TypeExpr → List TypeExpr → Bindings
  | p :: ps, t :: ts => matchFormals formals p t ++ matchAllFormals formals ps ts
  | _, _ => []

end

namespace Registry

/-- The bindings of the formals of `source` that give it, seen as `target.1`, the arguments
`target.2`. Formals that do not reach the target stay unbound. -/
def determined (reg : Registry) (rounds : Nat) (source : ClassId) (target : Use) :
    Option Substitution :=
  let formals := reg.formals source
  if formals.isEmpty then some .empty
  else match reg.view rounds (.ofClass source (TypeExpr.vars formals)) target.1 with
  | none => none
  | some (some (.app _ args _)) =>
    some (Substitution.empty.bindAllIfAbsent (matchAllFormals formals args target.2))
  | some _ => some .empty

/-- The bindings under which `source` is resolved against `target`: what the target implies, and over
it what the target determines of the source's formals. -/
def context (reg : Registry) (rounds : Nat) (source target : TypeExpr) : Option Substitution :=
  let implied := reg.impliedBindings target
  match target, reg.erasure source with
  | .app c args _, some (.plain s) => (reg.determined rounds s (c, args)).map implied.extend
  | _, _ => some implied

end Registry

end Generics
