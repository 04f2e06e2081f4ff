import Generics.Resolution.Candidates

/-!
# Instantiation

The heart of the resolver: replacing variables and wildcards by concrete types within their bounds,
and the question whether one type, resolved as far as need be, can be used as another. Checking a
bound may need the answer to that question, which in turn resolves types.

Every nesting of types and of questions uses up one level. When no level is left a type is returned as
it is; this is an approximation and not a failure. The step functions below are not recursive: each
takes what it needs of the next lower level as arguments.

## Main definitions

* `Resolver.checkBounds`: a candidate against bounds, at one level.
* `Resolver.selectStep`, `instantiateVarStep`, `instantiateArgs`, `instantiateStep`,
  `canBecomeStep`: one level of each activity.
* `Resolver.instantiateAt`, `selectAt`, `canBecomeAt`: all levels.
* `Resolver.instantiate` and `Resolver.canBecome`.

## Main results

* `instantiateAt_zero` and `instantiateAt_succ` with their companions.
-/

namespace Generics

namespace Resolver

variable (R : Resolver)

/-! ### Bounds -/

/-- `candidate` lies below all upper bounds and above all lower bounds, read with `σ` in effect. The
variable that is being resolved stands for the candidate in its own bounds. A bound with variables
left in it asks `become`. -/
def checkBounds (become : TypeExpr → TypeExpr → Option Bool) (candidate : TypeExpr)
    (var : Option VarId) (uppers lowers : List TypeExpr) (σ : Substitution) : Option Bool := do
  let inEffect := match var with
    | some v => σ.bind v candidate
    | none => σ
  let below ← uppers.allM fun b =>
    let bound := b.substitute inEffect
    if bound.hasVars then become candidate bound else R.isAssignable candidate bound
  if below then lowers.allM fun b => R.isAssignable (b.substitute inEffect) candidate
  else return false

/-! ### Selection -/

/-- The first class of the registry that satisfies all upper bounds. -/
def searchRegistry (become : TypeExpr → TypeExpr → Option Bool) (var : Option VarId)
    (uppers : List TypeExpr) (σ : Substitution) : Option (Option TypeExpr) := do
  let found ← R.registry.standIns.findM? fun c =>
    if R.registry.passesErased uppers c then R.checkBounds become (.raw c) var uppers [] σ
    else some false
  return found.map .raw

/-- The most specific of the resolved bounds. If one of them cannot be resolved there is none. -/
def preferredBound (inst : TypeExpr → Substitution → Attempt TypeExpr) (uppers : List TypeExpr)
    (σ : Substitution) : Option (Option TypeExpr) :=
  match (uppers.mapM fun b => inst b σ).run with
  | none => none
  | some (.error _) => some none
  | some (.ok bounds) => some (R.registry.mostSpecific bounds)

/-- A resolved candidate satisfies the upper bounds. One that could not be resolved to the end is let
through: there is nothing concrete to check yet. -/
def finalFits (become : TypeExpr → TypeExpr → Option Bool) (candidate : TypeExpr)
    (var : Option VarId) (uppers : List TypeExpr) (σ : Substitution) : Option Bool :=
  if candidate.isConcrete then R.checkBounds become candidate var uppers [] σ else some true

/-- The preferred bound is concrete and satisfies all bounds itself. -/
def preferredFits (become : TypeExpr → TypeExpr → Option Bool) (preferred : Option TypeExpr)
    (var : Option VarId) (uppers : List TypeExpr) (σ : Substitution) : Option Bool :=
  match preferred with
  | some t => if t.isConcrete then R.checkBounds become t var uppers [] σ else some false
  | none => some false

/-- Pick a type between the bounds. A lower bound settles the choice; else the most specific upper
bound is taken, else a class of the registry, else an upper bound that could not be resolved to the
end. -/
def selectStep (inst : TypeExpr → Substitution → Attempt TypeExpr)
    (become : TypeExpr → TypeExpr → Option Bool) (subject : TypeExpr) (var : Option VarId)
    (uppers lowers : List TypeExpr) (σ : Substitution) : Attempt TypeExpr := do
  let uppers := R.registry.orObject uppers
  match lowers with
  | lower :: _ =>
    let candidate ← inst lower σ
    let fits ← R.finalFits become candidate var uppers σ
    if fits then return candidate else throw ⟨subject, .boundViolation⟩
  | [] =>
    let preferred ← R.preferredBound inst uppers σ
    let fits ← R.preferredFits become preferred var uppers σ
    if fits then return preferred.getD subject
    else do
      let found ← R.searchRegistry become var uppers σ
      match found, preferred with
      | some t, _ => return t
      | none, some t => if t.isConcrete then throw ⟨subject, .noCandidate⟩ else return t
      | none, none => throw ⟨subject, .noCandidate⟩

/-! ### One level of instantiation -/

/-- Resolve a variable: by its binding if it has one other than itself, else by its bounds. -/
def instantiateVarStep (inst : TypeExpr → Substitution → Attempt TypeExpr)
    (become : TypeExpr → TypeExpr → Option Bool) (v : VarId) (σ : Substitution) :
    Attempt TypeExpr :=
  match R.registry.typeParam? v with
  | none => throw ⟨.var v, .unknownTypeVariable⟩
  | some p =>
    match (σ.get? v).filter (· != .var v) with
    | none => R.selectStep inst become (.var v) (some v) p.bounds [] σ
    | some value => do
      let candidate ← if value.isConcrete then pure value else inst value σ
      let fits ← R.finalFits become candidate (some v) p.bounds σ
      if fits then return candidate else throw ⟨.var v, .boundViolation⟩

/-- The first formal with its declaration, if it is known. -/
def knownFormal (formals : List VarId) : Option (VarId × TypeParam) :=
  formals.head?.bind fun v => (R.registry.typeParam? v).map fun p => (v, p)

/-- What has taken the place of an argument satisfies the bounds of the formal. An argument that is
unchanged, or not concrete, is let through. -/
def replacementFits (become : TypeExpr → TypeExpr → Option Bool) (arg result : TypeExpr)
    (formal : VarId) (bounds : List TypeExpr) (σ : Substitution) : Option Bool :=
  if result != arg && result.isConcrete then
    R.checkBounds become result (some formal) bounds [] σ
  else some true

/-- Resolve type arguments from left to right. A wildcard is resolved within its own bounds and those
of the formal; whatever is new and concrete must satisfy the formal it stands for. The bounds of a
formal see the arguments in `chosen`, those of the formals before it. -/
def instantiateArgs (inst : TypeExpr → Substitution → Attempt TypeExpr)
    (select : TypeExpr → List TypeExpr → List TypeExpr → Substitution → Attempt TypeExpr)
    (become : TypeExpr → TypeExpr → Option Bool) (subject : TypeExpr) (σ : Substitution) :
    Substitution → List VarId → List TypeExpr → Attempt (List TypeExpr)
  | _, _, [] => return []
  | chosen, formals, arg :: args => do
    let formal := R.knownFormal formals
    let bounds := ((formal.map fun f => f.2.bounds).getD []).map (TypeExpr.substitute chosen)
    let result ← match arg with
      | .wildcard us ls => select arg (us ++ bounds) ls σ
      | _ => inst arg σ
    match formal with
    | none =>
      let rest ← instantiateArgs inst select become subject σ chosen formals.tail args
      return result :: rest
    | some (v, _) =>
      let fits ← R.replacementFits become arg result v bounds σ
      if fits then do
        let rest ←
          instantiateArgs inst select become subject σ (chosen.bind v result) formals.tail args
        return result :: rest
      else throw ⟨subject, .boundViolation⟩

/-- Resolve an expression, with its parts resolved one level below. -/
def instantiateStep (inst : TypeExpr → Substitution → Attempt TypeExpr)
    (select : TypeExpr → List TypeExpr → List TypeExpr → Substitution → Attempt TypeExpr)
    (become : TypeExpr → TypeExpr → Option Bool) (t : TypeExpr) (σ : Substitution) :
    Attempt TypeExpr :=
  match t with
  | .raw c => return .raw c
  | .app c args owner => do
    let formals := R.registry.formalsFor c args.length
    let args' ← R.instantiateArgs inst select become (.app c args owner) σ .empty formals args
    match owner with
    | none => return .app c args' none
    | some o =>
      let o' ← inst o σ
      return .app c args' (some o')
  | .wildcard us ls => R.selectStep inst become (.wildcard us ls) none us ls σ
  | .var v => R.instantiateVarStep inst become v σ
  | .array elem => do
    let elem' ← inst elem σ
    return .array elem'

/-! ### One level of the question -/

/-- The erasure of `source` is assignable to that of `target`. -/
def gate (source target : TypeExpr) : Bool :=
  match R.registry.erasure source, R.registry.erasure target with
  | some s, some t => R.registry.isRawAssignable t s
  | _, _ => false

/-- `source` is as resolved as it will ever be: it must be concrete and assignable. -/
def settled (source target : TypeExpr) : Option Bool :=
  if source.isConcrete then R.isAssignable source target else some false

/-- Resolve the source once, in the context of the target, and ask again one level below; a source
that resolves to itself is settled. -/
def canBecomeStep (inst : TypeExpr → Substitution → Attempt TypeExpr)
    (become : TypeExpr → TypeExpr → Option Bool) (source target : TypeExpr) : Option Bool :=
  if R.gate source target then do
    let σ ← R.context source target
    match ← (inst source σ).run with
    | .error _ => some false
    | .ok t => if t = source then R.settled source target else become t target
  else some false

/-! ### All levels -/

mutual

/-- Resolve an expression with the given number of levels left. -/
def instantiateAt (R : Resolver) : Nat → TypeExpr → Substitution → Attempt TypeExpr
  | 0, t, _ => pure t
  | n + 1, t, σ =>
    R.instantiateStep (instantiateAt R n) (selectAt R n) (canBecomeAt R n) t σ

/-- Pick a type for the wildcard `subject` between bounds, with the given number of levels left. -/
def selectAt (R : Resolver) :
    Nat → TypeExpr → List TypeExpr → List TypeExpr → Substitution → Attempt TypeExpr
  | 0, subject, _, _, _ => pure subject
  | n + 1, subject, uppers, lowers, σ =>
    R.selectStep (instantiateAt R n) (canBecomeAt R n) subject none uppers lowers σ

/-- `source` can be used as `target`, perhaps after it is resolved, with the given number of levels
left. -/
def canBecomeAt (R : Resolver) : Nat → TypeExpr → TypeExpr → Option Bool
  | 0, source, target => if R.gate source target then R.settled source target else some false
  | n + 1, source, target =>
    R.canBecomeStep
      (fun t σ => R.instantiateStep (instantiateAt R n) (selectAt R n) (canBecomeAt R n) t σ)
      (canBecomeAt R n) source target

end

@[simp] theorem instantiateAt_zero (t : TypeExpr) (σ : Substitution) :
    R.instantiateAt 0 t σ = pure t := rfl

theorem instantiateAt_succ (n : Nat) (t : TypeExpr) (σ : Substitution) :
    R.instantiateAt (n + 1) t σ =
      R.instantiateStep (R.instantiateAt n) (R.selectAt n) (R.canBecomeAt n) t σ := rfl

@[simp] theorem selectAt_zero (subject : TypeExpr) (uppers lowers : List TypeExpr)
    (σ : Substitution) : R.selectAt 0 subject uppers lowers σ = pure subject := rfl

theorem selectAt_succ (n : Nat) (subject : TypeExpr) (uppers lowers : List TypeExpr)
    (σ : Substitution) :
    R.selectAt (n + 1) subject uppers lowers σ =
      R.selectStep (R.instantiateAt n) (R.canBecomeAt n) subject none uppers lowers σ := rfl

theorem canBecomeAt_zero (source target : TypeExpr) :
    R.canBecomeAt 0 source target =
      if R.gate source target then R.settled source target else some false := rfl

theorem canBecomeAt_succ (n : Nat) (source target : TypeExpr) :
    R.canBecomeAt (n + 1) source target =
      R.canBecomeStep (R.instantiateAt (n + 1)) (R.canBecomeAt n) source target := rfl

/-! ### Entry points -/

/-- Replace every variable and wildcard that can be reached from `t`, nested at `depth`, by a concrete
type within its bounds. -/
def instantiate (R : Resolver) (t : TypeExpr) (σ : Substitution) (depth : Nat := 0) :
    Attempt TypeExpr :=
  R.instantiateAt (R.levels depth) t σ

/-- Beyond the maximal depth an expression is left as it is. -/
theorem instantiate_of_deep {R : Resolver} {depth : Nat} (h : R.maxDepth < depth) (t : TypeExpr)
    (σ : Substitution) : R.instantiate t σ depth = pure t := by
  rw [instantiate, (levels_eq_zero_iff R depth).2 h, instantiateAt_zero]

/-- Down to the maximal depth it is resolved with its parts one level below. -/
theorem instantiate_of_le {R : Resolver} {depth : Nat} (h : depth ≤ R.maxDepth) (t : TypeExpr)
    (σ : Substitution) : R.instantiate t σ depth =
      R.instantiateStep (R.instantiateAt (R.levels (depth + 1))) (R.selectAt (R.levels (depth + 1)))
        (R.canBecomeAt (R.levels (depth + 1))) t σ := by
  rw [instantiate, levels_of_le h, instantiateAt_succ]

/-- `source`, perhaps after its variables and wildcards are bound, can be used where `target` is
expected. -/
def canBecome (R : Resolver) (source target : TypeExpr) : Option Bool :=
  R.canBecomeAt (R.levels 0) source target

end Resolver

end Generics
