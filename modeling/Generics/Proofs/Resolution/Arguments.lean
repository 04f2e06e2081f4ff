import Generics.Resolution.Instantiate
import Generics.Proofs.PartialAnswers

/-!
# Type arguments one by one

Type arguments are resolved from left to right, and the bounds of a formal see what was chosen for
the formals before it. The walk is taken apart here: what one step does to one argument, which
bindings it leaves for the next, and what a whole walk that comes to an end has done to every
argument.

## Main definitions

* `Resolver.seenBounds` — the bounds of the first formal, below the arguments chosen so far
* `Resolver.resolveArg`, `Resolver.fitsFormal`, `Resolver.choose` — the three parts of a step
* `Resolver.chosenAfter` — the bindings after some results
* `Resolver.ArgResolved` — one argument, its result, and the check of the formal

## Main results

* `Resolver.instantiateArgs_cons` — the walk in terms of its parts
* `Resolver.yields_instantiateArgs_iff` — a walk ends exactly if every argument is resolved
* `Resolver.yields_instantiateStep_app` — the walk as part of one level of resolution
* `Resolver.exists_of_yields_app` — what is left of it where there are no wildcards
-/

namespace Generics

namespace Resolver

variable (R : Resolver)

/-! ### One step -/

/-- The bounds of the first formal, with `chosen` put in. -/
def seenBounds (chosen : Substitution) (formals : List VarId) : List TypeExpr :=
  (((R.knownFormal formals).map fun f => f.2.bounds).getD []).map (TypeExpr.substitute chosen)

/-- Resolve one argument: a wildcard within its own bounds and those of its formal. -/
def resolveArg (inst : TypeExpr → Substitution → Attempt TypeExpr)
    (select : TypeExpr → List TypeExpr → List TypeExpr → Substitution → Attempt TypeExpr)
    (bounds : List TypeExpr) (arg : TypeExpr) (σ : Substitution) : Attempt TypeExpr :=
  match arg with
  | .wildcard us ls => select arg (us ++ bounds) ls σ
  | _ => inst arg σ

/-- The result passes for the first formal; an unknown formal lets everything through. -/
def fitsFormal (become : TypeExpr → TypeExpr → Option Bool) (chosen : Substitution)
    (formals : List VarId) (arg result : TypeExpr) (σ : Substitution) : Option Bool :=
  match R.knownFormal formals with
  | none => some true
  | some f => R.replacementFits become arg result f.1 (R.seenBounds chosen formals) σ

/-- The bindings that the next formal sees. -/
def choose (chosen : Substitution) (formals : List VarId) (result : TypeExpr) : Substitution :=
  match R.knownFormal formals with
  | none => chosen
  | some f => chosen.bind f.1 result

/-- The bindings that are left after some results. -/
def chosenAfter : Substitution → List VarId → List TypeExpr → Substitution
  | chosen, _, [] => chosen
  | chosen, formals, result :: results =>
    chosenAfter (R.choose chosen formals result) formals.tail results

/-- One argument is resolved, and the result passes for the first formal. -/
structure ArgResolved (inst : TypeExpr → Substitution → Attempt TypeExpr)
    (select : TypeExpr → List TypeExpr → List TypeExpr → Substitution → Attempt TypeExpr)
    (become : TypeExpr → TypeExpr → Option Bool) (σ chosen : Substitution)
    (formals : List VarId) (arg result : TypeExpr) : Prop where
  /-- The result is what the argument is resolved to. -/
  resolved : (resolveArg inst select (R.seenBounds chosen formals) arg σ).Yields result
  /-- It passes the check of the formal. -/
  fits : R.fitsFormal become chosen formals arg result σ = some true

variable {R} {inst : TypeExpr → Substitution → Attempt TypeExpr}
  {select : TypeExpr → List TypeExpr → List TypeExpr → Substitution → Attempt TypeExpr}
  {become : TypeExpr → TypeExpr → Option Bool} {subject : TypeExpr} {σ chosen : Substitution}
  {formals : List VarId}

/-- The walk takes one step and goes on with the bindings that it leaves. -/
theorem instantiateArgs_cons (arg : TypeExpr) (args : List TypeExpr) :
    R.instantiateArgs inst select become subject σ chosen formals (arg :: args) = (do
      let result ← resolveArg inst select (R.seenBounds chosen formals) arg σ
      let fits ← R.fitsFormal become chosen formals arg result σ
      if fits then do
        let rest ← R.instantiateArgs inst select become subject σ
          (R.choose chosen formals result) formals.tail args
        return result :: rest
      else throw ⟨subject, .boundViolation⟩) := by
  cases arg <;>
  · rw [instantiateArgs]
    · refine bind_congr fun result => ?_
      rw [fitsFormal, choose, seenBounds]
      cases R.knownFormal formals with
      | none => rfl
      | some f => rfl
    try exact fun _ _ h => by cases h

/-- A walk over a first argument ends if that argument is resolved and the rest of the walk ends. -/
theorem yields_instantiateArgs_cons {arg result : TypeExpr} {args results : List TypeExpr} :
    (R.instantiateArgs inst select become subject σ chosen formals (arg :: args)).Yields
        (result :: results) ↔
      R.ArgResolved inst select become σ chosen formals arg result ∧
        (R.instantiateArgs inst select become subject σ (R.choose chosen formals result)
          formals.tail args).Yields results := by
  rw [instantiateArgs_cons, Attempt.yields_bind]
  constructor
  · rintro ⟨r, hr, h⟩
    obtain ⟨hfits, h⟩ := Attempt.yields_guard.1 h
    obtain ⟨rest, hrest, hcons⟩ := Attempt.yields_bind.1 h
    obtain ⟨rfl, rfl⟩ := List.cons.inj (Attempt.yields_pure.1 hcons)
    exact ⟨⟨hr, hfits⟩, hrest⟩
  · rintro ⟨⟨hr, hfits⟩, hrest⟩
    exact ⟨result, hr, Attempt.yields_guard.2
      ⟨hfits, Attempt.yields_bind.2 ⟨results, hrest, Attempt.yields_pure.2 rfl⟩⟩⟩

/-- A walk over a first argument has a first result. -/
theorem not_yields_instantiateArgs_nil {arg : TypeExpr} {args : List TypeExpr} :
    ¬ (R.instantiateArgs inst select become subject σ chosen formals (arg :: args)).Yields [] := by
  rw [instantiateArgs_cons, Attempt.yields_bind]
  rintro ⟨r, -, h⟩
  obtain ⟨-, h⟩ := Attempt.yields_guard.1 h
  obtain ⟨rest, -, hcons⟩ := Attempt.yields_bind.1 h
  cases Attempt.yields_pure.1 hcons

/-- The bounds that are seen are those of the first formal, with the chosen arguments put in. -/
theorem exists_of_mem_seenBounds {b : TypeExpr} (hb : b ∈ R.seenBounds chosen formals) :
    ∃ f, formals.head? = some f ∧ ∃ b' ∈ R.registry.bounds f, b'.substitute chosen = b := by
  obtain ⟨b', hb', hsubst⟩ := List.mem_map.1 hb
  cases hf : R.knownFormal formals with
  | none =>
    rw [hf] at hb'
    cases hb'
  | some e =>
    rw [hf] at hb'
    obtain ⟨f, hhead, hv⟩ := Option.bind_eq_some_iff.1 hf
    obtain ⟨p, hp, rfl⟩ := Option.map_eq_some_iff.1 hv
    refine ⟨f, hhead, b', ?_, hsubst⟩
    rw [Registry.bounds_of_typeParam? hp]
    exact hb'

/-! ### The whole walk -/

/-- **A walk ends exactly if every argument is resolved,** each below the bindings that the results
before it leave. -/
theorem yields_instantiateArgs_iff {args results : List TypeExpr} :
    (R.instantiateArgs inst select become subject σ chosen formals args).Yields results ↔
      results.length = args.length ∧ ∀ i a r, args[i]? = some a → results[i]? = some r →
        R.ArgResolved inst select become σ (R.chosenAfter chosen formals (results.take i))
          (formals.drop i) a r := by
  induction args generalizing chosen formals results with
  | nil =>
    rw [instantiateArgs, Attempt.yields_pure]
    constructor
    · rintro rfl
      exact ⟨rfl, fun i a r ha => by simp at ha⟩
    · rintro ⟨hlen, -⟩
      exact (List.length_eq_zero_iff.1 hlen).symm
  | cons arg args ih =>
    cases results with
    | nil =>
      refine ⟨fun h => absurd h not_yields_instantiateArgs_nil, ?_⟩
      rintro ⟨hlen, -⟩
      cases hlen
    | cons result results =>
      rw [yields_instantiateArgs_cons, ih]
      constructor
      · rintro ⟨hfirst, hlen, hrest⟩
        refine ⟨congrArg (· + 1) hlen, fun i a r ha hr => ?_⟩
        cases i with
        | zero =>
          obtain rfl := Option.some.inj ha
          obtain rfl := Option.some.inj hr
          exact hfirst
        | succ i => simpa [chosenAfter] using hrest i a r ha hr
      · rintro ⟨hlen, h⟩
        refine ⟨h 0 arg result rfl rfl, Nat.succ.inj hlen, fun i a r ha hr => ?_⟩
        simpa [chosenAfter] using h (i + 1) a r ha hr

/-! ### One level of a type with arguments -/

/-- A type with arguments is resolved if the arguments are and the owner is. -/
theorem yields_instantiateStep_app {c : ClassId} {args : List TypeExpr} {owner : Option TypeExpr}
    {r : TypeExpr} :
    (R.instantiateStep inst select become (.app c args owner) σ).Yields r ↔
      ∃ results owner', r = .app c results owner' ∧
        (R.instantiateArgs inst select become (.app c args owner) σ .empty
          (R.registry.formalsFor c args.length) args).Yields results ∧
        Option.Rel (fun o o' => (inst o σ).Yields o') owner owner' := by
  rw [instantiateStep, Attempt.yields_bind]
  cases owner with
  | none =>
    constructor
    · rintro ⟨results, hresults, hr⟩
      exact ⟨results, none, (Attempt.yields_pure.1 hr).symm, hresults, .none⟩
    · rintro ⟨results, owner', rfl, hresults, hrel⟩
      cases hrel
      exact ⟨results, hresults, Attempt.yields_pure.2 rfl⟩
  | some o =>
    constructor
    · rintro ⟨results, hresults, hr⟩
      obtain ⟨o', ho, hr⟩ := Attempt.yields_bind.1 hr
      exact ⟨results, some o', (Attempt.yields_pure.1 hr).symm, hresults, .some ho⟩
    · rintro ⟨results, owner', rfl, hresults, hrel⟩
      cases hrel with
      | some ho =>
        exact ⟨results, hresults, Attempt.yields_bind.2 ⟨_, ho, Attempt.yields_pure.2 rfl⟩⟩

/-- Only a wildcard sees the bounds of the formal. -/
theorem resolveArg_of_ne_wildcard {bounds : List TypeExpr} {a : TypeExpr}
    (ha : ∀ us ls, a ≠ .wildcard us ls) : resolveArg inst select bounds a σ = inst a σ := by
  cases a with
  | wildcard us ls => exact absurd rfl (ha us ls)
  | _ => rfl

theorem resolveArg_of_not_hasWildcards {bounds : List TypeExpr} {a : TypeExpr}
    (hw : a.hasWildcards = false) : resolveArg inst select bounds a σ = inst a σ := by
  refine resolveArg_of_ne_wildcard fun us ls h => ?_
  subst h
  cases hw

/-- Where no argument has a wildcard, every argument and the owner are resolved on their own. -/
theorem exists_of_yields_app {c : ClassId} {args : List TypeExpr} {owner : Option TypeExpr}
    {r : TypeExpr} (hw : ∀ a ∈ args, a.hasWildcards = false)
    (h : (R.instantiateStep inst select become (.app c args owner) σ).Yields r) :
    ∃ results owner', r = .app c results owner' ∧ results.length = args.length ∧
      (∀ i (hi : i < args.length) (hi' : i < results.length),
        (inst args[i] σ).Yields results[i]) ∧
      Option.Rel (fun o o' => (inst o σ).Yields o') owner owner' := by
  obtain ⟨results, owner', rfl, hresults, howner⟩ := yields_instantiateStep_app.1 h
  obtain ⟨hlen, hargs⟩ := yields_instantiateArgs_iff.1 hresults
  refine ⟨results, owner', rfl, hlen, fun i hi hi' => ?_, howner⟩
  have hres := (hargs i _ _ (List.getElem?_eq_getElem hi) (List.getElem?_eq_getElem hi')).resolved
  rwa [resolveArg_of_not_hasWildcards (hw _ (List.getElem_mem hi))] at hres

/-! ### Known formals -/

/-- Every formal is declared. -/
def FormalsKnown (reg : Registry) (formals : List VarId) : Prop :=
  ∀ f ∈ formals, (reg.typeParam? f).isSome = true

instance (reg : Registry) (formals : List VarId) : Decidable (FormalsKnown reg formals) :=
  inferInstanceAs (Decidable (∀ f ∈ formals, (reg.typeParam? f).isSome = true))

end Resolver

end Generics
