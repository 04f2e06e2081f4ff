import Generics.Proofs.Resolution.DeclaredBounds
import Generics.Proofs.Resolution.MemberSignatures

/-!
# Type arguments that are chosen one after the other

The type parameters of a method or of a constructor are chosen in order, each with the choices before
it in effect. So every choice is checked under fewer bindings than are there in the end. What is
bound later cannot undo a check that has been passed, and the reason is where the bounds of a type
parameter may look: at itself, at earlier ones and at foreign variables. What these stand for is
settled when the check is made. How the choice comes about, and what the foreign variables stand for,
is not looked at.

## Main definitions

* `Registry.Telescope` — type parameters whose bounds only look back
* `Resolver.FitTogether` — type arguments that stay within the bounds when all of them are bound

## Main results

* `Resolver.satisfies_bindAll` — what is bound later does not undo a choice
* `Resolver.fitTogether_of_chooseTypeArgs`
* `Resolver.chosen_within_bounds`
-/

namespace Generics

/-- Type parameters that are known and of which none is mentioned in the bounds of an earlier one; one
that is listed twice must then not mention itself. -/
structure Registry.Telescope (reg : Registry) (vs : List VarId) : Prop where
  /-- Each of them is declared. -/
  known : ∀ v ∈ vs, (reg.typeParam? v).isSome
  /-- Bounds mention no later type parameter. -/
  looksBack : vs.Pairwise fun v w => ∀ b ∈ reg.bounds v, w ∉ b.occurrences

theorem Registry.Telescope.tail {reg : Registry} {v : VarId} {vs : List VarId}
    (h : reg.Telescope (v :: vs)) : reg.Telescope vs :=
  ⟨fun w hw => h.known w (List.mem_cons_of_mem v hw), (List.pairwise_cons.1 h.looksBack).2⟩

namespace Resolver

variable {R : Resolver} {σ : Substitution}

/-! ### One choice -/

/-- **A concrete choice stays within its bounds** whatever is bound after it, as long as the bounds do
not mention it. -/
theorem satisfies_bindAll {v : VarId} {vs : List VarId} {t : TypeExpr} {ts : List TypeExpr}
    (hv : (R.registry.typeParam? v).isSome)
    (hbounds : ∀ w ∈ vs, ∀ b ∈ R.registry.bounds v, w ∉ b.occurrences)
    (h : (R.instantiate (.var v) σ).Yields t) (ht : t.isConcrete = true) :
    (R.satisfies t (.variable v) ((σ.bind v t).bindAll (vs.zip ts))).run = some (.ok true) := by
  obtain ⟨p, hp⟩ := Option.isSome_iff_exists.1 hv
  rw [Registry.bounds_of_typeParam? hp] at hbounds
  have hchecked : R.checkBounds (R.canBecomeAt (R.levels 1)) t (some v) p.bounds [] σ =
      some true := checkBounds_of_instantiateVarStep hp h ht
  have hsame : ∀ b ∈ p.bounds, ∀ w ∈ b.occurrences, w ≠ v →
      ((σ.bind v t).bindAll (vs.zip ts)).get? w = σ.get? w := by
    intro b hb w hw hne
    have hlater : ∀ k < ts.length, vs[k]? ≠ some w := fun k _ hk =>
      hbounds w (List.mem_of_getElem? hk) b hb hw
    rw [Substitution.get?_bindAll_zip_of_absent _ hlater, Substitution.get?_bind, if_neg hne]
  rw [run_satisfies_variable ht hp, (checkBounds_congr hsame).2 hchecked]
  rfl

/-! ### All choices -/

/-- Every concrete type argument may stand for its type parameter when, besides what `σ` binds, all
type parameters are bound to their arguments. -/
def FitTogether (R : Resolver) (vs : List VarId) (ts : List TypeExpr) (σ : Substitution) : Prop :=
  ∀ (k : Nat) v t, vs[k]? = some v → ts[k]? = some t → t.isConcrete = true →
    (R.satisfies t (.variable v) (σ.bindAll (vs.zip ts))).run = some (.ok true)

/-- **What is chosen in order fits together.** -/
theorem fitTogether_of_chooseTypeArgs {vs : List VarId} {ts : List TypeExpr} {τ : Substitution}
    (hvs : R.registry.Telescope vs) (h : (R.chooseTypeArgs vs σ).Yields (ts, τ)) :
    R.FitTogether vs ts σ := by
  induction vs generalizing σ ts with
  | nil => exact fun k v t hv => nomatch hv
  | cons w vs ih =>
    obtain ⟨u, hu, h⟩ := Attempt.yields_bind.1 h
    obtain ⟨⟨us, τ'⟩, hrest, h⟩ := Attempt.yields_bind.1 h
    obtain ⟨rfl, rfl⟩ := Prod.mk.inj (Attempt.yields_pure.1 h)
    intro k v t hv ht hconcrete
    cases k with
    | zero =>
      obtain rfl := Option.some.inj hv
      obtain rfl := Option.some.inj ht
      exact satisfies_bindAll (hvs.known _ List.mem_cons_self)
        (List.pairwise_cons.1 hvs.looksBack).1 hu hconcrete
    | succ k => exact ih hvs.tail hrest k v t hv ht hconcrete

/-! ### Members -/

/-- **The type arguments of a member are valid together.** The type parameters of a method or of a
constructor may look back at each other in their bounds. If the member is resolved, its signature has
a type argument for each type parameter and a type for each parameter; and every concrete type
argument may stand for its type parameter under what the receiver, or the constructed type, implies
and all the type arguments. -/
theorem chosen_within_bounds (R : Resolver) :
    (∀ receiver m sig, R.registry.Telescope m.typeParams →
      (R.instantiateMethod receiver m).Yields sig →
      sig.typeArgs.length = m.typeParams.length ∧ sig.params.length = m.params.length ∧
        R.FitTogether m.typeParams sig.typeArgs
          (if m.isStatic then .empty else R.registry.impliedBindings receiver)) ∧
    ∀ owner k sig, R.registry.Telescope k.typeParams →
      (R.instantiateConstructor owner k).Yields sig →
      sig.typeArgs.length = k.typeParams.length ∧ sig.params.length = k.params.length ∧
        ∃ constructed, sig.returnType = some constructed ∧
          R.FitTogether k.typeParams sig.typeArgs (R.registry.impliedBindings constructed) := by
  refine ⟨fun receiver m sig hvs h => ?_, fun owner k sig hvs h => ?_⟩
  · obtain ⟨⟨typeArgs, τ⟩, hchoose, h⟩ := Attempt.yields_bind.1 h
    obtain ⟨params, hparams, h⟩ := Attempt.yields_bind.1 h
    obtain ⟨returnType, -, h⟩ := Attempt.yields_bind.1 h
    obtain rfl := Attempt.yields_pure.1 h
    exact ⟨(eq_bindAll_of_yields hchoose).1, length_of_instantiateAll hparams,
      fitTogether_of_chooseTypeArgs hvs hchoose⟩
  · rw [instantiateConstructor] at h
    split at h
    · exact absurd h Attempt.not_yields_throw
    · obtain ⟨constructed, -, h⟩ := Attempt.yields_bind.1 h
      obtain ⟨⟨typeArgs, τ⟩, hchoose, h⟩ := Attempt.yields_bind.1 h
      obtain ⟨params, hparams, h⟩ := Attempt.yields_bind.1 h
      obtain rfl := Attempt.yields_pure.1 h
      exact ⟨(eq_bindAll_of_yields hchoose).1, length_of_instantiateAll hparams, constructed, rfl,
        fitTogether_of_chooseTypeArgs hvs hchoose⟩

/-- The standard registry with two dependent type parameters: `T` of `sort` lies below the elements
of an iterable besides, and `T` of `singletonList` can be compared with it. -/
def dependent : Registry :=
  (Registry.standard.setBounds ⟨12⟩ [.ofClass ⟨4⟩ [.superOf (.var ⟨12⟩)], .var ⟨1⟩]).setBounds ⟨13⟩
    [.ofClass ⟨4⟩ [.superOf (.var ⟨12⟩)]]

/-- On sets of integers the first type parameter becomes `Integer`, and the second one follows it. -/
theorem chosen_within_bounds_dependent :
    let R : Resolver := { registry := dependent }
    let m : Method :=
      { name := "rank", typeParams := [⟨12⟩, ⟨13⟩], params := [.var ⟨13⟩, .var ⟨12⟩] }
    let receiver : TypeExpr := .ofClass ⟨14⟩ [.raw ⟨8⟩]
    let comparable : TypeExpr := .ofClass ⟨4⟩ [.raw ⟨8⟩]
    R.registry.Telescope m.typeParams ∧
      (R.instantiateMethod receiver m).Yields
        ⟨[.raw ⟨8⟩, comparable], [comparable, .raw ⟨8⟩], none⟩ ∧
      (R.satisfies (.raw ⟨8⟩) (.variable ⟨12⟩) ((R.registry.impliedBindings receiver).bindAll
        [(⟨12⟩, .raw ⟨8⟩), (⟨13⟩, comparable)])).run = some (.ok true) := by
  intro R m receiver comparable
  have htelescope : R.registry.Telescope m.typeParams :=
    ⟨by decide +kernel, by decide +kernel⟩
  have hsig : (R.instantiateMethod receiver m).Yields
      ⟨[.raw ⟨8⟩, comparable], [comparable, .raw ⟨8⟩], none⟩ := by decide +kernel
  obtain ⟨-, -, hfit⟩ := (chosen_within_bounds R).1 receiver m _ htelescope hsig
  exact ⟨htelescope, hsig, hfit 0 ⟨12⟩ (.raw ⟨8⟩) rfl rfl rfl⟩

end Resolver

end Generics
