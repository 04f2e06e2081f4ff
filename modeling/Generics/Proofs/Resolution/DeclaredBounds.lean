import Generics.Proofs.Resolution.Concrete
import Generics.Proofs.Resolution.Selection
import Generics.Registry.Standard

/-!
# Variables stay within their declared bounds

What takes the place of a variable may be its binding, its binding resolved further, one of its
bounds, or a class that is found in the registry. Each of them is returned after a check, and the
check is the one that decides whether a type may stand for the variable; only a type that is not
concrete is returned unchecked. So whatever concrete type comes out would have been accepted if it
had been offered, and a binding that would not have been accepted is turned down.

The check compares a candidate with the bounds as they read when the candidate is put in. A bound in
which variables are left is asked the question of use, but for a concrete candidate that question
is answered by assignability, so in every case the result lies below the declared bounds. What the
variable was resolved against makes no difference to that.

## Main results

* `Resolver.checkBounds_of_instantiateVarStep` — what a variable is resolved to is checked
* `Resolver.run_instantiateVarStep_of_refused` — a binding outside the bounds is an error
* `Resolver.isAssignable_of_checkBounds_concrete` — what passes lies below the bounds
* `Resolver.instantiate_var_within_bounds`
-/

namespace Generics

namespace Resolver

variable {R : Resolver} {become : TypeExpr → TypeExpr → Option Bool}
  {inst : TypeExpr → Substitution → Attempt TypeExpr} {uppers : List TypeExpr} {σ : Substitution}
  {v : VarId} {p : TypeParam} {r : TypeExpr}

/-! ### What a variable is resolved to -/

/-- What is selected below `Object` where there are no bounds passes for the bounds as declared. -/
theorem checkBounds_of_orObject
    (h : R.checkBounds become r (some v) (R.registry.orObject uppers) [] σ = some true) :
    R.checkBounds become r (some v) uppers [] σ = some true := by
  cases uppers with
  | nil => exact checkBounds_eq_true_iff.2 fun b hb => absurd hb List.not_mem_nil
  | cons u us => exact h

/-- **A concrete type that a variable is resolved to passes for its bounds.** -/
theorem checkBounds_of_instantiateVarStep (hp : R.registry.typeParam? v = some p)
    (h : (R.instantiateVarStep inst become v σ).Yields r) (hr : r.isConcrete = true) :
    R.checkBounds become r (some v) p.bounds [] σ = some true := by
  rw [instantiateVarStep, hp] at h
  cases hvalue : (σ.get? v).filter (· != .var v) with
  | none =>
    simp only [hvalue] at h
    exact checkBounds_of_orObject (checkBounds_of_selectStep h hr)
  | some value =>
    simp only [hvalue] at h
    split at h
    · exact checkBounds_of_finalFits h hr
    · obtain ⟨candidate, -, h⟩ := Attempt.yields_bind.1 h
      exact checkBounds_of_finalFits h hr

/-- A concrete binding that does not pass for the bounds of its variable is an error. -/
theorem run_instantiateVarStep_of_refused (hp : R.registry.typeParam? v = some p) {c : TypeExpr}
    (hv : σ.get? v = some c) (hc : c.isConcrete = true)
    (h : R.checkBounds become c (some v) p.bounds [] σ = some false) :
    (R.instantiateVarStep inst become v σ).run = some (.error ⟨.var v, .boundViolation⟩) := by
  rw [instantiateVarStep_of_isConcrete hp hv hc, h]
  rfl

/-! ### Below the bounds -/

/-- A concrete type that passes is assignable to every bound, read with the type put in for its
variable. -/
theorem isAssignable_of_checkBounds_concrete {n : Nat} (hr : r.isConcrete = true)
    (h : R.checkBounds (R.canBecomeAt n) r (some v) uppers [] σ = some true) :
    ∀ b ∈ uppers, R.isAssignable r (b.substitute (σ.bind v r)) = some true := by
  intro b hb
  have hbound := checkBounds_eq_true_iff.1 h b hb
  split at hbound
  · exact isAssignable_of_canBecomeAt hr hbound
  · exact hbound

/-- **A variable is resolved within its declared bounds,** whatever the bindings: a concrete result
may stand for the variable, and a concrete binding that may not is turned down. In particular a
variable that is resolved against some target stays below its own bounds, however far above them the
target lies. -/
theorem instantiate_var_within_bounds (R : Resolver) {v : VarId} {p : TypeParam}
    (hp : R.registry.typeParam? v = some p) :
    (∀ σ r, (R.instantiate (.var v) σ).Yields r → r.isConcrete = true →
      (R.satisfies r (.variable v) σ).run = some (.ok true)) ∧
    (∀ σ c, σ.get? v = some c → c.isConcrete = true →
      (R.satisfies c (.variable v) σ).run = some (.ok false) →
      (R.instantiate (.var v) σ).run = some (.error ⟨.var v, .boundViolation⟩)) ∧
    ∀ target σ r, R.context (.var v) target = some σ → (R.instantiate (.var v) σ).Yields r →
      r.isConcrete = true → ∀ b ∈ p.bounds,
        R.isAssignable r (b.substitute (σ.bind v r)) = some true := by
  -- one level is spent on the variable, so its bounds are checked with the levels below
  have hstep : ∀ σ, R.instantiate (.var v) σ = R.instantiateVarStep
      (R.instantiateAt (R.levels 1)) (R.canBecomeAt (R.levels 1)) v σ := fun _ => rfl
  have hcheck : ∀ σ r, (R.instantiate (.var v) σ).Yields r → r.isConcrete = true →
      R.checkBounds (R.canBecomeAt (R.levels 1)) r (some v) p.bounds [] σ = some true := by
    intro σ r h hr
    rw [hstep] at h
    exact checkBounds_of_instantiateVarStep hp h hr
  refine ⟨fun σ r h hr => ?_, fun σ c hv hc hrefused => ?_, fun target σ r _ h hr => ?_⟩
  · rw [run_satisfies_variable hr hp, hcheck σ r h hr]
    rfl
  · rw [run_satisfies_variable hc hp] at hrefused
    obtain ⟨fits, hfits, hfalse⟩ := Option.map_eq_some_iff.1 hrefused
    obtain rfl := Except.ok.inj hfalse
    rw [hstep]
    exact run_instantiateVarStep_of_refused hp hv hc hfits
  · exact isAssignable_of_checkBounds_concrete hr (hcheck σ r h hr)

/-- On the standard registry the variable of `sort`, which is bounded by `Comparable<? super T>`, is
resolved against `Object` to `Boolean`, the first class that is comparable with itself. If it is
bound to `Serializable` it cannot be resolved. -/
theorem instantiate_var_within_bounds_sort :
    let R : Resolver := { registry := Registry.standard }
    let p : TypeParam :=
      { name := "T", owner := .ofMethod ⟨20⟩ "sort" 1,
        bounds := [.app ⟨4⟩ [.wildcard [] [.var ⟨12⟩]] none] }
    let serializable : Substitution := .bind .empty ⟨12⟩ (.raw ⟨1⟩)
    R.registry.typeParam? ⟨12⟩ = some p ∧ R.context (.var ⟨12⟩) (.raw ⟨0⟩) = some .empty ∧
      (R.instantiate (.var ⟨12⟩) .empty).Yields (.raw ⟨5⟩) ∧
      (R.satisfies (.raw ⟨5⟩) (.variable ⟨12⟩) .empty).run = some (.ok true) ∧
      R.isAssignable (.raw ⟨5⟩) (.app ⟨4⟩ [.wildcard [] [.raw ⟨5⟩]] none) = some true ∧
      (R.satisfies (.raw ⟨1⟩) (.variable ⟨12⟩) serializable).run = some (.ok false) ∧
      (R.instantiate (.var ⟨12⟩) serializable).run =
        some (.error ⟨.var ⟨12⟩, .boundViolation⟩) := by
  intro R p serializable
  have hp : R.registry.typeParam? ⟨12⟩ = some p := by decide +kernel
  have hcontext : R.context (.var ⟨12⟩) (.raw ⟨0⟩) = some .empty := by decide +kernel
  have hyields : (R.instantiate (.var ⟨12⟩) .empty).Yields (.raw ⟨5⟩) := by decide +kernel
  have hrefused : (R.satisfies (.raw ⟨1⟩) (.variable ⟨12⟩) serializable).run =
      some (.ok false) := by
    have hcheck : R.checkBounds (R.canBecomeAt (R.levels 1)) (.raw ⟨1⟩) (some ⟨12⟩) p.bounds []
        serializable = some false := by decide +kernel
    rw [run_satisfies_variable rfl hp, hcheck]
    rfl
  have hbinds : serializable.get? ⟨12⟩ = some (.raw ⟨1⟩) := by decide
  have hbound : TypeExpr.substitute (.bind .empty ⟨12⟩ (.raw ⟨5⟩))
      (.app ⟨4⟩ [.wildcard [] [.var ⟨12⟩]] none) =
        .app ⟨4⟩ [.wildcard [] [.raw ⟨5⟩]] none := by decide
  obtain ⟨hpasses, herror, hbelow⟩ := instantiate_var_within_bounds R hp
  have hassign := hbelow _ _ _ hcontext hyields rfl _ List.mem_cons_self
  rw [hbound] at hassign
  exact ⟨hp, hcontext, hyields, hpasses _ _ hyields rfl, hassign, hrefused,
    herror _ _ hbinds rfl hrefused⟩

end Resolver

end Generics
