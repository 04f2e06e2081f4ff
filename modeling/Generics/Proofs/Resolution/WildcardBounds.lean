import Generics.Proofs.Resolution.RegistrySearch

/-!
# A wildcard with concrete bounds

A lower bound settles what a wildcard is resolved to. If there is one, the first of them is taken as
it is and compared with the upper bounds; the lower bounds behind it are not looked at. Without lower
bounds one of the upper bounds or a class of the registry is taken. In both cases the result is
concrete and lies below every upper bound, and with at most one lower bound it lies above that, being
the bound itself. The check of a candidate asks for more: every lower bound must be assignable to the
candidate. With several lower bounds the result may therefore fail its own check, and it passes
exactly if the bounds that were not looked at are assignable to the one that was taken.

## Main results

* `Resolver.isConcrete_of_selectStep`, `Resolver.eq_head?_of_selectStep` — what is selected
* `Resolver.instantiate_wildcard_within_bounds`
* `Resolver.instantiate_wildcard_above_first_only` — a second lower bound that is violated
-/

namespace Generics

namespace Resolver

variable {R : Resolver} {become : TypeExpr → TypeExpr → Option Bool} {var : Option VarId}
  {uppers lowers : List TypeExpr} {σ : Substitution} {n : Nat} {r subject : TypeExpr}

/-! ### What is selected -/

theorem isConcrete_of_mem_orObject (huppers : ∀ u ∈ uppers, u.isConcrete = true) :
    ∀ u ∈ R.registry.orObject uppers, u.isConcrete = true := by
  intro u hu
  rcases Registry.mem_orObject hu with rfl | hmem
  · rfl
  · exact huppers u hmem

/-- A first lower bound is what is selected. -/
theorem eq_head?_of_selectStep (hlowers : ∀ l ∈ lowers, l.isConcrete = true)
    (h : (R.selectStep (R.instantiateAt n) become subject var uppers lowers σ).Yields r) :
    ∀ l ∈ lowers.head?, r = l := by
  intro l hl
  obtain ⟨ls, rfl⟩ := List.head?_eq_some_iff.1 hl
  unfold selectStep at h
  simp only [instantiateAt_of_isConcrete (hlowers l List.mem_cons_self), pure_bind] at h
  obtain ⟨-, h⟩ := Attempt.yields_guard.1 h
  exact (Attempt.yields_pure.1 h).symm

/-- Between concrete bounds a concrete type is selected. -/
theorem isConcrete_of_selectStep (huppers : ∀ u ∈ uppers, u.isConcrete = true)
    (hlowers : ∀ l ∈ lowers, l.isConcrete = true)
    (h : (R.selectStep (R.instantiateAt n) become subject var uppers lowers σ).Yields r) :
    r.isConcrete = true := by
  cases lowers with
  | cons l ls =>
    rw [eq_head?_of_selectStep hlowers h l rfl]
    exact hlowers l List.mem_cons_self
  | nil =>
    -- whatever is preferred is one of the bounds
    have hbound : ∀ t, R.preferredBound (R.instantiateAt n) (R.registry.orObject uppers) σ =
        some (some t) → t.isConcrete = true := by
      intro t ht
      have hconcrete := isConcrete_of_mem_orObject (R := R) huppers
      rw [preferredBound_of_isConcrete hconcrete] at ht
      exact hconcrete t (List.mem_of_find?_eq_some (Option.some.inj ht))
    cases run_selectStep_nil_eq_some_iff.1 h with
    | preferred ht hfits => exact hbound _ ht
    | found hrefused hfound =>
      obtain ⟨c, rfl, -⟩ := searchRegistry_eq_some_some_iff.1 hfound
      rfl
    | unresolved hrefused hnone ht => exact hbound _ hrefused.1

/-! ### The result and the bounds -/

/-- A concrete type below the upper bounds of a wildcard that is its first lower bound passes the
check of the wildcard if it is above the other lower bounds. -/
theorem satisfies_wildcard_iff (hr : r.isConcrete = true)
    (huppers : ∀ u ∈ uppers, u.isConcrete = true) (hlowers : ∀ l ∈ lowers, l.isConcrete = true)
    (hbelow : ∀ u ∈ uppers, R.isAssignable r u = some true)
    (hself : R.isAssignable r r = some true) (hfirst : ∀ l ∈ lowers.head?, r = l) :
    (R.satisfies r (.wildcard uppers lowers) σ).run = some (.ok true) ↔
      ∀ l ∈ lowers.tail, R.isAssignable l r = some true := by
  rw [run_satisfies hr, Option.map_eq_some_iff]
  simp only [Except.ok.injEq, exists_eq_right, boundsHold]
  rw [checkBounds_concrete_iff huppers hlowers]
  cases lowers with
  | nil => exact ⟨fun _ l hl => absurd hl List.not_mem_nil, fun _ => ⟨hbelow, fun l hl =>
      absurd hl List.not_mem_nil⟩⟩
  | cons l ls =>
    obtain rfl : r = l := hfirst l rfl
    rw [List.forall_mem_cons, List.tail_cons]
    exact ⟨fun h => h.2.2, fun h => ⟨hbelow, hself, h⟩⟩

/-- **A wildcard with concrete bounds is resolved to a concrete type below all its upper bounds,**
and to its first lower bound if it has one. The result passes the check of the wildcard exactly if the
other lower bounds are assignable to it, so always if there is at most one lower bound. -/
theorem instantiate_wildcard_within_bounds (R : Resolver) {us ls : List TypeExpr}
    (hus : ∀ u ∈ us, u.isConcrete = true) (hls : ∀ l ∈ ls, l.isConcrete = true) {σ : Substitution}
    {r : TypeExpr} (h : (R.instantiate (.wildcard us ls) σ).Yields r) :
    r.isConcrete = true ∧ (∀ u ∈ us, R.isAssignable r u = some true) ∧ (∀ l ∈ ls.head?, r = l) ∧
      ((R.satisfies r (.wildcard us ls) σ).run = some (.ok true) ↔
        ∀ l ∈ ls.tail, R.isAssignable l r = some true) := by
  have hselect : (R.selectStep (R.instantiateAt (R.levels 1)) (R.canBecomeAt (R.levels 1))
      (.wildcard us ls) none us ls σ).Yields r := h
  have hr := isConcrete_of_selectStep hus hls hselect
  have hfirst := eq_head?_of_selectStep hls hselect
  have hbelow := ((checkBounds_concrete_iff (isConcrete_of_mem_orObject hus)
    fun l hl => absurd hl List.not_mem_nil).1 (checkBounds_of_selectStep hselect hr)).1
  have hupper : ∀ u ∈ us, R.isAssignable r u = some true := by
    intro u hu
    refine hbelow u ?_
    rwa [Registry.orObject_of_ne_nil (List.ne_nil_of_mem hu)]
  have hself : R.isAssignable r r = some true := by
    obtain ⟨u, us', hobject⟩ := List.exists_cons_of_ne_nil (R.registry.orObject_ne_nil us)
    exact isAssignable_self_of_answer (hbelow u (hobject ▸ List.mem_cons_self)) r
  exact ⟨hr, hupper, hfirst, satisfies_wildcard_iff hr hus hls hupper hself hfirst⟩

/-- On the standard registry `? extends Serializable super Integer` is resolved to `Integer`, which
passes the check. -/
theorem instantiate_wildcard_within_bounds_integer :
    let R : Resolver := { registry := Registry.standard }
    (∀ u ∈ [TypeExpr.raw ⟨1⟩], u.isConcrete = true) ∧
      (∀ l ∈ [TypeExpr.raw ⟨8⟩], l.isConcrete = true) ∧
      (R.instantiate (.wildcard [.raw ⟨1⟩] [.raw ⟨8⟩]) .empty).Yields (.raw ⟨8⟩) ∧
      R.isAssignable (.raw ⟨8⟩) (.raw ⟨1⟩) = some true ∧
      (R.satisfies (.raw ⟨8⟩) (.wildcard [.raw ⟨1⟩] [.raw ⟨8⟩]) .empty).run = some (.ok true) := by
  intro R
  have hus : ∀ u ∈ [TypeExpr.raw ⟨1⟩], u.isConcrete = true := by decide
  have hls : ∀ l ∈ [TypeExpr.raw ⟨8⟩], l.isConcrete = true := by decide
  have hyields : (R.instantiate (.wildcard [.raw ⟨1⟩] [.raw ⟨8⟩]) .empty).Yields (.raw ⟨8⟩) := by
    decide +kernel
  obtain ⟨-, hbelow, -, hpasses⟩ := instantiate_wildcard_within_bounds R hus hls hyields
  exact ⟨hus, hls, hyields, hbelow _ List.mem_cons_self,
    hpasses.2 fun l hl => absurd hl List.not_mem_nil⟩

/-- `? super String & Integer` is resolved to `String`, to which `Integer` is not assignable, so the
result fails the check of the wildcard. -/
theorem instantiate_wildcard_above_first_only :
    let R : Resolver := { registry := Registry.standard }
    (∀ l ∈ [TypeExpr.raw ⟨10⟩, .raw ⟨8⟩], l.isConcrete = true) ∧
      (R.instantiate (.wildcard [] [.raw ⟨10⟩, .raw ⟨8⟩]) .empty).Yields (.raw ⟨10⟩) ∧
      R.isAssignable (.raw ⟨8⟩) (.raw ⟨10⟩) = some false ∧
      (R.satisfies (.raw ⟨10⟩) (.wildcard [] [.raw ⟨10⟩, .raw ⟨8⟩]) .empty).run =
        some (.ok false) := by
  intro R
  refine ⟨by decide, by decide +kernel, by decide +kernel, ?_⟩
  rw [run_satisfies rfl]
  decide +kernel

end Resolver

end Generics
