import Generics.Proofs.Resolution.BoundChecks

/-!
# How a selection ends

A type between bounds is a lower bound, a preferred upper bound, a class of the registry or, for want
of all these, a preferred bound that could not be resolved to the end. What is said about selections
is said about these cases, so the way in which the selection goes through them is inverted here once.
The first thing that is said about them is that a concrete type is never selected unchecked.

## Main definitions

* `Resolver.Refused` — the preferred bound does not fit
* `Resolver.Selected` — how a selection without lower bounds may end
* `Resolver.tries` — what is tried for a class of the registry

## Main results

* `Resolver.searchRegistry_eq` — the search tries one class after the other
* `Resolver.run_selectStep_nil_eq_some_iff` — a selection without lower bounds in terms of its parts
* `Resolver.checkBounds_of_selectStep` — what is selected is checked
* `Resolver.yields_selectStep_congr` — the subject makes no difference to it
-/

namespace Generics

namespace Resolver

variable {R : Resolver} {inst : TypeExpr → Substitution → Attempt TypeExpr}
  {become : TypeExpr → TypeExpr → Option Bool} {subject : TypeExpr} {var : Option VarId}
  {uppers lowers : List TypeExpr} {σ : Substitution} {r : TypeExpr}

/-! ### The checks -/

/-- The final check spares only what is not concrete. -/
theorem checkBounds_of_finalFits {candidate : TypeExpr} {e : Failure}
    (h : ((liftM (R.finalFits become candidate var uppers σ) : Attempt Bool) >>= fun fits =>
      if fits then pure candidate else throw e).Yields r)
    (hr : r.isConcrete = true) : R.checkBounds become r var uppers [] σ = some true := by
  obtain ⟨hfits, h⟩ := Attempt.yields_guard.1 h
  obtain rfl := Attempt.yields_pure.1 h
  rwa [finalFits, if_pos hr] at hfits

/-- A preferred bound that is taken has been checked. -/
theorem checkBounds_of_preferredFits {preferred : Option TypeExpr}
    (h : R.preferredFits become preferred var uppers σ = some true) :
    ∃ t, preferred = some t ∧ R.checkBounds become t var uppers [] σ = some true := by
  cases preferred with
  | none => cases h
  | some t =>
    rw [preferredFits] at h
    split at h
    · exact ⟨t, rfl, h⟩
    · cases h

/-! ### The search -/

/-- What is tried for a class of the registry, the cheap test first. -/
def tries (R : Resolver) (become : TypeExpr → TypeExpr → Option Bool) (var : Option VarId)
    (uppers : List TypeExpr) (σ : Substitution) (c : ClassId) : Option Bool :=
  if R.registry.passesErased uppers c then R.checkBounds become (.raw c) var uppers [] σ
  else some false

theorem searchRegistry_eq (become : TypeExpr → TypeExpr → Option Bool) (var : Option VarId)
    (uppers : List TypeExpr) (σ : Substitution) :
    R.searchRegistry become var uppers σ =
      (R.registry.standIns.findM? (R.tries become var uppers σ)).map (Option.map .raw) := by
  rw [searchRegistry, Option.map_eq_bind]
  rfl

/-- What is found is a class. -/
theorem searchRegistry_eq_some_some_iff :
    R.searchRegistry become var uppers σ = some (some r) ↔
      ∃ c, r = .raw c ∧
        R.registry.standIns.findM? (R.tries become var uppers σ) = some (some c) := by
  rw [searchRegistry_eq]
  constructor
  · intro h
    obtain ⟨found, hfound, hsome⟩ := Option.map_eq_some_iff.1 h
    obtain ⟨c, rfl, rfl⟩ := Option.map_eq_some_iff.1 hsome
    exact ⟨c, rfl, hfound⟩
  · rintro ⟨c, rfl, hfound⟩
    rw [hfound]
    rfl

/-- Nothing is found if every class is turned down. -/
theorem searchRegistry_eq_some_none_iff :
    R.searchRegistry become var uppers σ = some none ↔
      ∀ c ∈ R.registry.standIns, R.tries become var uppers σ c = some false := by
  rw [← findM?_eq_some_none_iff, searchRegistry_eq]
  constructor
  · intro h
    obtain ⟨found, hfound, hnone⟩ := Option.map_eq_some_iff.1 h
    rwa [Option.map_eq_none_iff.1 hnone] at hfound
  · intro h
    rw [h]
    rfl

theorem checkBounds_of_tries {c : ClassId} (h : R.tries become var uppers σ c = some true) :
    R.checkBounds become (.raw c) var uppers [] σ = some true := by
  rw [tries] at h
  split at h
  · exact h
  · cases h

/-- A class of the registry that is found has been checked. -/
theorem checkBounds_of_searchRegistry (h : R.searchRegistry become var uppers σ = some (some r)) :
    R.checkBounds become r var uppers [] σ = some true := by
  obtain ⟨c, rfl, hfound⟩ := searchRegistry_eq_some_some_iff.1 h
  exact checkBounds_of_tries (of_findM?_eq_some hfound).2

/-! ### Selection without lower bounds -/

section Selection

variable (R) (inst) (become) (subject) (var) (uppers) (σ)

/-- The most specific of the resolved bounds, if there is one, does not fit them. -/
def Refused (preferred : Option TypeExpr) : Prop :=
  R.preferredBound inst uppers σ = some preferred ∧
    R.preferredFits become preferred var uppers σ = some false

/-- How a selection without lower bounds may end. -/
inductive Selected : Except Failure TypeExpr → Prop where
  /-- With the most specific bound, which fits. -/
  | preferred {t : TypeExpr} (ht : R.preferredBound inst uppers σ = some (some t))
      (hfits : R.preferredFits become (some t) var uppers σ = some true) : Selected (.ok t)
  /-- With a class that is found in the registry. -/
  | found {preferred : Option TypeExpr} {t : TypeExpr}
      (hrefused : R.Refused inst become var uppers σ preferred)
      (hfound : R.searchRegistry become var uppers σ = some (some t)) : Selected (.ok t)
  /-- With the most specific bound for want of a class, if that bound is not concrete. -/
  | unresolved {t : TypeExpr} (hrefused : R.Refused inst become var uppers σ (some t))
      (hnone : R.searchRegistry become var uppers σ = some none) (ht : t.isConcrete = false) :
      Selected (.ok t)
  /-- With nothing. -/
  | nothing {preferred : Option TypeExpr} (hrefused : R.Refused inst become var uppers σ preferred)
      (hnone : R.searchRegistry become var uppers σ = some none)
      (hconcrete : ∀ t ∈ preferred, t.isConcrete = true) :
      Selected (.error ⟨subject, .noCandidate⟩)

end Selection

/-- **A selection without lower bounds ends in one of four ways,** with `Object` for missing upper
bounds. -/
theorem run_selectStep_nil_eq_some_iff {result : Except Failure TypeExpr} :
    (R.selectStep inst become subject var uppers [] σ).run = some result ↔
      R.Selected inst become subject var (R.registry.orObject uppers) σ result := by
  unfold selectStep
  rw [Attempt.run_bind_liftM_eq_some_iff]
  constructor
  · rintro ⟨preferred, hpreferred, h⟩
    obtain ⟨fits, hfits, h⟩ := Attempt.run_bind_liftM_eq_some_iff.1 h
    cases fits with
    | true =>
      obtain ⟨t, rfl, -⟩ := checkBounds_of_preferredFits hfits
      obtain rfl := Option.some.inj h
      exact .preferred hpreferred hfits
    | false =>
      obtain ⟨found, hfound, h⟩ := Attempt.run_bind_liftM_eq_some_iff.1 h
      cases found with
      | some t =>
        obtain rfl := Option.some.inj h
        exact .found ⟨hpreferred, hfits⟩ hfound
      | none =>
        cases preferred with
        | none =>
          obtain rfl := Option.some.inj h
          exact .nothing ⟨hpreferred, hfits⟩ hfound fun t ht => nomatch ht
        | some t =>
          cases ht : t.isConcrete with
          | true =>
            simp only [ht, if_true] at h
            obtain rfl := Option.some.inj h
            exact .nothing ⟨hpreferred, hfits⟩ hfound fun t' ht' => Option.some.inj ht' ▸ ht
          | false =>
            simp only [ht] at h
            obtain rfl := Option.some.inj h
            exact .unresolved ⟨hpreferred, hfits⟩ hfound ht
  · intro h
    cases h with
    | preferred hpreferred hfits =>
      exact ⟨_, hpreferred, Attempt.run_bind_liftM_eq_some_iff.2 ⟨true, hfits, rfl⟩⟩
    | found hrefused hfound =>
      refine ⟨_, hrefused.1, Attempt.run_bind_liftM_eq_some_iff.2 ⟨false, hrefused.2, ?_⟩⟩
      exact Attempt.run_bind_liftM_eq_some_iff.2 ⟨some _, hfound, rfl⟩
    | unresolved hrefused hnone ht =>
      refine ⟨_, hrefused.1, Attempt.run_bind_liftM_eq_some_iff.2 ⟨false, hrefused.2, ?_⟩⟩
      exact Attempt.run_bind_liftM_eq_some_iff.2 ⟨none, hnone, by simp only [ht]; rfl⟩
    | @nothing preferred hrefused hnone hconcrete =>
      refine ⟨_, hrefused.1, Attempt.run_bind_liftM_eq_some_iff.2 ⟨false, hrefused.2, ?_⟩⟩
      refine Attempt.run_bind_liftM_eq_some_iff.2 ⟨none, hnone, ?_⟩
      cases preferred with
      | none => rfl
      | some t => simp only [hconcrete t rfl]; rfl

/-- What is selected does not depend on what it is selected for. -/
theorem yields_selectStep_congr {subject' : TypeExpr}
    (h : (R.selectStep inst become subject var uppers [] σ).Yields r) :
    (R.selectStep inst become subject' var uppers [] σ).Yields r := by
  refine run_selectStep_nil_eq_some_iff.2 ?_
  cases run_selectStep_nil_eq_some_iff.1 h with
  | preferred ht hfits => exact .preferred ht hfits
  | found hrefused hfound => exact .found hrefused hfound
  | unresolved hrefused hnone ht => exact .unresolved hrefused hnone ht

/-- **Every concrete type that is selected lies within the upper bounds,** whichever way it was
come by. -/
theorem checkBounds_of_selectStep
    (h : (R.selectStep inst become subject var uppers lowers σ).Yields r)
    (hr : r.isConcrete = true) :
    R.checkBounds become r var (R.registry.orObject uppers) [] σ = some true := by
  cases lowers with
  | cons lower ls =>
    unfold selectStep at h
    obtain ⟨candidate, -, h⟩ := Attempt.yields_bind.1 h
    exact checkBounds_of_finalFits h hr
  | nil =>
    cases run_selectStep_nil_eq_some_iff.1 h with
    | preferred ht hfits =>
      obtain ⟨t, hsame, hcheck⟩ := checkBounds_of_preferredFits hfits
      rwa [Option.some.inj hsame]
    | found hrefused hfound => exact checkBounds_of_searchRegistry hfound
    | unresolved hrefused hnone ht =>
      rw [hr] at ht
      cases ht

end Resolver

end Generics
