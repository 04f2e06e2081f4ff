import Generics.Proofs.Resolution.Arguments
import Generics.Proofs.Resolution.ConcreteSources

/-!
# One level of resolution with other helpers

One level of resolution takes what it needs of the level below as arguments, and it asks whether types
are assignable. Where those compare, the level compares as a whole; it may be that the helpers differ,
or the budget, or both. What a candidate can become is asked for concrete candidates only, so it is
enough that the answers to that question compare for concrete sources.

## Main definitions

* `Resolver.HelpersCompare` — what one level takes of the level below, compared

## Main results

* `Resolver.checkBounds_rel`
* `Resolver.instantiateStep_rel`, `Resolver.selectStep_rel`
-/

namespace Generics

namespace Resolver

/-- The helpers of one level compare with those of another one, which has the budget `b`. -/
structure HelpersCompare (C : Comparison) (R : Resolver) (b : Nat)
    (inst inst' : TypeExpr → Substitution → Attempt TypeExpr)
    (select select' : TypeExpr → List TypeExpr → List TypeExpr → Substitution → Attempt TypeExpr)
    (become become' : TypeExpr → TypeExpr → Option Bool) : Prop where
  /-- Assignability is answered alike. -/
  assign : ∀ s t, C.rel (R.isAssignable s t) ((R.withBudget b).isAssignable s t)
  /-- Parts are resolved alike. -/
  inst : ∀ t σ, C.rel (inst t σ).run (inst' t σ).run
  /-- Wildcards are resolved alike. -/
  select : ∀ s us ls σ, C.rel (select s us ls σ).run (select' s us ls σ).run
  /-- What a concrete type can become is answered alike. -/
  become : ∀ s t, s.isConcrete = true → C.rel (become s t) (become' s t)

section

variable {R : Resolver} {C : Comparison} {b : Nat}
  {inst inst' : TypeExpr → Substitution → Attempt TypeExpr}
  {select select' : TypeExpr → List TypeExpr → List TypeExpr → Substitution → Attempt TypeExpr}
  {become become' : TypeExpr → TypeExpr → Option Bool}
  (H : HelpersCompare C R b inst inst' select select' become become')

include H

/-! ### Bounds and candidates -/

theorem checkBounds_rel {candidate : TypeExpr} (hc : candidate.isConcrete = true)
    (var : Option VarId) (uppers lowers : List TypeExpr) (σ : Substitution) :
    C.rel (R.checkBounds become candidate var uppers lowers σ)
      ((R.withBudget b).checkBounds become' candidate var uppers lowers σ) := by
  unfold checkBounds
  refine C.bind (C.allM fun u _ => ?_) fun below => ?_
  · dsimp only
    generalize TypeExpr.substitute _ u = bound
    split
    · exact H.become _ _ hc
    · exact H.assign _ _
  · split
    · exact C.allM fun l _ => H.assign _ _
    · exact C.refl _

theorem finalFits_rel (candidate : TypeExpr) (var : Option VarId) (uppers : List TypeExpr)
    (σ : Substitution) :
    C.rel (R.finalFits become candidate var uppers σ)
      ((R.withBudget b).finalFits become' candidate var uppers σ) := by
  rw [finalFits, finalFits]
  split
  · exact checkBounds_rel H ‹_› var uppers [] σ
  · exact C.refl _

theorem preferredFits_rel (preferred : Option TypeExpr) (var : Option VarId)
    (uppers : List TypeExpr) (σ : Substitution) :
    C.rel (R.preferredFits become preferred var uppers σ)
      ((R.withBudget b).preferredFits become' preferred var uppers σ) := by
  unfold preferredFits
  split
  · split
    · exact checkBounds_rel H ‹_› var uppers [] σ
    · exact C.refl _
  · exact C.refl _

theorem searchRegistry_rel (var : Option VarId) (uppers : List TypeExpr) (σ : Substitution) :
    C.rel (R.searchRegistry become var uppers σ)
      ((R.withBudget b).searchRegistry become' var uppers σ) := by
  refine C.bind (C.findM? fun c _ => ?_) fun found => C.refl _
  rw [registry_withBudget]
  split
  · exact checkBounds_rel H rfl var uppers [] σ
  · exact C.refl _

theorem preferredBound_rel (uppers : List TypeExpr) (σ : Substitution) :
    C.rel (R.preferredBound inst uppers σ) ((R.withBudget b).preferredBound inst' uppers σ) := by
  have hmap : ∀ (R' : Resolver) (i : TypeExpr → Substitution → Attempt TypeExpr),
      R'.preferredBound i uppers σ = (uppers.mapM fun u => i u σ).run.map fun r => match r with
        | .error _ => none
        | .ok bounds => R'.registry.mostSpecific bounds := by
    intro R' i
    rw [preferredBound]
    cases (uppers.mapM fun u => i u σ).run with
    | none => rfl
    | some r => cases r <;> rfl
  rw [hmap, hmap]
  exact C.map _ (C.mapM fun u _ => H.inst u σ)

/-! ### One level -/

theorem selectStep_rel (subject : TypeExpr) (var : Option VarId) (uppers lowers : List TypeExpr)
    (σ : Substitution) :
    C.rel (R.selectStep inst become subject var uppers lowers σ).run
      ((R.withBudget b).selectStep inst' become' subject var uppers lowers σ).run := by
  unfold selectStep
  cases lowers with
  | cons lower lowers =>
    exact C.bindAttempt (H.inst lower σ) fun candidate =>
      C.liftAttempt (finalFits_rel H candidate var _ σ) fun fits => C.refl _
  | nil =>
    refine C.liftAttempt (preferredBound_rel H _ σ) fun preferred =>
      C.liftAttempt (preferredFits_rel H preferred var _ σ) fun fits => ?_
    split
    · exact C.refl _
    · exact C.liftAttempt (searchRegistry_rel H var _ σ) fun found => C.refl _

theorem instantiateVarStep_rel (v : VarId) (σ : Substitution) :
    C.rel (R.instantiateVarStep inst become v σ).run
      ((R.withBudget b).instantiateVarStep inst' become' v σ).run := by
  rw [instantiateVarStep, instantiateVarStep, registry_withBudget]
  split
  · exact C.refl _
  · split
    · exact selectStep_rel H _ _ _ _ σ
    · dsimp only
      split
      · exact C.bindAttempt (C.refl _) fun candidate =>
          C.liftAttempt (finalFits_rel H candidate _ _ σ) fun fits => C.refl _
      · exact C.bindAttempt (H.inst _ σ) fun candidate =>
          C.liftAttempt (finalFits_rel H candidate _ _ σ) fun fits => C.refl _

theorem fitsFormal_rel (chosen : Substitution) (formals : List VarId) (arg result : TypeExpr)
    (σ : Substitution) :
    C.rel (R.fitsFormal become chosen formals arg result σ)
      ((R.withBudget b).fitsFormal become' chosen formals arg result σ) := by
  unfold fitsFormal replacementFits
  rw [knownFormal_withBudget, seenBounds_withBudget]
  split
  · exact C.refl _
  · split
    · rename_i h
      exact checkBounds_rel H (Bool.and_eq_true .. ▸ h).2 _ _ _ σ
    · exact C.refl _

theorem resolveArg_rel (bounds : List TypeExpr) (arg : TypeExpr) (σ : Substitution) :
    C.rel (resolveArg inst select bounds arg σ).run
      (resolveArg inst' select' bounds arg σ).run := by
  unfold resolveArg
  split
  · exact H.select _ _ _ σ
  · exact H.inst _ σ

theorem instantiateArgs_rel (subject : TypeExpr) (σ chosen : Substitution) (formals : List VarId)
    (args : List TypeExpr) :
    C.rel (R.instantiateArgs inst select become subject σ chosen formals args).run
      ((R.withBudget b).instantiateArgs inst' select' become' subject σ chosen formals args).run := by
  induction args generalizing chosen formals with
  | nil => exact C.refl _
  | cons arg args ih =>
    rw [instantiateArgs_cons, instantiateArgs_cons]
    refine C.bindAttempt (resolveArg_rel H _ arg σ) fun result =>
      C.liftAttempt (fitsFormal_rel H chosen formals arg result σ) fun fits => ?_
    split
    · exact C.bindAttempt (ih _ _) fun rest => C.refl _
    · exact C.refl _

/-- **Levels compare as their helpers do.** -/
theorem instantiateStep_rel (t : TypeExpr) (σ : Substitution) :
    C.rel (R.instantiateStep inst select become t σ).run
      ((R.withBudget b).instantiateStep inst' select' become' t σ).run := by
  cases t with
  | raw c => exact C.refl _
  | app c args owner =>
    refine C.bindAttempt (instantiateArgs_rel H _ σ _ _ args) fun args' => ?_
    cases owner with
    | none => exact C.refl _
    | some o => exact C.bindAttempt (H.inst o σ) fun o' => C.refl _
  | wildcard us ls => exact selectStep_rel H _ _ us ls σ
  | var v => exact instantiateVarStep_rel H v σ
  | array elem => exact C.bindAttempt (H.inst elem σ) fun elem' => C.refl _

end

end Resolver

end Generics
