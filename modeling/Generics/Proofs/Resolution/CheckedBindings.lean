import Generics.Proofs.Assignability.ErasureGate
import Generics.Proofs.Resolution.BoundChecks
import Generics.Proofs.Resolution.MoreBudget
import Generics.Proofs.Resolution.Selection

/-!
# Types that pass for a variable

A bound is checked with the levels that are left where the variable or argument stands, and with
fewer levels less can be asked. For a concrete candidate that makes no difference to a check that is
passed: what is passed with many levels is passed with few. So a type that passes as it does for a
variable on its own passes wherever the variable stands.

A variable that is bound to nothing is left to its bounds. Where these are concrete there is nothing
to be resolved in them, and the first of them is picked if it passes for the others.

## Main definitions

* `Resolver.Passes` — a type passes for a variable; `Resolver.checkedFor` with some budget
* `Resolver.LeftTo` — a variable that is left to concrete bounds

## Main results

* `Resolver.canBecomeAt_of_le`, `Resolver.fitsFormal_of_le` — fewer levels
* `Resolver.passes_iff` — passing is a bound check
* `Resolver.answers_instantiate_of_leftTo` — the first bound is picked
-/

namespace Generics

namespace Resolver

variable {R : Resolver} {σ m : Substitution}

/-! ### Fewer levels -/

/-- A concrete type that can be used with some levels left can be used with fewer. -/
theorem canBecomeAt_of_le {n m : Nat} (hmn : m ≤ n) {u t : TypeExpr} (hu : u.isConcrete = true)
    (h : R.canBecomeAt n u t = some true) : R.canBecomeAt m u t = some true := by
  cases m with
  | zero =>
    rw [canBecomeAt_zero_of_isConcrete hu]
    exact answer_of_canBecomeAt hu h
  | succ m =>
    obtain ⟨n, rfl⟩ : ∃ k, n = k + 1 := ⟨n - 1, by omega⟩
    rw [canBecomeAt_succ_of_isConcrete hu] at h
    rwa [canBecomeAt_succ_of_isConcrete hu]

theorem checkBounds_of_le {n m : Nat} (hmn : m ≤ n) {u : TypeExpr} (hu : u.isConcrete = true)
    {v : VarId} {uppers : List TypeExpr}
    (h : R.checkBounds (R.canBecomeAt n) u (some v) uppers [] σ = some true) :
    R.checkBounds (R.canBecomeAt m) u (some v) uppers [] σ = some true := by
  rw [checkBounds_eq_true_iff] at h ⊢
  intro b hb
  have hbound := h b hb
  split at hbound
  · rename_i hvars
    rw [if_pos hvars]
    exact canBecomeAt_of_le hmn hu hbound
  · rename_i hvars
    rwa [if_neg hvars]

theorem fitsFormal_of_le {n m : Nat} (hmn : m ≤ n) {chosen : Substitution} {formals : List VarId}
    {arg result : TypeExpr} (hresult : result.isConcrete = true)
    (h : R.fitsFormal (R.canBecomeAt n) chosen formals arg result σ = some true) :
    R.fitsFormal (R.canBecomeAt m) chosen formals arg result σ = some true := by
  rw [fitsFormal] at h ⊢
  cases hf : R.knownFormal formals with
  | none => rfl
  | some f =>
    simp only [hf, replacementFits] at h ⊢
    split at h
    · rename_i hnew
      rw [if_pos hnew]
      exact checkBounds_of_le hmn hresult h
    · rename_i hnew
      rw [if_neg hnew]

/-! ### Passing for a variable -/

/-- With enough budget the type passes for the variable, read with the bindings. -/
def Passes (R : Resolver) (u : TypeExpr) (v : VarId) (σ : Substitution) : Prop :=
  Answers (fun n => ((R.withBudget n).satisfies u (.variable v) σ).run) (.ok true)

/-- A concrete type passes for a variable if the variable is declared and its bounds are kept. -/
theorem satisfies_variable_iff {u : TypeExpr} (hu : u.isConcrete = true) {v : VarId} :
    (R.satisfies u (.variable v) σ).run = some (.ok true) ↔
      (R.registry.typeParam? v).isSome = true ∧
        R.checkBounds (R.canBecomeAt (R.levels 1)) u (some v) (R.registry.bounds v) [] σ =
          some true := by
  rw [run_satisfies hu, boundsHold]
  cases hp : R.registry.typeParam? v with
  | none => simp
  | some p => simp [Registry.bounds_of_typeParam? hp]

/-- The check of a bound below a variable, with some budget. -/
def checkedFor (R : Resolver) (u : TypeExpr) (v : VarId) (σ : Substitution) (n : Nat) :
    Option Bool :=
  (R.withBudget n).checkBounds ((R.withBudget n).canBecomeAt (R.levels 1)) u (some v)
    (R.registry.bounds v) [] σ

theorem passes_iff {u : TypeExpr} (hu : u.isConcrete = true) {v : VarId} :
    R.Passes u v σ ↔
      (R.registry.typeParam? v).isSome = true ∧ Answers (R.checkedFor u v σ) true := by
  constructor
  · rintro ⟨N, hN⟩
    exact ⟨((satisfies_variable_iff hu).1 (hN N (Nat.le_refl N))).1, N, fun n hn =>
      ((satisfies_variable_iff hu).1 (hN n hn)).2⟩
  · rintro ⟨hknown, N, hN⟩
    exact ⟨N, fun n hn => (satisfies_variable_iff hu).2 ⟨hknown, hN n hn⟩⟩

/-- A check that is passed with one budget is passed. -/
theorem passes_of_checkedFor {u : TypeExpr} (hu : u.isConcrete = true) {v : VarId}
    (hknown : (R.registry.typeParam? v).isSome = true) {n : Nat}
    (h : R.checkedFor u v σ n = some true) : R.Passes u v σ :=
  (passes_iff hu).2 ⟨hknown, answers_checkBounds hu h⟩

/-- Only the bindings of other variables in the bounds matter. -/
theorem Passes.congr {u : TypeExpr} (hu : u.isConcrete = true) {v : VarId} (h : R.Passes u v m)
    (hread : ∀ b ∈ R.registry.bounds v, ∀ w ∈ b.occurrences, w ≠ v → σ.get? w = m.get? w) :
    R.Passes u v σ := by
  obtain ⟨hknown, N, hN⟩ := (passes_iff hu).1 h
  exact (passes_iff hu).2 ⟨hknown, N, fun n hn => (checkBounds_congr hread).2 (hN n hn)⟩

/-- A type that is assignable to concrete bounds passes. -/
theorem passes_of_isConcrete {u : TypeExpr} (hu : u.isConcrete = true) {v : VarId}
    (hknown : (R.registry.typeParam? v).isSome = true)
    (hbounds : ∀ b ∈ R.registry.bounds v, b.isConcrete = true ∧
      Answers (fun n => (R.withBudget n).isAssignable u b) true) : R.Passes u v σ := by
  refine (passes_iff hu).2 ⟨hknown, ?_⟩
  obtain ⟨N, hN⟩ := eventually_forall_mem fun b hb => (hbounds b hb).2
  refine ⟨N, fun n hn => checkBounds_eq_true_iff.2 fun b hb => ?_⟩
  have hb' : b.isConcrete = true := (hbounds b hb).1
  rw [TypeExpr.substitute_of_isConcrete hb', TypeExpr.hasVars_of_isConcrete hb',
    if_neg Bool.false_ne_true]
  exact hN n hn b hb

/-! ### A variable that is left to its bounds -/

/-- The bindings leave the variable to its bounds, which are concrete, and `u` is the first of them.
-/
structure LeftTo (R : Resolver) (σ : Substitution) (v : VarId) (u : TypeExpr) : Prop where
  /-- The variable is not bound, -/
  unbound : σ.get? v = none
  /-- its first bound is the type, -/
  first : (R.registry.bounds v).head? = some u
  /-- and no bound has to be resolved. -/
  concrete : ∀ b ∈ R.registry.bounds v, b.isConcrete = true

/-- The most specific bound is the first if that is assignable to all others. -/
theorem mostSpecific_eq_head (hN : R.registry.SupertypesNominal) {u : TypeExpr}
    {bs : List TypeExpr} (hconcrete : ∀ b ∈ u :: bs, b.isConcrete = true)
    (h : ∀ b ∈ u :: bs, R.isAssignable u b = some true) :
    R.registry.mostSpecific (u :: bs) = some u := by
  have hu : u.isConcrete = true := hconcrete u List.mem_cons_self
  obtain ⟨e, he, -⟩ := R.registry.exists_erasure_of_isConcrete hu
  refine List.find?_cons_of_pos ?_
  rw [he, Option.any_some, List.all_eq_true]
  intro b hb
  have hgate : R.gate u b = true := gate_of_assignable_concrete hN hu (hconcrete b hb) (h b hb)
  obtain ⟨e', f, he', hf, hraw⟩ := gate_iff.1 hgate
  obtain rfl : e = e' := Option.some.inj (he.symm.trans he')
  rw [hf, Option.any_some]
  exact hraw

/-- Concrete bounds are resolved to themselves, so the most specific of them is preferred. -/
theorem preferredBound_of_isConcrete {uppers : List TypeExpr}
    (h : ∀ b ∈ uppers, b.isConcrete = true) (n : Nat) :
    R.preferredBound (R.instantiateAt n) uppers σ = some (R.registry.mostSpecific uppers) := by
  have hpure : (uppers.mapM fun b => R.instantiateAt n b σ) = pure uppers := by
    induction uppers with
    | nil => rfl
    | cons b bs ih =>
      rw [List.mapM_cons, instantiateAt_of_isConcrete (h b List.mem_cons_self), pure_bind,
        ih fun b' hb' => h b' (List.mem_cons_of_mem _ hb'), pure_bind]
  rw [preferredBound, hpure]
  rfl

/-- A variable that is left to its bounds is resolved to the first of them, if that passes. -/
theorem yields_of_leftTo (hN : R.registry.SupertypesNominal) {n : Nat} {v : VarId} {u : TypeExpr}
    {become : TypeExpr → TypeExpr → Option Bool} (hleft : R.LeftTo σ v u)
    (hcheck : R.checkBounds become u (some v) (R.registry.bounds v) [] σ = some true) :
    (R.instantiateVarStep (R.instantiateAt n) become v σ).Yields u := by
  obtain ⟨hunbound, hfirst, hconcrete⟩ := hleft
  cases hp : R.registry.typeParam? v with
  | none => simp [Registry.bounds, hp] at hfirst
  | some p =>
    rw [Registry.bounds_of_typeParam? hp] at hfirst hconcrete hcheck
    obtain ⟨bs, hbs⟩ := List.head?_eq_some_iff.1 hfirst
    have hnonempty : R.registry.orObject p.bounds = p.bounds :=
      Registry.orObject_of_ne_nil (by rw [hbs]; exact List.cons_ne_nil u bs)
    have hpreferred : R.preferredBound (R.instantiateAt n) p.bounds σ = some (some u) := by
      have hassign := ((checkBounds_concrete_iff hconcrete fun l hl =>
        absurd hl List.not_mem_nil).1 hcheck).1
      rw [preferredBound_of_isConcrete hconcrete]
      rw [hbs] at hconcrete hassign ⊢
      rw [mostSpecific_eq_head hN hconcrete hassign]
    have hfits : R.preferredFits become (some u) (some v) p.bounds σ = some true := by
      have hu : u.isConcrete = true := hconcrete u (hbs ▸ List.mem_cons_self)
      show (if u.isConcrete then _ else _) = some true
      rw [if_pos hu, hcheck]
    simp only [instantiateVarStep, hp, hunbound, Option.filter_none]
    refine run_selectStep_nil_eq_some_iff.2 (.preferred ?_ ?_)
    · rwa [hnonempty]
    · rwa [hnonempty]

/-- **The first of concrete bounds is picked** at every depth that is entered, if it is assignable
to the others. -/
theorem answers_instantiate_of_leftTo (hN : R.registry.SupertypesNominal) {v : VarId} {u : TypeExpr}
    (hleft : R.LeftTo σ v u)
    (hbounds : ∀ b ∈ R.registry.bounds v,
      Answers (fun n => (R.withBudget n).isAssignable u b) true)
    {depth : Nat} (hdepth : depth ≤ R.maxDepth) :
    Answers (fun n => ((R.withBudget n).instantiate (.var v) σ depth).run) (.ok u) := by
  obtain ⟨N, hN'⟩ := eventually_forall_mem hbounds
  refine ⟨N, fun n hn => ?_⟩
  have hleft' : (R.withBudget n).LeftTo σ v u := ⟨hleft.unbound, hleft.first, hleft.concrete⟩
  have hcheck : (R.withBudget n).checkBounds ((R.withBudget n).canBecomeAt (R.levels (depth + 1))) u
      (some v) (R.registry.bounds v) [] σ = some true :=
    (checkBounds_concrete_iff hleft.concrete fun l hl => absurd hl List.not_mem_nil).2
      ⟨fun b hb => hN' n hn b hb, fun l hl => absurd hl List.not_mem_nil⟩
  show ((R.withBudget n).instantiate (.var v) σ depth).Yields u
  rw [instantiate_of_le (R := R.withBudget n) hdepth]
  exact yields_of_leftTo (R := R.withBudget n) hN hleft' hcheck

end Resolver

end Generics
