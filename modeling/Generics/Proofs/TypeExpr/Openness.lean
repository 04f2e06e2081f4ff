import Generics.Proofs.Substitution.Ground

/-!
# What is open in an expression

Three tests look for what still has to be bound: variables, wildcards, or either of the two. They differ in
one place. Looking for anything open, a wildcard settles the matter whatever its bounds are; looking for
variables, the bounds have to be searched. Where there is a wildcard the first test says yes anyway, so the
tests agree.

The variables are those on which the expression depends: a variable is free exactly if binding it, and
nothing else, can change the expression. This is the case of one variable of a more general rule: two
substitutions act alike on an expression exactly if they act alike on each of its variables.

## Main definitions

* `TypeExpr.collectVars` — variables gathered in one walk, behind those that were met already

## Main results

* `TypeExpr.isOpen_eq` — open is what has variables or wildcards
* `TypeExpr.collectVars_app`, `TypeExpr.collectVars_wildcard` — the walk goes on from part to part
* `TypeExpr.substitute_eq_substitute_iff` — when two substitutions act alike
* `TypeExpr.mem_freeVars_iff_exists` — the free variables are those that matter
* `TypeExpr.openness_agrees`
-/

namespace Generics

namespace TypeExpr

/-! ### The tests -/

theorem isOpen_app_iff {c : ClassId} {args : List TypeExpr} {owner : Option TypeExpr} :
    (app c args owner).isOpen = true ↔
      (∃ a ∈ args, a.isOpen = true) ∨ ∃ o ∈ owner, o.isOpen = true := by
  rw [isOpen_app, Bool.or_eq_true, List.any_eq_true, Option.any_eq_true]
  rfl

theorem hasVars_app_iff {c : ClassId} {args : List TypeExpr} {owner : Option TypeExpr} :
    (app c args owner).hasVars = true ↔
      (∃ a ∈ args, a.hasVars = true) ∨ ∃ o ∈ owner, o.hasVars = true := by
  rw [hasVars_app, Bool.or_eq_true, List.any_eq_true, Option.any_eq_true]
  rfl

theorem hasWildcards_app_iff {c : ClassId} {args : List TypeExpr} {owner : Option TypeExpr} :
    (app c args owner).hasWildcards = true ↔
      (∃ a ∈ args, a.hasWildcards = true) ∨ ∃ o ∈ owner, o.hasWildcards = true := by
  rw [hasWildcards_app, Bool.or_eq_true, List.any_eq_true, Option.any_eq_true]
  rfl

theorem isOpen_iff (t : TypeExpr) :
    t.isOpen = true ↔ t.hasVars = true ∨ t.hasWildcards = true := by
  induction t with
  | raw c => simp
  | app c args owner ihArgs ihOwner =>
    have hargs : (∃ a ∈ args, a.isOpen = true) ↔
        (∃ a ∈ args, a.hasVars = true) ∨ ∃ a ∈ args, a.hasWildcards = true := by
      rw [← exists_or]
      exact exists_congr fun a => (and_congr_right fun ha => ihArgs a ha).trans and_or_left
    have howner : (∃ o ∈ owner, o.isOpen = true) ↔
        (∃ o ∈ owner, o.hasVars = true) ∨ ∃ o ∈ owner, o.hasWildcards = true := by
      rw [← exists_or]
      exact exists_congr fun o => (and_congr_right fun ho => ihOwner o ho).trans and_or_left
    rw [isOpen_app_iff, hasVars_app_iff, hasWildcards_app_iff, hargs, howner]
    exact or_or_or_comm
  | wildcard us ls => exact iff_of_true (isOpen_wildcard us ls) (Or.inr (hasWildcards_wildcard us ls))
  | var v => exact iff_of_true (isOpen_var v) (Or.inl (hasVars_var v))
  | array elem ih => exact ih

/-- Open is what has variables or wildcards. -/
theorem isOpen_eq (t : TypeExpr) : t.isOpen = (t.hasVars || t.hasWildcards) := by
  rw [Bool.eq_iff_iff, isOpen_iff, Bool.or_eq_true]

theorem freeVars_eq_nil_iff {t : TypeExpr} : t.freeVars = [] ↔ t.occurrences = [] := by
  simp only [List.eq_nil_iff_forall_not_mem, mem_freeVars]

theorem hasVars_iff_freeVars (t : TypeExpr) : t.hasVars = true ↔ t.freeVars ≠ [] :=
  (hasVars_iff t).trans (not_congr freeVars_eq_nil_iff.symm)

/-! ### Gathering the variables -/

/-- The variables of an expression behind those that were met before, each once. -/
def collectVars (met : List VarId) (t : TypeExpr) : List VarId := t.occurrences.foldl Distinct.add met

theorem freeVars_eq_collectVars (t : TypeExpr) : t.freeVars = collectVars [] t := rfl

@[simp] theorem collectVars_raw (met : List VarId) (c : ClassId) : collectVars met (.raw c) = met :=
  rfl

@[simp] theorem collectVars_var (met : List VarId) (v : VarId) :
    collectVars met (.var v) = Distinct.add met v := rfl

@[simp] theorem collectVars_array (met : List VarId) (elem : TypeExpr) :
    collectVars met (.array elem) = collectVars met elem := rfl

/-- The walk goes through the arguments, then through the owner. -/
theorem collectVars_app (met : List VarId) (c : ClassId) (args : List TypeExpr)
    (owner : Option TypeExpr) :
    collectVars met (.app c args owner) =
      owner.toList.foldl collectVars (args.foldl collectVars met) := by
  rw [collectVars, occurrences_app, List.foldl_append, List.foldl_flatMap]
  cases owner <;> rfl

/-- The walk goes through the upper bounds, then through the lower ones. -/
theorem collectVars_wildcard (met : List VarId) (us ls : List TypeExpr) :
    collectVars met (.wildcard us ls) = (us ++ ls).foldl collectVars met := by
  rw [collectVars, occurrences_wildcard, ← List.flatMap_append, List.foldl_flatMap]
  rfl

/-! ### What an expression depends on -/

/-- Two substitutions act alike on an expression exactly if they act alike on each of its variables. -/
theorem substitute_eq_substitute_iff {σ τ : Substitution} {t : TypeExpr} :
    t.substitute σ = t.substitute τ ↔
      ∀ v ∈ t.occurrences, substitute σ (.var v) = substitute τ (.var v) := by
  induction t with
  | raw c => simp
  | app c args owner ihArgs ihOwner =>
    have howner : owner.map (substitute σ) = owner.map (substitute τ) ↔
        ∀ o ∈ owner, o.substitute σ = o.substitute τ := by
      cases owner <;> simp
    rw [substitute_app, substitute_app, app.injEq, List.map_inj_left, howner,
      forall_mem_occurrences_app]
    simp only [true_and]
    exact and_congr (forall₂_congr ihArgs) (forall₂_congr ihOwner)
  | wildcard us ls ihUppers ihLowers =>
    rw [substitute_wildcard, substitute_wildcard, wildcard.injEq, List.map_inj_left,
      List.map_inj_left, forall_mem_occurrences_wildcard]
    exact and_congr (forall₂_congr ihUppers) (forall₂_congr ihLowers)
  | var v => simp
  | array elem ih =>
    rw [substitute_array, substitute_array, array.injEq, ih]
    rfl

/-- An expression stays as it is exactly if each of its variables does. -/
theorem substitute_eq_self_iff {σ : Substitution} {t : TypeExpr} :
    t.substitute σ = t ↔ ∀ v ∈ t.occurrences, substitute σ (.var v) = .var v := by
  have h := substitute_eq_substitute_iff (σ := σ) (τ := .empty) (t := t)
  simpa only [substitute_empty] using h

/-- The free variables are those that matter: binding one of them alone can change the expression, and
binding any other variable alone cannot. -/
theorem mem_freeVars_iff_exists {t : TypeExpr} {v : VarId} :
    v ∈ t.freeVars ↔
      ∃ σ : Substitution, (∀ w, σ.contains w = true ↔ w = v) ∧ t.substitute σ ≠ t := by
  rw [mem_freeVars]
  constructor
  · -- a class is no variable, so any class will do
    intro hv
    refine ⟨Substitution.empty.bind v (.raw default), fun w => ?_, fun h => ?_⟩
    · by_cases hw : w = v <;> simp [Substitution.contains, hw]
    · have hvar := substitute_eq_self_iff.1 h v hv
      rw [substitute_var, Substitution.get?_bind, if_pos rfl] at hvar
      cases hvar
  · rintro ⟨σ, honly, hne⟩
    refine Classical.byContradiction fun hv => hne (substitute_eq_self_iff.2 fun w hw => ?_)
    have hunbound : σ.get? w = none := by
      rw [← Option.not_isSome_iff_eq_none]
      exact fun h => hv ((honly w).1 h ▸ hw)
    rw [substitute_var, hunbound, Option.getD_none]

/-- **The tests agree** with each other, with the free variables and with substitution. -/
theorem openness_agrees (t : TypeExpr) :
    t.isOpen = (t.hasVars || t.hasWildcards) ∧
      (t.hasVars = true ↔ t.freeVars ≠ []) ∧
      t.freeVars.Nodup ∧
      (∀ v, v ∈ t.freeVars ↔
        ∃ σ : Substitution, (∀ w, σ.contains w = true ↔ w = v) ∧ t.substitute σ ≠ t) ∧
      ∀ σ : Substitution, t.hasWildcards = false →
        (∀ v ∈ t.freeVars, ∃ u, σ.get? v = some u ∧ u.isConcrete = true) →
        (t.substitute σ).isConcrete = true :=
  ⟨isOpen_eq t, hasVars_iff_freeVars t, nodup_freeVars t, fun _ => mem_freeVars_iff_exists,
    fun _ hw hground => isConcrete_substitute hw fun v hv => hground v (mem_freeVars.2 hv)⟩

end TypeExpr

end Generics
