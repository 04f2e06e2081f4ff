import Generics.Proofs.Substitution.Ground

/-!
# Composition of substitutions

Substituting twice is substituting once: what the first substitution binds is taken through the second
one, and what only the second binds is kept. Nothing can be captured on the way, because an expression
binds no variables of its own. Of a variable that both bind, the first binding counts: the variable is
gone before the second substitution is asked.

A substitution is known by its bindings, so composition is associative as soon as it acts as it should;
the empty substitution is its unit.

## Main definitions

* `Substitution.mapTypes` — every binding taken through a function
* `Substitution.andThen` — one substitution after the other

## Main results

* `TypeExpr.substitute_eq_step` — substitution as a recursion that stops at once if nothing is bound
* `TypeExpr.substitute_andThen` — the composition acts as the two in a row
* `Substitution.andThen_assoc`, `Substitution.empty_andThen`, `Substitution.andThen_empty`
* `TypeExpr.mem_freeVars_substitute` — where the variables of the result come from
* `TypeExpr.substitute_composes`
-/

namespace Generics

namespace Substitution

/-- The same variables, each bound to the image of what it was bound to. -/
def mapTypes (f : TypeExpr → TypeExpr) (σ : Substitution) : Substitution :=
  ⟨σ.entries.map fun e => (e.1, f e.2), List.pairwise_map.2 σ.ascending⟩

@[simp] theorem get?_mapTypes (f : TypeExpr → TypeExpr) (σ : Substitution) (v : VarId) :
    (σ.mapTypes f).get? v = (σ.get? v).map f := by
  have hlookup : ∀ es : List (VarId × TypeExpr),
      (es.map fun e => (e.1, f e.2)).lookup v = (es.lookup v).map f := by
    intro es
    induction es with
    | nil => rfl
    | cons e es ih =>
      obtain ⟨w, t⟩ := e
      rw [List.map_cons, lookup_cons_eq, lookup_cons_eq, ih]
      split <;> rfl
  exact hlookup σ.entries

/-- First `σ`, then `τ`: what `σ` binds is taken through `τ`, and other variables are bound as `τ` binds
them. -/
def andThen (σ τ : Substitution) : Substitution := τ.extend (σ.mapTypes (TypeExpr.substitute τ))

theorem get?_andThen (σ τ : Substitution) (v : VarId) :
    (σ.andThen τ).get? v = ((σ.get? v).map (TypeExpr.substitute τ)).or (τ.get? v) := by
  rw [andThen, get?_extend, get?_mapTypes]

theorem get?_andThen_of_bound {σ : Substitution} {v : VarId} {t : TypeExpr} (τ : Substitution)
    (h : σ.get? v = some t) : (σ.andThen τ).get? v = some (t.substitute τ) := by
  rw [get?_andThen, h]
  rfl

theorem get?_andThen_of_unbound {σ : Substitution} {v : VarId} (τ : Substitution)
    (h : σ.get? v = none) : (σ.andThen τ).get? v = τ.get? v := by
  rw [get?_andThen, h]
  rfl

end Substitution

namespace TypeExpr

/-! ### Substituting as a recursion -/

/-- Substituting may stop wherever it is if nothing is bound, and else goes on into the parts. This
equation leaves no choice, so a recursion that asks on every level whether anything is bound computes the
same. -/
theorem substitute_eq_step (σ : Substitution) (t : TypeExpr) :
    t.substitute σ =
      if σ.isEmpty then t
      else match t with
        | .raw c => .raw c
        | .app c args owner => .app c (args.map (substitute σ)) (owner.map (substitute σ))
        | .wildcard us ls => .wildcard (us.map (substitute σ)) (ls.map (substitute σ))
        | .var v => (σ.get? v).getD (.var v)
        | .array elem => .array (elem.substitute σ) := by
  split
  · rename_i h
    rw [(Substitution.isEmpty_iff σ).1 h, substitute_empty]
  · cases t with
    | raw c => rfl
    | app c args owner => exact substitute_app σ c args owner
    | wildcard us ls => exact substitute_wildcard σ us ls
    | var v => rfl
    | array elem => rfl

/-! ### One after the other -/

/-- Nothing is gained or lost if a variable goes through both substitutions at once. -/
theorem substitute_andThen_var (σ τ : Substitution) (v : VarId) :
    substitute (σ.andThen τ) (.var v) = (substitute σ (.var v)).substitute τ := by
  cases h : σ.get? v with
  | none => rw [substitute_var, σ.get?_andThen_of_unbound τ h, substitute_var σ, h, Option.getD_none,
      substitute_var]
  | some t => rw [substitute_var_of_get? (σ.get?_andThen_of_bound τ h), substitute_var_of_get? h]

theorem substitute_andThen (σ τ : Substitution) (t : TypeExpr) :
    t.substitute (σ.andThen τ) = (t.substitute σ).substitute τ :=
  (substitute_substitute fun v _ => (substitute_andThen_var σ τ v).symm).symm

end TypeExpr

namespace Substitution

/-! ### Laws of composition -/

@[simp] theorem empty_andThen (τ : Substitution) : empty.andThen τ = τ :=
  ext_get? fun _ => get?_andThen_of_unbound τ rfl

@[simp] theorem andThen_empty (σ : Substitution) : σ.andThen empty = σ := by
  refine ext_get? fun v => ?_
  cases h : σ.get? v with
  | none => rw [get?_andThen_of_unbound empty h, get?_empty]
  | some t => rw [get?_andThen_of_bound empty h, TypeExpr.substitute_empty]

theorem andThen_assoc (σ τ ρ : Substitution) :
    (σ.andThen τ).andThen ρ = σ.andThen (τ.andThen ρ) := by
  refine ext_get? fun v => ?_
  cases h : σ.get? v with
  | none =>
    rw [get?_andThen, get?_andThen_of_unbound τ h, get?_andThen_of_unbound _ h, get?_andThen]
  | some t =>
    rw [get?_andThen_of_bound ρ (get?_andThen_of_bound τ h), get?_andThen_of_bound _ h,
      TypeExpr.substitute_andThen]

end Substitution

namespace TypeExpr

/-! ### Variables of the result -/

/-- A variable of the result was put there by a binding, or it was there and is not bound. -/
theorem mem_freeVars_substitute {σ : Substitution} {t : TypeExpr} {w : VarId} :
    w ∈ (t.substitute σ).freeVars ↔
      (∃ v ∈ t.freeVars, ∃ u, σ.get? v = some u ∧ w ∈ u.freeVars) ∨
        (w ∈ t.freeVars ∧ σ.get? w = none) := by
  rw [mem_freeVars, mem_occurrences_substitute]
  simp only [mem_freeVars]
  constructor
  · rintro ⟨v, hv, hw⟩
    cases h : σ.get? v with
    | none =>
      rw [substitute_var, h, Option.getD_none, occurrences_var, List.mem_singleton] at hw
      exact Or.inr ⟨hw ▸ hv, hw ▸ h⟩
    | some u =>
      rw [substitute_var_of_get? h] at hw
      exact Or.inl ⟨v, hv, u, h, hw⟩
  · rintro (⟨v, hv, u, hu, hw⟩ | ⟨hw, hunbound⟩)
    · exact ⟨v, hv, by rwa [substitute_var_of_get? hu]⟩
    · refine ⟨w, hw, ?_⟩
      rw [substitute_var, hunbound, Option.getD_none, occurrences_var]
      exact List.mem_singleton_self w

/-- **Substitutions compose.** The second of two substitutions acts on what the first one has put in and
on what it has left, and so do the variables come about. -/
theorem substitute_composes (σ τ : Substitution) (t : TypeExpr) :
    (∀ v, (σ.andThen τ).get? v =
        match σ.get? v with
        | some s => some (s.substitute τ)
        | none => τ.get? v) ∧
      (t.substitute σ).substitute τ = t.substitute (σ.andThen τ) ∧
      ∀ w, w ∈ (t.substitute σ).freeVars ↔
        (∃ v ∈ t.freeVars, ∃ s, σ.get? v = some s ∧ w ∈ s.freeVars) ∨
          (w ∈ t.freeVars ∧ σ.get? w = none) := by
  refine ⟨fun v => ?_, (substitute_andThen σ τ t).symm, fun w => mem_freeVars_substitute⟩
  cases h : σ.get? v with
  | none => exact Substitution.get?_andThen_of_unbound τ h
  | some s => exact Substitution.get?_andThen_of_bound τ h

/-- What the first substitution puts in is reached by the second one. -/
example :
    (TypeExpr.app ⟨1⟩ [.var ⟨0⟩, .var ⟨1⟩] none).substitute
      ((Substitution.ofList [(⟨0⟩, .array (.var ⟨1⟩))]).andThen (.ofList [(⟨1⟩, .raw ⟨2⟩)])) =
    .app ⟨1⟩ [.array (.raw ⟨2⟩), .raw ⟨2⟩] none := by decide +kernel

end TypeExpr

end Generics
