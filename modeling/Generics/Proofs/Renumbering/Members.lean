import Generics.Proofs.Renumbering.Resolution
import Generics.Resolution.Boundaries
import Generics.Resolution.Members
import Generics.Resolution.Reparameterize

/-!
# Members under other numbers

What is asked of a resolver from outside besides resolution itself: whether a candidate satisfies
bounds, a type with the arguments of one of its supertypes, and the signatures of methods and
constructors. Each is put together from parts that do not depend on the numbers.

## Main definitions

* `Signature.renumber`, `Refusal.renumber`, `BoundSource.renumber`

## Main results

* `Resolver.Renumbered.satisfies`, `Resolver.Renumbered.reparameterize`
* `Resolver.Renumbered.instantiateMethod`, `Resolver.Renumbered.instantiateConstructor`
-/

namespace Generics

/-- The declaration whose bounds count, with other numbers. -/
def BoundSource.renumber (ρ : Renumbering) : BoundSource → BoundSource
  | .variable v => .variable (ρ.vars v)
  | .wildcard us ls => .wildcard (us.map (TypeExpr.renumber ρ)) (ls.map (TypeExpr.renumber ρ))

/-- The refusal with other numbers. -/
def Refusal.renumber (ρ : Renumbering) : Refusal → Refusal
  | .failed f => .failed (f.renumber ρ)
  | .unsupported e => .unsupported e

/-- The signature with other numbers. -/
def Signature.renumber (ρ : Renumbering) (s : Signature) : Signature where
  typeArgs := s.typeArgs.map (TypeExpr.renumber ρ)
  params := s.params.map (TypeExpr.renumber ρ)
  returnType := s.returnType.map (TypeExpr.renumber ρ)

namespace Resolver

namespace Renumbered

variable {ρ : Renumbering} {R R' : Resolver} (h : Renumbered ρ R R')

include h

/-! ### Checking a candidate -/

theorem boundsHold (candidate : TypeExpr) (source : BoundSource) (σ : Substitution) :
    R'.boundsHold (candidate.renumber ρ) (source.renumber ρ) (σ.renumber ρ) =
      R.boundsHold candidate source σ := by
  have H := h.helpersRenumbered (R.levels 1)
  obtain v | ⟨us, ls⟩ := source
  · simp only [BoundSource.renumber, Resolver.boundsHold, h.registry.typeParam?, h.levels]
    cases R.registry.typeParam? v with
    | none => rfl
    | some p => exact h.checkBounds H candidate (some v) p.bounds [] σ
  · simp only [BoundSource.renumber, Resolver.boundsHold, h.levels]
    exact h.checkBounds H candidate none us ls σ

/-- **The renumbered candidate satisfies** the renumbered bounds exactly if the candidate satisfies
the bounds, and is refused if that is. -/
theorem satisfies (candidate : TypeExpr) (source : BoundSource) (σ : Substitution) :
    R'.satisfies (candidate.renumber ρ) (source.renumber ρ) (σ.renumber ρ) =
      R.satisfies candidate source σ := by
  have hholds := h.boundsHold candidate source σ
  cases candidate with
  | wildcard us ls =>
    rw [TypeExpr.renumber_wildcard]
    rfl
  | app c args owner =>
    rw [TypeExpr.renumber_app] at hholds ⊢
    exact congrArg liftM hholds
  | var v => rfl
  | raw c => exact congrArg liftM hholds
  | array elem => exact congrArg liftM hholds

/-! ### Arguments from a supertype -/

omit h in
theorem completedArgs (σ : Substitution) (vs : List VarId) (current : List TypeExpr) :
    Resolver.completedArgs (σ.renumber ρ) (vs.map ρ.vars) (current.map (TypeExpr.renumber ρ)) =
      (Resolver.completedArgs σ vs current).map (TypeExpr.renumber ρ) := by
  induction vs generalizing current with
  | nil => rfl
  | cons v vs ih =>
    rw [List.map_cons, Resolver.completedArgs, Resolver.completedArgs, List.map_cons,
      Substitution.get?_renumber, List.head?_map, ← List.map_tail, ih]
    congr 1
    cases σ.get? v with
    | some t => rfl
    | none => cases current.head? <;> rfl

theorem reparameterizeUse (source : TypeExpr) (c : ClassId) (superType : TypeExpr) :
    R'.reparameterizeUse (source.renumber ρ) (ρ.classes c) (superType.renumber ρ) =
      mapAttempt (Refusal.renumber ρ) (TypeExpr.renumber ρ)
        (R.reparameterizeUse source c superType) := by
  unfold Resolver.reparameterizeUse
  rw [h.registry.class?]
  cases R.registry.class? c with
  | none => rfl
  | some d =>
    simp only [Option.map_some, ClassDef.isGeneric_renumber]
    split
    · cases superType with
      | app e args owner =>
        have hdetermined := h.registry.determined R.budget c (e, args)
        rw [TypeExpr.renumber_app]
        simp only [h.registry.isSubclass, h.budget]
        split
        · rw [Use.renumber] at hdetermined
          rw [hdetermined]
          refine mapAttempt_liftM_bind _ fun τ => ?_
          have hargs := completedArgs (ρ := ρ) τ d.typeParams source.args
          rw [mapAttempt_pure, TypeExpr.renumber_app, ← hargs, TypeExpr.args_renumber,
            TypeExpr.owner?_renumber]
          rfl
        · rfl
      | wildcard us ls =>
        rw [TypeExpr.renumber_wildcard]
        rfl
      | _ => rfl
    · rfl

/-- **The renumbered type agrees with the renumbered supertype** in the renumbered arguments. -/
theorem reparameterize (source superType : TypeExpr) :
    R'.reparameterize (source.renumber ρ) (superType.renumber ρ) =
      mapAttempt (Refusal.renumber ρ) (TypeExpr.renumber ρ)
        (R.reparameterize source superType) := by
  induction source generalizing superType with
  | raw c => exact h.reparameterizeUse (.raw c) c superType
  | app c args owner =>
    have huse := h.reparameterizeUse (.app c args owner) c superType
    rw [TypeExpr.renumber_app] at huse ⊢
    exact huse
  | wildcard us ls =>
    rw [TypeExpr.renumber_wildcard]
    rfl
  | var v => rfl
  | array s ih =>
    cases superType with
    | array t =>
      show R'.reparameterize (s.renumber ρ) (t.renumber ρ) >>= _ = _
      rw [ih t]
      exact mapAttempt_bind _ fun elem => rfl
    | raw c =>
      simp only [TypeExpr.renumber_array, TypeExpr.renumber_raw, Resolver.reparameterize,
        h.registry.isArraySupertype]
      split <;> rfl
    | app c args owner =>
      rw [TypeExpr.renumber_app]
      rfl
    | wildcard us ls =>
      rw [TypeExpr.renumber_wildcard]
      rfl
    | var v => rfl

/-! ### Members -/

/-- Chosen types and the bindings after them, with other numbers. -/
def renumberChosen (ρ : Renumbering) (r : List TypeExpr × Substitution) :
    List TypeExpr × Substitution :=
  (r.1.map (TypeExpr.renumber ρ), r.2.renumber ρ)

theorem chooseTypeArgs (vs : List VarId) (σ : Substitution) :
    R'.chooseTypeArgs (vs.map ρ.vars) (σ.renumber ρ) =
      mapAttempt (Failure.renumber ρ) (renumberChosen ρ) (R.chooseTypeArgs vs σ) := by
  induction vs generalizing σ with
  | nil => rfl
  | cons v vs ih =>
    rw [List.map_cons, Resolver.chooseTypeArgs, Resolver.chooseTypeArgs,
      ← TypeExpr.renumber_var, h.instantiate]
    refine mapAttempt_bind _ fun t => ?_
    rw [← Substitution.renumber_bind, ih]
    exact mapAttempt_bind _ fun r => rfl

theorem instantiateAll (σ : Substitution) (ts : List TypeExpr) :
    R'.instantiateAll (σ.renumber ρ) (ts.map (TypeExpr.renumber ρ)) =
      mapAttempt (Failure.renumber ρ) (List.map (TypeExpr.renumber ρ))
        (R.instantiateAll σ ts) := by
  induction ts with
  | nil => rfl
  | cons t ts ih =>
    rw [List.map_cons, Resolver.instantiateAll, Resolver.instantiateAll, h.instantiate, ih]
    exact mapAttempt_bind _ fun t' => mapAttempt_bind _ fun ts' => rfl

theorem instantiateReturn (σ : Substitution) (t : Option TypeExpr) :
    R'.instantiateReturn (σ.renumber ρ) (t.map (TypeExpr.renumber ρ)) =
      mapAttempt (Failure.renumber ρ) (Option.map (TypeExpr.renumber ρ))
        (R.instantiateReturn σ t) := by
  cases t with
  | none => rfl
  | some t =>
    rw [Option.map_some, Resolver.instantiateReturn, Resolver.instantiateReturn, h.instantiate]
    exact mapAttempt_bind _ fun t' => rfl

/-- **The signature of the renumbered method** on the renumbered receiver is the renumbered
signature. -/
theorem instantiateMethod (receiver : TypeExpr) (m : Method) :
    R'.instantiateMethod (receiver.renumber ρ) (m.renumber ρ) =
      mapAttempt (Failure.renumber ρ) (Signature.renumber ρ)
        (R.instantiateMethod receiver m) := by
  have hstatic : (m.renumber ρ).isStatic = m.isStatic := rfl
  have himplied : (if (m.renumber ρ).isStatic then Substitution.empty
      else R'.registry.impliedBindings (receiver.renumber ρ)) =
      (if m.isStatic then Substitution.empty
        else R.registry.impliedBindings receiver).renumber ρ := by
    rw [hstatic, h.registry.impliedBindings]
    split <;> rfl
  have hchosen := h.chooseTypeArgs m.typeParams
    (if m.isStatic then Substitution.empty else R.registry.impliedBindings receiver)
  unfold Resolver.instantiateMethod
  simp only [himplied]
  simp only [Method.renumber, hchosen]
  refine mapAttempt_bind _ fun chosen => ?_
  simp only [renumberChosen, h.instantiateAll]
  refine mapAttempt_bind _ fun params => ?_
  rw [h.instantiateReturn]
  exact mapAttempt_bind _ fun returnType => rfl

omit h in
theorem constructedType (c : ClassId) (d : ClassDef) (owner : TypeExpr) :
    Resolver.constructedType (ρ.classes c) (d.renumber ρ) (owner.renumber ρ) =
      (Resolver.constructedType c d owner).renumber ρ := by
  rw [Resolver.constructedType, Resolver.constructedType, ClassDef.isGeneric_renumber,
    TypeExpr.shape_renumber]
  split
  · rw [TypeExpr.renumber_ofClass, TypeExpr.map_renumber_vars]
    rfl
  · rfl

/-- **The signature of the renumbered constructor** of the renumbered owner is the renumbered
signature. -/
theorem instantiateConstructor (owner : TypeExpr) (k : Constructor) :
    R'.instantiateConstructor (owner.renumber ρ) (k.renumber ρ) =
      mapAttempt (Failure.renumber ρ) (Signature.renumber ρ)
        (R.instantiateConstructor owner k) := by
  have howner : ((owner.renumber ρ).classId?.bind fun c =>
      (R'.registry.class? c).map fun d => (c, d)) =
      (owner.classId?.bind fun c => (R.registry.class? c).map fun d => (c, d)).map
        fun e => (ρ.classes e.1, e.2.renumber ρ) := by
    rw [TypeExpr.classId?_renumber]
    cases owner.classId? with
    | none => rfl
    | some c =>
      simp only [Option.map_some, Option.bind_some, h.registry.class?]
      cases R.registry.class? c <;> rfl
  unfold Resolver.instantiateConstructor
  rw [howner]
  cases owner.classId?.bind fun c => (R.registry.class? c).map fun d => (c, d) with
  | none => rfl
  | some e =>
    simp only [Option.map_some]
    rw [constructedType, h.registry.impliedBindings, h.instantiate]
    refine mapAttempt_bind _ fun constructed => ?_
    rw [h.registry.impliedBindings]
    simp only [Constructor.renumber, h.chooseTypeArgs]
    refine mapAttempt_bind _ fun chosen => ?_
    simp only [renumberChosen, h.instantiateAll]
    exact mapAttempt_bind _ fun params => rfl

end Renumbered

end Resolver

end Generics
