import Generics.Proofs.Resolution.Arguments
import Generics.Proofs.Substitution.Ground

/-!
# Concrete types are left as they are

Resolution changes nothing where nothing has to be bound, at any depth, under any bindings and on
any registry: an argument that comes back unchanged is not checked against its formal. The question
whether a concrete type can become another one is therefore settled after one step, and what is left
of the depth only decides whether the context of the target is looked at.

## Main results

* `Resolver.instantiateAt_of_isConcrete`
* `Resolver.instantiateVarStep_of_isConcrete` — a variable bound to a concrete type is checked
* `Resolver.canBecomeAt_zero_of_isConcrete`, `Resolver.canBecomeAt_succ_of_isConcrete`
* `Resolver.answer_of_canBecomeAt`, `Resolver.gate_of_canBecomeAt`,
  `Resolver.isAssignable_of_canBecomeAt`
* `Resolver.canBecomeAt_agrees` — so the level does not matter, as far as there is an answer
-/

namespace Generics

namespace Resolver

variable {R : Resolver}

/-- Where any question of assignability is answered, a type is found to be assignable to itself. -/
theorem isAssignable_self_of_answer {s t : TypeExpr} {b : Bool} (h : R.isAssignable s t = some b)
    (r : TypeExpr) : R.isAssignable r r = some true := by
  rw [isAssignable] at h ⊢
  cases hbudget : R.budget with
  | zero =>
    rw [hbudget] at h
    cases h
  | succ n => exact Registry.assignable?_self R.registry n r

/-- As far as there is an answer, a type is assignable to itself. -/
theorem isAssignable_self (R : Resolver) (t : TypeExpr) :
    R.isAssignable t t = none ∨ R.isAssignable t t = some true := by
  cases h : R.isAssignable t t with
  | none => exact .inl rfl
  | some b => exact .inr (h ▸ isAssignable_self_of_answer h t)

/-- An argument that stays as it is fits. -/
theorem replacementFits_self (become : TypeExpr → TypeExpr → Option Bool) (arg : TypeExpr)
    (formal : VarId) (bounds : List TypeExpr) (σ : Substitution) :
    R.replacementFits become arg arg formal bounds σ = some true := by
  simp [replacementFits]

theorem fitsFormal_self (become : TypeExpr → TypeExpr → Option Bool) (chosen : Substitution)
    (formals : List VarId) (arg : TypeExpr) (σ : Substitution) :
    R.fitsFormal become chosen formals arg arg σ = some true := by
  rw [fitsFormal]
  split
  · rfl
  · exact replacementFits_self ..

/-- Arguments that are concrete and stay as they are pass, whatever the formals. -/
theorem instantiateArgs_of_isConcrete {inst : TypeExpr → Substitution → Attempt TypeExpr}
    {select : TypeExpr → List TypeExpr → List TypeExpr → Substitution → Attempt TypeExpr}
    {become : TypeExpr → TypeExpr → Option Bool} {subject : TypeExpr} {σ : Substitution}
    {args : List TypeExpr} (hargs : ∀ a ∈ args, a.isConcrete = true ∧ inst a σ = pure a)
    (chosen : Substitution) (formals : List VarId) :
    R.instantiateArgs inst select become subject σ chosen formals args = pure args := by
  induction args generalizing chosen formals with
  | nil => rfl
  | cons a as ih =>
    obtain ⟨ha, hinst⟩ := hargs a List.mem_cons_self
    have has := fun τ fs => ih (fun b hb => hargs b (List.mem_cons_of_mem _ hb)) τ fs
    have harg : resolveArg inst select (R.seenBounds chosen formals) a σ = pure a := by
      cases a with
      | wildcard us ls => cases ha
      | _ => exact hinst
    rw [instantiateArgs_cons, harg, pure_bind, fitsFormal_self, has]
    rfl

/-- **Concrete types are fixed.** -/
theorem instantiateAt_of_isConcrete {t : TypeExpr} (ht : t.isConcrete = true) (n : Nat)
    (σ : Substitution) : R.instantiateAt n t σ = pure t := by
  induction t generalizing n with
  | raw c => cases n <;> rfl
  | app c args owner ihArgs ihOwner =>
    cases n with
    | zero => rfl
    | succ n =>
      obtain ⟨hargs, howner⟩ := TypeExpr.isConcrete_app_iff.1 ht
      rw [instantiateAt_succ, instantiateStep,
        instantiateArgs_of_isConcrete fun a ha => ⟨hargs a ha, ihArgs a ha (hargs a ha) n⟩]
      cases owner with
      | none => simp only [pure_bind]
      | some o => simp only [pure_bind, ihOwner o rfl (howner o rfl) n]
  | wildcard us ls => cases ht
  | var v => cases ht
  | array elem ih =>
    cases n with
    | zero => rfl
    | succ n => simp only [instantiateAt_succ, instantiateStep, ih ht n, pure_bind]

/-- A variable that is bound to a concrete type is resolved to it after one check. -/
theorem instantiateVarStep_of_isConcrete {inst : TypeExpr → Substitution → Attempt TypeExpr}
    {become : TypeExpr → TypeExpr → Option Bool} {σ : Substitution} {v : VarId} {p : TypeParam}
    (hp : R.registry.typeParam? v = some p) {u : TypeExpr} (hu : σ.get? v = some u)
    (hc : u.isConcrete = true) :
    R.instantiateVarStep inst become v σ =
      ((liftM (R.checkBounds become u (some v) p.bounds [] σ) : Attempt Bool) >>= fun fits =>
        if fits then pure u else throw ⟨.var v, .boundViolation⟩) := by
  have hne : u ≠ .var v := by
    rintro rfl
    cases hc
  have hbinding : (σ.get? v).filter (· != .var v) = some u := by
    rw [hu, Option.filter_some, if_pos (bne_iff_ne.2 hne)]
  simp only [instantiateVarStep, hp, hbinding, hc, if_true, pure_bind, finalFits]

theorem settled_of_isConcrete {s : TypeExpr} (hs : s.isConcrete = true) (t : TypeExpr) :
    R.settled s t = R.isAssignable s t := if_pos hs

theorem canBecomeAt_zero_of_isConcrete {s : TypeExpr} (hs : s.isConcrete = true) (t : TypeExpr) :
    R.canBecomeAt 0 s t = if R.gate s t then R.isAssignable s t else some false := by
  rw [canBecomeAt_zero, settled_of_isConcrete hs]

/-- For a concrete source the question is one about assignability, once the context is there. -/
theorem canBecomeAt_succ_of_isConcrete {s : TypeExpr} (hs : s.isConcrete = true) (n : Nat)
    (t : TypeExpr) :
    R.canBecomeAt (n + 1) s t =
      if R.gate s t then (R.context s t).bind fun _ => R.isAssignable s t else some false := by
  rw [canBecomeAt_succ, canBecomeStep]
  split
  · refine congrArg _ (funext fun σ => ?_)
    rw [instantiateAt_of_isConcrete hs]
    change (if s = s then R.settled s t else _) = _
    rw [if_pos rfl, settled_of_isConcrete hs]
  · rfl

/-- An answer about a concrete source is one about the erasures and about assignability, with any
number of levels. -/
theorem answer_of_canBecomeAt {s : TypeExpr} (hs : s.isConcrete = true) {n : Nat} {t : TypeExpr}
    {b : Bool} (h : R.canBecomeAt n s t = some b) :
    (if R.gate s t then R.isAssignable s t else some false) = some b := by
  cases n with
  | zero => rwa [canBecomeAt_zero_of_isConcrete hs] at h
  | succ n =>
    rw [canBecomeAt_succ_of_isConcrete hs] at h
    split at h
    · rename_i hgate
      rw [if_pos hgate]
      obtain ⟨-, -, hassign⟩ := Option.bind_eq_some_iff.1 h
      exact hassign
    · rename_i hgate
      rwa [if_neg hgate]

/-- With any number of levels an answer about a concrete source is the same one. -/
theorem canBecomeAt_agrees {s : TypeExpr} (hs : s.isConcrete = true) (n m : Nat) (t : TypeExpr) :
    Comparison.agrees.rel (R.canBecomeAt n s t) (R.canBecomeAt m s t) := fun _ _ ha hb =>
  Option.some.inj ((answer_of_canBecomeAt hs ha).symm.trans (answer_of_canBecomeAt hs hb))

/-- A concrete source that can become a target passes by its erasure. -/
theorem gate_of_canBecomeAt {s t : TypeExpr} (hs : s.isConcrete = true) {n : Nat}
    (h : R.canBecomeAt n s t = some true) : R.gate s t = true := by
  have hanswer := answer_of_canBecomeAt hs h
  split at hanswer
  · assumption
  · cases hanswer

/-- A concrete source that can become a target is assignable to it. -/
theorem isAssignable_of_canBecomeAt {s : TypeExpr} (hs : s.isConcrete = true) {n : Nat}
    {t : TypeExpr} (h : R.canBecomeAt n s t = some true) : R.isAssignable s t = some true := by
  have hanswer := answer_of_canBecomeAt hs h
  split at hanswer
  · exact hanswer
  · cases hanswer

end Resolver

end Generics
