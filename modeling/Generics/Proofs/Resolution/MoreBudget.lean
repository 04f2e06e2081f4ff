import Generics.Proofs.Resolution.StepComparison

/-!
# More budget never loses a result

The budget of a resolver is spent on questions about supertypes, and an answer to such a question
stays when the budget grows. So does everything that is made of these answers: what an expression is
resolved to, or that it cannot be resolved, and whether a source can be used as a target. What comes
out with one budget is therefore what comes out with all larger ones.

## Main results

* `Registry.determined_refines`, `Registry.context_refines` — what a target binds
* `Resolver.levels_refine` — all levels of resolution
* `Resolver.answers_context`, `Resolver.answers_instantiate`, `Resolver.answers_canBecomeAt`,
  `Resolver.answers_checkBounds` — an answer with one budget is the answer
-/

namespace Generics

namespace Registry

variable {reg : Registry}

/-- More rounds never lose what a supertype determines. -/
theorem determined_refines (n : Nat) (c : ClassId) (u : Use) :
    Comparison.refines.rel (reg.determined n c u) (reg.determined (n + 1) c u) := by
  by_cases hformals : reg.formals c = []
  · simp only [determined, hformals, List.isEmpty_nil, if_true]
    exact Comparison.refines.refl _
  · simp only [Resolver.determined_of_formals_ne_nil _ hformals]
    exact Comparison.refines.map _ (classView_refines n u.1 _)

theorem context_refines (n : Nat) (source target : TypeExpr) :
    Comparison.refines.rel (reg.context n source target) (reg.context (n + 1) source target) := by
  unfold context
  split
  · exact Comparison.refines.map _ (determined_refines n _ _)
  · exact Comparison.refines.refl _

end Registry

namespace Resolver

variable {R : Resolver}

theorem isAssignable_refines (n : Nat) (s t : TypeExpr) :
    Comparison.refines.rel ((R.withBudget n).isAssignable s t)
      ((R.withBudget (n + 1)).isAssignable s t) :=
  Registry.assignable?_refines n s t

/-- One level of the question, over levels that answer at least as much. -/
theorem canBecomeStep_refines {inst inst' : TypeExpr → Substitution → Attempt TypeExpr}
    {become become' : TypeExpr → TypeExpr → Option Bool}
    (hinst : ∀ t σ, Comparison.refines.rel (inst t σ).run (inst' t σ).run)
    (hbecome : ∀ s t, Comparison.refines.rel (become s t) (become' s t)) (n : Nat)
    (s t : TypeExpr) :
    Comparison.refines.rel ((R.withBudget n).canBecomeStep inst become s t)
      ((R.withBudget (n + 1)).canBecomeStep inst' become' s t) := by
  rw [canBecomeStep, canBecomeStep, gate_withBudget, gate_withBudget]
  split
  · refine Comparison.refines.bind (Registry.context_refines n s t) fun σ => ?_
    refine Comparison.refines.bind (hinst s σ) fun r => ?_
    cases r with
    | error e => exact Comparison.refines.refl _
    | ok u =>
      dsimp only
      split
      · rw [settled, settled]
        split
        · exact isAssignable_refines n s t
        · exact Comparison.refines.refl _
      · exact hbecome u t
  · exact Comparison.refines.refl _

/-- **No level loses a result.** -/
theorem levels_refine (n k : Nat) :
    HelpersCompare .refines (R.withBudget n) (n + 1) ((R.withBudget n).instantiateAt k)
        ((R.withBudget (n + 1)).instantiateAt k) ((R.withBudget n).selectAt k)
        ((R.withBudget (n + 1)).selectAt k) ((R.withBudget n).canBecomeAt k)
        ((R.withBudget (n + 1)).canBecomeAt k) ∧
      ∀ s t, Comparison.refines.rel ((R.withBudget n).canBecomeAt k s t)
        ((R.withBudget (n + 1)).canBecomeAt k s t) := by
  induction k with
  | zero =>
    have hbecome : ∀ s t, Comparison.refines.rel ((R.withBudget n).canBecomeAt 0 s t)
        ((R.withBudget (n + 1)).canBecomeAt 0 s t) := by
      intro s t
      rw [canBecomeAt_zero, canBecomeAt_zero, gate_withBudget, gate_withBudget, settled, settled]
      split
      · split
        · exact isAssignable_refines n s t
        · exact Comparison.refines.refl _
      · exact Comparison.refines.refl _
    exact ⟨⟨isAssignable_refines n, fun t σ => Comparison.refines.refl _,
      fun s us ls σ => Comparison.refines.refl _, fun s t _ => hbecome s t⟩, hbecome⟩
  | succ k ih =>
    obtain ⟨H, hbecome⟩ := ih
    have hinst : ∀ t σ, Comparison.refines.rel ((R.withBudget n).instantiateAt (k + 1) t σ).run
        ((R.withBudget (n + 1)).instantiateAt (k + 1) t σ).run :=
      fun t σ => instantiateStep_rel H t σ
    have hnext : ∀ s t, Comparison.refines.rel ((R.withBudget n).canBecomeAt (k + 1) s t)
        ((R.withBudget (n + 1)).canBecomeAt (k + 1) s t) :=
      fun s t => canBecomeStep_refines hinst hbecome n s t
    exact ⟨⟨isAssignable_refines n, hinst, fun s us ls σ => selectStep_rel H s none us ls σ,
      fun s t _ => hnext s t⟩, hnext⟩

/-! ### Answers with one budget -/

variable {n : Nat} {σ : Substitution}

theorem answers_context {s t : TypeExpr} (h : (R.withBudget n).context s t = some σ) :
    Answers (fun n => (R.withBudget n).context s t) σ :=
  Comparison.answers_of_refines h fun n => Registry.context_refines n s t

theorem answers_isAssignable {s t : TypeExpr} {b : Bool}
    (h : (R.withBudget n).isAssignable s t = some b) :
    Answers (fun n => (R.withBudget n).isAssignable s t) b :=
  Comparison.answers_of_refines h fun n => isAssignable_refines n s t

theorem answers_instantiate {t : TypeExpr} {depth : Nat} {r : Except Failure TypeExpr}
    (h : ((R.withBudget n).instantiate t σ depth).run = some r) :
    Answers (fun n => ((R.withBudget n).instantiate t σ depth).run) r :=
  Comparison.answers_of_refines h fun n => (levels_refine n (R.levels depth)).1.inst t σ

theorem answers_canBecomeAt {k : Nat} {s t : TypeExpr} {b : Bool}
    (h : (R.withBudget n).canBecomeAt k s t = some b) :
    Answers (fun n => (R.withBudget n).canBecomeAt k s t) b :=
  Comparison.answers_of_refines h fun n => (levels_refine n k).2 s t

theorem answers_checkBounds {k : Nat} {candidate : TypeExpr} (hc : candidate.isConcrete = true)
    {var : Option VarId} {uppers lowers : List TypeExpr} {b : Bool}
    (h : (R.withBudget n).checkBounds ((R.withBudget n).canBecomeAt k) candidate var uppers lowers
      σ = some b) :
    Answers (fun n => (R.withBudget n).checkBounds ((R.withBudget n).canBecomeAt k) candidate var
      uppers lowers σ) b :=
  Comparison.answers_of_refines h fun n =>
    checkBounds_rel (levels_refine n k).1 hc var uppers lowers σ

theorem answers_fitsFormal {k : Nat} {chosen : Substitution} {formals : List VarId}
    {arg result : TypeExpr} {b : Bool}
    (h : (R.withBudget n).fitsFormal ((R.withBudget n).canBecomeAt k) chosen formals arg result σ =
      some b) :
    Answers (fun n => (R.withBudget n).fitsFormal ((R.withBudget n).canBecomeAt k) chosen formals
      arg result σ) b :=
  Comparison.answers_of_refines h fun n =>
    fitsFormal_rel (levels_refine n k).1 chosen formals arg result σ

end Resolver

end Generics
