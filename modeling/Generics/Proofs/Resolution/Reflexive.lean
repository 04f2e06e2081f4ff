import Generics.Proofs.Resolution.ConcreteSources

/-!
# A concrete type becomes itself

Nothing is known about the classes of the type here: they may be undefined, and the numbers of their
arguments may be wrong. The type is its own erasure's class, the walk from that class to itself ends
in its first round whatever lies above, and assignability of a type to itself is settled before any
supertype is looked at. One step of budget is therefore enough.

## Main results

* `Resolver.canBecomeAt_self` — at every level
* `Resolver.concrete_fixed` — resolved to itself, and usable as itself
-/

namespace Generics

namespace Resolver

variable {R : Resolver} {t : TypeExpr}

/-- What a class determines of its formals to be seen as itself is there at once. -/
theorem exists_determined_self (reg : Registry) (n : Nat) (c : ClassId) (args : List TypeExpr) :
    ∃ τ, reg.determined (n + 1) c (c, args) = some τ := by
  by_cases hformals : reg.formals c = []
  · exact ⟨.empty, by simp [Registry.determined, hformals]⟩
  · rw [determined_of_formals_ne_nil (n + 1) hformals, Registry.classView_self]
    exact ⟨_, rfl⟩

/-- A concrete type gives itself a context, in one step. -/
theorem exists_context_self (ht : t.isConcrete = true) (n : Nat) :
    ∃ σ, (R.withBudget (n + 1)).context t t = some σ := by
  cases t with
  | app c args owner =>
    obtain ⟨τ, hτ⟩ := exists_determined_self R.registry n c args
    refine ⟨(R.registry.impliedBindings (.app c args owner)).extend τ, ?_⟩
    change R.registry.context (n + 1) _ _ = _
    simp only [Registry.context, Registry.erasure_app, hτ, Option.map_some]
  | raw c => exact ⟨_, rfl⟩
  | array elem => exact ⟨_, rfl⟩
  | wildcard us ls => cases ht
  | var v => cases ht

/-- A concrete type can be used as itself, however many levels are left. -/
theorem canBecomeAt_self (ht : t.isConcrete = true) (n level : Nat) :
    (R.withBudget (n + 1)).canBecomeAt level t t = some true := by
  have hassign : (R.withBudget (n + 1)).isAssignable t t = some true :=
    R.registry.assignable?_self n t
  cases level with
  | zero => rw [canBecomeAt_zero_of_isConcrete ht, if_pos (gate_self ht), hassign]
  | succ level =>
    obtain ⟨σ, hσ⟩ := exists_context_self (R := R) ht n
    rw [canBecomeAt_succ_of_isConcrete ht, if_pos (gate_self ht), hσ, Option.bind_some, hassign]

/-- **Concrete types are fixed points.** On every registry a concrete type is resolved to itself,
under all bindings and at every depth, and it can be used as itself. -/
theorem concrete_fixed (R : Resolver) {t : TypeExpr} (ht : t.isConcrete = true) :
    (∀ σ depth, R.instantiate t σ depth = pure t) ∧
      ∀ n, (R.withBudget (n + 1)).canBecome t t = some true :=
  ⟨fun σ depth => instantiateAt_of_isConcrete ht (R.levels depth) σ,
    fun n => canBecomeAt_self ht n (R.levels 0)⟩

/-- An array of an unknown class inside an unknown class, with `Object` applied to an argument. -/
theorem concrete_fixed_unknown :
    (TypeExpr.array (.app ⟨7⟩ [.app ⟨0⟩ [.raw ⟨9⟩] none] (some (.raw ⟨8⟩)))).isConcrete = true ∧
      (∀ σ depth, Resolver.instantiate { registry := Registry.initial }
        (.array (.app ⟨7⟩ [.app ⟨0⟩ [.raw ⟨9⟩] none] (some (.raw ⟨8⟩)))) σ depth =
          pure (.array (.app ⟨7⟩ [.app ⟨0⟩ [.raw ⟨9⟩] none] (some (.raw ⟨8⟩))))) ∧
      ∀ n, (Resolver.withBudget { registry := Registry.initial } (n + 1)).canBecome
        (.array (.app ⟨7⟩ [.app ⟨0⟩ [.raw ⟨9⟩] none] (some (.raw ⟨8⟩))))
        (.array (.app ⟨7⟩ [.app ⟨0⟩ [.raw ⟨9⟩] none] (some (.raw ⟨8⟩)))) = some true :=
  ⟨rfl, concrete_fixed { registry := Registry.initial } rfl⟩

end Resolver

end Generics
