import Generics.Proofs.Resolution.BoundChecks
import Generics.Registry.Edit

/-!
# Produced arguments lie within their bounds

An argument that is not the one that was given has been checked against the bounds of its formal.
The check reads a bound with the arguments chosen so far, with the candidate itself, and with the
bindings that the caller gave; arguments further to the right are not known yet. So a passed check
says that the argument lies within a bound over the final arguments only if the bound speaks of no
later formal, or of one that the caller has bound to what is chosen for it in the end.

## Main definitions

* `Resolver.SettledAt` — a variable that the check of a position reads as its final argument

## Main results

* `Resolver.isAssignable_of_produced`
-/

namespace Generics

namespace Resolver

/-- The variable is the formal of one position, and the check of position `i` reads it as the result
at that position: it stands at `i` or before, or the caller has bound it to that result. -/
def SettledAt (formals : List VarId) (results : List TypeExpr) (σ : Substitution) (i : Nat)
    (w : VarId) : Prop :=
  ∃ j, formals[j]? = some w ∧ (∀ k, formals[k]? = some w → k = j) ∧
    (i < j → σ.get? w = results[j]?)

variable {R : Resolver} {formals : List VarId} {results : List TypeExpr} {σ : Substitution}

/-- A settled variable becomes its final argument: by the arguments chosen before, by the candidate,
or by the caller's binding. -/
theorem SettledAt.substitute_eq {i : Nat} {f w : VarId} {a : TypeExpr}
    (hw : SettledAt formals results σ i w) (hlen : formals.length = results.length)
    (hc : ∀ r ∈ results, r.isConcrete = true) (hf : formals[i]? = some f)
    (ha : results[i]? = some a) :
    ∃ b, (Substitution.ofFormals formals results).get? w = some b ∧ b.isConcrete = true ∧
      ((TypeExpr.var w).substitute (.ofFormals formals (results.take i))).substitute (σ.bind f a) =
        b := by
  obtain ⟨j, hj, hunique, hlater⟩ := hw
  have hlt : j < results.length := hlen ▸ (List.getElem?_eq_some_iff.1 hj).1
  obtain ⟨b, hb⟩ : ∃ b, results[j]? = some b := ⟨_, List.getElem?_eq_getElem hlt⟩
  have hbc : b.isConcrete = true := hc b (List.mem_of_getElem? hb)
  have hlast : ∀ (n : Nat), ∀ k < n, j < k → formals[k]? ≠ some w :=
    fun _ k _ hjk hk => Nat.ne_of_gt hjk (hunique k hk)
  refine ⟨b, Substitution.get?_ofFormals hj hb (hlast _), hbc, ?_⟩
  rcases Nat.lt_or_ge j i with hji | hij
  · have hchosen : (Substitution.ofFormals formals (results.take i)).get? w = some b :=
      Substitution.get?_ofFormals hj (by rw [List.getElem?_take, if_pos hji, hb]) (hlast _)
    rw [TypeExpr.substitute_var_of_get? hchosen, TypeExpr.substitute_of_isConcrete hbc]
  · have hchosen : (Substitution.ofFormals formals (results.take i)).get? w = none := by
      refine Substitution.get?_ofFormals_of_absent fun k hk hkw => ?_
      have hki : k < i := Nat.lt_of_lt_of_le hk (List.length_take_le _ _)
      exact Nat.ne_of_lt (Nat.lt_of_lt_of_le hki hij) (hunique k hkw)
    rw [TypeExpr.substitute_var, hchosen, Option.getD_none]
    refine TypeExpr.substitute_var_of_get? ?_
    rw [Substitution.get?_bind]
    rcases Nat.lt_or_eq_of_le hij with hlt | rfl
    · have hne : w ≠ f := fun he => Nat.ne_of_lt hlt (hunique i (he ▸ hf))
      rw [if_neg hne, hlater hlt, hb]
    · rw [if_pos (Option.some.inj (hj.symm.trans hf)), ← ha, hb]

/-- **Produced arguments lie within their bounds.** If a class with known formals, applied to as
many arguments, is resolved to concrete arguments, then every argument that is not the given one is
assignable to every bound of its formal whose variables are settled there, with all final arguments
put in. -/
theorem isAssignable_of_produced {c : ClassId} {args : List TypeExpr} {depth : Nat}
    (hk : FormalsKnown R.registry (R.registry.formals c))
    (harity : (R.registry.formals c).length = args.length)
    (h : (R.instantiate (.app c args none) σ depth).Yields (.app c results none))
    (hc : ∀ r ∈ results, r.isConcrete = true) {i : Nat} {f : VarId} {t a B : TypeExpr}
    (hf : (R.registry.formals c)[i]? = some f) (ht : args[i]? = some t)
    (ha : results[i]? = some a) (hne : a ≠ t) (hB : B ∈ R.registry.bounds f)
    (hsettled : ∀ w ∈ B.occurrences, SettledAt (R.registry.formals c) results σ i w) :
    R.isAssignable a (B.substitute (.ofFormals (R.registry.formals c) results)) = some true := by
  rw [instantiate] at h
  cases hn : R.levels depth with
  | zero =>
    rw [hn, instantiateAt_zero, Attempt.yields_pure, TypeExpr.app.injEq] at h
    obtain ⟨-, rfl, -⟩ := h
    exact absurd (Option.some.inj (ha.symm.trans ht)) hne
  | succ n =>
    rw [hn, instantiateAt_succ, yields_instantiateStep_app] at h
    obtain ⟨results', owner', he, hargs, -⟩ := h
    obtain ⟨-, rfl, -⟩ := TypeExpr.app.inj he
    rw [Registry.formalsFor, if_pos harity, yields_instantiateArgs_iff] at hargs
    obtain ⟨hlen, hargs⟩ := hargs
    have hresolved := hargs i t a ht ha
    rw [chosenAfter_empty hk] at hresolved
    have hcheck := (fitsFormal_eq_true_iff hk hf).1 hresolved.fits hne
      (hc a (List.mem_of_getElem? ha))
    have hbound := checkBounds_eq_true_iff.1 hcheck _ (List.mem_map_of_mem hB)
    -- what the check reads is the bound with all final arguments, and that has no variables
    have hreads := fun w hw =>
      (hsettled w hw).substitute_eq (harity.trans hlen.symm) hc hf ha
    have hsubst : (B.substitute (.ofFormals (R.registry.formals c) (results.take i))).substitute
        (σ.bind f a) = B.substitute (.ofFormals (R.registry.formals c) results) := by
      refine TypeExpr.substitute_substitute fun w hw => ?_
      obtain ⟨b, hb, -, hsub⟩ := hreads w hw
      rw [hsub, TypeExpr.substitute_var_of_get? hb]
    have hground : (B.substitute (.ofFormals (R.registry.formals c) results)).hasVars = false := by
      refine TypeExpr.hasVars_substitute fun w hw => ?_
      obtain ⟨b, hb, hbc, -⟩ := hreads w hw
      exact ⟨b, hb, hbc⟩
    rw [hsubst, hground, if_neg Bool.false_ne_true] at hbound
    exact hbound

end Resolver

/-! ### A bound by a later formal -/

namespace Registry

/-- `Object`, `String`, and a class `Pair<A extends B, B>`. -/
def withPair : Registry :=
  let (_, reg) := initial.addClass { name := "String", superclass := some (.raw ⟨0⟩) }
  let (pair, reg) := reg.intern "Pair"
  let (b, reg) := reg.addTypeParam "B" (.ofClass pair) []
  let (a, reg) := reg.addTypeParam "A" (.ofClass pair) [.var b]
  reg.define pair { name := "Pair", typeParams := [a, b], superclass := some (.raw ⟨0⟩) }

theorem formals_withPair : withPair.formals ⟨2⟩ = [⟨1⟩, ⟨0⟩] := by decide +kernel

end Registry

namespace Resolver

/-- `Pair<?, String>` becomes `Pair<Object, String>`: the bound `B` of the first formal is read
before `B` is known, and `Object` is not assignable to `String`. -/
theorem not_isAssignable_of_later_formal :
    FormalsKnown Registry.withPair (Registry.withPair.formals ⟨2⟩) ∧
      (Registry.withPair.formals ⟨2⟩).length = [TypeExpr.wildcard [] [], .raw ⟨1⟩].length ∧
      (instantiate { registry := Registry.withPair }
        (.app ⟨2⟩ [.wildcard [] [], .raw ⟨1⟩] none) .empty).Yields
        (.app ⟨2⟩ [.raw ⟨0⟩, .raw ⟨1⟩] none) ∧
      (Registry.withPair.formals ⟨2⟩)[0]? = some ⟨1⟩ ∧
      .var ⟨0⟩ ∈ Registry.withPair.bounds ⟨1⟩ ∧
      (∀ w ∈ (TypeExpr.var ⟨0⟩).occurrences, w ∈ Registry.withPair.formals ⟨2⟩) ∧
      isAssignable { registry := Registry.withPair } (.raw ⟨0⟩) ((TypeExpr.var ⟨0⟩).substitute
        (.ofFormals (Registry.withPair.formals ⟨2⟩) [.raw ⟨0⟩, .raw ⟨1⟩])) = some false := by
  decide +kernel

/-- With the later formal bound to `String` by the caller, `Pair<?, B>` becomes `Pair<String,
String>`, within the bound. -/
theorem isAssignable_of_produced_pair :
    isAssignable { registry := Registry.withPair } (.raw ⟨1⟩) ((TypeExpr.var ⟨0⟩).substitute
      (.ofFormals (Registry.withPair.formals ⟨2⟩) [.raw ⟨1⟩, .raw ⟨1⟩])) = some true := by
  have hproduced : (instantiate { registry := Registry.withPair }
      (.app ⟨2⟩ [.wildcard [] [], .var ⟨0⟩] none) (.ofList [(⟨0⟩, .raw ⟨1⟩)])).Yields
      (.app ⟨2⟩ [.raw ⟨1⟩, .raw ⟨1⟩] none) := by decide +kernel
  have hbound : TypeExpr.var ⟨0⟩ ∈ Registry.withPair.bounds ⟨1⟩ := by decide +kernel
  have hfirst : (Registry.withPair.formals ⟨2⟩)[0]? = some ⟨1⟩ := by decide +kernel
  have harity : (Registry.withPair.formals ⟨2⟩).length =
      [TypeExpr.wildcard [] [], .var ⟨0⟩].length := by decide +kernel
  refine isAssignable_of_produced (R := { registry := Registry.withPair })
    (by decide +kernel) harity hproduced (by decide) hfirst rfl rfl (by decide) hbound
    fun w hw => ?_
  obtain rfl := List.mem_singleton.1 hw
  rw [Registry.formals_withPair]
  refine ⟨1, rfl, fun k hk => ?_, fun _ => rfl⟩
  rcases k with - | - | k
  · cases hk
  · rfl
  · cases hk

end Resolver

end Generics
