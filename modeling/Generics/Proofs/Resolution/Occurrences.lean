import Generics.Proofs.Resolution.CheckedBindings
import Generics.Proofs.Resolution.FullBindings

/-!
# Resolution, occurrence by occurrence

What an expression without wildcards is resolved to is put together from its parts: a variable gives
what the resolver makes of it where it stands, and an application of a class is let through if each
argument that changes passes for its formal. This is written down as derivations, one rule for each
shape. A variable has a second rule, under which the resolver need not be asked: it stands for the
type that other bindings have for it, if that type passes with them and the bindings in effect agree
with them about the variable and about what its bounds speak of.

## Main definitions

* `Resolver.AgreesAt` — two bindings agree about a variable and its bounds
* `Resolver.ArgsFit` — the results of arguments pass for the formals
* `Resolver.Resolves` — the derivations

## Main results

* `Resolver.answers_instantiate_of_resolves` — what is derived is what the resolver answers
* `Resolver.resolves_of_yields` — and every result has a derivation
* `Resolver.resolves_iff`
-/

namespace Generics

/-- Optional values are related if both are there or neither is, and those that are there are. -/
theorem optionRel_iff {α β : Type} {r : α → β → Prop} {o : Option α} {o' : Option β} :
    Option.Rel r o o' ↔ o'.isSome = o.isSome ∧ ∀ a ∈ o, ∀ b ∈ o', r a b := by
  constructor
  · rintro (h | _)
    · exact ⟨rfl, fun a ha b hb => Option.some.inj ha ▸ Option.some.inj hb ▸ h⟩
    · exact ⟨rfl, fun a ha => absurd ha (Option.not_mem_none a)⟩
  · rintro ⟨hsome, h⟩
    cases o with
    | none =>
      obtain rfl : o' = none := by simpa using hsome
      exact .none
    | some a =>
      obtain ⟨b, rfl⟩ := Option.isSome_iff_exists.1 hsome
      exact .some (h a rfl b rfl)

namespace Resolver

variable {R : Resolver} {σ m : Substitution}

/-! ### Derivations -/

/-- The bindings `σ` and `m` agree about the variable and about the other variables of its bounds.
-/
structure AgreesAt (R : Resolver) (σ m : Substitution) (v : VarId) : Prop where
  /-- The variable is bound alike. -/
  stands : σ.get? v = m.get? v
  /-- So are the other variables of its bounds. -/
  bounds : ∀ b ∈ R.registry.bounds v, ∀ w ∈ b.occurrences, w ≠ v → σ.get? w = m.get? w

/-- Each result passes for the formal in whose place its argument stands, with the results before it
put in for the formals before that one; the checks are made at the given depth. -/
def ArgsFit (R : Resolver) (σ : Substitution) (c : ClassId) (args results : List TypeExpr)
    (depth : Nat) : Prop :=
  ∀ i a r, args[i]? = some a → results[i]? = some r →
    Answers (fun n => (R.withBudget n).fitsFormal ((R.withBudget n).canBecomeAt (R.levels depth))
      (R.chosenAfter .empty (R.registry.formalsFor c args.length) (results.take i))
      ((R.registry.formalsFor c args.length).drop i) a r σ) true

/-- Arguments that stay as they are fit. -/
theorem argsFit_self (c : ClassId) (args : List TypeExpr) (depth : Nat) :
    R.ArgsFit σ c args args depth := by
  intro i a r ha hr
  obtain rfl := Option.some.inj (ha.symm.trans hr)
  exact ⟨0, fun n _ => fitsFormal_self ..⟩

/-- At a depth the expression is resolved to the type, with `σ` in effect; `m` has types that pass
for variables. -/
inductive Resolves (R : Resolver) (σ m : Substitution) : TypeExpr → Nat → TypeExpr → Prop
  /-- A class stays as it is. -/
  | raw (c : ClassId) (depth : Nat) : Resolves R σ m (.raw c) depth (.raw c)
  /-- A variable stands for the type that `m` has for it, if `σ` agrees. -/
  | bound {v : VarId} {u : TypeExpr} {depth : Nat} (hdepth : depth ≤ R.maxDepth)
      (hu : m.get? v = some u) (hagree : R.AgreesAt σ m v) : Resolves R σ m (.var v) depth u
  /-- A variable stands for what the resolver makes of it. -/
  | picked {v : VarId} {u : TypeExpr} {depth : Nat}
      (hu : Answers (fun n => ((R.withBudget n).instantiate (.var v) σ depth).run) (.ok u)) :
      Resolves R σ m (.var v) depth u
  /-- The arguments of a class are resolved one level below and pass for its formals, and the owner
  is resolved one level below. -/
  | app {c : ClassId} {args results : List TypeExpr} {owner owner' : Option TypeExpr} {depth : Nat}
      (hlength : results.length = args.length)
      (hargs : ∀ (i : Nat) a r, args[i]? = some a → results[i]? = some r →
        Resolves R σ m a (depth + 1) r)
      (hfit : R.ArgsFit σ c args results (depth + 1)) (hsome : owner'.isSome = owner.isSome)
      (howner : ∀ o ∈ owner, ∀ o' ∈ owner', Resolves R σ m o (depth + 1) o') :
      Resolves R σ m (.app c args owner) depth (.app c results owner')
  /-- So is the component of an array. -/
  | array {elem r : TypeExpr} {depth : Nat} (h : Resolves R σ m elem (depth + 1) r) :
      Resolves R σ m (.array elem) depth (.array r)

/-! ### Beyond the maximal depth -/

theorem answers_instantiate_of_deep {depth : Nat} (hdeep : R.maxDepth < depth) (t : TypeExpr) :
    Answers (fun n => ((R.withBudget n).instantiate t σ depth).run) (.ok t) :=
  ⟨0, fun n _ => congrArg ExceptT.run (instantiate_of_deep (R := R.withBudget n) hdeep t σ)⟩

/-- Beyond the maximal depth every expression is resolved to itself, -/
theorem resolves_of_deep {t : TypeExpr} (hw : t.hasWildcards = false) {depth : Nat}
    (hdeep : R.maxDepth < depth) : R.Resolves σ m t depth t := by
  induction t generalizing depth with
  | raw c => exact .raw c depth
  | app c args owner ihArgs ihOwner =>
    obtain ⟨hwargs, hwowner⟩ := TypeExpr.hasWildcards_app_eq_false_iff.1 hw
    refine .app rfl (fun i a r ha hr => ?_) (argsFit_self c args _) rfl fun o ho o' ho' => ?_
    · obtain rfl := Option.some.inj (ha.symm.trans hr)
      have hmem : a ∈ args := List.mem_of_getElem? ha
      exact ihArgs a hmem (hwargs a hmem) (Nat.lt_succ_of_lt hdeep)
    · obtain rfl := Option.some.inj (ho.symm.trans ho')
      exact ihOwner o ho (hwowner o ho) (Nat.lt_succ_of_lt hdeep)
  | wildcard us ls => cases hw
  | var v => exact .picked (answers_instantiate_of_deep hdeep _)
  | array elem ih => exact .array (ih hw (Nat.lt_succ_of_lt hdeep))

/-- and to nothing else. -/
theorem Resolves.eq_of_deep {t u : TypeExpr} {depth : Nat} (h : R.Resolves σ m t depth u)
    (hdeep : R.maxDepth < depth) : u = t := by
  induction h with
  | raw c => rfl
  | bound hdepth => omega
  | picked hu => exact Except.ok.inj (hu.unique (answers_instantiate_of_deep hdeep _))
  | @app c args results owner owner' depth hlength _ _ hsome _ ihArgs ihOwner =>
    have hsame : results = args := by
      refine List.ext_getElem hlength fun i hi hi' => ?_
      exact ihArgs i _ _ (List.getElem?_eq_getElem hi') (List.getElem?_eq_getElem hi)
        (Nat.lt_succ_of_lt hdeep)
    have howner : owner' = owner := by
      have hrel : Option.Rel (fun o o' => o' = o) owner owner' :=
        optionRel_iff.2 ⟨hsome, fun o ho o' ho' => ihOwner o ho o' ho' (Nat.lt_succ_of_lt hdeep)⟩
      cases hrel with
      | none => rfl
      | some h => rw [h]
    rw [hsame, howner]
  | array _ ih => rw [ih (Nat.lt_succ_of_lt hdeep)]

/-- So what is derived there is answered, -/
theorem Resolves.answers_of_deep {t u : TypeExpr} {depth : Nat} (h : R.Resolves σ m t depth u)
    (hdeep : R.maxDepth < depth) :
    Answers (fun n => ((R.withBudget n).instantiate t σ depth).run) (.ok u) := by
  rw [h.eq_of_deep hdeep]
  exact answers_instantiate_of_deep hdeep t

/-- and what is answered is derived. -/
theorem resolves_of_yields_deep {t u : TypeExpr} (hw : t.hasWildcards = false) {n depth : Nat}
    (hdeep : R.maxDepth < depth) (h : ((R.withBudget n).instantiate t σ depth).Yields u) :
    R.Resolves σ m t depth u := by
  rw [instantiate_of_deep (R := R.withBudget n) hdeep, Attempt.yields_pure] at h
  exact h ▸ resolves_of_deep hw hdeep

/-! ### What is derived is answered -/

/-- A type that passes for the variable is what the variable is resolved to, at every depth that is
entered. -/
theorem answers_instantiate_of_passes {v : VarId} {u : TypeExpr} (hu : m.get? v = some u)
    (hc : u.isConcrete = true) (hpass : R.Passes u v m) (hagree : R.AgreesAt σ m v) {depth : Nat}
    (hdepth : depth ≤ R.maxDepth) :
    Answers (fun n => ((R.withBudget n).instantiate (.var v) σ depth).run) (.ok u) := by
  obtain ⟨hknown, N, hN⟩ := (passes_iff hc).1 (hpass.congr hc hagree.bounds)
  refine ⟨N, fun n hn => ?_⟩
  show ((R.withBudget n).instantiate (.var v) σ depth).Yields u
  rw [instantiate_of_le (R := R.withBudget n) hdepth]
  refine (yields_instantiateVarStep (hagree.stands.trans hu) hc).2 ⟨rfl, hknown, ?_⟩
  exact checkBounds_of_le (R.levels_le_levels (Nat.le_add_left 1 depth)) hc (hN n hn)

/-- Arguments and an owner that are resolved, with results that fit, make a resolved class. -/
theorem answers_instantiate_app {c : ClassId} {args results : List TypeExpr}
    {owner owner' : Option TypeExpr} {depth : Nat} (hdepth : depth ≤ R.maxDepth)
    (hw : ∀ a ∈ args, a.hasWildcards = false) (hlength : results.length = args.length)
    (hargs : ∀ (i : Nat) a r, args[i]? = some a → results[i]? = some r →
      Answers (fun n => ((R.withBudget n).instantiate a σ (depth + 1)).run) (.ok r))
    (hfit : R.ArgsFit σ c args results (depth + 1))
    (howner : Option.Rel (fun o o' => Answers
      (fun n => ((R.withBudget n).instantiate o σ (depth + 1)).run) (.ok o')) owner owner') :
    Answers (fun n => ((R.withBudget n).instantiate (.app c args owner) σ depth).run)
      (.ok (.app c results owner')) := by
  obtain ⟨N, hN⟩ : ∃ N, ∀ n, N ≤ n → ∀ i a, args[i]? = some a → ∀ r, results[i]? = some r →
      ((R.withBudget n).instantiate a σ (depth + 1)).Yields r ∧
        (R.withBudget n).fitsFormal ((R.withBudget n).canBecomeAt (R.levels (depth + 1)))
          (R.chosenAfter .empty (R.registry.formalsFor c args.length) (results.take i))
          ((R.registry.formalsFor c args.length).drop i) a r σ = some true := by
    refine eventually_forall_getElem? fun i a ha => ?_
    obtain ⟨hi, -⟩ := List.getElem?_eq_some_iff.1 ha
    have hr : results[i]? = some results[i] := List.getElem?_eq_getElem (hlength ▸ hi)
    obtain ⟨N₁, hN₁⟩ := hargs i a _ ha hr
    obtain ⟨N₂, hN₂⟩ := hfit i a _ ha hr
    refine ⟨max N₁ N₂, fun n hn r hr' => ?_⟩
    obtain rfl := Option.some.inj (hr.symm.trans hr')
    exact ⟨hN₁ n (by omega), hN₂ n (by omega)⟩
  obtain ⟨M, hM⟩ : ∃ M, ∀ n, M ≤ n → Option.Rel
      (fun o o' => ((R.withBudget n).instantiate o σ (depth + 1)).Yields o') owner owner' := by
    cases howner with
    | none => exact ⟨0, fun n _ => .none⟩
    | some h =>
      obtain ⟨M, hM⟩ := h
      exact ⟨M, fun n hn => .some (hM n hn)⟩
  refine ⟨max N M, fun n hn => ?_⟩
  show ((R.withBudget n).instantiate (.app c args owner) σ depth).Yields (.app c results owner')
  rw [instantiate_of_le (R := R.withBudget n) hdepth]
  refine yields_instantiateStep_app.2 ⟨results, owner', rfl, ?_, hM n (by omega)⟩
  refine yields_instantiateArgs_iff.2 ⟨hlength, fun i a r ha hr => ?_⟩
  obtain ⟨hyields, hfits⟩ := hN n (by omega) i a ha r hr
  rw [chosenAfter_withBudget]
  refine ⟨?_, hfits⟩
  rw [resolveArg_of_not_hasWildcards (hw a (List.mem_of_getElem? ha))]
  exact hyields

/-- **What is derived is what the resolver answers,** if the types of `m` pass for the variables. -/
theorem answers_instantiate_of_resolves {t u : TypeExpr} {depth : Nat}
    (h : R.Resolves σ m t depth u) (hw : t.hasWildcards = false)
    (hm : ∀ v ∈ t.occurrences, ∃ u, m.get? v = some u ∧ u.isConcrete = true ∧ R.Passes u v m) :
    Answers (fun n => ((R.withBudget n).instantiate t σ depth).run) (.ok u) := by
  induction h with
  | raw c depth => exact ⟨0, fun n _ => congrArg _ (instantiateAt_of_isConcrete rfl _ σ)⟩
  | @bound v u depth hdepth hu hagree =>
    obtain ⟨u', hu', hc, hpass⟩ := hm v List.mem_cons_self
    obtain rfl := Option.some.inj (hu.symm.trans hu')
    exact answers_instantiate_of_passes hu hc hpass hagree hdepth
  | picked hu => exact hu
  | @app c args results owner owner' depth hlength hargs hfit hsome howner ihArgs ihOwner =>
    by_cases hdeep : R.maxDepth < depth
    · exact (Resolves.app hlength hargs hfit hsome howner).answers_of_deep hdeep
    obtain ⟨hwargs, hwowner⟩ := TypeExpr.hasWildcards_app_eq_false_iff.1 hw
    refine answers_instantiate_app (Nat.le_of_not_lt hdeep) hwargs hlength (fun i a r ha hr => ?_)
      hfit (optionRel_iff.2 ⟨hsome, fun o ho o' ho' => ?_⟩)
    · have hmem : a ∈ args := List.mem_of_getElem? ha
      exact ihArgs i a r ha hr (hwargs a hmem) fun v hv =>
        hm v (TypeExpr.mem_occurrences_app.2 (.inl ⟨a, hmem, hv⟩))
    · exact ihOwner o ho o' ho' (hwowner o ho) fun v hv =>
        hm v (TypeExpr.mem_occurrences_app.2 (.inr ⟨o, ho, hv⟩))
  | @array elem r depth h ih =>
    by_cases hdeep : R.maxDepth < depth
    · exact (Resolves.array h).answers_of_deep hdeep
    obtain ⟨N, hN⟩ := ih hw hm
    refine ⟨N, fun n hn => ?_⟩
    show ((R.withBudget n).instantiate (.array elem) σ depth).Yields (.array r)
    rw [instantiate_of_le (R := R.withBudget n) (Nat.le_of_not_lt hdeep)]
    exact Attempt.yields_bind.2 ⟨r, hN n hn, Attempt.yields_pure.2 rfl⟩

/-! ### What is answered is derived -/

/-- A resolved class is made of resolved parts. -/
theorem exists_of_yields_instantiate_app {c : ClassId} {args : List TypeExpr}
    {owner : Option TypeExpr} {u : TypeExpr} {n depth : Nat} (hdepth : depth ≤ R.maxDepth)
    (hw : ∀ a ∈ args, a.hasWildcards = false)
    (h : ((R.withBudget n).instantiate (.app c args owner) σ depth).Yields u) :
    ∃ results owner', u = .app c results owner' ∧ results.length = args.length ∧
      (∀ (i : Nat) a r, args[i]? = some a → results[i]? = some r →
        ((R.withBudget n).instantiate a σ (depth + 1)).Yields r) ∧
      R.ArgsFit σ c args results (depth + 1) ∧
      Option.Rel (fun o o' => ((R.withBudget n).instantiate o σ (depth + 1)).Yields o') owner
        owner' := by
  rw [instantiate_of_le (R := R.withBudget n) hdepth] at h
  obtain ⟨results, owner', rfl, hresults, howner⟩ := yields_instantiateStep_app.1 h
  obtain ⟨hlength, hargs⟩ := yields_instantiateArgs_iff.1 hresults
  refine ⟨results, owner', rfl, hlength, fun i a r ha hr => ?_, fun i a r ha hr => ?_, howner⟩
  · have hresolved := (hargs i a r ha hr).resolved
    rwa [resolveArg_of_not_hasWildcards (hw a (List.mem_of_getElem? ha))] at hresolved
  · have hfits := (hargs i a r ha hr).fits
    rw [chosenAfter_withBudget] at hfits
    exact answers_fitsFormal hfits

/-- **Every result of the resolver is derived.** -/
theorem resolves_of_yields {t u : TypeExpr} (hw : t.hasWildcards = false) {n depth : Nat}
    (h : ((R.withBudget n).instantiate t σ depth).Yields u) : R.Resolves σ m t depth u := by
  induction t generalizing depth u with
  | raw c =>
    rw [instantiate, instantiateAt_of_isConcrete rfl, Attempt.yields_pure] at h
    exact h ▸ .raw c depth
  | app c args owner ihArgs ihOwner =>
    by_cases hdeep : R.maxDepth < depth
    · exact resolves_of_yields_deep hw hdeep h
    obtain ⟨hwargs, hwowner⟩ := TypeExpr.hasWildcards_app_eq_false_iff.1 hw
    obtain ⟨results, owner', rfl, hlength, hargs, hfit, howner⟩ :=
      exists_of_yields_instantiate_app (Nat.le_of_not_lt hdeep) hwargs h
    obtain ⟨hsome, hyields⟩ := optionRel_iff.1 howner
    refine .app hlength (fun i a r ha hr => ?_) hfit hsome fun o ho o' ho' => ?_
    · have hmem : a ∈ args := List.mem_of_getElem? ha
      exact ihArgs a hmem (hwargs a hmem) (hargs i a r ha hr)
    · exact ihOwner o ho (hwowner o ho) (hyields o ho o' ho')
  | wildcard us ls => cases hw
  | var v => exact .picked (answers_instantiate h)
  | array elem ih =>
    by_cases hdeep : R.maxDepth < depth
    · exact resolves_of_yields_deep hw hdeep h
    rw [instantiate_of_le (R := R.withBudget n) (Nat.le_of_not_lt hdeep)] at h
    obtain ⟨r, hr, hu⟩ := Attempt.yields_bind.1 h
    rw [← Attempt.yields_pure.1 hu]
    exact .array (ih hw hr)

/-- **Derivations are exact:** an expression without wildcards, whose variables have types that pass
in `m`, is resolved to what can be derived for it. -/
theorem resolves_iff {t u : TypeExpr} {depth : Nat} (hw : t.hasWildcards = false)
    (hm : ∀ v ∈ t.occurrences, ∃ u, m.get? v = some u ∧ u.isConcrete = true ∧ R.Passes u v m) :
    R.Resolves σ m t depth u ↔
      Answers (fun n => ((R.withBudget n).instantiate t σ depth).run) (.ok u) := by
  refine ⟨fun h => answers_instantiate_of_resolves h hw hm, fun h => ?_⟩
  obtain ⟨n, hn⟩ := h.exists_eq
  exact resolves_of_yields hw hn

end Resolver

end Generics
