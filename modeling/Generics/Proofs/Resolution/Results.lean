import Generics.Proofs.Resolution.Selection

/-!
# What comes out of one level

Properties that the results of resolution have in common are found level by level: a property of what
the level below returns becomes one of what this level returns. For most of a level the property does
not matter. A selection returns one of its resolved bounds or a raw class, a variable its resolved
value or what is selected between its bounds, and a walk over arguments what each of them is resolved
to, below bindings that consist of such results.

## Main definitions

* `ResultsWithin` — what the results of a computation have in common

## Main results

* `resultsWithin_pure`, `ResultsWithin.bind` and their companions, one for each way to compute
* `Resolver.resultsWithin_selectStep`, `Resolver.resultsWithin_instantiateVarStep`,
  `Resolver.resultsWithin_instantiateArgs` — the parts of a level
-/

namespace Generics

/-! ### What a result is like -/

section Results

variable {ε α β : Type} {P : α → Prop} {Q : β → Prop}

/-- Every result of the computation has the property. -/
def ResultsWithin (P : α → Prop) (x : ExceptT ε Option α) : Prop :=
  ∀ a, x.run = some (.ok a) → P a

theorem resultsWithin_pure {a : α} (ha : P a) :
    ResultsWithin P (pure a : ExceptT ε Option α) := by
  intro b hb
  obtain rfl : a = b := Except.ok.inj (Option.some.inj hb)
  exact ha

theorem resultsWithin_throw (e : ε) : ResultsWithin P (throw e : ExceptT ε Option α) :=
  fun _ h => nomatch Option.some.inj h

theorem ResultsWithin.bind {x : ExceptT ε Option α} {next : α → ExceptT ε Option β}
    (hx : ResultsWithin P x) (hnext : ∀ a, P a → ResultsWithin Q (next a)) :
    ResultsWithin Q (x >>= next) := by
  intro b hb
  rw [ExceptT.run_bind] at hb
  obtain ⟨r, hr, hb⟩ := Option.bind_eq_some_iff.1 hb
  cases r with
  | error e => cases Option.some.inj hb
  | ok a => exact hnext a (hx a hr) b hb

/-- What comes after a question may rely on the answer. -/
theorem resultsWithin_ask {x : Option α} {next : α → ExceptT ε Option β}
    (hnext : ∀ a, x = some a → ResultsWithin Q (next a)) :
    ResultsWithin Q ((liftM x : ExceptT ε Option α) >>= next) := by
  refine ResultsWithin.bind (P := fun a => x = some a) (fun a ha => ?_) hnext
  rw [ExceptT.run_liftM] at ha
  obtain ⟨a', ha', h⟩ := Option.map_eq_some_iff.1 ha
  obtain rfl := Except.ok.inj h
  exact ha'

/-- A test that must be passed does not change the result. -/
theorem resultsWithin_guard (fits : Option Bool) {x : ExceptT ε Option α} (e : ε)
    (hx : ResultsWithin P x) :
    ResultsWithin P
      ((liftM fits : ExceptT ε Option Bool) >>= fun b => if b then x else throw e) := by
  refine resultsWithin_ask fun b _ => ?_
  cases b with
  | true => exact hx
  | false => exact resultsWithin_throw e

theorem resultsWithin_mapM {f : β → ExceptT ε Option α} {bs : List β}
    (h : ∀ b ∈ bs, ResultsWithin P (f b)) :
    ResultsWithin (fun as => ∀ a ∈ as, P a) (bs.mapM f) := by
  induction bs with
  | nil => exact resultsWithin_pure fun a ha => absurd ha List.not_mem_nil
  | cons b bs ih =>
    rw [List.mapM_cons]
    refine (h b List.mem_cons_self).bind fun a ha => ?_
    refine (ih fun b' hb' => h b' (List.mem_cons_of_mem _ hb')).bind fun as has => ?_
    exact resultsWithin_pure (List.forall_mem_cons.2 ⟨ha, has⟩)

end Results

namespace Resolver

variable {R : Resolver} {P : TypeExpr → Prop} {inst : TypeExpr → Substitution → Attempt TypeExpr}
  {select : TypeExpr → List TypeExpr → List TypeExpr → Substitution → Attempt TypeExpr}
  {become : TypeExpr → TypeExpr → Option Bool} {σ chosen : Substitution}

/-! ### Selection -/

/-- The most specific of the resolved bounds is one of them. -/
theorem of_preferredBound {uppers : List TypeExpr}
    (huppers : ∀ u ∈ uppers, ResultsWithin P (inst u σ)) {t : TypeExpr}
    (ht : R.preferredBound inst uppers σ = some (some t)) : P t := by
  rw [preferredBound] at ht
  split at ht
  · cases ht
  · cases Option.some.inj ht
  · rename_i bounds hbounds
    have hmem : t ∈ bounds := List.mem_of_find?_eq_some (Option.some.inj ht)
    exact resultsWithin_mapM huppers bounds hbounds t hmem

/-- A resolved bound is selected, or a raw class. -/
theorem resultsWithin_selectStep (hraw : ∀ c, P (.raw c)) (subject : TypeExpr)
    (var : Option VarId) {uppers lowers : List TypeExpr}
    (huppers : ∀ u ∈ R.registry.orObject uppers, ResultsWithin P (inst u σ))
    (hlowers : ∀ l ∈ lowers, ResultsWithin P (inst l σ)) :
    ResultsWithin P (R.selectStep inst become subject var uppers lowers σ) := by
  cases lowers with
  | cons lower lowers =>
    unfold selectStep
    refine (hlowers lower List.mem_cons_self).bind fun candidate hc => ?_
    exact resultsWithin_guard _ _ (resultsWithin_pure hc)
  | nil =>
    intro r h
    cases run_selectStep_nil_eq_some_iff.1 h with
    | preferred ht hfits => exact of_preferredBound huppers ht
    | found hrefused hfound =>
      obtain ⟨c, rfl, -⟩ := searchRegistry_eq_some_some_iff.1 hfound
      exact hraw c
    | unresolved hrefused hnone ht => exact of_preferredBound huppers hrefused.1

/-! ### Variables -/

/-- A variable becomes its value, resolved unless it is concrete, or what is selected for it. -/
theorem resultsWithin_instantiateVarStep (hraw : ∀ c, P (.raw c)) {v : VarId}
    (hbounds : ∀ b ∈ R.registry.orObject (R.registry.bounds v), ResultsWithin P (inst b σ))
    (hconcrete : ∀ value, σ.get? v = some value → value.isConcrete = true → P value)
    (hvalue : ∀ value, σ.get? v = some value → value.isConcrete = false →
      ResultsWithin P (inst value σ)) :
    ResultsWithin P (R.instantiateVarStep inst become v σ) := by
  unfold instantiateVarStep
  split
  · exact resultsWithin_throw _
  · rename_i p hp
    rw [Registry.bounds_of_typeParam? hp] at hbounds
    split
    · exact resultsWithin_selectStep hraw (.var v) _ hbounds fun _ hl => absurd hl List.not_mem_nil
    · rename_i value hfilter
      have hget : σ.get? v = some value := Option.eq_some_of_filter_eq_some hfilter
      dsimp only
      split
      · rename_i hc
        refine (resultsWithin_pure (hconcrete value hget hc)).bind fun candidate h => ?_
        exact resultsWithin_guard _ _ (resultsWithin_pure h)
      · rename_i hc
        refine (hvalue value hget (Bool.eq_false_iff.2 hc)).bind fun candidate h => ?_
        exact resultsWithin_guard _ _ (resultsWithin_pure h)

/-! ### Arguments -/

/-- As many arguments come out as go in. Each of them is resolved below bindings to what came out
before it. -/
theorem resultsWithin_instantiateArgs (subject : TypeExpr) {formals : List VarId}
    {args : List TypeExpr} (hchosen : ∀ w t, chosen.get? w = some t → P t)
    (hargs : ∀ i a, args[i]? = some a → ∀ chosen' : Substitution,
      (∀ w t, chosen'.get? w = some t → P t) → ResultsWithin P
        (resolveArg inst select (R.seenBounds chosen' (formals.drop i)) a σ)) :
    ResultsWithin (fun rs => rs.length = args.length ∧ ∀ r ∈ rs, P r)
      (R.instantiateArgs inst select become subject σ chosen formals args) := by
  induction args generalizing chosen formals with
  | nil => exact resultsWithin_pure ⟨rfl, fun r hr => absurd hr List.not_mem_nil⟩
  | cons arg args ih =>
    rw [instantiateArgs_cons]
    refine (hargs 0 arg rfl chosen hchosen).bind fun result hresult => resultsWithin_guard _ _ ?_
    have hnext : ∀ w t, (R.choose chosen formals result).get? w = some t → P t := by
      intro w t hw
      rw [choose] at hw
      split at hw
      · exact hchosen w t hw
      · rw [Substitution.get?_bind] at hw
        split at hw
        · exact Option.some.inj hw ▸ hresult
        · exact hchosen w t hw
    refine ResultsWithin.bind (ih hnext fun i a ha => ?_) fun rest hrs =>
      resultsWithin_pure ⟨congrArg (· + 1) hrs.1, List.forall_mem_cons.2 ⟨hresult, hrs.2⟩⟩
    rw [List.drop_tail]
    exact hargs (i + 1) a ha

end Resolver

end Generics
