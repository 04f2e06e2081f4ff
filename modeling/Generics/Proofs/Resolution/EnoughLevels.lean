import Generics.Proofs.Resolution.Concrete
import Generics.Proofs.Resolution.Halting
import Generics.Proofs.Resolution.Results
import Generics.Proofs.Resolution.WildcardArguments
import Generics.Proofs.TypeExpr.Places
import Mathlib.Data.Set.Finite.List
import Mathlib.Logic.Relation
import Mathlib.Order.WellFoundedSet

/-!
# With enough levels nothing is cut off

Resolution returns a type that is not concrete only where the levels run out. How many it needs is a
matter of how variables lead to each other: a variable is resolved by its bounds and by its binding,
so it needs one level more than these, and a wildcard in the place of an argument brings in the bounds
of the formal besides. The bounds of a formal are read with the arguments before it put in, but these
are concrete by then and need no level. So where no variable leads back to itself the levels that are
needed are counted once and for all, whatever the budget is; and with that many levels the result is
concrete, if there is one.

There may be none: on the way it is asked whether types are assignable, and such a question need not
have an answer.

## Main definitions

* `Registry.Involves` — the variables on whose resolution an expression depends
* `Registry.DependsOn` — and those on which a variable does
* `Registry.InOrder` — every variable depends on earlier ones only
* `Registry.Resolvable` — what comes out of an expression with enough levels is concrete
* `Registry.Settled` — what comes out of a variable and of its bounds

## Main results

* `acc_of_no_cycle` — without cycles there is no endless chain
* `Registry.InOrder.not_cycle` — no variable depends on itself where they are in order
* `Registry.resolvable_of_involves` — an expression, if the variables it involves are settled
* `Registry.settled_of_acc` — a variable, along its dependencies
* `Registry.concrete_of_no_cycle`
* `Registry.instantiate_spiralInBox_unanswered` — where no result comes
-/

namespace Generics

open Relation

/-! ### Chains without cycles -/

/-- Where finitely many nodes lead anywhere, and none that is reached lies on a cycle, there is no
endless chain. -/
theorem acc_of_no_cycle {α : Type} {r : α → α → Prop} {a : α} (hfinite : {b | ∃ c, r b c}.Finite)
    (h : ∀ b, ReflTransGen r a b → ¬ TransGen r b b) : Acc (fun c b => r b c) a := by
  let below : α → α → Prop := fun c b => TransGen r b c ∧ ReflTransGen r a b
  have hstrict : IsStrictOrder α below :=
    { irrefl := fun b hb => h b hb.2 hb.1
      trans := fun d c b hdc hcb => ⟨hcb.1.trans hdc.1, hcb.2⟩ }
  -- a strict order is well founded on a finite set, and a node outside of it leads nowhere
  have hwell : {b | ∃ c, r b c}.WellFoundedOn below := hfinite.wellFoundedOn
  have hleaf : ∀ b, ¬ (∃ c, r b c) → Acc (fun c b => r b c) b :=
    fun b hb => ⟨b, fun c hc => absurd ⟨c, hc⟩ hb⟩
  by_cases ha : ∃ c, r a c
  · refine hwell.induction (P := fun b => ReflTransGen r a b → Acc (fun c b => r b c) b) ha
      (fun b _ ih hab => ⟨b, fun c hbc => ?_⟩) .refl
    by_cases hc : ∃ d, r c d
    · exact ih c hc ⟨.single hbc, hab⟩ (hab.tail hbc)
    · exact hleaf c hc
  · exact hleaf a ha

namespace Registry

/-! ### What depends on what -/

/-- The variables on whose resolution that of an expression depends: those that occur in it, and the
formals behind wildcards in the place of arguments. -/
def Involves (reg : Registry) (t : TypeExpr) (v : VarId) : Prop :=
  v ∈ t.occurrences ∨ ∃ c args, (c, args) ∈ t.applications ∧
    ∃ (i : Nat) (us ls : List TypeExpr), args[i]? = some (.wildcard us ls) ∧
      (reg.formals c)[i]? = some v

/-- A variable depends on what its bounds and its binding involve. -/
def DependsOn (reg : Registry) (σ : Substitution) (v w : VarId) : Prop :=
  ∃ b, (b ∈ reg.bounds v ∨ σ.get? v = some b) ∧ reg.Involves b w

variable {reg : Registry} {σ : Substitution}

namespace Involves

variable {c : ClassId} {args us ls : List TypeExpr} {owner : Option TypeExpr} {v : VarId}

/-- What a part involves, the whole involves. -/
theorem mono {s t : TypeExpr} (hvars : ∀ w ∈ s.occurrences, w ∈ t.occurrences)
    (happs : ∀ u ∈ s.applications, u ∈ t.applications) (h : reg.Involves s v) :
    reg.Involves t v := by
  rcases h with hv | ⟨d, brgs, hmem, hformal⟩
  · exact .inl (hvars v hv)
  · exact .inr ⟨d, brgs, happs _ hmem, hformal⟩

theorem of_arg {a : TypeExpr} (ha : a ∈ args) (h : reg.Involves a v) :
    reg.Involves (.app c args owner) v :=
  h.mono (fun _ hw => TypeExpr.mem_occurrences_app.2 (.inl ⟨a, ha, hw⟩))
    fun _ hu => TypeExpr.mem_applications_app.2 (.inr (.inl ⟨a, ha, hu⟩))

theorem of_owner {o : TypeExpr} (ho : o ∈ owner) (h : reg.Involves o v) :
    reg.Involves (.app c args owner) v :=
  h.mono (fun _ hw => TypeExpr.mem_occurrences_app.2 (.inr ⟨o, ho, hw⟩))
    fun _ hu => TypeExpr.mem_applications_app.2 (.inr (.inr ⟨o, ho, hu⟩))

/-- The formal behind a wildcard. -/
theorem of_formal {i : Nat} (hwildcard : args[i]? = some (.wildcard us ls))
    (hv : (reg.formals c)[i]? = some v) : reg.Involves (.app c args owner) v :=
  .inr ⟨c, args, TypeExpr.mem_applications_app.2 (.inl rfl), i, us, ls, hwildcard, hv⟩

theorem of_bound {b : TypeExpr} (hb : b ∈ us ∨ b ∈ ls) (h : reg.Involves b v) :
    reg.Involves (.wildcard us ls) v :=
  h.mono (fun _ hw => TypeExpr.mem_occurrences_wildcard.2
      (hb.imp (fun hb => ⟨b, hb, hw⟩) fun hb => ⟨b, hb, hw⟩))
    fun _ hu => TypeExpr.mem_applications_wildcard.2
      (hb.imp (fun hb => ⟨b, hb, hu⟩) fun hb => ⟨b, hb, hu⟩)

theorem of_elem {elem : TypeExpr} (h : reg.Involves elem v) : reg.Involves (.array elem) v :=
  h.mono (fun _ hw => by rwa [TypeExpr.occurrences_array])
    fun _ hu => TypeExpr.mem_applications_array.2 hu

end Involves

/-- What a binding is looked up from. -/
theorem mem_entries_of_get? {v : VarId} {b : TypeExpr} (h : σ.get? v = some b) :
    (v, b) ∈ σ.entries := by
  obtain ⟨before, after, hentries, -⟩ := List.lookup_eq_some_iff.1 h
  rw [hentries]
  exact List.mem_append_right _ List.mem_cons_self

/-- Only a variable that is declared or bound depends on others. -/
theorem finite_dependsOn (reg : Registry) (σ : Substitution) :
    {v | ∃ w, reg.DependsOn σ v w}.Finite := by
  refine Set.Finite.subset (List.finite_toSet
    ((List.range reg.params.size).map VarId.mk ++ σ.entries.map Prod.fst)) ?_
  rintro v ⟨w, b, hb | hb, -⟩
  · exact List.mem_append_left _
      (List.mem_map.2 ⟨v.idx, List.mem_range.2 (lt_size_of_mem_bounds hb), rfl⟩)
  · exact List.mem_append_right _ (List.mem_map.2 ⟨(v, b), mem_entries_of_get? hb, rfl⟩)

/-! ### Declarations in order -/

/-- The variables that an expression involves, listed. -/
def involved (reg : Registry) (t : TypeExpr) : List VarId :=
  t.occurrences ++ t.applications.flatMap fun u =>
    ((u.2.zip (reg.formals u.1)).filter fun e => e.1.shape == .wildcard).map Prod.snd

theorem mem_involved {t : TypeExpr} {v : VarId} (h : reg.Involves t v) : v ∈ reg.involved t := by
  rw [involved, List.mem_append, List.mem_flatMap]
  refine h.imp id ?_
  rintro ⟨c, args, hmem, i, us, ls, hwildcard, hv⟩
  have hzip : (.wildcard us ls, v) ∈ args.zip (reg.formals c) :=
    List.mem_of_getElem? (List.getElem?_zip_eq_some.2 ⟨hwildcard, hv⟩)
  exact ⟨(c, args), hmem, List.mem_map.2 ⟨_, List.mem_filter.2 ⟨hzip, rfl⟩, rfl⟩⟩

/-- Bounds and bindings of a variable involve only variables that were declared before it. -/
def InOrder (reg : Registry) (σ : Substitution) : Prop :=
  (∀ i < reg.params.size, ∀ b ∈ reg.bounds ⟨i⟩, ∀ w ∈ reg.involved b, w.idx < i) ∧
    ∀ e ∈ σ.entries, ∀ w ∈ reg.involved e.2, w.idx < e.1.idx

instance (reg : Registry) (σ : Substitution) : Decidable (reg.InOrder σ) :=
  inferInstanceAs (Decidable ((∀ i < reg.params.size, ∀ b ∈ reg.bounds ⟨i⟩,
    ∀ w ∈ reg.involved b, w.idx < i) ∧ ∀ e ∈ σ.entries, ∀ w ∈ reg.involved e.2, w.idx < e.1.idx))

theorem InOrder.lt_of_dependsOn (h : reg.InOrder σ) {v w : VarId} (hvw : reg.DependsOn σ v w) :
    w.idx < v.idx := by
  obtain ⟨b, hb | hb, hw⟩ := hvw
  · exact h.1 v.idx (lt_size_of_mem_bounds hb) b hb w (mem_involved hw)
  · exact h.2 (v, b) (mem_entries_of_get? hb) w (mem_involved hw)

/-- Where variables depend on earlier ones only, none depends on itself. -/
theorem InOrder.not_cycle (h : reg.InOrder σ) (v : VarId) : ¬ TransGen (reg.DependsOn σ) v v := by
  have hlt : ∀ w, TransGen (reg.DependsOn σ) v w → w.idx < v.idx := by
    intro w hw
    induction hw with
    | single hvw => exact h.lt_of_dependsOn hvw
    | tail _ hwx ih => exact Nat.lt_trans (h.lt_of_dependsOn hwx) ih
  exact fun hv => Nat.lt_irrefl _ (hlt v hv)

/-! ### Enough levels -/

/-- With `n` levels left only concrete types come out of the expression, also if concrete types have
been put in for some of its variables. -/
def ConcreteAt (reg : Registry) (σ : Substitution) (t : TypeExpr) (n : Nat) : Prop :=
  ∀ R : Resolver, R.registry = reg → ∀ chosen : Substitution,
    (∀ w u, chosen.get? w = some u → u.isConcrete = true) →
      ResultsWithin (TypeExpr.isConcrete · = true) (R.instantiateAt n (t.substitute chosen) σ)

/-- The same of an argument in the place of a formal. The bounds of the formal are read with concrete
types put in as well. -/
def ArgConcreteAt (reg : Registry) (σ : Substitution) (formals : List VarId) (i : Nat)
    (a : TypeExpr) (n : Nat) : Prop :=
  ∀ R : Resolver, R.registry = reg → ∀ outer chosen : Substitution,
    (∀ w u, outer.get? w = some u → u.isConcrete = true) →
    (∀ w u, chosen.get? w = some u → u.isConcrete = true) →
      ResultsWithin (TypeExpr.isConcrete · = true)
        (Resolver.resolveArg (R.instantiateAt n) (R.selectAt n)
          (R.seenBounds chosen (formals.drop i)) (a.substitute outer) σ)

/-- With enough levels only concrete types come out of the expression. -/
def Resolvable (reg : Registry) (σ : Substitution) (t : TypeExpr) : Prop :=
  ∃ N, ∀ n, N ≤ n → reg.ConcreteAt σ t n

/-- With enough levels only concrete types come out of the variable and of its bounds. -/
structure Settled (reg : Registry) (σ : Substitution) (v : VarId) : Prop where
  /-- The variable is resolvable, -/
  var : reg.Resolvable σ (.var v)
  /-- and so are its bounds. -/
  bounds : ∀ b ∈ reg.bounds v, reg.Resolvable σ b

theorem ConcreteAt.resultsWithin {t : TypeExpr} {n : Nat} (h : reg.ConcreteAt σ t n) {R : Resolver}
    (hR : R.registry = reg) :
    ResultsWithin (TypeExpr.isConcrete · = true) (R.instantiateAt n t σ) := by
  have hplain := h R hR .empty fun _ _ hw => nomatch hw
  rwa [TypeExpr.substitute_empty] at hplain

/-- The level below the outermost one has one level less. -/
theorem resolvable_of_succ {t : TypeExpr} (h : ∃ N, ∀ n, N ≤ n → reg.ConcreteAt σ t (n + 1)) :
    reg.Resolvable σ t := by
  obtain ⟨N, hN⟩ := h
  refine ⟨N + 1, fun n hn => ?_⟩
  obtain ⟨k, rfl⟩ : ∃ k, n = k + 1 := ⟨n - 1, by omega⟩
  exact hN k (by omega)

/-- `Object` needs no level. -/
theorem resultsWithin_orObject {R : Resolver} {n : Nat} {uppers : List TypeExpr}
    (h : ∀ u ∈ uppers, ResultsWithin (TypeExpr.isConcrete · = true) (R.instantiateAt n u σ)) :
    ∀ u ∈ R.registry.orObject uppers,
      ResultsWithin (TypeExpr.isConcrete · = true) (R.instantiateAt n u σ) := by
  intro u hu
  rcases mem_orObject hu with rfl | hu
  · rw [Resolver.instantiateAt_of_isConcrete rfl]
    exact resultsWithin_pure rfl
  · exact h u hu

/-! ### Each shape -/

theorem resolvable_wildcard {us ls : List TypeExpr}
    (h : ∀ b, b ∈ us ∨ b ∈ ls → reg.Resolvable σ b) : reg.Resolvable σ (.wildcard us ls) := by
  obtain ⟨N, hN⟩ := eventually_forall_mem fun b hb => h b (List.mem_append.1 hb)
  refine resolvable_of_succ ⟨N, fun n hn R hR chosen hchosen => ?_⟩
  have hmap : ∀ bs : List TypeExpr, (∀ b ∈ bs, b ∈ us ++ ls) → ∀ u ∈ bs.map (·.substitute chosen),
      ResultsWithin (TypeExpr.isConcrete · = true) (R.instantiateAt n u σ) := by
    intro bs hbs
    rw [List.forall_mem_map]
    exact fun b hb => hN n hn b (hbs b hb) R hR chosen hchosen
  rw [TypeExpr.substitute_wildcard, Resolver.instantiateAt_succ]
  exact Resolver.resultsWithin_selectStep (fun _ => rfl) _ none
    (resultsWithin_orObject (hmap us fun b hb => List.mem_append_left _ hb))
    (hmap ls fun b hb => List.mem_append_right _ hb)

theorem resolvable_var {v : VarId} (hbounds : ∀ b ∈ reg.bounds v, reg.Resolvable σ b)
    (hvalue : ∀ b, σ.get? v = some b → reg.Resolvable σ b) : reg.Resolvable σ (.var v) := by
  have hneeded : ∀ b ∈ reg.bounds v ++ (σ.get? v).toList, reg.Resolvable σ b := fun b hb =>
    (List.mem_append.1 hb).elim (hbounds b) fun hb => hvalue b (Option.mem_toList.1 hb)
  obtain ⟨N, hN⟩ := eventually_forall_mem hneeded
  refine resolvable_of_succ ⟨N, fun n hn R hR chosen hchosen => ?_⟩
  cases hv : chosen.get? v with
  | some u =>
    rw [TypeExpr.substitute_var_of_get? hv, Resolver.instantiateAt_of_isConcrete (hchosen v u hv)]
    exact resultsWithin_pure (hchosen v u hv)
  | none =>
    rw [TypeExpr.substitute_var, hv, Option.getD_none, Resolver.instantiateAt_succ]
    refine Resolver.resultsWithin_instantiateVarStep (fun _ => rfl)
      (resultsWithin_orObject fun b hb => ?_) (fun _ _ hc => hc) fun b hb _ => ?_
    · rw [hR] at hb
      exact (hN n hn b (List.mem_append_left _ hb)).resultsWithin hR
    · exact (hN n hn b (List.mem_append_right _ (Option.mem_toList.2 hb))).resultsWithin hR

theorem resolvable_array {elem : TypeExpr} (h : reg.Resolvable σ elem) :
    reg.Resolvable σ (.array elem) := by
  obtain ⟨N, hN⟩ := h
  refine resolvable_of_succ ⟨N, fun n hn R hR chosen hchosen => ?_⟩
  rw [TypeExpr.substitute_array, Resolver.instantiateAt_succ]
  exact (hN n hn R hR chosen hchosen).bind fun e he => resultsWithin_pure he

/-- A wildcard in the place of an argument needs its own bounds and those of the formal, which are
read with the arguments before it put in. -/
theorem eventually_resolveArg_wildcard {us ls : List TypeExpr} {formals : List VarId} {i : Nat}
    (hbounds : ∀ b, b ∈ us ∨ b ∈ ls → reg.Resolvable σ b)
    (hformal : ∀ f, formals[i]? = some f → ∀ b ∈ reg.bounds f, reg.Resolvable σ b) :
    ∃ N, ∀ n, N ≤ n → reg.ArgConcreteAt σ formals i (.wildcard us ls) n := by
  have hneeded : ∀ b ∈ (us ++ ls) ++ formals[i]?.toList.flatMap reg.bounds,
      reg.Resolvable σ b := by
    intro b hb
    rcases List.mem_append.1 hb with hb | hb
    · exact hbounds b (List.mem_append.1 hb)
    · obtain ⟨f, hf, hb⟩ := List.mem_flatMap.1 hb
      exact hformal f (Option.mem_toList.1 hf) b hb
  obtain ⟨N, hN⟩ := eventually_forall_mem hneeded
  refine ⟨N + 1, fun n hn R hR outer chosen houter hchosen => ?_⟩
  obtain ⟨k, rfl⟩ : ∃ k, n = k + 1 := ⟨n - 1, by omega⟩
  have hwritten : ∀ b ∈ us ++ ls, ResultsWithin (TypeExpr.isConcrete · = true)
      (R.instantiateAt k (b.substitute outer) σ) := fun b hb =>
    hN k (by omega) b (List.mem_append_left _ hb) R hR outer houter
  have hseen : ∀ b ∈ R.seenBounds chosen (formals.drop i),
      ResultsWithin (TypeExpr.isConcrete · = true) (R.instantiateAt k b σ) := by
    intro b hb
    obtain ⟨f, hf, b', hb', rfl⟩ := Resolver.exists_of_mem_seenBounds hb
    rw [List.head?_drop] at hf
    rw [hR] at hb'
    refine hN k (by omega) b' (List.mem_append_right _ ?_) R hR chosen hchosen
    exact List.mem_flatMap.2 ⟨f, Option.mem_toList.2 hf, hb'⟩
  rw [TypeExpr.substitute_wildcard, Resolver.resolveArg, Resolver.selectAt_succ]
  refine Resolver.resultsWithin_selectStep (fun _ => rfl) _ none
    (resultsWithin_orObject fun b hb => ?_) fun b hb => ?_
  · rcases List.mem_append.1 hb with hb | hb
    · obtain ⟨u, hu, rfl⟩ := List.mem_map.1 hb
      exact hwritten u (List.mem_append_left _ hu)
    · exact hseen b hb
  · obtain ⟨l, hl, rfl⟩ := List.mem_map.1 hb
    exact hwritten l (List.mem_append_right _ hl)

/-- Any other argument is resolved by itself. What has been put in for a variable is concrete, so no
wildcard takes its place. -/
theorem ConcreteAt.argConcreteAt {a : TypeExpr} {n : Nat} (h : reg.ConcreteAt σ a n)
    (ha : ∀ us ls, a ≠ .wildcard us ls) (formals : List VarId) (i : Nat) :
    reg.ArgConcreteAt σ formals i a n := by
  intro R hR outer chosen houter _
  have hplain : ∀ us ls, a.substitute outer ≠ .wildcard us ls := by
    intro us ls hw
    cases a with
    | raw c => cases hw
    | app c args owner =>
      rw [TypeExpr.substitute_app] at hw
      cases hw
    | wildcard us ls => exact ha us ls rfl
    | var v =>
      rw [TypeExpr.substitute_var] at hw
      cases hv : outer.get? v with
      | none =>
        rw [hv] at hw
        cases hw
      | some u =>
        rw [hv] at hw
        obtain rfl : u = .wildcard us ls := hw
        exact absurd (houter v _ hv) (by simp)
    | array elem => cases hw
  rw [Resolver.resolveArg_of_ne_wildcard hplain]
  exact h R hR outer houter

/-- An application needs its arguments, its owner, and the bounds of the formals behind wildcards. -/
theorem resolvable_app {c : ClassId} {args : List TypeExpr} {owner : Option TypeExpr}
    (hargs : ∀ a ∈ args, reg.Resolvable σ a) (howner : ∀ o ∈ owner, reg.Resolvable σ o)
    (hwildcards : ∀ us ls, .wildcard us ls ∈ args → ∀ b, b ∈ us ∨ b ∈ ls → reg.Resolvable σ b)
    (hformals : ∀ (i : Nat) (us ls : List TypeExpr), args[i]? = some (.wildcard us ls) →
      ∀ f, (reg.formals c)[i]? = some f → ∀ b ∈ reg.bounds f, reg.Resolvable σ b) :
    reg.Resolvable σ (.app c args owner) := by
  have hargsAt : ∀ i a, args[i]? = some a →
      ∃ N, ∀ n, N ≤ n → reg.ArgConcreteAt σ (reg.formalsFor c args.length) i a n := by
    intro i a ha
    have hmem : a ∈ args := List.mem_of_getElem? ha
    cases a with
    | wildcard us ls =>
      refine eventually_resolveArg_wildcard (hwildcards us ls hmem) fun f hf => ?_
      -- where the numbers do not agree there are no formals, and nothing more is needed
      rw [formalsFor] at hf
      split at hf
      · exact hformals i us ls ha f hf
      · cases hf
    | _ =>
      obtain ⟨N, hN⟩ := hargs _ hmem
      exact ⟨N, fun n hn => (hN n hn).argConcreteAt (fun _ _ h => by cases h) _ i⟩
  obtain ⟨N, hN⟩ := eventually_forall_getElem? hargsAt
  obtain ⟨M, hM⟩ : ∃ M, ∀ n, M ≤ n → ∀ o ∈ owner, reg.ConcreteAt σ o n := by
    cases owner with
    | none => exact ⟨0, fun _ _ _ ho => by cases ho⟩
    | some o =>
      obtain ⟨M, hM⟩ := howner o rfl
      exact ⟨M, fun n hn o' ho' => Option.some.inj ho' ▸ hM n hn⟩
  refine resolvable_of_succ ⟨max N M, fun n hn R hR outer houter => ?_⟩
  rw [TypeExpr.substitute_app, Resolver.instantiateAt_succ]
  have hempty : ∀ w u, Substitution.empty.get? w = some u → u.isConcrete = true :=
    fun _ _ h => by cases h
  refine (Resolver.resultsWithin_instantiateArgs _ hempty fun i a' ha' chosen hchosen => ?_).bind
    fun results hresults => ?_
  · rw [List.getElem?_map] at ha'
    obtain ⟨a, ha, rfl⟩ := Option.map_eq_some_iff.1 ha'
    rw [List.length_map, hR]
    exact hN n (by omega) i a ha R hR outer chosen houter hchosen
  · cases owner with
    | none =>
      exact resultsWithin_pure
        (TypeExpr.isConcrete_app_iff.2 ⟨hresults.2, fun _ ho => by cases ho⟩)
    | some o =>
      refine (hM n (by omega) o rfl R hR outer houter).bind fun o' ho' => resultsWithin_pure ?_
      exact TypeExpr.isConcrete_app_iff.2 ⟨hresults.2, fun p hp => Option.some.inj hp ▸ ho'⟩

/-! ### Along the dependencies -/

/-- An expression is resolvable if the variables it involves are settled; and so are the bounds that
are written in a wildcard. -/
theorem resolvable_of_involves {t : TypeExpr} (h : ∀ v, reg.Involves t v → reg.Settled σ v) :
    reg.Resolvable σ t ∧
      ∀ us ls, t = .wildcard us ls → ∀ b, b ∈ us ∨ b ∈ ls → reg.Resolvable σ b := by
  induction t with
  | raw c =>
    refine ⟨⟨0, fun n _ R _ chosen _ => ?_⟩, fun _ _ h => nomatch h⟩
    rw [TypeExpr.substitute_raw, Resolver.instantiateAt_of_isConcrete rfl]
    exact resultsWithin_pure rfl
  | app c args owner ihArgs ihOwner =>
    have harg := fun a ha => ihArgs a ha fun v hv => h v (hv.of_arg ha)
    refine ⟨resolvable_app (fun a ha => (harg a ha).1)
      (fun o ho => (ihOwner o ho fun v hv => h v (hv.of_owner ho)).1)
      (fun us ls hmem => (harg _ hmem).2 us ls rfl) fun i us ls hwildcard f hf => ?_,
      fun _ _ h => nomatch h⟩
    exact (h f (.of_formal hwildcard hf)).bounds
  | wildcard us ls ihUppers ihLowers =>
    have hbounds : ∀ b, b ∈ us ∨ b ∈ ls → reg.Resolvable σ b := by
      rintro b (hb | hb)
      · exact (ihUppers b hb fun v hv => h v (hv.of_bound (.inl hb))).1
      · exact (ihLowers b hb fun v hv => h v (hv.of_bound (.inr hb))).1
    refine ⟨resolvable_wildcard hbounds, fun us' ls' heq => ?_⟩
    obtain ⟨rfl, rfl⟩ := TypeExpr.wildcard.inj heq
    exact hbounds
  | var v => exact ⟨(h v (.inl (List.mem_singleton.2 rfl))).var, fun _ _ h => nomatch h⟩
  | array elem ih =>
    exact ⟨resolvable_array (ih fun v hv => h v hv.of_elem).1, fun _ _ h => nomatch h⟩

/-- A variable is settled if there is no endless chain of variables that it depends on. -/
theorem settled_of_acc {v : VarId} (h : Acc (fun w v => reg.DependsOn σ v w) v) :
    reg.Settled σ v := by
  induction h with
  | intro v _ ih =>
    have hnext : ∀ b, b ∈ reg.bounds v ∨ σ.get? v = some b → reg.Resolvable σ b :=
      fun b hb => (resolvable_of_involves fun w hw => ih w ⟨b, hb, hw⟩).1
    exact ⟨resolvable_var (fun b hb => hnext b (.inl hb)) fun b hb => hnext b (.inr hb),
      fun b hb => hnext b (.inl hb)⟩

/-- **Only the end of the levels cuts a result off.** If no variable that is reached from those an
expression involves depends on itself, then from some maximal depth on, whatever the expression is
resolved to is concrete. And it is resolved or turned down, with a concrete result in the first case,
if questions about supertypes have answers. -/
theorem concrete_of_no_cycle (reg : Registry) (σ : Substitution) (t : TypeExpr)
    (h : ∀ s, reg.Involves t s → ∀ v, ReflTransGen (reg.DependsOn σ) s v →
      ¬ TransGen (reg.DependsOn σ) v v) :
    ∃ D, ∀ R : Resolver, R.registry = reg → D ≤ R.maxDepth →
      (∀ r, (R.instantiate t σ).Yields r → r.isConcrete = true) ∧
      (reg.Decided → ∃ result, Answers (fun n => ((R.withBudget n).instantiate t σ).run) result ∧
        ∀ r, result = .ok r → r.isConcrete = true) := by
  obtain ⟨N, hN⟩ := (resolvable_of_involves fun s hs =>
    settled_of_acc (acc_of_no_cycle (reg.finite_dependsOn σ) (h s hs))).1
  refine ⟨N, fun R hR hdepth => ?_⟩
  have hconcrete : ∀ R' : Resolver, R'.registry = reg → N ≤ R'.maxDepth →
      ResultsWithin (TypeExpr.isConcrete · = true) (R'.instantiate t σ) := fun R' hR' hdepth' =>
    (hN _ (by unfold Resolver.levels; omega)).resultsWithin hR'
  refine ⟨fun r hr => hconcrete R hR hdepth r hr, fun hdecided => ?_⟩
  subst hR
  obtain ⟨result, hresult⟩ := Resolver.halts_instantiate hdecided t σ 0
  refine ⟨result, hresult, fun r hr => ?_⟩
  obtain ⟨n, hn⟩ := Answers.exists_eq hresult
  exact hconcrete (R.withBudget n) rfl hdepth r (hr ▸ hn)

end Registry

/-! ### A variable behind a wildcard -/

namespace Registry

/-- `Number`, `Integer` and `Box<T extends Number>`, with a variable `U extends Box<?>`. -/
def nestedBox : Registry :=
  (boundedBox.addTypeParam "U" (.ofMethod ⟨3⟩ "open" 1) [.app ⟨3⟩ [.anything] none]).2

/-- Let `U` be bound to `Box<? extends Integer>`. It depends on `T`, as a wildcard stands in the place
of `T`. With two levels below the outermost one `U[]` is cut off, and from some number of levels on it
is not. -/
theorem concrete_of_no_cycle_nestedBox :
    let σ : Substitution := .bind .empty ⟨1⟩ (.app ⟨3⟩ [.extending (.raw ⟨2⟩)] none)
    let t : TypeExpr := .array (.var ⟨1⟩)
    let shallow : Resolver := { registry := nestedBox, maxDepth := 2 }
    nestedBox.DependsOn σ ⟨1⟩ ⟨0⟩ ∧ nestedBox.InOrder σ ∧ nestedBox.Decided ∧
      (shallow.instantiate t σ).Yields (.array (.app ⟨3⟩ [.extending (.raw ⟨2⟩)] none)) ∧
      ∃ D, ∀ R : Resolver, R.registry = nestedBox → D ≤ R.maxDepth →
        ∃ result, Answers (fun n => ((R.withBudget n).instantiate t σ).run) result ∧
          ∀ r, result = .ok r → r.isConcrete = true := by
  intro σ t shallow
  have hdepends : nestedBox.DependsOn σ ⟨1⟩ ⟨0⟩ :=
    ⟨_, .inr rfl, .of_formal (i := 0) rfl (by decide +kernel)⟩
  have horder : nestedBox.InOrder σ := by decide +kernel
  have hdecided : nestedBox.Decided :=
    decided_of_acyclic (by decide +kernel) (by decide +kernel) (by decide +kernel)
  obtain ⟨D, hD⟩ := concrete_of_no_cycle nestedBox σ t fun _ _ v _ => horder.not_cycle v
  exact ⟨hdepends, horder, hdecided, by decide +kernel, D,
    fun R hR hdepth => (hD R hR hdepth).2 hdecided⟩

/-! ### A check that never ends -/

/-- The class that is passed on to itself, with a variable `V extends Box<Object>`. -/
def spiralInBox : Registry :=
  ((spiral 500).addTypeParam "V" (.ofClass ⟨1⟩) [.app ⟨2⟩ [.raw ⟨0⟩] none]).2

/-- The walk from `Spiral<Object>` to `Box` never ends. -/
theorem endless_spiralInBox : spiralInBox.Endless ⟨2⟩ (⟨1⟩, [.raw ⟨0⟩]) := by
  let σ : Substitution := .bind .empty ⟨0⟩ (.raw ⟨0⟩)
  have hboxed : ∀ i, (boxed (i + 1)).substitute σ = .app ⟨2⟩ [(boxed i).substitute σ] none :=
    fun i => by rw [boxed, TypeExpr.substitute_app]; rfl
  have hinj : ∀ i j, (boxed i).substitute σ = (boxed j).substitute σ → i = j := by
    intro i
    induction i with
    | zero =>
      rintro (_ | j) h
      · rfl
      · rw [hboxed] at h
        cases h
    | succ i ih =>
      rintro (_ | j) h
      · rw [hboxed] at h
        cases h
      · rw [hboxed, hboxed, TypeExpr.app.injEq, List.cons.injEq] at h
        exact congrArg (· + 1) (ih j h.2.1.1)
  intro rounds
  exact Search.find_of_path (f := fun i => ((⟨1⟩, [(boxed i).substitute σ]) : Use))
    (p := fun u => u.1 == (⟨2⟩ : ClassId))
    (fun i j h => hinj i j (List.cons.inj (Prod.mk.inj h).2).1)
    (fun i => hboxed i ▸ superUses_spiral 500 ((boxed i).substitute σ)) (fun _ => rfl) rounds

/-- So it is never found out whether `Spiral<Object>` is a `Box<Object>`. -/
theorem assignable?_spiralInBox (n : Nat) :
    spiralInBox.assignable? n (.app ⟨1⟩ [.raw ⟨0⟩] none) (.app ⟨2⟩ [.raw ⟨0⟩] none) = none := by
  cases n with
  | zero => rfl
  | succ n =>
    have hview : spiralInBox.view n (.app ⟨1⟩ [.raw ⟨0⟩] none) ⟨2⟩ = none := by
      rw [view_of_use? rfl, endless_spiralInBox n]
      rfl
    unfold assignable? assignableFrom assignableStep
    simp only [hview]
    rfl

/-- `V` is bound to `Spiral<Object>`, and no variable depends on any. Yet the resolution of `V` never
comes to an end, whatever the maximal depth and the budget are. -/
theorem instantiate_spiralInBox_unanswered :
    let σ : Substitution := .bind .empty ⟨1⟩ (.app ⟨1⟩ [.raw ⟨0⟩] none)
    spiralInBox.Built ∧ spiralInBox.SupertypesNominal ∧
      (∀ v w, ¬ spiralInBox.DependsOn σ v w) ∧
      ∀ R : Resolver, R.registry = spiralInBox → (R.instantiate (.var ⟨1⟩) σ).run = none := by
  intro σ
  have hnominal : spiralInBox.SupertypesNominal := fun c d hd =>
    supertypesNominal_spiral 500 c d hd
  have hbounds : ∀ i < spiralInBox.params.size, ∀ b ∈ spiralInBox.bounds ⟨i⟩,
      spiralInBox.involved b = [] := by decide +kernel
  have hvalues : ∀ e ∈ σ.entries, spiralInBox.involved e.2 = [] := by decide +kernel
  have hindependent : ∀ v w, ¬ spiralInBox.DependsOn σ v w := by
    rintro v w ⟨b, hb | hb, hw⟩
    · exact List.not_mem_nil (hbounds v.idx (lt_size_of_mem_bounds hb) b hb ▸ mem_involved hw)
    · exact List.not_mem_nil (hvalues (v, b) (mem_entries_of_get? hb) ▸ mem_involved hw)
  refine ⟨.addTypeParam _ _ _ (built_spiral 500), hnominal, hindependent, fun R hR => ?_⟩
  have hp : R.registry.typeParam? ⟨1⟩ =
      some ⟨"V", .ofClass ⟨1⟩, [.app ⟨2⟩ [.raw ⟨0⟩] none]⟩ := by rw [hR]; rfl
  have hcheck : ∀ become, R.checkBounds become (.app ⟨1⟩ [.raw ⟨0⟩] none) (some ⟨1⟩)
      [.app ⟨2⟩ [.raw ⟨0⟩] none] [] σ = none := by
    intro become
    have hassign : R.isAssignable (.app ⟨1⟩ [.raw ⟨0⟩] none) (.app ⟨2⟩ [.raw ⟨0⟩] none) = none := by
      rw [Resolver.isAssignable, hR]
      exact assignable?_spiralInBox R.budget
    have hbound := TypeExpr.substitute_of_isConcrete (t := .app ⟨2⟩ [.raw ⟨0⟩] none) rfl
    simp only [Resolver.checkBounds, List.allM_cons, hbound]
    rw [if_neg (by decide), hassign]
    rfl
  rw [Resolver.instantiate, Resolver.levels_zero, Resolver.instantiateAt_succ,
    Resolver.instantiateStep, Resolver.instantiateVarStep_of_isConcrete hp rfl rfl, hcheck]
  rfl

end Registry

end Generics
