import Generics.Proofs.Inference.WellApplied
import Generics.Proofs.Resolution.Results
import Generics.Resolution.Members
import Generics.Resolution.Reparameterize
import Generics.Registry.Standard

/-!
# Resolution keeps the numbers of arguments

Resolving a type builds new types: arguments are replaced one by one, a variable gives way to its
binding, to a bound or to a class of the registry, formals are put in where arguments are missing,
and parts of one type are matched into another. None of this gives a class another number of
arguments than it declares, if the inputs and the declarations are right. One level is gone through
with the levels below as parameters, and then the levels by induction, so the depth does not matter.

## Main definitions

* `Resolver.HelpersKeep` — the levels below one level keep types well applied
* `Registry.SignatureWellApplied`
* `Resolver.KeepsWellApplied` — every operation of a resolver does

## Main results

* `Resolver.HelpersKeep.instantiateStep`, `Resolver.helpersKeep` — one level, and all of them
* `Resolver.keepsWellApplied`
-/

namespace Generics

namespace Resolver

variable {R : Resolver}

/-! ### One level -/

/-- What one level asks of the levels below keeps types well applied. -/
structure HelpersKeep (R : Resolver) (inst : TypeExpr → Substitution → Attempt TypeExpr)
    (select : TypeExpr → List TypeExpr → List TypeExpr → Substitution → Attempt TypeExpr) :
    Prop where
  /-- Parts are resolved to well-applied types, -/
  inst : ∀ t σ, R.registry.WellApplied t → R.registry.BindsWellApplied σ →
    ResultsWithin R.registry.WellApplied (inst t σ)
  /-- and so are wildcards between well-applied bounds. -/
  select : ∀ s us ls σ, R.registry.WellApplied s → (∀ u ∈ us, R.registry.WellApplied u) →
    (∀ l ∈ ls, R.registry.WellApplied l) → R.registry.BindsWellApplied σ →
    ResultsWithin R.registry.WellApplied (select s us ls σ)

section Level

variable {inst : TypeExpr → Substitution → Attempt TypeExpr}
  {select : TypeExpr → List TypeExpr → List TypeExpr → Substitution → Attempt TypeExpr}
  {become : TypeExpr → TypeExpr → Option Bool} {σ chosen : Substitution}
  (H : HelpersKeep R inst select) (hR : R.registry.DeclaresWellApplied)
  (hσ : R.registry.BindsWellApplied σ)

include H hσ

/-- What is selected between well-applied bounds is well applied. -/
theorem HelpersKeep.selectStep (subject : TypeExpr) (var : Option VarId)
    {uppers lowers : List TypeExpr}
    (huppers : ∀ u ∈ uppers, R.registry.WellApplied u)
    (hlowers : ∀ l ∈ lowers, R.registry.WellApplied l) :
    ResultsWithin R.registry.WellApplied
      (R.selectStep inst become subject var uppers lowers σ) :=
  resultsWithin_selectStep Registry.wellApplied_raw subject var
    (fun u hu => H.inst u σ (Registry.wellApplied_of_mem_orObject huppers hu) hσ)
    fun l hl => H.inst l σ (hlowers l hl) hσ

include hR

theorem HelpersKeep.instantiateVarStep (v : VarId) :
    ResultsWithin R.registry.WellApplied (R.instantiateVarStep inst become v σ) :=
  resultsWithin_instantiateVarStep Registry.wellApplied_raw
    (fun b hb => H.inst b σ
      (Registry.wellApplied_of_mem_orObject (fun _ => hR.of_mem_bounds) hb) hσ)
    (fun value hvalue _ => hσ v value hvalue)
    fun value hvalue _ => H.inst value σ (hσ v value hvalue) hσ

omit H hσ in
theorem wellApplied_of_mem_seenBounds (hchosen : R.registry.BindsWellApplied chosen)
    {formals : List VarId} {b : TypeExpr} (hb : b ∈ R.seenBounds chosen formals) :
    R.registry.WellApplied b := by
  obtain ⟨f, -, b', hb', rfl⟩ := exists_of_mem_seenBounds hb
  exact (hR.of_mem_bounds hb').substitute hchosen

/-- As many arguments come out as go in. -/
theorem HelpersKeep.instantiateArgs (subject : TypeExpr) {formals : List VarId}
    {args : List TypeExpr} (hchosen : R.registry.BindsWellApplied chosen)
    (hargs : ∀ a ∈ args, R.registry.WellApplied a) :
    ResultsWithin (fun rs => rs.length = args.length ∧ ∀ r ∈ rs, R.registry.WellApplied r)
      (R.instantiateArgs inst select become subject σ chosen formals args) := by
  refine resultsWithin_instantiateArgs subject hchosen fun i a ha chosen' hchosen' => ?_
  have harg := hargs a (List.mem_of_getElem? ha)
  unfold resolveArg
  split
  · obtain ⟨hus, hls⟩ := Registry.wellApplied_wildcard_iff.1 harg
    refine H.select _ _ _ σ harg (fun u hu => ?_) hls hσ
    rcases List.mem_append.1 hu with hu | hu
    · exact hus u hu
    · exact wellApplied_of_mem_seenBounds hR hchosen' hu
  · exact H.inst a σ harg hσ

/-- **One level of resolution keeps types well applied.** -/
theorem HelpersKeep.instantiateStep {t : TypeExpr} (ht : R.registry.WellApplied t) :
    ResultsWithin R.registry.WellApplied (R.instantiateStep inst select become t σ) := by
  cases t with
  | raw c => exact resultsWithin_pure ht
  | app c args owner =>
    obtain ⟨hc, hargs, howner⟩ := Registry.wellApplied_app_iff.1 ht
    refine (H.instantiateArgs hR hσ _ Registry.bindsWellApplied_empty hargs).bind
      fun args' hargs' => ?_
    have hc' : ∀ d ∈ R.registry.class? c, d.typeParams.length = args'.length :=
      fun d hd => (hc d hd).trans hargs'.1.symm
    cases owner with
    | none =>
      exact resultsWithin_pure (Registry.wellApplied_app_iff.2
        ⟨hc', hargs'.2, fun o ho => nomatch ho⟩)
    | some o =>
      refine (H.inst o σ (howner o rfl) hσ).bind fun o' ho' => resultsWithin_pure ?_
      refine Registry.wellApplied_app_iff.2 ⟨hc', hargs'.2, fun p hp => ?_⟩
      obtain rfl := Option.some.inj hp
      exact ho'
  | wildcard us ls =>
    obtain ⟨hus, hls⟩ := Registry.wellApplied_wildcard_iff.1 ht
    exact H.selectStep hσ _ none hus hls
  | var v => exact H.instantiateVarStep hR hσ v
  | array elem =>
    refine (H.inst elem σ (Registry.wellApplied_array_iff.1 ht) hσ).bind fun elem' helem' => ?_
    exact resultsWithin_pure (Registry.wellApplied_array_iff.2 helem')

end Level

/-- All levels keep types well applied; where none is left a type stays as it is. -/
theorem helpersKeep (hR : R.registry.DeclaresWellApplied) (n : Nat) :
    HelpersKeep R (R.instantiateAt n) (R.selectAt n) := by
  induction n with
  | zero =>
    exact ⟨fun t _ ht _ => resultsWithin_pure ht, fun s _ _ _ hs _ _ _ => resultsWithin_pure hs⟩
  | succ n ih =>
    exact ⟨fun t σ ht hσ => ih.instantiateStep hR hσ ht,
      fun s us ls σ _ hus hls hσ => ih.selectStep hσ s none hus hls⟩

theorem resultsWithin_instantiate (hR : R.registry.DeclaresWellApplied) {t : TypeExpr}
    {σ : Substitution} (ht : R.registry.WellApplied t) (hσ : R.registry.BindsWellApplied σ)
    (depth : Nat) : ResultsWithin R.registry.WellApplied (R.instantiate t σ depth) :=
  (helpersKeep hR _).inst t σ ht hσ

/-! ### Arguments from a supertype -/

/-- Formals are completed from what is determined, from the current arguments, and by themselves. -/
theorem wellApplied_of_mem_completedArgs {reg : Registry} {σ : Substitution}
    (hσ : reg.BindsWellApplied σ) {formals : List VarId} {current : List TypeExpr}
    (hcurrent : ∀ a ∈ current, reg.WellApplied a) :
    ∀ a ∈ completedArgs σ formals current, reg.WellApplied a := by
  induction formals generalizing current with
  | nil => exact fun a ha => absurd ha List.not_mem_nil
  | cons v vs ih =>
    rw [completedArgs, List.forall_mem_cons]
    refine ⟨?_, ih fun a ha => hcurrent a (List.mem_of_mem_tail ha)⟩
    cases hv : σ.get? v with
    | some u => exact hσ v u hv
    | none =>
      cases current with
      | nil => exact Registry.wellApplied_var v
      | cons a as => exact hcurrent a List.mem_cons_self

theorem resultsWithin_reparameterizeUse {source superType : TypeExpr}
    (hs : R.registry.WellApplied source) (hsuper : R.registry.WellApplied superType)
    (c : ClassId) :
    ResultsWithin R.registry.WellApplied (R.reparameterizeUse source c superType) := by
  unfold reparameterizeUse
  split
  · exact resultsWithin_throw _
  · rename_i d hd
    split
    · split
      · exact resultsWithin_pure hs
      · split
        · refine resultsWithin_ask fun σ hσ => resultsWithin_pure ?_
          have hbinds : R.registry.BindsWellApplied σ :=
            Registry.bindsWellApplied_of_determined
              (Registry.wellApplied_app_iff.1 hsuper).2.1 hσ
          refine Registry.wellApplied_app_iff.2 ⟨fun d' hd' => ?_, ?_, fun o ho => ?_⟩
          · obtain rfl := Option.some.inj (hd.symm.trans hd')
            exact (length_completedArgs _ _ _).symm
          · exact wellApplied_of_mem_completedArgs hbinds fun a ha => hs.of_mem_args ha
          · exact hs.of_mem_owner ho
        · exact resultsWithin_throw _
      · exact resultsWithin_throw _
    · exact resultsWithin_pure hs

theorem resultsWithin_reparameterize {source superType : TypeExpr}
    (hs : R.registry.WellApplied source) (hsuper : R.registry.WellApplied superType) :
    ResultsWithin R.registry.WellApplied (R.reparameterize source superType) := by
  induction source generalizing superType with
  | raw c => exact resultsWithin_reparameterizeUse hs hsuper c
  | app c args owner => exact resultsWithin_reparameterizeUse hs hsuper c
  | wildcard us ls => exact resultsWithin_throw _
  | var v => exact resultsWithin_throw _
  | array s ih =>
    cases superType with
    | array t =>
      refine (ih (Registry.wellApplied_array_iff.1 hs)
        (Registry.wellApplied_array_iff.1 hsuper)).bind fun elem helem => ?_
      exact resultsWithin_pure (Registry.wellApplied_array_iff.2 helem)
    | raw c =>
      rw [Resolver.reparameterize]
      split
      · exact resultsWithin_pure hs
      · exact resultsWithin_throw _
    | _ => exact resultsWithin_throw _

end Resolver

/-! ### Members -/

/-- The types in a signature are well applied. -/
structure Registry.SignatureWellApplied (reg : Registry) (s : Signature) : Prop where
  /-- The types chosen for its type parameters, -/
  typeArgs : ∀ t ∈ s.typeArgs, reg.WellApplied t
  /-- the parameter types, -/
  params : ∀ t ∈ s.params, reg.WellApplied t
  /-- and the return type. -/
  returnType : ∀ t ∈ s.returnType, reg.WellApplied t

namespace Resolver

variable {R : Resolver} (hR : R.registry.DeclaresWellApplied) {σ : Substitution}

include hR

theorem resultsWithin_chooseTypeArgs {vs : List VarId} (hσ : R.registry.BindsWellApplied σ) :
    ResultsWithin (fun r => (∀ t ∈ r.1, R.registry.WellApplied t) ∧ R.registry.BindsWellApplied r.2)
      (R.chooseTypeArgs vs σ) := by
  induction vs generalizing σ with
  | nil => exact resultsWithin_pure ⟨fun t ht => absurd ht List.not_mem_nil, hσ⟩
  | cons v vs ih =>
    refine (resultsWithin_instantiate hR (Registry.wellApplied_var v) hσ 0).bind fun t ht => ?_
    refine (ih (hσ.bind v ht)).bind fun r hr => resultsWithin_pure ⟨?_, hr.2⟩
    exact List.forall_mem_cons.2 ⟨ht, hr.1⟩

theorem resultsWithin_instantiateAll {ts : List TypeExpr} (hσ : R.registry.BindsWellApplied σ)
    (hts : ∀ t ∈ ts, R.registry.WellApplied t) :
    ResultsWithin (fun us => ∀ u ∈ us, R.registry.WellApplied u) (R.instantiateAll σ ts) := by
  induction ts with
  | nil => exact resultsWithin_pure fun u hu => absurd hu List.not_mem_nil
  | cons t ts ih =>
    obtain ⟨ht, hts⟩ := List.forall_mem_cons.1 hts
    refine (resultsWithin_instantiate hR ht hσ 0).bind fun u hu => ?_
    exact (ih hts).bind fun us hus => resultsWithin_pure (List.forall_mem_cons.2 ⟨hu, hus⟩)

theorem resultsWithin_instantiateReturn {o : Option TypeExpr} (hσ : R.registry.BindsWellApplied σ)
    (ho : ∀ t ∈ o, R.registry.WellApplied t) :
    ResultsWithin (fun o' => ∀ u ∈ o', R.registry.WellApplied u) (R.instantiateReturn σ o) := by
  cases o with
  | none => exact resultsWithin_pure fun u hu => nomatch hu
  | some t =>
    refine (resultsWithin_instantiate hR (ho t rfl) hσ 0).bind fun u hu => resultsWithin_pure ?_
    intro u' hu'
    obtain rfl := Option.some.inj hu'
    exact hu

theorem resultsWithin_instantiateMethod {receiver : TypeExpr}
    (hreceiver : R.registry.WellApplied receiver) {m : Method}
    (hparams : ∀ t ∈ m.params, R.registry.WellApplied t)
    (hreturn : ∀ t ∈ m.returnType, R.registry.WellApplied t) :
    ResultsWithin R.registry.SignatureWellApplied (R.instantiateMethod receiver m) := by
  have himplied : R.registry.BindsWellApplied
      (if m.isStatic then .empty else R.registry.impliedBindings receiver) := by
    split
    · exact Registry.bindsWellApplied_empty
    · exact hR.impliedBindings hreceiver
  refine (resultsWithin_chooseTypeArgs hR himplied).bind fun r hr => ?_
  refine (resultsWithin_instantiateAll hR hr.2 hparams).bind fun params hparams => ?_
  refine (resultsWithin_instantiateReturn hR hr.2 hreturn).bind fun returnType hreturn => ?_
  exact resultsWithin_pure ⟨hr.1, hparams, hreturn⟩

omit hR in
/-- A class is applied to its own formals only where it is generic. -/
theorem wellApplied_constructedType {c : ClassId} {d : ClassDef}
    (hd : R.registry.class? c = some d) {owner : TypeExpr} (howner : R.registry.WellApplied owner) :
    R.registry.WellApplied (constructedType c d owner) := by
  rw [constructedType]
  split
  · refine Registry.UseWellApplied.toType (u := (c, TypeExpr.vars d.typeParams)) ⟨?_, ?_⟩
    · intro d' hd'
      obtain rfl := Option.some.inj (hd.symm.trans hd')
      exact .inr (List.length_map _).symm
    · intro a ha
      obtain ⟨v, -, rfl⟩ := List.mem_map.1 ha
      exact Registry.wellApplied_var v
  · exact howner

theorem resultsWithin_instantiateConstructor {owner : TypeExpr}
    (howner : R.registry.WellApplied owner) {k : Constructor}
    (hparams : ∀ t ∈ k.params, R.registry.WellApplied t) :
    ResultsWithin R.registry.SignatureWellApplied (R.instantiateConstructor owner k) := by
  unfold instantiateConstructor
  split
  · exact resultsWithin_throw _
  · rename_i c d hcd
    obtain ⟨c', -, hd⟩ := Option.bind_eq_some_iff.1 hcd
    obtain ⟨d', hd', hpair⟩ := Option.map_eq_some_iff.1 hd
    obtain ⟨rfl, rfl⟩ := Prod.mk.inj hpair
    refine (resultsWithin_instantiate hR (wellApplied_constructedType hd' howner)
      (hR.impliedBindings howner) 0).bind fun constructed hconstructed => ?_
    refine (resultsWithin_chooseTypeArgs hR (hR.impliedBindings hconstructed)).bind fun r hr => ?_
    refine (resultsWithin_instantiateAll hR hr.2 hparams).bind fun params hparams => ?_
    refine resultsWithin_pure ⟨hr.1, hparams, fun t ht => ?_⟩
    obtain rfl := Option.some.inj ht
    exact hconstructed

end Resolver

/-! ### All operations -/

/-- Every operation of the resolver, and those of its registry that it rests on, yields well-applied
types from well-applied ones. -/
structure Resolver.KeepsWellApplied (R : Resolver) : Prop where
  /-- Substitution. -/
  substitute : ∀ t σ, R.registry.WellApplied t → R.registry.BindsWellApplied σ →
    R.registry.WellApplied (t.substitute σ)
  /-- A view, however many rounds are allowed. -/
  view : ∀ rounds t c r, R.registry.WellApplied t →
    R.registry.view rounds t c = some (some r) → R.registry.WellApplied r
  /-- Resolution, nested at any depth. -/
  instantiate : ∀ t σ depth r, R.registry.WellApplied t → R.registry.BindsWellApplied σ →
    (R.instantiate t σ depth).run = some (.ok r) → R.registry.WellApplied r
  /-- Arguments from a supertype. -/
  reparameterize : ∀ source superType r, R.registry.WellApplied source →
    R.registry.WellApplied superType → (R.reparameterize source superType).run = some (.ok r) →
    R.registry.WellApplied r
  /-- The signature of a method. -/
  instantiateMethod : ∀ receiver m s, R.registry.WellApplied receiver →
    (∀ t ∈ m.params, R.registry.WellApplied t) → (∀ t ∈ m.returnType, R.registry.WellApplied t) →
    (R.instantiateMethod receiver m).run = some (.ok s) → R.registry.SignatureWellApplied s
  /-- The signature of a constructor. -/
  instantiateConstructor : ∀ owner k s, R.registry.WellApplied owner →
    (∀ t ∈ k.params, R.registry.WellApplied t) →
    (R.instantiateConstructor owner k).run = some (.ok s) → R.registry.SignatureWellApplied s
  /-- The bindings that a type implies. -/
  impliedBindings : ∀ t, R.registry.WellApplied t →
    R.registry.BindsWellApplied (R.registry.impliedBindings t)
  /-- The bindings that a supertype determines. -/
  determined : ∀ rounds c e args owner σ, R.registry.WellApplied (.app e args owner) →
    R.registry.determined rounds c (e, args) = some σ → R.registry.BindsWellApplied σ
  /-- The bindings under which a source is resolved against a target. -/
  context : ∀ source target σ, R.registry.WellApplied target →
    R.context source target = some σ → R.registry.BindsWellApplied σ

namespace Resolver

variable {R : Resolver}

/-- **Every operation keeps the numbers of arguments** if supertypes and bounds are declared with
the right ones. -/
theorem keepsWellApplied (hR : R.registry.DeclaresWellApplied) : R.KeepsWellApplied where
  substitute _ _ ht hσ := ht.substitute hσ
  view _ _ _ _ ht hr := hR.view ht hr
  instantiate _ _ depth r ht hσ hr := resultsWithin_instantiate hR ht hσ depth r hr
  reparameterize _ _ r hs hsuper hr := resultsWithin_reparameterize hs hsuper r hr
  instantiateMethod _ _ s hreceiver hparams hreturn hs :=
    resultsWithin_instantiateMethod hR hreceiver hparams hreturn s hs
  instantiateConstructor _ _ s howner hparams hs :=
    resultsWithin_instantiateConstructor hR howner hparams s hs
  impliedBindings _ ht := hR.impliedBindings ht
  determined _ _ _ _ _ _ ht hσ :=
    Registry.bindsWellApplied_of_determined (Registry.wellApplied_app_iff.1 ht).2.1 hσ
  context _ _ _ ht hσ := hR.context ht hσ

/-- On the standard registry `HashMap` with the arguments of `Map<?, ? extends Number>` is
`HashMap<?, ? extends Number>`, which is resolved to `HashMap<Object, Number>`. -/
theorem keepsWellApplied_standard :
    let R : Resolver := { registry := Registry.standard }
    let map : TypeExpr := .app ⟨18⟩ [.anything, .extending (.raw ⟨6⟩)] none
    let hashMap : TypeExpr := .app ⟨19⟩ [.anything, .extending (.raw ⟨6⟩)] none
    R.registry.DeclaresWellApplied ∧
      (R.reparameterize (.raw ⟨19⟩) map).run = some (.ok hashMap) ∧
      R.registry.WellApplied hashMap ∧
      ∃ r, (R.instantiate hashMap .empty).run = some (.ok r) ∧ R.registry.WellApplied r := by
  intro R map hashMap
  have hR : R.registry.DeclaresWellApplied := by decide +kernel
  have hmap : R.registry.WellApplied map := by decide +kernel
  have hcomplete : (R.reparameterize (.raw ⟨19⟩) map).run = some (.ok hashMap) := by
    decide +kernel
  have hresolve : (R.instantiate hashMap .empty).run =
      some (.ok (.app ⟨19⟩ [.raw ⟨0⟩, .raw ⟨6⟩] none)) := by decide +kernel
  have hhashMap : R.registry.WellApplied hashMap := (keepsWellApplied hR).reparameterize _ _ _
    (Registry.wellApplied_raw _) hmap hcomplete
  exact ⟨hR, hcomplete, hhashMap, _, hresolve, (keepsWellApplied hR).instantiate _ _ _ _ hhashMap
    Registry.bindsWellApplied_empty hresolve⟩

end Resolver

end Generics
