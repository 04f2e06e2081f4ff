import Generics.Proofs.Inference.OwnFormals
import Generics.Proofs.Resolution.Narrowing
import Generics.Proofs.Resolution.Occurrences

/-!
# Which bindings are found

A source with variables may be used as a target once types are put in for the variables. The
question of use does not search for such types. It compares the erasure of the source, that of its
first bound for a variable, before anything is put in; then it takes what the target determines and
leaves the other variables to what the resolver picks for them. So bindings that would do are found
where the erasures compare and the source, resolved occurrence by occurrence, comes out as a type
that is assignable to the target. That is so if the target determines the bindings, and, as the main
case of this kind, if a class is applied to its own formals.

## Main definitions

* `Resolver.ArgsPass` — arguments pass for the formals of their class
* `Resolver.Finds` — the cases

## Main results

* `Resolver.answers_canBecome_iff` — the question of use, one round
* `Resolver.resolves_substitute` — bindings that the context has are used
* `Resolver.canBecome_iff_finds`
-/

namespace Generics

namespace Resolver

variable {R : Resolver} {σ m : Substitution}

/-! ### Bindings that the context has -/

/-- Of the arguments of a class those with variables pass, as `m` makes them, for the formals of the
class, which are declared and distinct. Each is read with the bindings and with the arguments before
it. -/
def ArgsPass (R : Resolver) (σ m : Substitution) (u : ClassId × List TypeExpr) : Prop :=
  (R.registry.formals u.1).length = u.2.length → ∀ (i : Nat) f a,
    (R.registry.formals u.1)[i]? = some f → u.2[i]? = some a → a.isConcrete = false →
      FormalsKnown R.registry (R.registry.formals u.1) ∧ (R.registry.formals u.1).Nodup ∧
        R.Passes (a.substitute m) f (σ.extend (.ofFormals (R.registry.formals u.1)
          ((u.2.map (TypeExpr.substitute m)).take i)))

/-- Concrete arguments are not checked. -/
theorem argsPass_of_isConcrete {u : ClassId × List TypeExpr}
    (h : ∀ a ∈ u.2, a.isConcrete = true) : R.ArgsPass σ m u := by
  intro _ i f a _ ha hopen
  rw [h a (List.mem_of_getElem? ha)] at hopen
  cases hopen

/-- An argument that passes for its formal fits, at every depth below the outermost. -/
theorem fitsFormal_of_passes {formals : List VarId} (hknown : FormalsKnown R.registry formals)
    (hdistinct : formals.Nodup) {i : Nat} {f : VarId} (hf : formals[i]? = some f)
    {arg result : TypeExpr} (hresult : result.isConcrete = true) {before : List TypeExpr}
    (hlength : before.length ≤ i) (hbefore : ∀ b ∈ before, b.isConcrete = true)
    (h : R.Passes result f (σ.extend (.ofFormals formals before))) (depth : Nat) :
    Answers (fun n => (R.withBudget n).fitsFormal
      ((R.withBudget n).canBecomeAt (R.levels (depth + 1))) (R.chosenAfter .empty formals before)
      (formals.drop i) arg result σ) true := by
  obtain ⟨-, N, hN⟩ := (passes_iff hresult).1 h
  -- a formal is not among those that are bound before it
  have habsent : (Substitution.ofFormals formals before).get? f = none :=
    Substitution.get?_ofFormals_of_length_le hdistinct hf hlength
  have hlevels : R.levels (depth + 1) ≤ R.levels 1 := R.levels_le_levels (Nat.le_add_left 1 depth)
  refine ⟨N, fun n hn => fitsFormal_of_le hlevels hresult ?_⟩
  have hknown' : FormalsKnown (R.withBudget n).registry formals := hknown
  rw [chosenAfter_empty hknown, fitsFormal_eq_true_iff hknown' hf]
  intro _ _
  refine (checkBounds_chosen habsent fun w b hb => ?_).2 (hN n hn)
  exact hbefore b (Substitution.mem_of_get?_ofFormals hb)

/-- Arguments that pass for their formals fit. -/
theorem argsFit_of_pass {c : ClassId} {args : List TypeExpr}
    (hmade : ∀ a ∈ args, (a.substitute m).isConcrete = true) (h : R.ArgsPass σ m (c, args))
    (depth : Nat) : R.ArgsFit σ c args (args.map (TypeExpr.substitute m)) (depth + 1) := by
  intro i a r ha hr
  obtain rfl : a.substitute m = r := by
    rw [List.getElem?_map, ha] at hr
    exact Option.some.inj hr
  by_cases harity : (R.registry.formals c).length = args.length
  · have hformals : R.registry.formalsFor c args.length = R.registry.formals c := if_pos harity
    rw [hformals]
    by_cases hc : a.isConcrete = true
    · refine ⟨0, fun n _ => ?_⟩
      rw [TypeExpr.substitute_of_isConcrete hc]
      exact fitsFormal_self ..
    · have hlt : i < (R.registry.formals c).length :=
        harity ▸ (List.getElem?_eq_some_iff.1 ha).1
      have hf : (R.registry.formals c)[i]? = some (R.registry.formals c)[i] :=
        List.getElem?_eq_getElem hlt
      obtain ⟨hknown, hdistinct, hpass⟩ := h harity i _ a hf ha (Bool.eq_false_iff.2 hc)
      refine fitsFormal_of_passes hknown hdistinct hf (hmade a (List.mem_of_getElem? ha))
        (List.length_take_le _ _) (fun b hb => ?_) hpass depth
      obtain ⟨a', ha', rfl⟩ := List.mem_map.1 (List.mem_of_mem_take hb)
      exact hmade a' ha'
  · -- arguments that do not fit the class are not checked
    have hformals : R.registry.formalsFor c args.length = [] := if_neg harity
    refine ⟨0, fun n _ => ?_⟩
    rw [hformals, List.drop_nil]
    rfl

/-- Beyond the maximal depth there is nothing to put in. -/
theorem resolves_substitute_of_deep {t : TypeExpr} {depth : Nat} (hw : t.hasWildcards = false)
    (hdeep : R.maxDepth < depth) (hsites : t.SitesBelow (R.levels depth)) :
    R.Resolves σ m t depth (t.substitute m) := by
  rw [(levels_eq_zero_iff R depth).2 hdeep] at hsites
  rw [TypeExpr.substitute_of_isConcrete (hsites.isConcrete hw)]
  exact resolves_of_deep hw hdeep

/-- **Bindings that the context has are used.** If the context agrees with the bindings about every
variable and the arguments pass for the formals, the expression is resolved to what the bindings
make of it. -/
theorem resolves_substitute {t : TypeExpr} {depth : Nat} (hw : t.hasWildcards = false)
    (hground : m.GroundOn t) (hsites : t.SitesBelow (R.levels depth))
    (hvars : ∀ v ∈ t.occurrences, R.AgreesAt σ m v)
    (hargs : ∀ u ∈ t.applications, R.ArgsPass σ m u) :
    R.Resolves σ m t depth (t.substitute m) := by
  induction t generalizing depth with
  | raw c => exact .raw c depth
  | app c args owner ihArgs ihOwner =>
    by_cases hdeep : R.maxDepth < depth
    · exact resolves_substitute_of_deep hw hdeep hsites
    rw [levels_of_le (Nat.le_of_not_lt hdeep)] at hsites
    obtain ⟨hwargs, hwowner⟩ := TypeExpr.hasWildcards_app_eq_false_iff.1 hw
    obtain ⟨hself, hinArgs, hinOwner⟩ := TypeExpr.forall_mem_applications_app.1 hargs
    have hmade : ∀ a ∈ args, (a.substitute m).isConcrete = true := fun a ha =>
      TypeExpr.isConcrete_substitute (hwargs a ha) (hground.of_arg ha)
    rw [TypeExpr.substitute_app]
    refine .app (List.length_map ..) (fun i a r ha hr => ?_) (argsFit_of_pass hmade hself depth)
      Option.isSome_map fun o ho o' ho' => ?_
    · obtain rfl : a.substitute m = r := by
        rw [List.getElem?_map, ha] at hr
        exact Option.some.inj hr
      have hmem : a ∈ args := List.mem_of_getElem? ha
      exact ihArgs a hmem (hwargs a hmem) (hground.of_arg hmem) (hsites.of_arg hmem)
        (fun v hv => hvars v (TypeExpr.mem_occurrences_app.2 (.inl ⟨a, hmem, hv⟩)))
        (hinArgs a hmem)
    · obtain rfl : o.substitute m = o' := by
        rw [Option.mem_def.1 ho] at ho'
        exact Option.some.inj ho'
      exact ihOwner o ho (hwowner o ho) (hground.of_owner ho) (hsites.of_owner ho)
        (fun v hv => hvars v (TypeExpr.mem_occurrences_app.2 (.inr ⟨o, ho, hv⟩)))
        (hinOwner o ho)
  | wildcard us ls => cases hw
  | var v =>
    obtain ⟨u, hu, -⟩ := hground v List.mem_cons_self
    have hdepth : depth ≤ R.maxDepth := by
      have hlevels : 0 < R.levels depth := hsites (v, 0) List.mem_cons_self
      unfold levels at hlevels
      omega
    rw [TypeExpr.substitute_var_of_get? hu]
    exact .bound hdepth hu (hvars v List.mem_cons_self)
  | array elem ih =>
    by_cases hdeep : R.maxDepth < depth
    · exact resolves_substitute_of_deep hw hdeep hsites
    rw [levels_of_le (Nat.le_of_not_lt hdeep)] at hsites
    refine .array (ih hw hground hsites.of_array hvars fun u hu => hargs u ?_)
    exact TypeExpr.mem_applications_array.2 hu

/-! ### One round of the question -/

/-- The answer is yes exactly if the erasures compare and the source, resolved in the context of the
target, is a concrete type that is assignable, or another type for which the answer is yes one level
deeper. -/
theorem answers_canBecome_iff {s t : TypeExpr} :
    Answers (fun n => (R.withBudget n).canBecome s t) true ↔
      R.gate s t = true ∧ ∃ σ u, Answers (fun n => (R.withBudget n).context s t) σ ∧
        Answers (fun n => ((R.withBudget n).instantiate s σ).run) (.ok u) ∧
        if u = s then
          s.isConcrete = true ∧ Answers (fun n => (R.withBudget n).isAssignable s t) true
        else Answers (fun n => (R.withBudget n).canBecomeAt (R.levels 1) u t) true := by
  have hround : ∀ n, (R.withBudget n).canBecome s t = some true ↔ R.gate s t = true ∧
      ∃ σ u, (R.withBudget n).context s t = some σ ∧
        ((R.withBudget n).instantiate s σ).Yields u ∧
        (if u = s then (R.withBudget n).settled s t
          else (R.withBudget n).canBecomeAt (R.levels 1) u t) = some true :=
    fun n => canBecomeAt_succ_eq_true_iff
  constructor
  · intro h
    obtain ⟨n, hn⟩ := h.exists_eq
    obtain ⟨hgate, σ, u, hσ, hu, hnext⟩ := (hround n).1 hn
    refine ⟨hgate, σ, u, answers_context hσ, answers_instantiate hu, ?_⟩
    split at hnext
    · rename_i hsame
      rw [if_pos hsame]
      obtain ⟨hs, hassign⟩ := settled_eq_true_iff.1 hnext
      exact ⟨hs, answers_isAssignable hassign⟩
    · rename_i hother
      rw [if_neg hother]
      exact answers_canBecomeAt hnext
  · rintro ⟨hgate, σ, u, ⟨N₁, hN₁⟩, ⟨N₂, hN₂⟩, hnext⟩
    obtain ⟨N₃, hN₃⟩ : ∃ N, ∀ n, N ≤ n → (if u = s then (R.withBudget n).settled s t
        else (R.withBudget n).canBecomeAt (R.levels 1) u t) = some true := by
      split at hnext
      · rename_i hsame
        obtain ⟨hs, N, hN⟩ := hnext
        simp only [if_pos hsame]
        exact ⟨N, fun n hn => settled_eq_true_iff.2 ⟨hs, hN n hn⟩⟩
      · rename_i hother
        simp only [if_neg hother]
        exact hnext
    exact ⟨N₁ + N₂ + N₃, fun n hn => (hround n).2
      ⟨hgate, σ, u, hN₁ n (by omega), hN₂ n (by omega), hN₃ n (by omega)⟩⟩

/-! ### The cases -/

/-- The cases in which the question of use finds that the source, with `m` put in, is assignable to
the target. For the last two the resolver need not be asked. -/
inductive Finds (R : Resolver) (s t : TypeExpr) (m : Substitution) : Prop where
  /-- Nothing has to be found. -/
  | concrete (hs : s.isConcrete = true)
  /-- The erasures compare, and the source is resolved in the context of the target to a concrete
  type that is assignable. -/
  | resolved (σ : Substitution) (u : TypeExpr) (hgate : R.gate s t = true)
    (hσ : Answers (fun n => (R.withBudget n).context s t) σ) (hs : R.Resolves σ m s 0 u)
    (hu : u.isConcrete = true)
    (hassign : Answers (fun n => (R.withBudget n).isAssignable u t) true)
  /-- The erasures compare, and the source is resolved to another type that is not concrete but can
  be used one level deeper. -/
  | further (σ : Substitution) (u : TypeExpr) (hgate : R.gate s t = true)
    (hσ : Answers (fun n => (R.withBudget n).context s t) σ) (hs : R.Resolves σ m s 0 u)
    (hu : u.isConcrete = false) (hne : u ≠ s)
    (hnext : Answers (fun n => (R.withBudget n).canBecomeAt (R.levels 1) u t) true)
  /-- The source is a variable that is left to concrete bounds, and the first of these is assignable
  to the others and to the target. -/
  | bounds (v : VarId) (u : TypeExpr) (σ : Substitution) (hs : s = .var v)
    (hσ : Answers (fun n => (R.withBudget n).context s t) σ) (hleft : R.LeftTo σ v u)
    (hbounds : ∀ b ∈ R.registry.bounds v,
      Answers (fun n => (R.withBudget n).isAssignable u b) true)
    (htarget : Answers (fun n => (R.withBudget n).isAssignable u t) true)
  /-- The source is a class applied to its own formals, and the target determines them. -/
  | ownFormals (c : ClassId) (args : List TypeExpr) (owner : Option TypeExpr) (d : ClassId)
    (targets : List TypeExpr) (owner' : Option TypeExpr) (hs : s = .app c args owner)
    (ht : t = .app d targets owner') (howner : ∀ o ∈ owner, o.isConcrete = true)
    (hfit : R.registry.SupertypesFit) (hown : R.registry.OwnFormals c args d)

/-- A source that is resolved to a concrete type can be used as that type can. -/
theorem answers_canBecome_of_instantiate (hN : R.registry.SupertypesNominal) {s t u : TypeExpr}
    (ht : t.isConcrete = true) (hgate : R.gate s t = true)
    (hσ : Answers (fun n => (R.withBudget n).context s t) σ)
    (hs : Answers (fun n => ((R.withBudget n).instantiate s σ).run) (.ok u))
    (hu : u.isConcrete = true)
    (hassign : Answers (fun n => (R.withBudget n).isAssignable u t) true) :
    Answers (fun n => (R.withBudget n).canBecome s t) true := by
  refine answers_canBecome_iff.2 ⟨hgate, σ, u, hσ, hs, ?_⟩
  by_cases hsame : u = s
  · subst hsame
    rw [if_pos rfl]
    exact ⟨hu, hassign⟩
  · rw [if_neg hsame]
    obtain ⟨N, hN'⟩ := answers_canBecome_of_assignable hN hu ht hassign
    exact ⟨N, fun n hn => canBecomeAt_of_le (R.levels_le_levels (Nat.zero_le 1)) hu (hN' n hn)⟩

/-- A variable that is left to its bounds is used as the first of them can be used. -/
theorem answers_canBecome_of_leftTo (hN : R.registry.SupertypesNominal) {v : VarId} {u t : TypeExpr}
    (ht : t.isConcrete = true) (hσ : Answers (fun n => (R.withBudget n).context (.var v) t) σ)
    (hleft : R.LeftTo σ v u)
    (hbounds : ∀ b ∈ R.registry.bounds v,
      Answers (fun n => (R.withBudget n).isAssignable u b) true)
    (htarget : Answers (fun n => (R.withBudget n).isAssignable u t) true) :
    Answers (fun n => (R.withBudget n).canBecome (.var v) t) true := by
  have hu : u.isConcrete = true := hleft.concrete u (List.mem_of_mem_head? hleft.first)
  have hgate : R.gate (.var v) t = true := by
    obtain ⟨k, hk⟩ : ∃ k, R.registry.assignable? k u t = some true := htarget.exists_eq
    rw [gate, Registry.erasure_var_of_head? hleft.first hu]
    exact gate_of_assignable_concrete hN hu ht hk
  exact answers_canBecome_of_instantiate hN ht hgate hσ
    (answers_instantiate_of_leftTo hN hleft hbounds (Nat.zero_le _)) hu htarget

/-- What passes for the formals among the arguments passes for them as arguments. -/
theorem argsPass_of_ownFormals {c d : ClassId} {args : List TypeExpr}
    (hown : R.registry.OwnFormals c args d)
    (hm : ∀ w, .var w ∈ args → ∃ u, m.get? w = some u ∧ u.isConcrete = true ∧ R.Passes u w m)
    (hsame : ∀ w, .var w ∈ args → σ.get? w = m.get? w) : R.ArgsPass σ m (c, args) := by
  intro _ i f a hf ha hopen
  rcases hown.own i f a hf ha with hc | rfl
  · rw [hc] at hopen
    cases hopen
  obtain ⟨u, hu, hc, hpass⟩ := hm f (List.mem_of_getElem? ha)
  rw [TypeExpr.substitute_var_of_get? hu]
  refine ⟨hown.known, hown.distinct, hpass.congr hc fun b hb w hw _ => ?_⟩
  have hw' : .var w ∈ args := hown.bounds f (List.mem_of_getElem? ha) b hb w hw
  obtain ⟨u', hu', -⟩ := hm w hw'
  show (σ.extend (.ofFormals _ _)).get? w = m.get? w
  rw [Substitution.get?_extend]
  rcases hown.get?_ofFormals_take (m := m) hw' i with hbound | habsent
  · rw [hbound, Option.some_or, TypeExpr.substitute_var_of_get? hu', hu']
  · rw [habsent, Option.none_or, hsame w hw']

/-- No other application has variables. -/
theorem argsPass_of_mem_applications {c d : ClassId} {args : List TypeExpr}
    {owner : Option TypeExpr} (hown : R.registry.OwnFormals c args d)
    (howner : ∀ o ∈ owner, o.isConcrete = true) (hself : R.ArgsPass σ m (c, args))
    {u : ClassId × List TypeExpr} (hu : u ∈ (TypeExpr.app c args owner).applications) :
    R.ArgsPass σ m u := by
  rcases TypeExpr.mem_applications_app.1 hu with rfl | ⟨a, ha, hu⟩ | ⟨o, ho, hu⟩
  · exact hself
  · obtain ⟨i, hi⟩ := List.mem_iff_getElem?.1 ha
    rcases hown.concrete_or_formal hi with hc | ⟨g, -, rfl⟩
    · exact argsPass_of_isConcrete fun b hb => TypeExpr.isConcrete_of_mem_applications hc hu hb
    · exact absurd hu List.not_mem_nil
  · exact argsPass_of_isConcrete fun b hb =>
      TypeExpr.isConcrete_of_mem_applications (howner o ho) hu hb

/-- A class that is applied to its own formals can be used as what the target makes of it. -/
theorem answers_canBecome_of_ownFormals {c d : ClassId} {args targets : List TypeExpr}
    {owner owner' : Option TypeExpr} (hfit : R.registry.SupertypesFit)
    (hown : R.registry.OwnFormals c args d) (howner : ∀ o ∈ owner, o.isConcrete = true)
    (hw : (TypeExpr.app c args owner).hasWildcards = false)
    (ht : (TypeExpr.app d targets owner').isConcrete = true)
    (hm : ∀ v ∈ (TypeExpr.app c args owner).freeVars,
      ∃ u, m.get? v = some u ∧ u.isConcrete = true ∧ R.Passes u v m)
    (hn : (TypeExpr.app c args owner).SitesBelow (R.maxDepth + 1))
    (hassign : Answers (fun n => (R.withBudget n).isAssignable
      ((TypeExpr.app c args owner).substitute m) (.app d targets owner')) true) :
    Answers (fun n => (R.withBudget n).canBecome (.app c args owner) (.app d targets owner'))
      true := by
  by_cases hopen : ∃ f, .var f ∈ args
  · obtain ⟨f, hf⟩ := hopen
    have hformals : ∀ w, .var w ∈ args →
        ∃ u, m.get? w = some u ∧ u.isConcrete = true ∧ R.Passes u w m :=
      fun w hw => hm w ((hown.mem_freeVars_iff howner).2 hw)
    obtain ⟨k, hk⟩ : ∃ k, R.registry.assignable? k ((TypeExpr.app c args owner).substitute m)
        (.app d targets owner') = some true := hassign.exists_eq
    rw [TypeExpr.substitute_app] at hk
    obtain ⟨σ, hσ, hbound⟩ :=
      hown.exists_context hfit owner (TypeExpr.isConcrete_app_iff.1 ht).1 hf hk
    have hsame : ∀ w, .var w ∈ args → σ.get? w = m.get? w := by
      intro w hw
      obtain ⟨u, hu, -⟩ := hformals w hw
      rw [hbound w hw, TypeExpr.substitute_var_of_get? hu, hu]
    have hgate : R.gate (.app c args owner) (.app d targets owner') = true := by
      obtain ⟨rounds, patterns, hview, -⟩ := hown.shown
      exact gate_of_liesBelow rfl rfl (Registry.liesBelow_of_classView hfit.nominal hview).1
    have hground : m.GroundOn (.app c args owner) := by
      intro v hv
      obtain ⟨u, hu, hc, -⟩ := hm v (TypeExpr.mem_freeVars.2 hv)
      exact ⟨u, hu, hc⟩
    have hresolves : R.Resolves σ m (.app c args owner) 0
        ((TypeExpr.app c args owner).substitute m) := by
      refine resolves_substitute hw hground hn (fun v hv => ?_) fun u hu => ?_
      · have hv' : .var v ∈ args := (hown.mem_freeVars_iff howner).1 (TypeExpr.mem_freeVars.2 hv)
        exact ⟨hsame v hv', fun b hb w hw _ => hsame w (hown.bounds v hv' b hb w hw)⟩
      · exact argsPass_of_mem_applications hown howner
          (argsPass_of_ownFormals hown hformals hsame) hu
    exact answers_canBecome_of_instantiate hfit.nominal ht hgate hσ
      (answers_instantiate_of_resolves hresolves hw fun v hv => hm v (TypeExpr.mem_freeVars.2 hv))
      (TypeExpr.isConcrete_substitute hw hground) hassign
  · have hs : (TypeExpr.app c args owner).isConcrete = true := by
      rw [TypeExpr.isConcrete_iff_of_not_hasWildcards hw, TypeExpr.hasVars_eq_false_iff]
      exact fun v hv => hopen ⟨v, (hown.mem_freeVars_iff howner).1 (TypeExpr.mem_freeVars.2 hv)⟩
    rw [TypeExpr.substitute_of_isConcrete hs] at hassign
    exact answers_canBecome_of_assignable hfit.nominal hs ht hassign

/-- Sources and targets over the standard classes, with bindings that would do: `HashMap<String, V>`
for `Map<String, Integer>`, and the variable of `sort`, which is bounded by the comparables of its
supertypes, for `Object`; `Integer` is put in for both variables. -/
def found : List (TypeExpr × TypeExpr × Substitution) :=
  [(.app ⟨19⟩ [.raw ⟨10⟩, .var ⟨11⟩] none, .app ⟨18⟩ [.raw ⟨10⟩, .raw ⟨8⟩] none,
      .bind .empty ⟨11⟩ (.raw ⟨8⟩)),
    (.var ⟨12⟩, .raw ⟨0⟩, .bind .empty ⟨12⟩ (.raw ⟨8⟩))]

/-- For the first the target determines the variable. For the second it does not, and the resolver
picks `Boolean`, the first class that is comparable to itself. -/
theorem finds_of_mem_found {e : TypeExpr × TypeExpr × Substitution} (he : e ∈ found) :
    Resolver.Finds { registry := Registry.standard } e.1 e.2.1 e.2.2 := by
  let R : Resolver := { registry := Registry.standard }
  simp only [found, List.mem_cons, List.not_mem_nil, or_false] at he
  rcases he with rfl | rfl
  · exact .ownFormals _ _ _ _ _ _ rfl rfl (fun o ho => nomatch ho) (by decide +kernel)
      Registry.ownFormals_hashMap
  · have hcontext : (R.withBudget 20).context (.var ⟨12⟩) (.raw ⟨0⟩) = some .empty := by
      decide +kernel
    have hpicked : ((R.withBudget 20).instantiate (.var ⟨12⟩) .empty).Yields (.raw ⟨5⟩) := by
      decide +kernel
    have hobject : (R.withBudget 20).isAssignable (.raw ⟨5⟩) (.raw ⟨0⟩) = some true := by
      decide +kernel
    exact .resolved .empty (.raw ⟨5⟩) (by decide +kernel) (answers_context hcontext)
      (.picked (answers_instantiate hpicked)) rfl (answers_isAssignable hobject)

end Resolver

/-! ### Bindings that are not found -/

namespace Registry

/-- `Object`, `String` and `Number`, a class `Cell<E>`, below `Cell<String>` a class `Box<X>` for
numbers, a variable `T` without bounds, and a class `Wrap<W>` declared below `W`. -/
def withCells : Registry :=
  let (string, reg) := initial.addClass { name := "String", superclass := some (.raw ⟨0⟩) }
  let (number, reg) := reg.addClass { name := "Number", superclass := some (.raw ⟨0⟩) }
  let (cell, reg) := reg.intern "Cell"
  let (box, reg) := reg.intern "Box"
  let (wrap, reg) := reg.intern "Wrap"
  let (e, reg) := reg.addTypeParam "E" (.ofClass cell) []
  let (x, reg) := reg.addTypeParam "X" (.ofClass box) [.raw number]
  let (_, reg) := reg.addTypeParam "T" (.ofMethod cell "of" 1) []
  let (w, reg) := reg.addTypeParam "W" (.ofClass wrap) []
  let reg := reg.define cell
    { name := "Cell", typeParams := [e], superclass := some (.raw ⟨0⟩) }
  let reg := reg.define box
    { name := "Box", typeParams := [x], superclass := some (.app cell [.raw string] none) }
  reg.define wrap { name := "Wrap", typeParams := [w], superclass := some (.var w) }

end Registry

namespace Resolver

/-- Sources and targets over `withCells`, with bindings that would do: `T` for `String`, `Cell<T>`
for `Cell<String>`, `Box<E>` for `Box<String>` and `Wrap<String>` for `String`. -/
def missed : List (TypeExpr × TypeExpr × Substitution) :=
  [(.var ⟨2⟩, .raw ⟨1⟩, .bind .empty ⟨2⟩ (.raw ⟨1⟩)),
    (.app ⟨3⟩ [.var ⟨2⟩] none, .app ⟨3⟩ [.raw ⟨1⟩] none, .bind .empty ⟨2⟩ (.raw ⟨1⟩)),
    (.app ⟨4⟩ [.var ⟨0⟩] none, .app ⟨4⟩ [.raw ⟨1⟩] none, .bind .empty ⟨0⟩ (.raw ⟨1⟩)),
    (.app ⟨5⟩ [.raw ⟨1⟩] none, .raw ⟨1⟩, .empty)]

end Resolver

end Generics
