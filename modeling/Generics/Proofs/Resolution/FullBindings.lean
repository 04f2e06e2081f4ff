import Generics.Proofs.Resolution.BoundChecks
import Generics.Proofs.Resolution.Concrete
import Generics.Proofs.TypeExpr.Places
import Generics.Registry.Edit

/-!
# Resolution when every variable is bound

When a substitution binds every variable of an expression without wildcards to a concrete type, and
every variable stands on a level that is still entered, there is nothing left to choose: what comes
out can only be the expression with the bindings put in. Resolution is then a check of bounds, and
what it checks is written down here: the bounds of every variable, read with the bindings, and for
every argument that has changed the bounds of its formal, read with the arguments so far.

## Main definitions

* `Resolver.VarWithin`, `Resolver.ArgsWithin`, `Resolver.Within` — what is checked
* `Registry.FormalsOrdered` — the formals of a class are known, and none is bounded by a later one

## Main results

* `Resolver.eq_substitute_of_yields` — nothing but the substitution comes out
* `Resolver.yields_substitute_iff` — and it comes out exactly if the checks are passed
* `Resolver.instantiate_iff_within`
-/

namespace Generics

/-- The formals of a class are declared, and the bounds of each speak of itself and earlier ones. -/
structure Registry.FormalsOrdered (reg : Registry) (c : ClassId) : Prop where
  /-- Every formal is declared. -/
  known : Resolver.FormalsKnown reg (reg.formals c)
  /-- No formal is bounded by a later one. -/
  back : ∀ i f, (reg.formals c)[i]? = some f → ∀ B ∈ reg.bounds f, ∀ w ∈ B.occurrences,
    w ∈ (reg.formals c).take (i + 1)

namespace Resolver

variable (R : Resolver)

/-! ### What is checked -/

/-- The variable is declared, and what it is bound to lies below its bounds. -/
def VarWithin (σ : Substitution) (v : VarId) : Prop :=
  (R.registry.typeParam? v).isSome = true ∧ ∀ B ∈ R.registry.bounds v,
    R.isAssignable ((TypeExpr.var v).substitute σ) (B.substitute σ) = some true

/-- If the number of arguments is that of the formals, every argument that changes lies below the
bounds of its formal, with the formals up to it bound to the arguments as they become. -/
def ArgsWithin (σ : Substitution) (u : ClassId × List TypeExpr) : Prop :=
  (R.registry.formals u.1).length = u.2.length → ∀ i f a, (R.registry.formals u.1)[i]? = some f →
    u.2[i]? = some a → a.isConcrete = false → ∀ B ∈ R.registry.bounds f,
      R.isAssignable (a.substitute σ) (B.substitute (.ofFormalsUpTo (R.registry.formals u.1)
        (u.2.map (TypeExpr.substitute σ)) i)) = some true

/-- Every variable and every application of the expression is within bounds. -/
structure Within (σ : Substitution) (t : TypeExpr) : Prop where
  /-- So is every variable. -/
  vars : ∀ v ∈ t.freeVars, R.VarWithin σ v
  /-- So is every application. -/
  args : ∀ u ∈ t.applications, R.ArgsWithin σ u

variable {R} {σ : Substitution}

theorem within_app_iff {c : ClassId} {args : List TypeExpr} {owner : Option TypeExpr} :
    R.Within σ (.app c args owner) ↔
      R.ArgsWithin σ (c, args) ∧ (∀ a ∈ args, R.Within σ a) ∧ ∀ o ∈ owner, R.Within σ o := by
  constructor
  · rintro ⟨hvars, happs⟩
    refine ⟨happs _ (TypeExpr.mem_applications_app.2 (Or.inl rfl)),
      fun a ha => ⟨fun v hv => ?_, fun u hu => ?_⟩, fun o ho => ⟨fun v hv => ?_, fun u hu => ?_⟩⟩
    · rw [TypeExpr.mem_freeVars] at hv
      exact hvars v (TypeExpr.mem_freeVars.2
        (TypeExpr.mem_occurrences_app.2 (Or.inl ⟨a, ha, hv⟩)))
    · exact happs u (TypeExpr.mem_applications_app.2 (Or.inr (Or.inl ⟨a, ha, hu⟩)))
    · rw [TypeExpr.mem_freeVars] at hv
      exact hvars v (TypeExpr.mem_freeVars.2
        (TypeExpr.mem_occurrences_app.2 (Or.inr ⟨o, ho, hv⟩)))
    · exact happs u (TypeExpr.mem_applications_app.2 (Or.inr (Or.inr ⟨o, ho, hu⟩)))
  · rintro ⟨hself, hargs, howner⟩
    constructor
    · intro v hv
      rcases TypeExpr.mem_occurrences_app.1 (TypeExpr.mem_freeVars.1 hv) with
        ⟨a, ha, hv⟩ | ⟨o, ho, hv⟩
      · exact (hargs a ha).vars v (TypeExpr.mem_freeVars.2 hv)
      · exact (howner o ho).vars v (TypeExpr.mem_freeVars.2 hv)
    · intro u hu
      rcases TypeExpr.mem_applications_app.1 hu with rfl | ⟨a, ha, hu⟩ | ⟨o, ho, hu⟩
      · exact hself
      · exact (hargs a ha).args u hu
      · exact (howner o ho).args u hu

theorem within_var_iff {v : VarId} : R.Within σ (.var v) ↔ R.VarWithin σ v := by
  constructor
  · exact fun h => h.vars v (TypeExpr.mem_freeVars.2 List.mem_cons_self)
  · intro h
    refine ⟨fun w hw => ?_, fun u hu => absurd hu List.not_mem_nil⟩
    rw [TypeExpr.mem_freeVars, TypeExpr.occurrences_var, List.mem_singleton] at hw
    exact hw ▸ h

theorem within_array_iff {elem : TypeExpr} : R.Within σ (.array elem) ↔ R.Within σ elem := by
  constructor
  · rintro ⟨hvars, hargs⟩
    exact ⟨hvars, fun u hu => hargs u (TypeExpr.mem_applications_array.2 hu)⟩
  · rintro ⟨hvars, hargs⟩
    exact ⟨hvars, fun u hu => hargs u (TypeExpr.mem_applications_array.1 hu)⟩

/-- Where nothing changes, nothing is checked. -/
theorem within_of_isConcrete {t : TypeExpr} (ht : t.isConcrete = true) : R.Within σ t := by
  refine ⟨fun v hv => ?_, fun u hu _ i f a _ ha hopen => ?_⟩
  · have hnone := TypeExpr.hasVars_eq_false_iff.1 (TypeExpr.hasVars_of_isConcrete ht)
    exact absurd (TypeExpr.mem_freeVars.1 hv) (hnone v)
  · have hc := TypeExpr.isConcrete_of_mem_applications ht hu (List.mem_of_getElem? ha)
    rw [hc] at hopen
    cases hopen

/-! ### Nothing to choose -/

/-- A variable that is bound to a concrete type becomes that type, if it passes for its bounds. -/
theorem yields_instantiateVarStep {inst : TypeExpr → Substitution → Attempt TypeExpr}
    {become : TypeExpr → TypeExpr → Option Bool} {v : VarId} {u r : TypeExpr}
    (hu : σ.get? v = some u) (hc : u.isConcrete = true) :
    (R.instantiateVarStep inst become v σ).Yields r ↔
      r = u ∧ (R.registry.typeParam? v).isSome = true ∧
        R.checkBounds become u (some v) (R.registry.bounds v) [] σ = some true := by
  cases hp : R.registry.typeParam? v with
  | none => simp [instantiateVarStep, hp]
  | some p =>
    rw [instantiateVarStep_of_isConcrete hp hu hc, Attempt.yields_guard, Attempt.yields_pure,
      Registry.bounds_of_typeParam? hp]
    constructor
    · rintro ⟨hcheck, rfl⟩
      exact ⟨rfl, rfl, hcheck⟩
    · rintro ⟨rfl, -, hcheck⟩
      exact ⟨hcheck, rfl⟩

/-- **Nothing but the substitution comes out.** -/
theorem eq_substitute_of_yields {n : Nat} {t r : TypeExpr} (hw : t.hasWildcards = false)
    (hσ : σ.GroundOn t) (hn : t.SitesBelow n) (h : (R.instantiateAt n t σ).Yields r) :
    r = t.substitute σ := by
  induction n generalizing t r with
  | zero =>
    have hc := hn.isConcrete hw
    rw [TypeExpr.substitute_of_isConcrete hc]
    exact (Attempt.yields_pure.1 h).symm
  | succ n ih =>
    rw [instantiateAt_succ] at h
    cases t with
    | raw c => exact (Attempt.yields_pure.1 h).symm
    | app c args owner =>
      obtain ⟨hwargs, hwowner⟩ := TypeExpr.hasWildcards_app_eq_false_iff.1 hw
      obtain ⟨results, owner', rfl, hlen, hresults, howner⟩ := exists_of_yields_app hwargs h
      have hargs : results = args.map (TypeExpr.substitute σ) := by
        refine List.ext_getElem (by rw [hlen, List.length_map]) fun i hi hi' => ?_
        have hia : i < args.length := hlen ▸ hi
        have hmem : args[i] ∈ args := List.getElem_mem hia
        rw [List.getElem_map]
        exact ih (hwargs _ hmem) (hσ.of_arg hmem) (hn.of_arg hmem) (hresults i hia hi)
      have hown : owner' = owner.map (TypeExpr.substitute σ) := by
        cases howner with
        | none => rfl
        | some ho =>
          exact congrArg some (ih (hwowner _ rfl) (hσ.of_owner rfl) (hn.of_owner rfl) ho)
      rw [hargs, hown, TypeExpr.substitute_app]
    | wildcard us ls => cases hw
    | var v =>
      obtain ⟨u, hu, hc⟩ := hσ v List.mem_cons_self
      rw [TypeExpr.substitute_var_of_get? hu]
      exact ((yields_instantiateVarStep hu hc).1 h).1
    | array elem =>
      obtain ⟨r', hr', hr⟩ := Attempt.yields_bind.1 h
      rw [← Attempt.yields_pure.1 hr, TypeExpr.substitute_array]
      exact congrArg TypeExpr.array (ih hw hσ hn.of_array hr')

/-! ### The checks -/

/-- The bounds of a formal, read as the check reads them: with the arguments before it put in, then
the argument itself. -/
theorem substitute_upTo (σ : Substitution) {c : ClassId} (ho : R.registry.FormalsOrdered c)
    {as : List TypeExpr} {i : Nat} {f : VarId} {a B : TypeExpr}
    (hf : (R.registry.formals c)[i]? = some f) (ha : as[i]? = some a)
    (hc : ∀ b ∈ as, b.isConcrete = true)
    (hlen : (R.registry.formals c).length = as.length) (hB : B ∈ R.registry.bounds f) :
    (B.substitute (.ofFormals (R.registry.formals c) (as.take i))).substitute (σ.bind f a) =
        B.substitute (.ofFormalsUpTo (R.registry.formals c) as i) ∧
      (B.substitute (.ofFormalsUpTo (R.registry.formals c) as i)).hasVars = false := by
  have hread : ∀ w ∈ B.occurrences, ∃ b,
      (Substitution.ofFormalsUpTo (R.registry.formals c) as i).get? w = some b ∧
        b.isConcrete = true ∧ ((TypeExpr.var w).substitute
          (.ofFormals (R.registry.formals c) (as.take i))).substitute (σ.bind f a) = b := by
    intro w hw
    rw [Substitution.get?_ofFormalsUpTo hf ha]
    cases hg : (Substitution.ofFormals (R.registry.formals c) (as.take i)).get? w with
    | some b =>
      have hbc : b.isConcrete = true :=
        hc b (List.mem_of_mem_take (Substitution.mem_of_get?_ofFormals hg))
      refine ⟨b, rfl, hbc, ?_⟩
      rw [TypeExpr.substitute_var_of_get? hg, TypeExpr.substitute_of_isConcrete hbc]
    | none =>
      have hwf : w = f := by
        obtain ⟨k, hk, hkw⟩ := List.mem_take_iff_getElem.1 (ho.back i f hf B hB w hw)
        have hki : ¬ k < i := fun hki => Substitution.get?_ofFormals_ne_none
          (List.getElem?_eq_some_iff.2 ⟨_, hkw⟩) (by rw [List.length_take]; omega) hg
        obtain rfl : k = i := by omega
        exact hkw.symm.trans (List.getElem?_eq_some_iff.1 hf).2
      refine ⟨a, ?_, hc a (List.mem_of_getElem? ha), ?_⟩
      · rw [if_pos hwf]
        rfl
      · rw [TypeExpr.substitute_var, hg, Option.getD_none]
        exact TypeExpr.substitute_var_of_get? (by rw [Substitution.get?_bind, if_pos hwf])
  refine ⟨TypeExpr.substitute_substitute fun w hw => ?_, TypeExpr.hasVars_substitute fun w hw => ?_⟩
  · obtain ⟨b, hb, -, hsub⟩ := hread w hw
    rw [hsub, TypeExpr.substitute_var_of_get? hb]
  · obtain ⟨b, hb, hbc, -⟩ := hread w hw
    exact ⟨b, hb, hbc⟩

section Args

variable {inst : TypeExpr → Substitution → Attempt TypeExpr}
  {select : TypeExpr → List TypeExpr → List TypeExpr → Substitution → Attempt TypeExpr}
  {become : TypeExpr → TypeExpr → Option Bool} {subject : TypeExpr} {c : ClassId}
  {args : List TypeExpr}

theorem isConcrete_of_mem_map (hw : ∀ a ∈ args, a.hasWildcards = false)
    (hσ : ∀ a ∈ args, σ.GroundOn a) :
    ∀ b ∈ args.map (TypeExpr.substitute σ), b.isConcrete = true := by
  intro b hb
  obtain ⟨a, ha, rfl⟩ := List.mem_map.1 hb
  exact TypeExpr.isConcrete_substitute (hw a ha) (hσ a ha)

/-- The check of one argument is that of a bound below the arguments up to it. -/
theorem fitsFormal_substitute_iff (ho : R.registry.FormalsOrdered c)
    (harity : (R.registry.formals c).length = args.length)
    (hw : ∀ a ∈ args, a.hasWildcards = false) (hσ : ∀ a ∈ args, σ.GroundOn a) {i : Nat} {f : VarId}
    {a : TypeExpr} (hf : (R.registry.formals c)[i]? = some f) (ha : args[i]? = some a) :
    R.fitsFormal become
        (R.chosenAfter .empty (R.registry.formals c) ((args.map (TypeExpr.substitute σ)).take i))
        ((R.registry.formals c).drop i) a (a.substitute σ) σ = some true ↔
      (a.isConcrete = false → ∀ B ∈ R.registry.bounds f, R.isAssignable (a.substitute σ)
        (B.substitute (.ofFormalsUpTo (R.registry.formals c)
          (args.map (TypeExpr.substitute σ)) i)) = some true) := by
  have hmem := List.mem_of_getElem? ha
  have hconcrete := TypeExpr.isConcrete_substitute (hw a hmem) (hσ a hmem)
  have hchanged : a.substitute σ ≠ a ↔ a.isConcrete = false := by
    constructor
    · intro hne
      exact Bool.eq_false_iff.2 fun hc => hne (TypeExpr.substitute_of_isConcrete hc σ)
    · intro hopen he
      rw [he, hopen] at hconcrete
      cases hconcrete
  have hread := fun B hB => substitute_upTo σ ho hf
    (by rw [List.getElem?_map, ha, Option.map_some]) (isConcrete_of_mem_map hw hσ)
    (by rw [List.length_map, harity]) (B := B) hB
  rw [chosenAfter_empty ho.known, fitsFormal_eq_true_iff ho.known hf, hchanged]
  refine imp_congr_right fun _ => ?_
  rw [checkBounds_ground, List.forall_mem_map]
  · refine ⟨fun h B hB => ?_, fun h _ B hB => ?_⟩
    · rw [← (hread B hB).1]
      exact h hconcrete B hB
    · rw [(hread B hB).1]
      exact h B hB
  · intro b hb
    obtain ⟨B, hB, rfl⟩ := List.mem_map.1 hb
    rw [(hread B hB).1]
    exact (hread B hB).2

/-- The walk over the arguments gives the arguments with the bindings put in exactly if each
argument is resolved to that and the application is within bounds. -/
theorem yields_instantiateArgs_substitute_iff (ho : R.registry.FormalsOrdered c)
    (hw : ∀ a ∈ args, a.hasWildcards = false) (hσ : ∀ a ∈ args, σ.GroundOn a) :
    (R.instantiateArgs inst select become subject σ .empty
        (R.registry.formalsFor c args.length) args).Yields (args.map (TypeExpr.substitute σ)) ↔
      R.ArgsWithin σ (c, args) ∧ ∀ a ∈ args, (inst a σ).Yields (a.substitute σ) := by
  rw [yields_instantiateArgs_iff]
  have hmap : ∀ {i : Nat} {a : TypeExpr}, args[i]? = some a →
      (args.map (TypeExpr.substitute σ))[i]? = some (a.substitute σ) := fun ha => by
    rw [List.getElem?_map, ha, Option.map_some]
  constructor
  · rintro ⟨-, h⟩
    refine ⟨fun harity i f a hf ha => ?_, fun a ha => ?_⟩
    · have hfits := (h i a _ ha (hmap ha)).fits
      rw [Registry.formalsFor, if_pos harity] at hfits
      exact (fitsFormal_substitute_iff ho harity hw hσ hf ha).1 hfits
    · obtain ⟨i, hi⟩ := List.mem_iff_getElem?.1 ha
      have hres := (h i a _ hi (hmap hi)).resolved
      rwa [resolveArg_of_not_hasWildcards (hw a ha)] at hres
  · rintro ⟨hwithin, hinst⟩
    refine ⟨List.length_map _, fun i a r ha hr => ?_⟩
    obtain rfl : a.substitute σ = r := Option.some.inj ((hmap ha).symm.trans hr)
    have hmem := List.mem_of_getElem? ha
    refine ⟨by rw [resolveArg_of_not_hasWildcards (hw a hmem)]; exact hinst a hmem, ?_⟩
    by_cases harity : (R.registry.formals c).length = args.length
    · rw [Registry.formalsFor, if_pos harity]
      have hi : i < (R.registry.formals c).length :=
        harity ▸ (List.getElem?_eq_some_iff.1 ha).1
      exact (fitsFormal_substitute_iff ho harity hw hσ (List.getElem?_eq_getElem hi) ha).2
        (hwithin harity i _ a (List.getElem?_eq_getElem hi) ha)
    · rw [Registry.formalsFor, if_neg harity, List.drop_nil]
      rfl

/-- One level of a type with arguments: the application is within bounds, and the arguments and the
owner are resolved to themselves with the bindings put in. -/
theorem yields_substitute_app_iff (ho : R.registry.FormalsOrdered c) {owner : Option TypeExpr}
    (hw : ∀ a ∈ args, a.hasWildcards = false) (hσ : ∀ a ∈ args, σ.GroundOn a) :
    (R.instantiateStep inst select become (.app c args owner) σ).Yields
        ((TypeExpr.app c args owner).substitute σ) ↔
      R.ArgsWithin σ (c, args) ∧ (∀ a ∈ args, (inst a σ).Yields (a.substitute σ)) ∧
        ∀ o ∈ owner, (inst o σ).Yields (o.substitute σ) := by
  rw [TypeExpr.substitute_app, yields_instantiateStep_app]
  constructor
  · rintro ⟨results, owner', he, hresults, hrel⟩
    obtain ⟨-, rfl, rfl⟩ := TypeExpr.app.inj he
    obtain ⟨hwithin, hinst⟩ := (yields_instantiateArgs_substitute_iff ho hw hσ).1 hresults
    refine ⟨hwithin, hinst, fun o hmem => ?_⟩
    obtain rfl := hmem
    cases hrel with
    | some h => exact h
  · rintro ⟨hwithin, hinst, howner⟩
    refine ⟨_, _, rfl, (yields_instantiateArgs_substitute_iff ho hw hσ).2 ⟨hwithin, hinst⟩, ?_⟩
    cases owner with
    | none => exact .none
    | some o => exact .some (howner o rfl)

end Args

/-- One level of a variable: what it is bound to is within bounds. -/
theorem yields_substitute_var_iff {inst : TypeExpr → Substitution → Attempt TypeExpr}
    {become : TypeExpr → TypeExpr → Option Bool} {v : VarId} (hσ : σ.GroundOn (.var v))
    (hbounds : ∀ B ∈ R.registry.bounds v, σ.GroundOn B) :
    (R.instantiateVarStep inst become v σ).Yields ((TypeExpr.var v).substitute σ) ↔
      R.VarWithin σ v := by
  obtain ⟨u, hu, hc⟩ := hσ v List.mem_cons_self
  -- the check binds the variable to the candidate, which it is bound to already
  have hsame : σ.bind v u = σ := Substitution.ext_get? fun w => by
    rw [Substitution.get?_bind]
    split
    · rename_i he
      rw [he, hu]
    · rfl
  have hground : ∀ B ∈ R.registry.bounds v, (B.substitute (σ.bind v u)).hasVars = false := by
    intro B hB
    rw [hsame]
    exact TypeExpr.hasVars_substitute (hbounds B hB)
  rw [VarWithin, TypeExpr.substitute_var_of_get? hu, yields_instantiateVarStep hu hc,
    checkBounds_ground hground, hsame]
  exact and_iff_right rfl

/-- **The substitution comes out exactly if the checks are passed.** -/
theorem yields_substitute_iff {n : Nat} {t : TypeExpr} (hw : t.hasWildcards = false)
    (hσ : σ.GroundOn t) (hn : t.SitesBelow n)
    (hbounds : ∀ v ∈ t.occurrences, ∀ B ∈ R.registry.bounds v, σ.GroundOn B)
    (ho : ∀ u ∈ t.applications, R.registry.FormalsOrdered u.1) :
    (R.instantiateAt n t σ).Yields (t.substitute σ) ↔ R.Within σ t := by
  induction n generalizing t with
  | zero =>
    have hc := hn.isConcrete hw
    rw [TypeExpr.substitute_of_isConcrete hc]
    exact ⟨fun _ => within_of_isConcrete hc, fun _ => Attempt.yields_pure.2 rfl⟩
  | succ n ih =>
    rw [instantiateAt_succ]
    cases t with
    | raw c => exact ⟨fun _ => within_of_isConcrete rfl, fun _ => Attempt.yields_pure.2 rfl⟩
    | app c args owner =>
      obtain ⟨hwargs, hwowner⟩ := TypeExpr.hasWildcards_app_eq_false_iff.1 hw
      have hargs : ∀ a ∈ args, (R.instantiateAt n a σ).Yields (a.substitute σ) ↔ R.Within σ a :=
        fun a ha => ih (hwargs a ha) (hσ.of_arg ha) (hn.of_arg ha)
          (fun v hv => hbounds v (TypeExpr.mem_occurrences_app.2 (Or.inl ⟨a, ha, hv⟩)))
          fun u hu => ho u (TypeExpr.mem_applications_app.2 (Or.inr (Or.inl ⟨a, ha, hu⟩)))
      have howner : ∀ o ∈ owner, (R.instantiateAt n o σ).Yields (o.substitute σ) ↔ R.Within σ o :=
        fun o hmem => ih (hwowner o hmem) (hσ.of_owner hmem) (hn.of_owner hmem)
          (fun v hv => hbounds v (TypeExpr.mem_occurrences_app.2 (Or.inr ⟨o, hmem, hv⟩)))
          fun u hu => ho u (TypeExpr.mem_applications_app.2 (Or.inr (Or.inr ⟨o, hmem, hu⟩)))
      have hself := ho _ (TypeExpr.mem_applications_app.2 (Or.inl rfl))
      rw [yields_substitute_app_iff hself hwargs fun a ha => hσ.of_arg ha, within_app_iff]
      exact and_congr_right fun _ => and_congr (forall₂_congr hargs) (forall₂_congr howner)
    | wildcard us ls => cases hw
    | var v =>
      rw [within_var_iff]
      exact yields_substitute_var_iff hσ (hbounds v List.mem_cons_self)
    | array elem =>
      have helem : (R.instantiateAt n elem σ).Yields (elem.substitute σ) ↔ R.Within σ elem :=
        ih hw hσ hn.of_array hbounds fun u hu => ho u (TypeExpr.mem_applications_array.2 hu)
      rw [within_array_iff, ← helem, TypeExpr.substitute_array, instantiateStep,
        Attempt.yields_bind]
      constructor
      · rintro ⟨r, hr, he⟩
        obtain rfl := TypeExpr.array.inj (Attempt.yields_pure.1 he)
        exact hr
      · exact fun h => ⟨_, h, Attempt.yields_pure.2 rfl⟩

/-- **Resolution under full bindings is a checked substitution.** Let every variable of an
expression without wildcards be bound to a concrete type and stand on a level that is still entered.
Then only the expression with the bindings put in can come out; and if also the bounds of its
variables are bound and the formals of its classes ordered, something comes out exactly if all is
within bounds. -/
theorem instantiate_iff_within {t : TypeExpr} (depth : Nat) (hw : t.hasWildcards = false)
    (hσ : σ.GroundOn t) (hdepth : ∀ e ∈ t.sites, depth + e.2 ≤ R.maxDepth) :
    (∀ r, (R.instantiate t σ depth).Yields r → r = t.substitute σ) ∧
      ((∀ v ∈ t.freeVars, ∀ B ∈ R.registry.bounds v, σ.GroundOn B) →
        (∀ u ∈ t.applications, R.registry.FormalsOrdered u.1) →
        ((∃ r, (R.instantiate t σ depth).Yields r) ↔ R.Within σ t)) := by
  have hn : t.SitesBelow (R.levels depth) := by
    intro e he
    have hle := hdepth e he
    rw [levels]
    omega
  have honly : ∀ r, (R.instantiate t σ depth).Yields r → r = t.substitute σ :=
    fun r hr => eq_substitute_of_yields hw hσ hn hr
  refine ⟨honly, fun hbounds ho => ?_⟩
  rw [← yields_substitute_iff hw hσ hn (fun v hv => hbounds v (TypeExpr.mem_freeVars.2 hv)) ho]
  constructor
  · rintro ⟨r, hr⟩
    exact honly r hr ▸ hr
  · exact fun h => ⟨_, h⟩

end Resolver

/-! ### A range of types -/

namespace Registry

/-- `Object`, `String`, a class `Range<B, A extends B>` and two variables `T` and `U extends T`. -/
def withRange : Registry :=
  let (_, reg) := initial.addClass { name := "String", superclass := some (.raw ⟨0⟩) }
  let (range, reg) := reg.intern "Range"
  let (b, reg) := reg.addTypeParam "B" (.ofClass range) []
  let (a, reg) := reg.addTypeParam "A" (.ofClass range) [.var b]
  let (t, reg) := reg.addTypeParam "T" (.ofMethod range "of" 2) []
  let (_, reg) := reg.addTypeParam "U" (.ofMethod range "of" 2) [.var t]
  reg.define range { name := "Range", typeParams := [b, a], superclass := some (.raw ⟨0⟩) }

theorem formalsOrdered_withRange : withRange.FormalsOrdered ⟨2⟩ := by
  have hformals : withRange.formals ⟨2⟩ = [⟨0⟩, ⟨1⟩] := by decide +kernel
  refine ⟨by decide +kernel, fun i f hf => ?_⟩
  rw [hformals] at hf ⊢
  rcases i with - | - | i
  · obtain rfl := Option.some.inj hf
    decide +kernel
  · obtain rfl := Option.some.inj hf
    decide +kernel
  · cases hf

end Registry

namespace Resolver

/-- `Range<T, U>` with `T` bound to `Object` and `U` to `String` is within bounds. -/
theorem within_range :
    Within { registry := Registry.withRange } (.ofList [(⟨2⟩, .raw ⟨0⟩), (⟨3⟩, .raw ⟨1⟩)])
      (.app ⟨2⟩ [.var ⟨2⟩, .var ⟨3⟩] none) := by
  have hground : (Substitution.ofList [(⟨2⟩, .raw ⟨0⟩), (⟨3⟩, .raw ⟨1⟩)]).GroundOn
      (.app ⟨2⟩ [.var ⟨2⟩, .var ⟨3⟩] none) := by decide +kernel
  have hordered : ∀ u ∈ (TypeExpr.app ⟨2⟩ [.var ⟨2⟩, .var ⟨3⟩] none).applications,
      Registry.withRange.FormalsOrdered u.1 := by
    intro u hu
    obtain rfl := List.mem_singleton.1 hu
    exact Registry.formalsOrdered_withRange
  have h := instantiate_iff_within (R := { registry := Registry.withRange }) 0 rfl hground
    (by decide +kernel)
  exact (h.2 (by decide +kernel) hordered).1
    ⟨.app ⟨2⟩ [.raw ⟨0⟩, .raw ⟨1⟩] none, by decide +kernel⟩

end Resolver

end Generics
