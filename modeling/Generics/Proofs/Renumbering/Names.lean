import Generics.Proofs.Renumbering.Members
import Generics.Proofs.Resolution.Selection

/-!
# Names under other numbers

A type is written with the names of a registry, and names are not renumbered; only for what the
registry does not know the number itself is written. So a type over known classes and variables is
written alike under other numbers. A failure names a type. Resolution never makes that type up: it is
a part of what was to be resolved, or of what its variables were bound to.

## Main definitions

* `Registry.knows`, `Registry.KnowsAll` — only what is defined and declared occurs
* `FailsWithin` — what the failures of a computation have in common

## Main results

* `Registry.Renumbered.typeName`, `Registry.Renumbered.message` — what is known is written alike
* `Resolver.failsWithin_instantiate` — a failure names a known type if the inputs are known
* `Resolver.failsWithin_reparameterize` — and so does a refusal
-/

namespace Generics

namespace Registry

variable (reg : Registry)

/-! ### Known types -/

/-- Every class in the expression is defined, and every variable is declared. -/
def knows : TypeExpr → Bool :=
  TypeExpr.interpret {
    raw := reg.isDefined
    app := fun c args owner => reg.isDefined c && args.all id && owner.all id
    wildcard := fun us ls => us.all id && ls.all id
    var := fun v => (reg.typeParam? v).isSome
    array := id }

/-- Everything that is bound is known. -/
def KnowsAll (σ : Substitution) : Prop := ∀ v t, σ.get? v = some t → reg.knows t = true

/-- The failure is about a known type. -/
def KnowsFailure (f : Failure) : Prop := reg.knows f.type = true

/-- The refusal is about a known type, if it is about a type. -/
def KnowsRefusal : Refusal → Prop
  | .failed f => reg.KnowsFailure f
  | .unsupported _ => True

@[simp] theorem knows_var (v : VarId) : reg.knows (.var v) = (reg.typeParam? v).isSome := rfl

theorem knows_app (c : ClassId) (args : List TypeExpr) (owner : Option TypeExpr) :
    reg.knows (.app c args owner) = true ↔
      reg.isDefined c = true ∧ (∀ a ∈ args, reg.knows a = true) ∧
        ∀ o ∈ owner, reg.knows o = true := by
  rw [knows, TypeExpr.interpret_app]
  cases owner <;> simp [and_assoc]

theorem knows_wildcard (us ls : List TypeExpr) :
    reg.knows (.wildcard us ls) = true ↔
      (∀ u ∈ us, reg.knows u = true) ∧ ∀ l ∈ ls, reg.knows l = true := by
  rw [knows, TypeExpr.interpret_wildcard]
  simp

namespace Renumbered

variable {ρ : Renumbering} {reg reg' : Registry} (h : Renumbered ρ reg reg')

include h

/-! ### Written types -/

theorem className {c : ClassId} (hc : reg.isDefined c = true) :
    reg'.className (ρ.classes c) = reg.className c := by
  obtain ⟨d, hd⟩ := isDefined_iff.1 hc
  rw [Registry.className, Registry.className, h.class?, hd]
  rfl

theorem memberName {c : ClassId} (hc : reg.isDefined c = true) (owner : Option String) :
    reg'.memberName (ρ.classes c) owner = reg.memberName c owner := by
  cases owner with
  | none => exact h.className hc
  | some outer =>
    obtain ⟨d, hd⟩ := isDefined_iff.1 hc
    have hd' : reg'.class? (ρ.classes c) = some (d.renumber ρ) := by
      rw [h.class?, hd, Option.map_some]
    simp only [Registry.memberName, hd, hd']
    rfl

/-- **A known type is written alike** under other numbers. -/
theorem typeName {t : TypeExpr} (ht : reg.knows t = true) :
    reg'.typeName (t.renumber ρ) = reg.typeName t := by
  have hmap : ∀ {ts : List TypeExpr},
      (∀ t ∈ ts, reg.knows t = true → reg'.typeName (t.renumber ρ) = reg.typeName t) →
      (∀ t ∈ ts, reg.knows t = true) →
      (ts.map (TypeExpr.renumber ρ)).map reg'.typeName = ts.map reg.typeName := fun hts hk => by
    rw [List.map_map]
    exact List.map_congr_left fun t ht => hts t ht (hk t ht)
  induction t with
  | raw c => exact h.className ht
  | app c args owner ihArgs ihOwner =>
    obtain ⟨hc, hargs, howner⟩ := (reg.knows_app c args owner).1 ht
    have houter : (owner.map (TypeExpr.renumber ρ)).map reg'.typeName =
        owner.map reg.typeName := by
      rw [Option.map_map]
      exact Option.map_congr fun o ho => ihOwner o ho (howner o ho)
    rw [TypeExpr.renumber_app, typeName_app, typeName_app, houter, h.memberName hc,
      hmap ihArgs hargs]
  | wildcard us ls ihUppers ihLowers =>
    obtain ⟨hus, hls⟩ := (reg.knows_wildcard us ls).1 ht
    rw [TypeExpr.renumber_wildcard, typeName_wildcard, typeName_wildcard, hmap ihUppers hus,
      hmap ihLowers hls]
  | var v =>
    obtain ⟨p, hp⟩ := Option.isSome_iff_exists.1 ht
    rw [TypeExpr.renumber_var, typeName_var, typeName_var, varName, varName, h.typeParam?, hp]
    rfl
  | array t ih => exact congrArg (· ++ "[]") (ih ht)

/-- **A failure is told in the same words** if it is about a known type. -/
theorem message {f : Failure} (hf : reg.KnowsFailure f) :
    (f.renumber ρ).message reg' = f.message reg := by
  exact congrArg (fun name => "cannot instantiate " ++ name ++ ": " ++ f.reason.describe)
    (h.typeName hf)

/-- A refusal is told in the same words if it is about a known type. -/
theorem refusal_message {r : Refusal} (hr : reg.KnowsRefusal r) :
    (r.renumber ρ).message reg' = r.message reg := by
  cases r with
  | failed f => exact h.message hr
  | unsupported e => rfl

end Renumbered

end Registry

/-! ### What a failure is about -/

section Failures

variable {ε α β : Type} {P : ε → Prop}

/-- Every failure of the computation has the property. -/
def FailsWithin (P : ε → Prop) (x : ExceptT ε Option α) : Prop :=
  ∀ e, x.run = some (.error e) → P e

theorem failsWithin_pure (a : α) : FailsWithin P (pure a : ExceptT ε Option α) :=
  fun _ h => nomatch Option.some.inj h

theorem failsWithin_throw {e : ε} (he : P e) : FailsWithin P (throw e : ExceptT ε Option α) := by
  intro e' he'
  obtain rfl : e = e' := Except.error.inj (Option.some.inj he')
  exact he

theorem FailsWithin.bind {x : ExceptT ε Option α} {next : α → ExceptT ε Option β}
    (hx : FailsWithin P x) (hnext : ∀ a, FailsWithin P (next a)) : FailsWithin P (x >>= next) := by
  intro e he
  rw [ExceptT.run_bind] at he
  obtain ⟨r, hr, he⟩ := Option.bind_eq_some_iff.1 he
  cases r with
  | error e' =>
    obtain rfl : e' = e := Except.error.inj (Option.some.inj he)
    exact hx e' hr
  | ok a => exact hnext a e he

/-- A question on the way does not fail. -/
theorem failsWithin_ask (x : Option α) {next : α → ExceptT ε Option β}
    (hnext : ∀ a, FailsWithin P (next a)) :
    FailsWithin P ((liftM x : ExceptT ε Option α) >>= next) := by
  refine FailsWithin.bind (fun e he => ?_) hnext
  rw [ExceptT.run_liftM] at he
  obtain ⟨a, -, ha⟩ := Option.map_eq_some_iff.1 he
  cases ha

/-- A test that must be passed fails with what it is told to fail with. -/
theorem failsWithin_guard (fits : Option Bool) {x : ExceptT ε Option α} {e : ε}
    (hx : FailsWithin P x) (he : P e) :
    FailsWithin P ((liftM fits : ExceptT ε Option Bool) >>= fun b => if b then x else throw e) := by
  refine failsWithin_ask fits fun b => ?_
  cases b with
  | true => exact hx
  | false => exact failsWithin_throw he

end Failures

namespace Resolver

variable {R : Resolver}

/-- The helpers of one level fail with known types on known inputs. -/
structure HelpersFailWithin (R : Resolver)
    (inst : TypeExpr → Substitution → Attempt TypeExpr)
    (select : TypeExpr → List TypeExpr → List TypeExpr → Substitution → Attempt TypeExpr) :
    Prop where
  /-- Parts are known, -/
  inst : ∀ t σ, R.registry.knows t = true → R.registry.KnowsAll σ →
    FailsWithin R.registry.KnowsFailure (inst t σ)
  /-- and of a wildcard what it is and what lies below it. -/
  select : ∀ s us ls σ, R.registry.knows s = true → (∀ l ∈ ls, R.registry.knows l = true) →
    R.registry.KnowsAll σ → FailsWithin R.registry.KnowsFailure (select s us ls σ)

section Level

variable {inst : TypeExpr → Substitution → Attempt TypeExpr}
  {select : TypeExpr → List TypeExpr → List TypeExpr → Substitution → Attempt TypeExpr}
  {become : TypeExpr → TypeExpr → Option Bool} (H : HelpersFailWithin R inst select)
  {σ : Substitution} (hσ : R.registry.KnowsAll σ)

include H hσ

theorem failsWithin_selectStep {subject : TypeExpr} (hs : R.registry.knows subject = true)
    (var : Option VarId) (uppers : List TypeExpr) {lowers : List TypeExpr}
    (hlowers : ∀ l ∈ lowers, R.registry.knows l = true) :
    FailsWithin R.registry.KnowsFailure
      (R.selectStep inst become subject var uppers lowers σ) := by
  cases lowers with
  | cons lower lowers =>
    unfold selectStep
    refine (H.inst lower σ (hlowers lower List.mem_cons_self) hσ).bind fun candidate => ?_
    exact failsWithin_guard _ (failsWithin_pure candidate) hs
  | nil =>
    intro e h
    cases run_selectStep_nil_eq_some_iff.1 h with
    | nothing hrefused hnone hconcrete => exact hs

theorem failsWithin_instantiateVarStep {v : VarId} (hv : R.registry.knows (.var v) = true) :
    FailsWithin R.registry.KnowsFailure (R.instantiateVarStep inst become v σ) := by
  unfold instantiateVarStep
  split
  · exact failsWithin_throw hv
  · split
    · exact failsWithin_selectStep H hσ hv _ _ fun _ hl => absurd hl List.not_mem_nil
    · rename_i value hvalue
      have hknown : R.registry.knows value = true :=
        hσ v value (Option.eq_some_of_filter_eq_some hvalue)
      dsimp only
      split
      · refine (failsWithin_pure value).bind fun candidate => ?_
        exact failsWithin_guard _ (failsWithin_pure candidate) hv
      · refine (H.inst value σ hknown hσ).bind fun candidate => ?_
        exact failsWithin_guard _ (failsWithin_pure candidate) hv

theorem failsWithin_resolveArg (bounds : List TypeExpr) {arg : TypeExpr}
    (harg : R.registry.knows arg = true) :
    FailsWithin R.registry.KnowsFailure (resolveArg inst select bounds arg σ) := by
  unfold resolveArg
  split
  · exact H.select _ _ _ σ harg ((R.registry.knows_wildcard _ _).1 harg).2 hσ
  · exact H.inst arg σ harg hσ

theorem failsWithin_instantiateArgs {subject : TypeExpr} (hs : R.registry.knows subject = true)
    (chosen : Substitution) (formals : List VarId) {args : List TypeExpr}
    (hargs : ∀ a ∈ args, R.registry.knows a = true) :
    FailsWithin R.registry.KnowsFailure
      (R.instantiateArgs inst select become subject σ chosen formals args) := by
  induction args generalizing chosen formals with
  | nil => exact failsWithin_pure []
  | cons arg args ih =>
    rw [instantiateArgs_cons]
    refine (failsWithin_resolveArg H hσ _ (hargs arg List.mem_cons_self)).bind fun result => ?_
    refine failsWithin_guard _ ?_ hs
    refine (ih _ _ fun a ha => hargs a (List.mem_cons_of_mem _ ha)).bind fun rest => ?_
    exact failsWithin_pure _

/-- One level fails with known types. -/
theorem failsWithin_instantiateStep {t : TypeExpr} (ht : R.registry.knows t = true) :
    FailsWithin R.registry.KnowsFailure (R.instantiateStep inst select become t σ) := by
  cases t with
  | raw c => exact failsWithin_pure _
  | app c args owner =>
    obtain ⟨-, hargs, howner⟩ := (R.registry.knows_app c args owner).1 ht
    refine (failsWithin_instantiateArgs H hσ ht _ _ hargs).bind fun args' => ?_
    cases owner with
    | none => exact failsWithin_pure _
    | some o =>
      refine (H.inst o σ (howner o rfl) hσ).bind fun o' => ?_
      exact failsWithin_pure _
  | wildcard us ls =>
    exact failsWithin_selectStep H hσ ht none us ((R.registry.knows_wildcard us ls).1 ht).2
  | var v => exact failsWithin_instantiateVarStep H hσ ht
  | array elem =>
    exact (H.inst elem σ ht hσ).bind fun elem' => failsWithin_pure _

end Level

theorem helpersFailWithin (n : Nat) :
    HelpersFailWithin R (R.instantiateAt n) (R.selectAt n) := by
  induction n with
  | zero => exact ⟨fun t _ _ _ => failsWithin_pure t,
      fun s _ _ _ _ _ _ => failsWithin_pure s⟩
  | succ n ih =>
    exact ⟨fun t σ ht hσ => failsWithin_instantiateStep ih hσ ht,
      fun s us ls σ hs hls hσ => failsWithin_selectStep ih hσ hs none us hls⟩

/-- **A failure names a known type** if what is resolved, and what its variables are bound to, is
known. -/
theorem failsWithin_instantiate {t : TypeExpr} {σ : Substitution}
    (ht : R.registry.knows t = true) (hσ : R.registry.KnowsAll σ) (depth : Nat) :
    FailsWithin R.registry.KnowsFailure (R.instantiate t σ depth) :=
  (helpersFailWithin _).inst t σ ht hσ

theorem failsWithin_reparameterizeUse {source : TypeExpr} (hs : R.registry.knows source = true)
    (c : ClassId) (superType : TypeExpr) :
    FailsWithin R.registry.KnowsRefusal (R.reparameterizeUse source c superType) := by
  unfold reparameterizeUse
  split
  · exact failsWithin_throw hs
  · split
    · split
      · exact failsWithin_pure _
      · split
        · exact failsWithin_ask _ fun τ => failsWithin_pure _
        · exact failsWithin_throw hs
      · exact failsWithin_throw trivial
    · exact failsWithin_pure _

/-- **A refusal names a known type** if the type that is to be given arguments is known. -/
theorem failsWithin_reparameterize {source : TypeExpr} (hs : R.registry.knows source = true)
    (superType : TypeExpr) :
    FailsWithin R.registry.KnowsRefusal (R.reparameterize source superType) := by
  induction source generalizing superType with
  | raw c => exact failsWithin_reparameterizeUse hs c superType
  | app c args owner => exact failsWithin_reparameterizeUse hs c superType
  | wildcard us ls => exact failsWithin_throw trivial
  | var v => exact failsWithin_throw trivial
  | array s ih =>
    cases superType with
    | array t => exact (ih hs t).bind fun elem => failsWithin_pure _
    | raw c =>
      rw [Resolver.reparameterize]
      split
      · exact failsWithin_pure _
      · exact failsWithin_throw hs
    | _ => exact failsWithin_throw hs

end Resolver

end Generics
