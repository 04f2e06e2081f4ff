import Generics.Proofs.Renumbering.Names
import Generics.Registry.Standard
import Mathlib.Logic.Equiv.Basic

/-!
# Answers do not depend on the numbers

Where everything that is declared mentions only what is declared, the answers do so, too. This needs
no inspection of how they come about: a renumbering that leaves alone whatever the registry knows
changes neither the registry nor the inputs, and so leaves alone the answers. A number that the
registry does not know can be exchanged for another one in this way, so it does not occur in them.

## Main definitions

* `Registry.SelfContained` — declarations mention only what is declared
* `Renumbering.Fixes` — what the registry knows keeps its number

## Main results

* `Renumbering.Fixes.renumbered` — a self-contained registry is not changed by such a renumbering
* `Resolver.failsWithin_instantiateMethod`, `Resolver.failsWithin_instantiateConstructor` — member
  signatures fail with known types
* `Resolver.sameAnswers_of_renumbered` — no answer depends on the numbers
-/

namespace Generics

/-! ### Self-contained registries -/

namespace Registry

variable (reg : Registry)

/-- The method mentions only what is known. -/
def knowsMethod (m : Method) : Bool :=
  (TypeExpr.vars m.typeParams).all reg.knows && m.params.all reg.knows &&
    m.returnType.all reg.knows

/-- The constructor mentions only what is known. -/
def knowsConstructor (k : Constructor) : Bool :=
  (TypeExpr.vars k.typeParams).all reg.knows && k.params.all reg.knows

/-- The definition mentions only what is known. -/
def knowsClass (d : ClassDef) : Bool :=
  (TypeExpr.vars d.typeParams).all reg.knows && d.declaredSupertypes.all reg.knows &&
    d.constructors.all reg.knowsConstructor && d.methods.all reg.knowsMethod

/-- The declaration mentions only what is known. -/
def knowsParam (p : TypeParam) : Bool :=
  reg.isDefined p.owner.classId && p.bounds.all reg.knows

/-- **Declarations mention only what is declared.** -/
structure SelfContained : Prop where
  /-- `Object` is defined, -/
  object : reg.isDefined reg.object = true
  /-- and so is what the definition of a class mentions -/
  classes : ∀ c d, reg.class? c = some d → reg.knowsClass d = true
  /-- and what the declaration of a type parameter does. -/
  params : ∀ v p, reg.typeParam? v = some p → reg.knowsParam p = true

end Registry

/-! ### Renumberings that leave a registry alone -/

namespace Renumbering

/-- What the registry knows keeps its number. -/
structure Fixes (ρ : Renumbering) (reg : Registry) : Prop where
  /-- Classes that are defined do, -/
  classes : ∀ c, reg.isDefined c = true → ρ.classes c = c
  /-- and type variables that are declared. -/
  vars : ∀ v, reg.knows (.var v) = true → ρ.vars v = v

variable {ρ : Renumbering} {reg : Registry} (hρ : ρ.Fixes reg)

include hρ

/-- A known type keeps its numbers. -/
theorem Fixes.type {t : TypeExpr} (ht : reg.knows t = true) : t.renumber ρ = t := by
  induction t with
  | raw c => exact congrArg TypeExpr.raw (hρ.classes c ht)
  | app c args owner ihArgs ihOwner =>
    obtain ⟨hc, hargs, howner⟩ := (reg.knows_app c args owner).1 ht
    have houter : owner.map (TypeExpr.renumber ρ) = owner :=
      option_map_eq_self fun o ho => ihOwner o ho (howner o ho)
    rw [TypeExpr.renumber_app, hρ.classes c hc, houter,
      map_eq_self_iff.2 fun a ha => ihArgs a ha (hargs a ha)]
  | wildcard us ls ihUppers ihLowers =>
    obtain ⟨hus, hls⟩ := (reg.knows_wildcard us ls).1 ht
    rw [TypeExpr.renumber_wildcard, map_eq_self_iff.2 fun u hu => ihUppers u hu (hus u hu),
      map_eq_self_iff.2 fun l hl => ihLowers l hl (hls l hl)]
  | var v => exact congrArg TypeExpr.var (hρ.vars v ht)
  | array t ih => exact congrArg TypeExpr.array (ih ht)

theorem Fixes.types {ts : List TypeExpr} (hts : ts.all reg.knows = true) :
    ts.map (TypeExpr.renumber ρ) = ts :=
  map_eq_self_iff.2 fun t ht => hρ.type (List.all_eq_true.1 hts t ht)

theorem Fixes.formals {vs : List VarId} (hvs : (TypeExpr.vars vs).all reg.knows = true) :
    vs.map ρ.vars = vs :=
  map_eq_self_iff.2 fun v hv =>
    hρ.vars v (List.all_eq_true.1 hvs (.var v) (List.mem_map_of_mem hv))

theorem Fixes.optional {t : Option TypeExpr} (ht : t.all reg.knows = true) :
    t.map (TypeExpr.renumber ρ) = t :=
  option_map_eq_self fun u hu => hρ.type ((Option.all_eq_true _ _).1 ht u hu)

theorem Fixes.method {m : Method} (hm : reg.knowsMethod m = true) : m.renumber ρ = m := by
  rw [Registry.knowsMethod, Bool.and_eq_true, Bool.and_eq_true] at hm
  obtain ⟨⟨hformals, hparams⟩, hreturn⟩ := hm
  rw [Method.renumber, hρ.formals hformals, hρ.types hparams, hρ.optional hreturn]

theorem Fixes.constructor {k : Constructor} (hk : reg.knowsConstructor k = true) :
    k.renumber ρ = k := by
  rw [Registry.knowsConstructor, Bool.and_eq_true] at hk
  rw [Constructor.renumber, hρ.formals hk.1, hρ.types hk.2]

theorem Fixes.classDef {d : ClassDef} (hd : reg.knowsClass d = true) : d.renumber ρ = d := by
  rw [Registry.knowsClass, Bool.and_eq_true, Bool.and_eq_true, Bool.and_eq_true,
    ClassDef.declaredSupertypes, List.all_append, Bool.and_eq_true] at hd
  obtain ⟨⟨⟨hformals, hsuper, hinterfaces⟩, hconstructors⟩, hmethods⟩ := hd
  have hsuperclass : d.superclass.map (TypeExpr.renumber ρ) = d.superclass := by
    refine hρ.optional ?_
    cases hs : d.superclass with
    | none => rfl
    | some t => simpa [hs] using hsuper
  rw [ClassDef.renumber, hρ.formals hformals, hsuperclass, hρ.types hinterfaces,
    map_eq_self_iff.2 fun k hk => hρ.constructor (List.all_eq_true.1 hconstructors k hk),
    map_eq_self_iff.2 fun m hm => hρ.method (List.all_eq_true.1 hmethods m hm)]

theorem Fixes.typeParam {p : TypeParam} (hp : reg.knowsParam p = true) : p.renumber ρ = p := by
  rw [Registry.knowsParam, Bool.and_eq_true] at hp
  have howner : p.owner.renumber ρ = p.owner := by
    have hclass := hρ.classes _ hp.1
    cases ho : p.owner <;> rw [ho] at hclass <;> simp only [VarOwner.classId] at hclass <;>
      rw [VarOwner.renumber, hclass]
  rw [TypeParam.renumber, howner, hρ.types hp.2]

/-- **A self-contained registry is not changed** if what it knows keeps its number. -/
theorem Fixes.renumbered (hS : reg.SelfContained) (hN : reg.NamesUnique) :
    reg.Renumbered ρ reg where
  class? c := by
    by_cases hc : reg.isDefined c = true
    · obtain ⟨d, hd⟩ := Registry.isDefined_iff.1 hc
      rw [hρ.classes c hc, hd, Option.map_some, hρ.classDef (hS.classes c d hd)]
    · -- a class that is not defined cannot get the number of one that is
      have hnew : ¬ reg.isDefined (ρ.classes c) = true := fun hnew =>
        hc (ρ.classes.injective (hρ.classes _ hnew) ▸ hnew)
      rw [Registry.isDefined, Option.not_isSome_iff_eq_none] at hc hnew
      rw [hc, hnew, Option.map_none]
  typeParam? v := by
    by_cases hv : reg.knows (.var v) = true
    · obtain ⟨p, hp⟩ := Option.isSome_iff_exists.1 hv
      rw [hρ.vars v hv, hp, Option.map_some, hρ.typeParam (hS.params v p hp)]
    · have hnew : ¬ reg.knows (.var (ρ.vars v)) = true := fun hnew =>
        hv (ρ.vars.injective (hρ.vars _ hnew) ▸ hnew)
      rw [Registry.knows_var, Option.not_isSome_iff_eq_none] at hv hnew
      rw [hv, hnew, Option.map_none]
  object := (hρ.classes _ hS.object).symm
  lookup? name := by
    cases hc : reg.lookup? name with
    | none => rfl
    | some c =>
      have hdefined : reg.isDefined c = true := (Option.filter_eq_some_iff.1 hc).2
      rw [Option.map_some, hρ.classes c hdefined]
  names := hN

end Renumbering

/-! ### What keeps its numbers is known -/

namespace Registry

variable {reg : Registry}

/-- If two members do not have a property, their exchange leaves alone all that have it. -/
theorem swap_apply_eq_self {α : Type} [DecidableEq α] {P : α → Prop} {a b : α} (ha : ¬P a)
    (hb : ¬P b) (c : α) (hc : P c) : Equiv.swap a b c = c :=
  Equiv.swap_apply_of_ne_of_ne (fun h => ha (h ▸ hc)) fun h => hb (h ▸ hc)

/-- A class that is not defined can get the number of another one that is not defined. -/
theorem isDefined_of_fixed {c : ClassId}
    (h : ∀ ρ : Renumbering, ρ.Fixes reg → ρ.classes c = c) : reg.isDefined c = true := by
  by_contra hc
  let other : ClassId := ⟨max c.idx reg.classes.size + 1⟩
  have hne : other ≠ c := fun he => by
    have hidx : max c.idx reg.classes.size + 1 = c.idx := congrArg ClassId.idx he
    omega
  have hother : reg.isDefined other ≠ true := fun hdefined => by
    obtain ⟨d, hd⟩ := isDefined_iff.1 hdefined
    have hlt : max c.idx reg.classes.size + 1 < reg.classes.size := lt_size_of_class? hd
    omega
  have hfixes : Renumbering.Fixes ⟨Equiv.swap c other, Equiv.refl _⟩ reg :=
    ⟨swap_apply_eq_self (P := fun e => reg.isDefined e = true) hc hother, fun _ _ => rfl⟩
  exact hne ((Equiv.swap_apply_left c other).symm.trans (h _ hfixes))

/-- A variable that is not declared can get the number of another one that is not declared. -/
theorem knows_var_of_fixed {v : VarId}
    (h : ∀ ρ : Renumbering, ρ.Fixes reg → ρ.vars v = v) : reg.knows (.var v) = true := by
  by_contra hv
  let other : VarId := ⟨max v.idx reg.params.size + 1⟩
  have hne : other ≠ v := fun he => by
    have hidx : max v.idx reg.params.size + 1 = v.idx := congrArg VarId.idx he
    omega
  have hother : reg.knows (.var other) ≠ true := fun hknown => by
    obtain ⟨p, hp⟩ := Option.isSome_iff_exists.1 hknown
    have hlt : max v.idx reg.params.size + 1 < reg.params.size :=
      (Array.getElem?_eq_some_iff.1 hp).1
    omega
  have hfixes : Renumbering.Fixes ⟨Equiv.refl _, Equiv.swap v other⟩ reg :=
    ⟨fun _ _ => rfl, swap_apply_eq_self (P := fun w => reg.knows (.var w) = true) hv hother⟩
  exact hne ((Equiv.swap_apply_left v other).symm.trans (h _ hfixes))

/-- **What keeps its numbers is known,** if all that is known keeps its numbers and nothing else needs
to. -/
theorem knows_of_fixed {t : TypeExpr} (h : ∀ ρ : Renumbering, ρ.Fixes reg → t.renumber ρ = t) :
    reg.knows t = true := by
  induction t with
  | raw c => exact isDefined_of_fixed fun ρ hρ => TypeExpr.raw.inj (h ρ hρ)
  | app c args owner ihArgs ihOwner =>
    have hparts : ∀ ρ : Renumbering, ρ.Fixes reg → ρ.classes c = c ∧
        (∀ a ∈ args, a.renumber ρ = a) ∧ owner.map (TypeExpr.renumber ρ) = owner := by
      intro ρ hρ
      have happ := h ρ hρ
      rw [TypeExpr.renumber_app] at happ
      obtain ⟨hc, hargs, howner⟩ := TypeExpr.app.inj happ
      exact ⟨hc, map_eq_self_iff.1 hargs, howner⟩
    refine (reg.knows_app c args owner).2
      ⟨isDefined_of_fixed fun ρ hρ => (hparts ρ hρ).1,
        fun a ha => ihArgs a ha fun ρ hρ => (hparts ρ hρ).2.1 a ha, fun o ho => ?_⟩
    refine ihOwner o ho fun ρ hρ => ?_
    have howner := (hparts ρ hρ).2.2
    rw [Option.mem_def.1 ho] at howner
    exact Option.some.inj howner
  | wildcard us ls ihUppers ihLowers =>
    have hparts : ∀ ρ : Renumbering, ρ.Fixes reg →
        (∀ u ∈ us, u.renumber ρ = u) ∧ ∀ l ∈ ls, l.renumber ρ = l := by
      intro ρ hρ
      have hwildcard := h ρ hρ
      rw [TypeExpr.renumber_wildcard] at hwildcard
      obtain ⟨hus, hls⟩ := TypeExpr.wildcard.inj hwildcard
      exact ⟨map_eq_self_iff.1 hus, map_eq_self_iff.1 hls⟩
    exact (reg.knows_wildcard us ls).2
      ⟨fun u hu => ihUppers u hu fun ρ hρ => (hparts ρ hρ).1 u hu,
        fun l hl => ihLowers l hl fun ρ hρ => (hparts ρ hρ).2 l hl⟩
  | var v => exact knows_var_of_fixed fun ρ hρ => TypeExpr.var.inj (h ρ hρ)
  | array t ih => exact ih fun ρ hρ => TypeExpr.array.inj (h ρ hρ)

/-- An attempt that keeps its numbers fails with known types. -/
theorem failsWithin_of_fixed {α : Type} {x : Attempt α} (g : Renumbering → α → α)
    (hx : ∀ ρ : Renumbering, ρ.Fixes reg → x = mapAttempt (Failure.renumber ρ) (g ρ) x) :
    FailsWithin reg.KnowsFailure x := by
  intro f hf
  refine knows_of_fixed fun ρ hρ => ?_
  have hrun : x.run = x.run.map (mapResult (Failure.renumber ρ) (g ρ)) :=
    congrArg ExceptT.run (hx ρ hρ)
  rw [hf] at hrun
  exact congrArg Failure.type (Except.error.inj (Option.some.inj hrun)).symm

end Registry

namespace Resolver

variable {R : Resolver} (hS : R.registry.SelfContained) (hN : R.registry.NamesUnique)

include hS hN

/-- **A method signature fails with a known type.** -/
theorem failsWithin_instantiateMethod {receiver : TypeExpr} {m : Method}
    (hr : R.registry.knows receiver = true) (hm : R.registry.knowsMethod m = true) :
    FailsWithin R.registry.KnowsFailure (R.instantiateMethod receiver m) := by
  refine Registry.failsWithin_of_fixed Signature.renumber fun ρ hρ => ?_
  have hR : Renumbered ρ R R := ⟨hρ.renumbered hS hN, rfl, rfl⟩
  have hmethod := hR.instantiateMethod receiver m
  rwa [hρ.type hr, hρ.method hm] at hmethod

/-- **A constructor signature fails with a known type.** -/
theorem failsWithin_instantiateConstructor {owner : TypeExpr} {k : Constructor}
    (ho : R.registry.knows owner = true) (hk : R.registry.knowsConstructor k = true) :
    FailsWithin R.registry.KnowsFailure (R.instantiateConstructor owner k) := by
  refine Registry.failsWithin_of_fixed Signature.renumber fun ρ hρ => ?_
  have hR : Renumbered ρ R R := ⟨hρ.renumbered hS hN, rfl, rfl⟩
  have hconstructor := hR.instantiateConstructor owner k
  rwa [hρ.type ho, hρ.constructor hk] at hconstructor

end Resolver

/-! ### No answer depends on the numbers -/

namespace Resolver

/-- **The renumbered inputs have the renumbered answers,** whatever is asked, or have none on both
sides within the budget. What is known is named alike in failures. -/
structure SameAnswers (ρ : Renumbering) (R R' : Resolver) : Prop where
  /-- An expression is resolved to the renumbered type, or fails for the same reason on the
  renumbered one. -/
  instantiate : ∀ t σ depth, R'.instantiate (t.renumber ρ) (σ.renumber ρ) depth =
    mapAttempt (Failure.renumber ρ) (TypeExpr.renumber ρ) (R.instantiate t σ depth)
  /-- The failure has the same name if the inputs are known. -/
  instantiate_name : ∀ t σ depth f, R.registry.knows t = true → R.registry.KnowsAll σ →
    (R.instantiate t σ depth).run = some (.error f) →
      R'.registry.typeName (f.renumber ρ).type = R.registry.typeName f.type
  /-- A source can become the same targets. -/
  canBecome : ∀ source target,
    R'.canBecome (source.renumber ρ) (target.renumber ρ) = R.canBecome source target
  /-- It is assignable to the same targets. -/
  isAssignable : ∀ source target,
    R'.isAssignable (source.renumber ρ) (target.renumber ρ) = R.isAssignable source target
  /-- A candidate satisfies the same bounds. -/
  satisfies : ∀ candidate source σ,
    R'.satisfies (candidate.renumber ρ) (source.renumber ρ) (σ.renumber ρ) =
      R.satisfies candidate source σ
  /-- An expression implies the renumbered bindings. -/
  impliedBindings : ∀ t, R'.registry.impliedBindings (t.renumber ρ) =
    (R.registry.impliedBindings t).renumber ρ
  /-- A supertype determines the renumbered arguments. -/
  determined : ∀ source target,
    R'.registry.determined R'.budget (ρ.classes source) (target.renumber ρ) =
      (R.registry.determined R.budget source target).map (Substitution.renumber ρ)
  /-- A type agrees with its supertype in the renumbered arguments. -/
  reparameterize : ∀ source superType,
    R'.reparameterize (source.renumber ρ) (superType.renumber ρ) =
      mapAttempt (Refusal.renumber ρ) (TypeExpr.renumber ρ) (R.reparameterize source superType)
  /-- The refusal has the same name if the type is known. -/
  reparameterize_name : ∀ source superType f, R.registry.knows source = true →
    (R.reparameterize source superType).run = some (.error (.failed f)) →
      R'.registry.typeName (f.renumber ρ).type = R.registry.typeName f.type
  /-- A method has the renumbered signature. -/
  instantiateMethod : ∀ receiver m, R'.instantiateMethod (receiver.renumber ρ) (m.renumber ρ) =
    mapAttempt (Failure.renumber ρ) (Signature.renumber ρ) (R.instantiateMethod receiver m)
  /-- The failure has the same name if receiver and method are known, and all that is declared. -/
  instantiateMethod_name : R.registry.SelfContained → ∀ receiver m f,
    R.registry.knows receiver = true → R.registry.knowsMethod m = true →
    (R.instantiateMethod receiver m).run = some (.error f) →
      R'.registry.typeName (f.renumber ρ).type = R.registry.typeName f.type
  /-- A constructor has the renumbered signature. -/
  instantiateConstructor : ∀ owner k,
    R'.instantiateConstructor (owner.renumber ρ) (k.renumber ρ) =
      mapAttempt (Failure.renumber ρ) (Signature.renumber ρ) (R.instantiateConstructor owner k)
  /-- The failure has the same name if owner and constructor are known, and all that is declared. -/
  instantiateConstructor_name : R.registry.SelfContained → ∀ owner k f,
    R.registry.knows owner = true → R.registry.knowsConstructor k = true →
    (R.instantiateConstructor owner k).run = some (.error f) →
      R'.registry.typeName (f.renumber ρ).type = R.registry.typeName f.type

/-- **No answer depends on the numbers** that a registry gives its classes and type variables. -/
theorem sameAnswers_of_renumbered {ρ : Renumbering} {R R' : Resolver} (h : Renumbered ρ R R') :
    SameAnswers ρ R R' where
  instantiate := h.instantiate
  instantiate_name _ _ depth f ht hσ hf :=
    h.registry.typeName (failsWithin_instantiate ht hσ depth f hf)
  canBecome := h.canBecome
  isAssignable := h.isAssignable
  satisfies := h.satisfies
  impliedBindings := h.registry.impliedBindings
  determined source target := by
    rw [h.budget]
    exact h.registry.determined R.budget source target
  reparameterize := h.reparameterize
  reparameterize_name _ superType f hs hf :=
    h.registry.typeName (failsWithin_reparameterize hs superType (.failed f) hf)
  instantiateMethod := h.instantiateMethod
  instantiateMethod_name hS _ _ f hr hm hf :=
    h.registry.typeName (failsWithin_instantiateMethod hS h.registry.names hr hm f hf)
  instantiateConstructor := h.instantiateConstructor
  instantiateConstructor_name hS _ _ f ho hk hf :=
    h.registry.typeName (failsWithin_instantiateConstructor hS h.registry.names ho hk f hf)

end Resolver

/-! ### Two orchards -/

namespace Registry

/-- It is enough to compare the tables, the one of the names too. -/
theorem renumbered_of_tables {ρ : Renumbering} {reg reg' : Registry}
    (hclass : ∀ c, reg'.class? (ρ.classes c) = (reg.class? c).map (ClassDef.renumber ρ))
    (hparam : ∀ v, reg'.typeParam? (ρ.vars v) = (reg.typeParam? v).map (TypeParam.renumber ρ))
    (hobject : reg'.object = ρ.classes reg.object)
    (hnames : reg'.names = reg.names.map (renumberNamed ρ))
    (hnodup : (reg.named.map Prod.fst).Nodup) : reg.Renumbered ρ reg' where
  class? := hclass
  typeParam? := hparam
  object := hobject
  lookup? name := by
    have hlookup : reg'.names.lookup name = (reg.names.lookup name).map ρ.classes := by
      rw [hnames]
      exact lookup_map_of_injective Function.injective_id ρ.classes name reg.names
    rw [Registry.lookup?, Registry.lookup?, hlookup]
    cases reg.names.lookup name with
    | none => rfl
    | some c =>
      have hdefined : reg'.isDefined (ρ.classes c) = reg.isDefined c := by
        rw [isDefined, isDefined, hclass, Option.isSome_map]
      simp only [Option.map_some, Option.filter_some, hdefined]
      split <;> rfl
  names := by
    intro c c' d d' hd hd' hname
    have hc : (d.name, c) ∈ reg.named := mem_named.2 ⟨d, hd, rfl⟩
    have hc' : (d'.name, c') ∈ reg.named := mem_named.2 ⟨d', hd', rfl⟩
    exact congrArg Prod.snd (List.inj_on_of_nodup_map hnodup hc hc' hname)

/-- Picks a fruit that is red. -/
def pick (fruit other : VarId) : Method :=
  { name := "pick", typeParams := [fruit, other], returnType := some (.var fruit) }

/-- Pears and apples are red fruits, and pears come first. -/
def orchard : Registry where
  classes := #[some { name := objectName },
    some { interfaceDef "Fruit" [] [] with methods := [pick ⟨0⟩ ⟨1⟩] },
    some (interfaceDef "Red" [] []),
    some (classDef "Pear" [] (.raw ⟨0⟩) [.raw ⟨1⟩, .raw ⟨2⟩]),
    some (classDef "Apple" [] (.raw ⟨0⟩) [.raw ⟨1⟩, .raw ⟨2⟩])]
  params := #[⟨"T", .ofMethod ⟨1⟩ "pick" 0, [.raw ⟨1⟩, .raw ⟨2⟩]⟩,
    ⟨"U", .ofMethod ⟨1⟩ "pick" 0, [.raw ⟨0⟩]⟩]
  names := [("Apple", ⟨4⟩), ("Pear", ⟨3⟩), ("Red", ⟨2⟩), ("Fruit", ⟨1⟩), (objectName, ⟨0⟩)]
  object := ⟨0⟩

/-- The same trees in another order, with a place to spare. -/
def replanted : Registry where
  classes := #[some { name := objectName },
    some { interfaceDef "Fruit" [] [] with methods := [pick ⟨1⟩ ⟨0⟩] },
    some (interfaceDef "Red" [] []),
    some (classDef "Apple" [] (.raw ⟨0⟩) [.raw ⟨1⟩, .raw ⟨2⟩]),
    some (classDef "Pear" [] (.raw ⟨0⟩) [.raw ⟨1⟩, .raw ⟨2⟩]),
    none]
  params := #[⟨"U", .ofMethod ⟨1⟩ "pick" 0, [.raw ⟨0⟩]⟩,
    ⟨"T", .ofMethod ⟨1⟩ "pick" 0, [.raw ⟨1⟩, .raw ⟨2⟩]⟩]
  names := [("Apple", ⟨3⟩), ("Pear", ⟨4⟩), ("Red", ⟨2⟩), ("Fruit", ⟨1⟩), (objectName, ⟨0⟩)]
  object := ⟨0⟩

/-- Apples and pears change places, and so do the two variables. -/
def replanting : Renumbering := ⟨Equiv.swap ⟨3⟩ ⟨4⟩, Equiv.swap ⟨0⟩ ⟨1⟩⟩

theorem orchard_renumbered : orchard.Renumbered replanting replanted := by
  refine renumbered_of_tables ?_ ?_ rfl (by decide) (by decide +kernel)
  · rintro ⟨_ | _ | _ | _ | _ | n⟩
    · rfl
    · rfl
    · rfl
    · rfl
    · rfl
    · have hfixed : replanting.classes ⟨n + 5⟩ = ⟨n + 5⟩ :=
        Equiv.swap_apply_of_ne_of_ne (by simp) (by simp)
      rw [hfixed]
      cases n <;> rfl
  · rintro ⟨_ | _ | n⟩
    · rfl
    · rfl
    · have hfixed : replanting.vars ⟨n + 2⟩ = ⟨n + 2⟩ :=
        Equiv.swap_apply_of_ne_of_ne (by simp) (by simp)
      rw [hfixed]
      rfl

/-- In both orchards the apple is picked, though the pear comes first in one of them. -/
theorem sameAnswers_orchard :
    Resolver.Renumbered replanting ⟨orchard, 3, 20⟩ ⟨replanted, 3, 20⟩ ∧
      ((⟨orchard, 3, 20⟩ : Resolver).instantiate (.var ⟨0⟩) .empty).Yields (.raw ⟨4⟩) ∧
      ((⟨replanted, 3, 20⟩ : Resolver).instantiate (.var ⟨1⟩) .empty).Yields (.raw ⟨3⟩) := by
  have hR : Resolver.Renumbered replanting ⟨orchard, 3, 20⟩ ⟨replanted, 3, 20⟩ :=
    ⟨orchard_renumbered, rfl, rfl⟩
  have hpicked : ((⟨orchard, 3, 20⟩ : Resolver).instantiate (.var ⟨0⟩) .empty).Yields
      (.raw ⟨4⟩) := by decide +kernel
  have hsame := (Resolver.sameAnswers_of_renumbered hR).instantiate (.var ⟨0⟩) .empty 0
  exact ⟨hR, hpicked, (congrArg ExceptT.run hsame).trans (congrArg (Option.map _) hpicked)⟩

end Registry

end Generics
