import Generics.Proofs.Inference.Inherited
import Generics.Proofs.Resolution.FullBindings
import Generics.Resolution.Members

/-!
# Members under the view of the receiver

The signature of an inherited method is the one that its class declares, read on the receiver: the
formals of the declaring class stand for what they are in the receiver seen as that class, and the
method's own type parameters for what was chosen for them. What is chosen is free; everything else is
settled by the receiver, however far above it the method is declared.

Two facts decide the matter. The bindings that the receiver implies say the same about the formals of
the declaring class as its view does, and with every variable of a parameter type bound to a concrete
type nothing but the substitution can come out.

## Main definitions

* `Method.signatureTypes`, `Method.bindings`

## Main results

* `Resolver.eq_bindAll_of_yields` — the bindings that the choice of type arguments leaves
* `Resolver.signature_eq_substitute`
-/

namespace Generics

/-- The types in the signature of a method. -/
def Method.signatureTypes (m : Method) : List TypeExpr := m.params ++ m.returnType.toList

/-- What the types of a method stand for: the formals of the declaring class for the arguments of a
view, and the method's own type parameters for what was chosen for them. -/
def Method.bindings (m : Method) (formals : List VarId) (args chosen : List TypeExpr) :
    Substitution :=
  (Substitution.ofFormals formals args).extend (.ofFormals m.typeParams chosen)

namespace Resolver

variable {R : Resolver} {σ : Substitution}

/-! ### The parts of a signature -/

/-- Type arguments are chosen one for each type parameter, and bound on top of what was bound. -/
theorem eq_bindAll_of_yields {vs : List VarId} {ts : List TypeExpr} {τ : Substitution}
    (h : (R.chooseTypeArgs vs σ).Yields (ts, τ)) :
    ts.length = vs.length ∧ τ = σ.bindAll (vs.zip ts) := by
  induction vs generalizing σ ts with
  | nil =>
    obtain ⟨rfl, rfl⟩ := Prod.mk.inj (Attempt.yields_pure.1 h)
    exact ⟨rfl, rfl⟩
  | cons v vs ih =>
    obtain ⟨t, -, h⟩ := Attempt.yields_bind.1 h
    obtain ⟨⟨ts', τ'⟩, hrest, h⟩ := Attempt.yields_bind.1 h
    obtain ⟨rfl, rfl⟩ := Prod.mk.inj (Attempt.yields_pure.1 h)
    obtain ⟨hlen, rfl⟩ := ih hrest
    exact ⟨congrArg (· + 1) hlen, rfl⟩

/-- Types in which every variable is bound to a concrete type become what the bindings say. -/
theorem eq_map_of_yields_instantiateAll {ts us : List TypeExpr}
    (hw : ∀ t ∈ ts, t.hasWildcards = false) (hσ : ∀ t ∈ ts, σ.GroundOn t)
    (hdepth : ∀ t ∈ ts, t.SitesBelow (R.levels 0)) (h : (R.instantiateAll σ ts).Yields us) :
    us = ts.map (TypeExpr.substitute σ) := by
  induction ts generalizing us with
  | nil => exact (Attempt.yields_pure.1 h).symm
  | cons t ts ih =>
    obtain ⟨t', ht', h⟩ := Attempt.yields_bind.1 h
    obtain ⟨ts', hts', h⟩ := Attempt.yields_bind.1 h
    have hhead : t' = t.substitute σ := eq_substitute_of_yields (hw t List.mem_cons_self)
      (hσ t List.mem_cons_self) (hdepth t List.mem_cons_self) ht'
    have htail := ih (fun s hs => hw s (List.mem_cons_of_mem _ hs))
      (fun s hs => hσ s (List.mem_cons_of_mem _ hs))
      (fun s hs => hdepth s (List.mem_cons_of_mem _ hs)) hts'
    rw [← Attempt.yields_pure.1 h, hhead, htail, List.map_cons]

theorem eq_map_of_yields_instantiateReturn {t u : Option TypeExpr}
    (hw : ∀ s ∈ t, s.hasWildcards = false) (hσ : ∀ s ∈ t, σ.GroundOn s)
    (hdepth : ∀ s ∈ t, s.SitesBelow (R.levels 0)) (h : (R.instantiateReturn σ t).Yields u) :
    u = t.map (TypeExpr.substitute σ) := by
  cases t with
  | none => exact (Attempt.yields_pure.1 h).symm
  | some t =>
    obtain ⟨t', ht', h⟩ := Attempt.yields_bind.1 h
    rw [← Attempt.yields_pure.1 h, Option.map_some]
    exact congrArg some (eq_substitute_of_yields (hw t rfl) (hσ t rfl) (hdepth t rfl) ht')

/-- The bindings below which the types of a method are resolved say the same, about the formals of
the declaring class and the method's own type parameters, as the view and the chosen arguments do. -/
theorem get?_bindAll_eq_bindings {implied : Substitution} {formals : List VarId}
    {args ts : List TypeExpr} {m : Method} (hn : formals.Nodup)
    (himplied : formals.map implied.get? = args.map some) (hts : ts.length = m.typeParams.length)
    (hargs : ∀ a ∈ args, a.isConcrete = true) (hchosen : ∀ a ∈ ts, a.isConcrete = true) {v : VarId}
    (hv : v ∈ formals ∨ v ∈ m.typeParams) :
    (implied.bindAll (m.typeParams.zip ts)).get? v = (m.bindings formals args ts).get? v ∧
      ∃ a, (implied.bindAll (m.typeParams.zip ts)).get? v = some a ∧ a.isConcrete = true := by
  rw [Substitution.get?_bindAll, Method.bindings, Substitution.get?_extend,
    ← Substitution.get?_ofFormals_eq_lookup]
  cases hv' : (Substitution.ofFormals m.typeParams ts).get? v with
  | some a => exact ⟨rfl, a, rfl, hchosen a (Substitution.mem_of_get?_ofFormals hv')⟩
  | none =>
    rw [Option.none_or, Option.none_or]
    -- a type parameter of the method would have been bound to what was chosen for it
    have hformal : v ∈ formals := by
      refine hv.resolve_right fun hmem => ?_
      obtain ⟨k, hk⟩ := List.mem_iff_getElem?.1 hmem
      have hlt : k < ts.length := hts ▸ (List.getElem?_eq_some_iff.1 hk).1
      exact Substitution.get?_ofFormals_ne_none hk hlt hv'
    obtain ⟨i, hi⟩ := List.mem_iff_getElem?.1 hformal
    have hboth : (args[i]?).map some = some (implied.get? v) := by
      rw [← List.getElem?_map, ← himplied, List.getElem?_map, hi, Option.map_some]
    obtain ⟨a, ha, hav⟩ := Option.map_eq_some_iff.1 hboth
    refine ⟨?_, a, hav.symm, hargs a (List.mem_of_getElem? ha)⟩
    rw [Substitution.get?_ofFormals_of_nodup hn hi ha, ← hav]

/-! ### The signature -/

section Signature

variable (hP : R.registry.SupertypesPlain) (hD : R.registry.FormalsDistinct) {t : TypeExpr} {u : Use}
  (hu : t.use? = some u) (howner : t.owner? = none) (ht : t.isConcrete = true)
  (hsat : R.registry.Saturated u)

include hP hD hu howner ht hsat

/-- The receiver, seen as the declaring class, has an argument for every formal, and these are what
it implies about the formals. -/
theorem exists_view_of_liesBelow {c : ClassId} {d : ClassDef} (hd : R.registry.class? c = some d)
    (hbelow : R.registry.LiesBelow u.1 c) :
    ∃ args, Answers (R.registry.view · t c) (some (.ofClass c args)) ∧
      args.length = d.typeParams.length ∧ (∀ a ∈ args, a.isConcrete = true) ∧
      d.typeParams.map (R.registry.impliedBindings t).get? = args.map some := by
  obtain ⟨n, args, hview, hargs, hconcrete⟩ :=
    hP.exists_classView hsat (TypeExpr.isConcrete_of_mem_use? ht hu) hbelow
  have hlen : args.length = d.typeParams.length := (hargs.length_typeParams hd).symm
  refine ⟨args, Registry.answers_view hu hview, hlen, hconcrete, ?_⟩
  cases hformals : d.typeParams with
  | nil =>
    rw [hformals, List.length_nil, List.length_eq_zero_iff] at hlen
    rw [hlen]
    rfl
  | cons v vs =>
    rw [← hformals, ← Registry.formals_of_class? hd]
    refine Registry.get?_impliedBindings_of_classView hP.supertypesSaturated hD hu howner hsat ?_
      ?_ hview
    · rw [Registry.formals_of_class? hd, hformals]
      exact List.cons_ne_nil v vs
    · rintro rfl
      rw [hformals] at hlen
      cases hlen

/-- **A member has the signature that its class declares, under the view of the receiver.** -/
theorem signature_eq_substitute {c : ClassId} {d : ClassDef} (hd : R.registry.class? c = some d)
    (hbelow : R.registry.LiesBelow u.1 c) {m : Method} (hstatic : m.isStatic = false)
    (hplain : ∀ s ∈ m.signatureTypes, s.hasWildcards = false)
    (hdepth : ∀ s ∈ m.signatureTypes, ∀ e ∈ s.sites, e.2 ≤ R.maxDepth)
    (hvars : ∀ s ∈ m.signatureTypes, ∀ v ∈ s.occurrences, v ∈ d.typeParams ∨ v ∈ m.typeParams)
    {sig : Signature} (h : (R.instantiateMethod t m).Yields sig)
    (hchosen : ∀ a ∈ sig.typeArgs, a.isConcrete = true) :
    ∃ args, Answers (R.registry.view · t c) (some (.ofClass c args)) ∧
      args.length = d.typeParams.length ∧ sig.typeArgs.length = m.typeParams.length ∧
      sig.params = m.params.map (TypeExpr.substitute (m.bindings d.typeParams args sig.typeArgs)) ∧
      sig.returnType =
        m.returnType.map (TypeExpr.substitute (m.bindings d.typeParams args sig.typeArgs)) := by
  obtain ⟨args, hview, hlen, hconcrete, himplied⟩ :=
    exists_view_of_liesBelow hP hD hu howner ht hsat hd hbelow
  rw [instantiateMethod, hstatic] at h
  obtain ⟨⟨typeArgs, σ⟩, hchoose, h⟩ := Attempt.yields_bind.1 h
  obtain ⟨params, hparams, h⟩ := Attempt.yields_bind.1 h
  obtain ⟨returnType, hreturn, h⟩ := Attempt.yields_bind.1 h
  obtain rfl := Attempt.yields_pure.1 h
  obtain ⟨hts, rfl⟩ := eq_bindAll_of_yields hchoose
  have hnodup : d.typeParams.Nodup := Registry.formals_of_class? hd ▸ hD.nodup c
  have hbound := fun s (hs : s ∈ m.signatureTypes) v hv =>
    get?_bindAll_eq_bindings hnodup himplied hts hconcrete hchosen (hvars s hs v hv)
  have hground : ∀ s ∈ m.signatureTypes, Substitution.GroundOn _ s :=
    fun s hs v hv => (hbound s hs v hv).2
  have hsame : ∀ s ∈ m.signatureTypes, s.substitute _ = s.substitute _ :=
    fun s hs => TypeExpr.substitute_congr fun v hv => (hbound s hs v hv).1
  have hbelow' : ∀ s ∈ m.signatureTypes, s.SitesBelow (R.levels 0) :=
    fun s hs e he => Nat.lt_succ_of_le (hdepth s hs e he)
  have hparam : ∀ s ∈ m.params, s ∈ m.signatureTypes := fun s hs => List.mem_append_left _ hs
  have hret : ∀ s ∈ m.returnType, s ∈ m.signatureTypes :=
    fun s hs => List.mem_append_right _ (Option.mem_toList.2 hs)
  refine ⟨args, hview, hlen, hts, ?_, ?_⟩
  · rw [eq_map_of_yields_instantiateAll (fun s hs => hplain s (hparam s hs))
      (fun s hs => hground s (hparam s hs)) (fun s hs => hbelow' s (hparam s hs)) hparams]
    exact List.map_congr_left fun s hs => hsame s (hparam s hs)
  · rw [eq_map_of_yields_instantiateReturn (fun s hs => hplain s (hret s hs))
      (fun s hs => hground s (hret s hs)) (fun s hs => hbelow' s (hret s hs)) hreturn]
    exact Option.map_congr fun s hs => hsame s (hret s hs)

end Signature

/-- On a class that is a source twice the method of sources takes and returns integers, since the
source of integers is the one that the class is seen as. -/
theorem signature_twofold :
    (instantiateMethod { registry := .twofold } (.raw ⟨5⟩) Registry.orElse).Yields
        ⟨[.raw ⟨0⟩], [.raw ⟨0⟩, .raw ⟨2⟩], some (.raw ⟨2⟩)⟩ ∧
      ∃ args, Answers (Registry.twofold.view · (.raw ⟨5⟩) ⟨3⟩) (some (.ofClass ⟨3⟩ args)) ∧
        some (.raw ⟨2⟩) = Registry.orElse.returnType.map
          (TypeExpr.substitute (Registry.orElse.bindings [⟨0⟩] args [.raw ⟨0⟩])) := by
  have hsig : (instantiateMethod { registry := .twofold } (.raw ⟨5⟩) Registry.orElse).Yields
      ⟨[.raw ⟨0⟩], [.raw ⟨0⟩, .raw ⟨2⟩], some (.raw ⟨2⟩)⟩ := by decide +kernel
  have hP : Registry.twofold.SupertypesPlain := by decide +kernel
  have hD : Registry.twofold.FormalsDistinct := by decide +kernel
  have hbelow : Registry.twofold.LiesBelow ⟨5⟩ ⟨3⟩ :=
    Registry.mem_ancestors_iff.1 (by decide +kernel)
  obtain ⟨args, hview, -, -, -, hreturn⟩ := signature_eq_substitute
    (R := { registry := .twofold }) hP hD (t := .raw ⟨5⟩) rfl rfl rfl (by decide +kernel)
    (c := ⟨3⟩) rfl hbelow rfl (by decide +kernel) (by decide +kernel) (by decide +kernel) hsig
    (by decide +kernel)
  exact ⟨hsig, args, hview, hreturn⟩

end Resolver

end Generics
