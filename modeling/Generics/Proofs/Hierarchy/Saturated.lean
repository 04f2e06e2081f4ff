import Generics.Proofs.Hierarchy.ViewSubstitution

/-!
# Uses with an argument for every formal

A use of a class is saturated if it has exactly one argument for each formal of the class, so a raw
use of a generic class is not. Where every declared supertype is saturated, the way up from a
saturated use forgets nothing. The `Object` that every interface has above it is a raw use whatever
the class `Object` looks like, so it is only known to fit.

## Main definitions

* `Registry.Saturated`
* `Registry.SupertypesSaturated` — every declared supertype is a saturated use of a class
* `Registry.SupertypesClosed` — and speaks of the formals of the declaring class only
* `Registry.SupertypesPlain` — every supertype is such a use, without wildcards

## Main results

* `Registry.SupertypesSaturated.fits_of_mem_supertypes` — every supertype fits its class
* `Registry.SupertypesPlain.exists_classView` — a concrete use has concrete views
-/

namespace Generics

/-- The arguments of a concrete use are concrete. -/
theorem TypeExpr.isConcrete_of_mem_use? {t : TypeExpr} {u : Use} (ht : t.isConcrete = true)
    (hu : t.use? = some u) : ∀ a ∈ u.2, a.isConcrete = true := by
  cases t with
  | raw c =>
    obtain rfl := Option.some.inj hu
    exact fun a ha => absurd ha List.not_mem_nil
  | app c args owner =>
    obtain rfl := Option.some.inj hu
    exact (isConcrete_app_iff.1 ht).1
  | _ => cases hu

namespace Registry

variable {reg : Registry}

/-- The use has an argument for every formal of its class; a class that is not defined has none. -/
def Saturated (reg : Registry) (u : Use) : Prop := (reg.formals u.1).length = u.2.length

instance (reg : Registry) (u : Use) : Decidable (reg.Saturated u) :=
  inferInstanceAs (Decidable (_ = _))

theorem Saturated.length_typeParams {u : Use} (h : reg.Saturated u) {d : ClassDef}
    (hd : reg.class? u.1 = some d) : d.typeParams.length = u.2.length := by
  rw [← formals_of_class? hd]
  exact h

theorem Saturated.fits {u : Use} (h : reg.Saturated u) : reg.Fits u :=
  fun _ hd => .inr (h.length_typeParams hd)

theorem Saturated.substitute {u : Use} (h : reg.Saturated u) (σ : Substitution) :
    reg.Saturated (u.substitute σ) := by
  rw [Saturated, Use.substitute, List.length_map]
  exact h

/-- A saturated use is no raw use of a generic class. -/
theorem Saturated.not_raw {u : Use} (h : reg.Saturated u) {d : ClassDef}
    (hd : reg.class? u.1 = some d) : ¬ (u.2.isEmpty && d.isGeneric) = true := by
  rw [Bool.and_eq_true, List.isEmpty_iff]
  rintro ⟨hnil, hgeneric⟩
  have hlen := h.length_typeParams hd
  rw [hnil, List.length_nil, List.length_eq_zero_iff] at hlen
  rw [ClassDef.isGeneric, hlen] at hgeneric
  cases hgeneric

/-- Every declared supertype is a saturated use of a class. -/
structure SupertypesSaturated (reg : Registry) : Prop where
  /-- It is a use of a class, -/
  nominal : reg.SupertypesNominal
  /-- with an argument for every formal. -/
  saturated : ∀ c d, reg.class? c = some d → ∀ t ∈ d.declaredSupertypes, ∀ u ∈ t.use?,
    reg.Saturated u

instance (reg : Registry) : Decidable reg.SupertypesSaturated :=
  decidable_of_iff (reg.SupertypesNominal ∧ ∀ c ∈ reg.tableIds, ∀ d ∈ reg.class? c,
      ∀ t ∈ d.declaredSupertypes, ∀ u ∈ t.use?, reg.Saturated u)
    ⟨fun h => ⟨h.1, fun c d hd => h.2 c (mem_tableIds_of_class? hd) d hd⟩,
      fun h => ⟨h.nominal, fun c _ d hd => h.saturated c d hd⟩⟩

/-- Every supertype fits its class, the `Object` above an interface included. -/
theorem SupertypesSaturated.fits_of_mem_supertypes (hS : reg.SupertypesSaturated) {c : ClassId}
    {t : TypeExpr} (ht : t ∈ reg.supertypes c) {u : Use} (hu : t.use? = some u) : reg.Fits u := by
  obtain ⟨d, hd, hdecl | rfl⟩ := exists_declared_of_mem_supertypes ht
  · exact (hS.saturated c d hd t hdecl u hu).fits
  · obtain rfl := Option.some.inj hu
    exact fun _ _ => .inl rfl

/-- What lies directly above a use is raw, or it is saturated. -/
theorem SupertypesSaturated.raw_or_saturated (hS : reg.SupertypesSaturated) {u w : Use}
    (hw : w ∈ reg.superUses u) : w.2 = [] ∨ reg.Saturated w := by
  obtain ⟨t, ht, ⟨-, -, hnil⟩ | ⟨-, htw⟩⟩ := superUses_cases hw
  · exact .inl hnil
  · have hclass : t.classId?.isSome = true := Option.isSome_iff_exists.2 (hS.nominal.classId? ht)
    rw [TypeExpr.use?_substitute hclass] at htw
    obtain ⟨v, hv, rfl⟩ := Option.map_eq_some_iff.1 htw
    obtain ⟨d, hd, hdecl | rfl⟩ := exists_declared_of_mem_supertypes ht
    · exact .inr ((hS.saturated _ d hd t hdecl v hv).substitute _)
    · obtain rfl := Option.some.inj hv
      exact .inl rfl

/-- Every declared supertype is a saturated use of a class, over the formals of the declaring class.
-/
structure SupertypesClosed (reg : Registry) : Prop extends SupertypesSaturated reg where
  /-- It speaks of the formals only. -/
  own : ∀ c d, reg.class? c = some d → ∀ t ∈ d.declaredSupertypes, ∀ v ∈ t.occurrences,
    v ∈ d.typeParams

instance (reg : Registry) : Decidable reg.SupertypesClosed :=
  decidable_of_iff (reg.SupertypesSaturated ∧ ∀ c ∈ reg.tableIds, ∀ d ∈ reg.class? c,
      ∀ t ∈ d.declaredSupertypes, ∀ v ∈ t.occurrences, v ∈ d.typeParams)
    ⟨fun h => ⟨h.1, fun c d hd => h.2 c (mem_tableIds_of_class? hd) d hd⟩,
      fun h => ⟨h.toSupertypesSaturated, fun c _ d hd => h.own c d hd⟩⟩

theorem SupertypesClosed.supertypesFit (h : reg.SupertypesClosed) : reg.SupertypesFit where
  nominal := h.nominal
  fits c d hd t ht u hu := (h.saturated c d hd t ht u hu).fits
  own := h.own

/-- Every supertype, the `Object` above an interface among them, is a saturated use of a class,
without wildcards and over the formals of its class. -/
structure SupertypesPlain (reg : Registry) : Prop where
  /-- It is a use of a class, -/
  nominal : reg.SupertypesNominal
  /-- with an argument for every formal, -/
  saturated : ∀ c, ∀ t ∈ reg.supertypes c, ∀ u ∈ t.use?, reg.Saturated u
  /-- without wildcards, -/
  wildcardFree : ∀ c, ∀ t ∈ reg.supertypes c, t.hasWildcards = false
  /-- and speaks of the formals only. -/
  own : ∀ c, ∀ t ∈ reg.supertypes c, ∀ v ∈ t.occurrences, v ∈ reg.formals c

/-- What is declared is a supertype. -/
theorem mem_supertypes_of_declared {c : ClassId} {d : ClassDef} (hd : reg.class? c = some d)
    {t : TypeExpr} (ht : t ∈ d.declaredSupertypes) : t ∈ reg.supertypes c := by
  simp only [supertypes, hd]
  split
  · exact List.mem_append_left _ ht
  · exact ht

theorem mem_tableIds_of_mem_supertypes {c : ClassId} {t : TypeExpr} (h : t ∈ reg.supertypes c) :
    c ∈ reg.tableIds :=
  (exists_class?_of_mem_supertypes h).elim fun _ hd => mem_tableIds_of_class? hd

instance (reg : Registry) : Decidable reg.SupertypesPlain :=
  decidable_of_iff (reg.SupertypesNominal ∧ ∀ c ∈ reg.tableIds, ∀ t ∈ reg.supertypes c,
      (∀ u ∈ t.use?, reg.Saturated u) ∧ t.hasWildcards = false ∧
        ∀ v ∈ t.occurrences, v ∈ reg.formals c)
    ⟨fun h => ⟨h.1, fun c t ht => (h.2 c (mem_tableIds_of_mem_supertypes ht) t ht).1,
      fun c t ht => (h.2 c (mem_tableIds_of_mem_supertypes ht) t ht).2.1,
      fun c t ht => (h.2 c (mem_tableIds_of_mem_supertypes ht) t ht).2.2⟩,
    fun h => ⟨h.nominal, fun c _ t ht => ⟨h.saturated c t ht, h.wildcardFree c t ht, h.own c t ht⟩⟩⟩

namespace SupertypesPlain

variable (h : reg.SupertypesPlain) {u w : Use}

include h

theorem supertypesSaturated : reg.SupertypesSaturated where
  nominal := h.nominal
  saturated c _ hd t ht := h.saturated c t (mem_supertypes_of_declared hd ht)

/-- What lies directly above a saturated use with concrete arguments is such a use. -/
theorem step (hu : reg.Saturated u) (hc : ∀ a ∈ u.2, a.isConcrete = true)
    (hw : w ∈ reg.superUses u) : reg.Saturated w ∧ ∀ a ∈ w.2, a.isConcrete = true := by
  rw [superUses] at hw
  cases hd : reg.class? u.1 with
  | none =>
    simp only [hd] at hw
    cases hw
  | some d =>
    have hlen : d.typeParams.length = u.2.length := hu.length_typeParams hd
    simp only [hd, if_neg (hu.not_raw hd)] at hw
    obtain ⟨t, ht, htw⟩ := List.mem_filterMap.1 hw
    have hground : (Substitution.ofFormals d.typeParams u.2).GroundOn t := by
      intro v hv
      have hmem := h.own _ t ht v hv
      rw [formals_of_class? hd] at hmem
      obtain ⟨i, hi⟩ := List.mem_iff_getElem?.1 hmem
      have hlt : i < u.2.length := hlen ▸ (List.getElem?_eq_some_iff.1 hi).1
      obtain ⟨a, ha⟩ := Option.ne_none_iff_exists'.1 (Substitution.get?_ofFormals_ne_none hi hlt)
      exact ⟨a, ha, hc a (Substitution.mem_of_get?_ofFormals ha)⟩
    have hconcrete := TypeExpr.isConcrete_substitute (h.wildcardFree _ t ht) hground
    have hclass : t.classId?.isSome = true := Option.isSome_iff_exists.2 (h.nominal.classId? ht)
    refine ⟨?_, TypeExpr.isConcrete_of_mem_use? hconcrete htw⟩
    rw [TypeExpr.use?_substitute hclass] at htw
    obtain ⟨w', hw', rfl⟩ := Option.map_eq_some_iff.1 htw
    exact (h.saturated _ t ht w' hw').substitute _

/-- **A concrete use, seen as a class above it, is concrete,** with an argument for every formal. -/
theorem exists_classView (hu : reg.Saturated u) (hc : ∀ a ∈ u.2, a.isConcrete = true) {c : ClassId}
    (hbelow : reg.LiesBelow u.1 c) :
    ∃ n args, reg.classView n c u = .found (c, args) ∧ reg.Saturated (c, args) ∧
      ∀ a ∈ args, a.isConcrete = true := by
  obtain ⟨n, args, hw⟩ := exists_args_of_liesBelow hbelow u.2
  have hkept : ∀ w, Search.Reaches reg.superUses u w →
      reg.Saturated w ∧ ∀ a ∈ w.2, a.isConcrete = true := by
    intro w hw
    induction hw with
    | refl => exact ⟨hu, hc⟩
    | tail _ hstep ih => exact h.step ih.1 ih.2 hstep
  exact ⟨n, args, hw, hkept _ (reaches_of_classView hw)⟩

end SupertypesPlain

end Registry

end Generics
