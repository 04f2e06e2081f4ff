import Generics.Proofs.Hierarchy.Acyclic
import Generics.Proofs.Hierarchy.Sweep
import Generics.Proofs.Substitution.Formals
import Generics.Proofs.Substitution.Ground
import Generics.Registry.Standard

/-!
# Views and substitutions

Where supertypes are declared as they should be, it does not matter whether arguments are put into a
class before it is viewed as one of its supertypes or afterwards: `ArrayList<E>` is `List<E>`, so
`ArrayList<String>` is `List<String>`. One step up from a use commutes with a substitution. The walk
as a whole leaves out uses that it has met, and two different uses may become one under the
substitution, so the steps alone do not say that the walks agree; that they do is a fact about
searches along a map.

## Main definitions

* `Use.substitute`
* `Registry.Fits` — a use has as many arguments as its class has formals, or none
* `Registry.SupertypesFit` — supertypes fit and speak of the formals of their class only

## Main results

* `Registry.superUses_substitute` — one step
* `Registry.classView_substitute` — a view that is found
* `Registry.view_substitute` — the view of a use, found or not
-/

namespace Generics

/-- The use with a substitution applied to its arguments. -/
def Use.substitute (σ : Substitution) (u : Use) : Use := (u.1, u.2.map (TypeExpr.substitute σ))

theorem TypeExpr.use?_substitute {t : TypeExpr} (ht : t.classId?.isSome = true) (σ : Substitution) :
    (t.substitute σ).use? = t.use?.map (Use.substitute σ) := by
  cases t with
  | raw c => rfl
  | app c args owner =>
    rw [substitute_app]
    rfl
  | wildcard us ls => cases ht
  | var v => cases ht
  | array elem => cases ht

theorem Use.toType_substitute (u : Use) (σ : Substitution) :
    (u.substitute σ).toType = u.toType.substitute σ := by
  obtain ⟨c, args⟩ := u
  cases args with
  | nil => rfl
  | cons a as => exact (TypeExpr.substitute_app σ c (a :: as) none).symm

/-- Only a use of a class stands for a use. -/
theorem TypeExpr.classId?_isSome_of_use? {t : TypeExpr} {u : Use} (h : t.use? = some u) :
    t.classId?.isSome = true := by
  cases t with
  | raw c => rfl
  | app c args owner => rfl
  | _ => cases h

theorem TypeExpr.classId?_substitute {t : TypeExpr} (ht : t.classId?.isSome = true)
    (σ : Substitution) : (t.substitute σ).classId?.isSome = true := by
  cases t with
  | raw c => rfl
  | app c args owner =>
    rw [substitute_app]
    rfl
  | wildcard us ls => cases ht
  | var v => cases ht
  | array elem => cases ht

/-- Formals that are bound to substituted arguments. -/
theorem Substitution.get?_ofFormals_map (formals : List VarId) (args : List TypeExpr)
    (f : TypeExpr → TypeExpr) (v : VarId) :
    (ofFormals formals (args.map f)).get? v = ((ofFormals formals args).get? v).map f := by
  have hlookup : ∀ es : List (VarId × TypeExpr),
      (es.map fun e => (e.1, f e.2)).lookup v = (es.lookup v).map f := by
    intro es
    induction es with
    | nil => rfl
    | cons e es ih =>
      obtain ⟨w, t⟩ := e
      rw [List.map_cons, lookup_cons_eq, lookup_cons_eq, ih]
      split <;> rfl
  have hzip : formals.zip (args.map f) = (formals.zip args).map fun e => (e.1, f e.2) := by
    rw [List.zip_map_right]
    rfl
  rw [get?_ofFormals_eq_lookup, get?_ofFormals_eq_lookup, hzip, ← List.map_reverse, hlookup]

namespace Registry

variable {reg : Registry}

/-- The use is raw, or has as many arguments as its class has formals. -/
def Fits (reg : Registry) (u : Use) : Prop :=
  ∀ d, reg.class? u.1 = some d → u.2 = [] ∨ d.typeParams.length = u.2.length

instance (reg : Registry) (u : Use) : Decidable (reg.Fits u) :=
  inferInstanceAs (Decidable (∀ d, reg.class? u.1 = some d → _))

/-- Every declared supertype is a use of a class that fits it, over the formals of the declaring
class. -/
structure SupertypesFit (reg : Registry) : Prop where
  /-- It is a use of a class, -/
  nominal : reg.SupertypesNominal
  /-- with the right number of arguments, -/
  fits : ∀ c d, reg.class? c = some d → ∀ t ∈ d.declaredSupertypes, ∀ u ∈ t.use?, reg.Fits u
  /-- and speaks of the formals only. -/
  own : ∀ c d, reg.class? c = some d → ∀ t ∈ d.declaredSupertypes, ∀ v ∈ t.occurrences,
    v ∈ d.typeParams

instance (reg : Registry) : Decidable reg.SupertypesFit :=
  decidable_of_iff (reg.SupertypesNominal ∧ ∀ c ∈ reg.tableIds, ∀ d ∈ reg.class? c,
      ∀ t ∈ d.declaredSupertypes, (∀ u ∈ t.use?, reg.Fits u) ∧
        ∀ v ∈ t.occurrences, v ∈ d.typeParams)
    ⟨fun h => ⟨h.1, fun c d hd t ht => (h.2 c (mem_tableIds_of_class? hd) d hd t ht).1,
      fun c d hd t ht => (h.2 c (mem_tableIds_of_class? hd) d hd t ht).2⟩,
    fun h => ⟨h.nominal, fun c _ d hd t ht => ⟨h.fits c d hd t ht, h.own c d hd t ht⟩⟩⟩

namespace SupertypesFit

variable (h : reg.SupertypesFit) {c : ClassId} {d : ClassDef} {t : TypeExpr}

include h

theorem use_fits (ht : t ∈ reg.supertypes c) {u : Use} (hu : t.use? = some u) : reg.Fits u := by
  obtain ⟨d, hd, hdecl | rfl⟩ := exists_declared_of_mem_supertypes ht
  · exact h.fits c d hd t hdecl u hu
  · obtain rfl := Option.some.inj hu
    exact fun _ _ => .inl rfl

theorem mem_typeParams (ht : t ∈ reg.supertypes c) (hd : reg.class? c = some d) {v : VarId}
    (hv : v ∈ t.occurrences) : v ∈ d.typeParams := by
  obtain ⟨d', hd', hdecl | rfl⟩ := exists_declared_of_mem_supertypes ht
  · obtain rfl := Option.some.inj (hd.symm.trans hd')
    exact h.own c d hd t hdecl v hv
  · cases hv

theorem classId?_isSome (ht : t ∈ reg.supertypes c) : t.classId?.isSome = true :=
  Option.isSome_iff_exists.2 (h.nominal.classId? ht)

end SupertypesFit

/-- A use that fits and is not raw passes an argument on for every formal. -/
theorem Fits.length_eq {u : Use} {d : ClassDef} (hu : reg.Fits u) (hd : reg.class? u.1 = some d)
    (hraw : ¬ (u.2.isEmpty && d.isGeneric) = true) : d.typeParams.length = u.2.length := by
  rcases hu d hd with hnil | hlen
  · have hplain : d.typeParams = [] := by
      rw [hnil] at hraw
      simpa [ClassDef.isGeneric] using hraw
    rw [hnil, hplain]
    rfl
  · exact hlen

theorem fits_of_mem_superUses (h : reg.SupertypesFit) {u w : Use} (hw : w ∈ reg.superUses u) :
    reg.Fits w := by
  obtain ⟨t, ht, ⟨-, -, hnil⟩ | ⟨-, hw⟩⟩ := superUses_cases hw
  · exact fun _ _ => .inl hnil
  · rw [TypeExpr.use?_substitute (h.classId?_isSome ht)] at hw
    obtain ⟨u', hu', rfl⟩ := Option.map_eq_some_iff.1 hw
    intro d hd
    rcases h.use_fits ht hu' d hd with hnil | hlen
    · exact .inl (by rw [Use.substitute, hnil]; rfl)
    · exact .inr (by rw [Use.substitute, List.length_map, hlen])

/-- **One step up commutes with a substitution.** -/
theorem superUses_substitute (h : reg.SupertypesFit) {u : Use} (hu : reg.Fits u)
    (σ : Substitution) :
    reg.superUses (u.substitute σ) = (reg.superUses u).map (Use.substitute σ) := by
  have hempty : (u.2.map (TypeExpr.substitute σ)).isEmpty = u.2.isEmpty := by
    rw [List.isEmpty_map]
  rw [superUses, superUses]
  simp only [Use.substitute, hempty]
  cases hd : reg.class? u.1 with
  | none => rfl
  | some d =>
    by_cases hraw : (u.2.isEmpty && d.isGeneric) = true
    · simp only [if_pos hraw, List.map_map]
      rfl
    · simp only [if_neg hraw, List.map_filterMap]
      refine List.filterMap_congr fun t ht => ?_
      have hargs : t.substitute (.ofFormals d.typeParams (u.2.map (TypeExpr.substitute σ))) =
          (t.substitute (.ofFormals d.typeParams u.2)).substitute σ := by
        refine (TypeExpr.substitute_substitute fun v hv => ?_).symm
        obtain ⟨i, hi⟩ := List.mem_iff_getElem?.1 (h.mem_typeParams ht hd hv)
        have hlt : i < u.2.length :=
          hu.length_eq hd hraw ▸ (List.getElem?_eq_some_iff.1 hi).1
        obtain ⟨a, ha⟩ := Option.ne_none_iff_exists'.1 (Substitution.get?_ofFormals_ne_none hi hlt)
        rw [TypeExpr.substitute_var_of_get? ha, TypeExpr.substitute_var_of_get?]
        rw [Substitution.get?_ofFormals_map, ha]
        rfl
      have hclass := TypeExpr.classId?_substitute (h.classId?_isSome ht)
        (.ofFormals d.typeParams u.2)
      rw [hargs, TypeExpr.use?_substitute hclass]

/-- **A view commutes with a substitution.** What a use is, seen as a class above it, it is with
arguments put in as well. -/
theorem classView_substitute (h : reg.SupertypesFit) {u w : Use} (hu : reg.Fits u)
    {target : ClassId} {rounds : Nat} (hw : reg.classView rounds target u = .found w)
    (σ : Substitution) :
    Answers (fun n => answer (reg.classView n target (u.substitute σ)))
      (some (w.substitute σ).toType) := by
  have hbelow : reg.LiesBelow u.1 target := (liesBelow_of_classView h.nominal hw).1
  obtain ⟨k, w', hw'⟩ := classView_of_liesBelow hbelow (u.2.map (TypeExpr.substitute σ))
  have hsame : w' = w.substitute σ :=
    Search.find_map_of_find (f := Use.substitute σ) (I := reg.Fits) hw hw' hu
      (fun _ _ _ hb => fits_of_mem_superUses h hb) (fun _ ha => superUses_substitute h ha σ)
      fun _ _ => rfl
  have hanswer : answer (reg.classView k target (u.substitute σ)) =
      some (some (w.substitute σ).toType) := by
    rw [← hsame]
    exact congrArg answer hw'
  exact Comparison.answers_of_refines hanswer fun n => classView_refines n target _

/-- **A view commutes with a substitution, whether there is one or not.** On an acyclic hierarchy,
where supertypes fit and speak of the formals of their class only, a use that fits has a view as a
class exactly if it has one with arguments put in, and that one is the former with the arguments put
in. -/
theorem view_substitute (hA : reg.Acyclic) (hS : reg.SupertypesFit) {s : TypeExpr} {u : Use}
    (hs : s.use? = some u) (hu : reg.Fits u) (σ : Substitution) (target : ClassId) :
    ∃ r, Answers (reg.view · s target) r ∧
      Answers (reg.view · (s.substitute σ) target) (r.map (TypeExpr.substitute σ)) := by
  have hsσ : (s.substitute σ).use? = some (u.substitute σ) := by
    rw [TypeExpr.use?_substitute (TypeExpr.classId?_isSome_of_use? hs), hs]
    rfl
  obtain ⟨r, hr, hbelow⟩ := hA.exists_answers_view hS.nominal hs target
  refine ⟨r, hr, ?_⟩
  cases r with
  | some t =>
    simp only [view_of_use? hs] at hr
    obtain ⟨rounds, w, hw, rfl⟩ := exists_found_of_answers hr
    rw [Option.map_some, ← Use.toType_substitute]
    simp only [view_of_use? hsσ]
    exact classView_substitute hS hu hw σ
  | none =>
    -- the class of the use is the same, and it leads nowhere near the target
    obtain ⟨r', hr', hbelow'⟩ := hA.exists_answers_view hS.nominal hsσ target
    have hnone : r' = none := by
      refine Option.not_isSome_iff_eq_none.1 fun h => ?_
      cases hbelow.2 (hbelow'.1 h)
    rw [hnone] at hr'
    exact hr'

/-- On the standard registry `HashMap<K, V>` is a `Map<K, V>` and no `List`, and with `K` bound to
`String` and `V` to `List<K>` it is a `Map<String, List<K>>` and no `List` either. -/
theorem view_substitute_hashMap :
    (standard.Acyclic ∧ standard.SupertypesFit ∧
      standard.Fits (⟨19⟩, [.var ⟨10⟩, .var ⟨11⟩])) ∧
    let σ := (Substitution.empty.bind ⟨10⟩ (.raw ⟨10⟩)).bind ⟨11⟩ (.ofClass ⟨13⟩ [.var ⟨10⟩])
    let hashMap := TypeExpr.ofClass ⟨19⟩ [.var ⟨10⟩, .var ⟨11⟩]
    Answers (standard.view · hashMap ⟨18⟩) (some (.ofClass ⟨18⟩ [.var ⟨10⟩, .var ⟨11⟩])) ∧
    Answers (standard.view · (hashMap.substitute σ) ⟨18⟩)
      (some (.ofClass ⟨18⟩ [.raw ⟨10⟩, .ofClass ⟨13⟩ [.var ⟨10⟩]])) ∧
    Answers (standard.view · (hashMap.substitute σ) ⟨13⟩) none := by
  have hA : standard.Acyclic := by decide +kernel
  have hS : standard.SupertypesFit := by decide +kernel
  have hu : standard.Fits (⟨19⟩, [.var ⟨10⟩, .var ⟨11⟩]) := by decide +kernel
  refine ⟨⟨hA, hS, hu⟩, ?_⟩
  intro σ hashMap
  have hmap : Answers (standard.view · hashMap ⟨18⟩)
      (some (.ofClass ⟨18⟩ [.var ⟨10⟩, .var ⟨11⟩])) :=
    Comparison.answers_of_refines (n := 5) (by decide +kernel) fun n => view_refines n _ _
  have hlist : Answers (standard.view · hashMap ⟨13⟩) none :=
    Comparison.answers_of_refines (n := 5) (by decide +kernel) fun n => view_refines n _ _
  obtain ⟨r, hr, hmapσ⟩ := view_substitute hA hS (s := hashMap) rfl hu σ ⟨18⟩
  obtain ⟨r', hr', hlistσ⟩ := view_substitute hA hS (s := hashMap) rfl hu σ ⟨13⟩
  rw [hr.unique hmap] at hmapσ
  rw [hr'.unique hlist] at hlistσ
  exact ⟨hmap, hmapσ, hlistσ⟩

end Registry

end Generics
