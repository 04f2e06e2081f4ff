import Generics.Proofs.Hierarchy.Saturated

/-!
# Coherent hierarchies

A class may be inherited along several chains of supertypes. In a coherent hierarchy all chains from a
class over its own formals to another class end in the same arguments. What the chains from a use of
the class end in follows: from a saturated use every chain is one over the formals with the arguments
put in, so there is one end for each class above it. From a raw use of a generic class a chain either
has lost its arguments or ends as the chain over the formals does, since it got them from a class
without formals on the way.

## Main definitions

* `Registry.own` — a class over its own formals
* `Registry.Coherent`

## Main results

* `Registry.coherent_of_forall_aboveOwn` — coherence of a registry can be computed
* `Registry.superUses_eq_map_own` — one step from a saturated use
* `Registry.Coherent.eq_of_reaches_saturated` — from a saturated use there is one end for each class
* `Registry.exists_reaches_own_of_raw` — the chains from a raw use
* `Registry.Coherent.eq_of_reaches_of_reaches` — a view of a view is the view
-/

namespace Generics

namespace Registry

variable {reg : Registry}

/-- The class over its own formals. -/
def own (reg : Registry) (c : ClassId) : Use := (c, TypeExpr.vars (reg.formals c))

theorem saturated_own (c : ClassId) : reg.Saturated (reg.own c) := by
  rw [Saturated, own, TypeExpr.vars, List.length_map]

/-- All chains of supertypes from a class over its own formals to another class end in the same
arguments. -/
def Coherent (reg : Registry) : Prop :=
  ∀ c w w', Search.Reaches reg.superUses (reg.own c) w →
    Search.Reaches reg.superUses (reg.own c) w' → w.1 = w'.1 → w = w'

/-- What a class over its own formals has above it in the given number of rounds. -/
def aboveOwn (reg : Registry) (k : Nat) (c : ClassId) : List Use :=
  Search.walk reg.superUses id k [] [reg.own c]

/-- A hierarchy is coherent if for each class the uses that are met above it are closed under steps
and no two of them are uses of the same class. -/
theorem coherent_of_forall_aboveOwn (k : Nat)
    (h : ∀ c ∈ reg.tableIds, reg.own c ∈ reg.aboveOwn k c ∧
      (∀ u ∈ reg.aboveOwn k c, ∀ w ∈ reg.superUses u, w ∈ reg.aboveOwn k c) ∧
        ∀ u ∈ reg.aboveOwn k c, ∀ w ∈ reg.aboveOwn k c, u.1 = w.1 → u = w) : reg.Coherent := by
  intro c w w' hw hw' hclass
  by_cases hc : c ∈ reg.tableIds
  · obtain ⟨hstart, hstep, huniq⟩ := h c hc
    have hclosed : Search.Frontier reg.superUses (reg.aboveOwn k c) [] :=
      fun u hu v hv => .inl (hstep u hu v hv)
    exact huniq w (hclosed.mem_of_reaches hstart hw) w' (hclosed.mem_of_reaches hstart hw') hclass
  · -- nothing lies above a class that is not in the table
    have hnil : reg.superUses (reg.own c) = [] := by
      have hundefined : reg.class? (reg.own c).1 = none :=
        Option.eq_none_iff_forall_not_mem.2 fun d hd => hc (mem_tableIds_of_class? hd)
      simp only [superUses, hundefined]
    have hself : ∀ v, Search.Reaches reg.superUses (reg.own c) v → reg.own c = v := by
      intro v hv
      rcases Relation.ReflTransGen.cases_head hv with rfl | ⟨v', hv', -⟩
      · rfl
      · rw [hnil] at hv'
        cases hv'
    exact (hself w hw).symm.trans (hself w' hw')

/-! ### Chains from a saturated use -/

/-- A class over its own formals passes the formals on as they are. -/
theorem substitute_ofFormals_vars (formals : List VarId) (v : VarId) :
    TypeExpr.substitute (.ofFormals formals (TypeExpr.vars formals)) (.var v) = .var v := by
  cases hg : (Substitution.ofFormals formals (TypeExpr.vars formals)).get? v with
  | none => rw [TypeExpr.substitute_var, hg, Option.getD_none]
  | some a =>
    rw [TypeExpr.substitute_var_of_get? hg]
    rw [Substitution.get?_ofFormals_eq_lookup, List.lookup_eq_some_iff] at hg
    obtain ⟨before, after, he, -⟩ := hg
    have hmem : (v, a) ∈ formals.zip (TypeExpr.vars formals) := by
      rw [← List.mem_reverse, he]
      exact List.mem_append_right _ List.mem_cons_self
    obtain ⟨i, hi⟩ := List.mem_iff_getElem?.1 hmem
    obtain ⟨hv, ha⟩ := List.getElem?_zip_eq_some.1 hi
    rw [TypeExpr.vars, List.getElem?_map, hv] at ha
    exact (Option.some.inj ha).symm

/-- **One step from a saturated use** is one step from its class over the formals, with the arguments
put in. -/
theorem superUses_eq_map_own (hN : reg.SupertypesNominal) {u : Use} (hu : reg.Saturated u) :
    reg.superUses u = (reg.superUses (reg.own u.1)).map
      (Use.substitute (.ofFormals (reg.formals u.1) u.2)) := by
  rw [superUses, superUses]
  cases hd : reg.class? u.1 with
  | none =>
    have hown : reg.class? (reg.own u.1).1 = none := hd
    simp only [hown, List.map_nil]
  | some d =>
    have hown : reg.class? (reg.own u.1).1 = some d := hd
    simp only [hown, if_neg (hu.not_raw hd), if_neg ((saturated_own u.1).not_raw hown),
      List.map_filterMap, formals_of_class? hd]
    refine List.filterMap_congr fun t ht => ?_
    have hclass : t.classId?.isSome = true := Option.isSome_iff_exists.2 (hN.classId? ht)
    rw [← TypeExpr.use?_substitute (TypeExpr.classId?_substitute hclass _)]
    refine congrArg TypeExpr.use? (TypeExpr.substitute_substitute fun v _ => ?_).symm
    rw [own, formals_of_class? hd, substitute_ofFormals_vars]

section Closed

variable (hS : reg.SupertypesClosed)

include hS

theorem fits_of_reaches {u w : Use} (hu : reg.Fits u) (h : Search.Reaches reg.superUses u w) :
    reg.Fits w := by
  cases Relation.ReflTransGen.cases_tail h with
  | inl h => exact h ▸ hu
  | inr h =>
    obtain ⟨v, -, hw⟩ := h
    exact fits_of_mem_superUses hS.supertypesFit hw

/-- A chain from a use with arguments put in is one from the use itself. -/
theorem exists_reaches_of_substitute {u w : Use} (hu : reg.Fits u) {σ : Substitution}
    (h : Search.Reaches reg.superUses (u.substitute σ) w) :
    ∃ v, Search.Reaches reg.superUses u v ∧ w = v.substitute σ := by
  induction h with
  | refl => exact ⟨u, .refl, rfl⟩
  | tail _ hstep ih =>
    obtain ⟨v, hv, rfl⟩ := ih
    rw [superUses_substitute hS.supertypesFit (fits_of_reaches hS hu hv)] at hstep
    obtain ⟨v', hv', rfl⟩ := List.mem_map.1 hstep
    exact ⟨v', .tail hv hv', rfl⟩

/-- A chain from a saturated use has no step, or it is one over the formals with the arguments put
in. -/
theorem exists_reaches_own_of_saturated {u w : Use} (hu : reg.Saturated u)
    (h : Search.Reaches reg.superUses u w) :
    w = u ∨ (∃ c ∈ reg.superclasses u.1, reg.LiesBelow c w.1) ∧
      ∃ v, Search.Reaches reg.superUses (reg.own u.1) v ∧
        w = v.substitute (.ofFormals (reg.formals u.1) u.2) := by
  rcases Relation.ReflTransGen.cases_head h with rfl | ⟨x, hx, hxw⟩
  · exact .inl rfl
  · refine .inr ⟨⟨x.1, mem_superclasses_of_mem_superUses hS.nominal hx,
      liesBelow_of_reaches hS.nominal hxw⟩, ?_⟩
    rw [superUses_eq_map_own hS.nominal hu] at hx
    obtain ⟨y, hy, rfl⟩ := List.mem_map.1 hx
    have hfits : reg.Fits y := fits_of_mem_superUses hS.supertypesFit hy
    obtain ⟨v, hv, rfl⟩ := exists_reaches_of_substitute hS hfits hxw
    exact ⟨v, .head hy hv, rfl⟩

/-- **From a saturated use there is one end for each class.** -/
theorem Coherent.eq_of_reaches_saturated (hC : reg.Coherent) (hA : reg.Acyclic) {u w w' : Use}
    (hu : reg.Saturated u) (hw : Search.Reaches reg.superUses u w)
    (hw' : Search.Reaches reg.superUses u w') (hclass : w.1 = w'.1) : w = w' := by
  -- a chain with a step does not come back to the class
  have hback : ∀ {x y : Use}, x = u → x.1 = y.1 →
      ¬ ∃ c ∈ reg.superclasses u.1, reg.LiesBelow c y.1 := by
    rintro x y rfl hxy ⟨c, hc, hcy⟩
    exact hA _ c hc (hxy ▸ hcy)
  rcases exists_reaches_own_of_saturated hS hu hw with he | ⟨habove, v, hv, rfl⟩
  · rcases exists_reaches_own_of_saturated hS hu hw' with he' | ⟨habove, -⟩
    · exact he.trans he'.symm
    · exact absurd habove (hback he hclass)
  · rcases exists_reaches_own_of_saturated hS hu hw' with he' | ⟨-, v', hv', rfl⟩
    · exact absurd habove (hback he' hclass.symm)
    · rw [hC u.1 v v' hv hv' hclass]

/-! ### Chains from a raw use -/

/-- What is reached from a raw or saturated use is raw or saturated. -/
theorem raw_or_saturated_of_reaches {u w : Use} (hu : u.2 = [] ∨ reg.Saturated u)
    (h : Search.Reaches reg.superUses u w) : w.2 = [] ∨ reg.Saturated w := by
  cases Relation.ReflTransGen.cases_tail h with
  | inl h => exact h ▸ hu
  | inr h =>
    obtain ⟨v, -, hw⟩ := h
    exact hS.raw_or_saturated hw

/-- Without formals there are no arguments. -/
theorem args_eq_nil_of_reaches {u w : Use} (hu : u.2 = [] ∨ reg.Saturated u)
    (h : Search.Reaches reg.superUses u w) (hplain : reg.formals w.1 = []) : w.2 = [] := by
  rcases raw_or_saturated_of_reaches hS hu h with hw | hw
  · exact hw
  · rw [Saturated, hplain] at hw
    exact List.length_eq_zero_iff.1 hw.symm

/-- **A chain from a raw use** leads where one over the formals does, and it has lost the arguments or
has the same ones. -/
theorem exists_reaches_own_of_raw {c : ClassId} {w : Use}
    (h : Search.Reaches reg.superUses (c, []) w) :
    ∃ v, Search.Reaches reg.superUses (reg.own c) v ∧ v.1 = w.1 ∧ (w.2 = [] ∨ w = v) := by
  induction h with
  | refl => exact ⟨reg.own c, .refl, rfl, .inl rfl⟩
  | @tail w w' _ hstep ih =>
    obtain ⟨v, hv, hclass, hw⟩ := ih
    rcases hw with hnil | rfl
    · cases hd : reg.class? w.1 with
      | none =>
        simp only [superUses, hd] at hstep
        cases hstep
      | some d =>
        by_cases hgeneric : d.isGeneric = true
        · -- a raw use of a generic class passes no arguments on
          have habove := mem_superclasses_of_mem_superUses hS.nominal hstep
          rw [← hclass] at habove
          obtain ⟨args, hargs⟩ := exists_mem_superUses habove v.2
          have hnil' : w'.2 = [] := by
            simp only [superUses, hd, hnil, hgeneric, List.isEmpty_nil, Bool.and_true,
              if_true] at hstep
            obtain ⟨e, -, rfl⟩ := List.mem_map.1 hstep
            rfl
          exact ⟨(w'.1, args), .tail hv hargs, rfl, .inl hnil'⟩
        · -- a class without formals is the same with and without them
          have hplain : reg.formals v.1 = [] := by
            rw [hclass, formals_of_class? hd]
            simpa [ClassDef.isGeneric] using hgeneric
          obtain rfl : w = v :=
            Prod.ext hclass.symm (hnil.trans (args_eq_nil_of_reaches hS (.inr (saturated_own c)) hv hplain).symm)
          exact ⟨w', .tail hv hstep, rfl, .inr rfl⟩
    · exact ⟨w', .tail hv hstep, rfl, .inr rfl⟩

/-- A saturated use above a raw use lies above the class over its formals. -/
theorem reaches_own_of_raw {c : ClassId} {w : Use} (h : Search.Reaches reg.superUses (c, []) w)
    (hw : reg.Saturated w ∨ w.2 ≠ []) : Search.Reaches reg.superUses (reg.own c) w := by
  obtain ⟨v, hv, hclass, hnil | rfl⟩ := exists_reaches_own_of_raw hS h
  · have hsat : reg.Saturated w := hw.resolve_right fun hne => hne hnil
    have hplain : reg.formals v.1 = [] := by
      rw [Saturated, hnil] at hsat
      rw [hclass]
      exact List.length_eq_zero_iff.1 hsat
    obtain rfl : w = v :=
      Prod.ext hclass.symm (hnil.trans (args_eq_nil_of_reaches hS (.inr (saturated_own c)) hv hplain).symm)
    exact hv
  · exact hv

/-- **A view of a view is the view.** What lies above a saturated use that lies above a raw or
saturated use is what lies above that, unless the latter has lost its arguments. -/
theorem Coherent.eq_of_reaches_of_reaches (hC : reg.Coherent) (hA : reg.Acyclic)
    {u v w w' : Use} (hu : u.2 = [] ∨ reg.Saturated u) (hv : reg.Saturated v)
    (huv : Search.Reaches reg.superUses u v) (hvw : Search.Reaches reg.superUses v w)
    (hw' : Search.Reaches reg.superUses u w') (hclass : w'.1 = w.1) (hne : w'.2 ≠ []) :
    w' = w := by
  rcases hu with hnil | hu
  · obtain ⟨c, args⟩ := u
    obtain rfl : args = [] := hnil
    exact hC c w' w (reaches_own_of_raw hS hw' (.inr hne))
      ((reaches_own_of_raw hS huv (.inl hv)).trans hvw) hclass
  · exact hC.eq_of_reaches_saturated hS hA hu hw' (huv.trans hvw) hclass

end Closed

end Registry

end Generics
