import Generics.Inference.Implied
import Generics.Proofs.Hierarchy.Saturated
import Generics.Proofs.Inference.Matching
import Generics.Registry.Standard

/-!
# What a type implies is what its views say

The bindings that a type implies come from one walk over the classes above it, which keeps the first
use of each class and binds the formals of a class as soon as a use of it comes into sight. A view
comes from another walk, which keeps every use of every class and stops at the first one of the
class that is asked for. Both come to the same use of a class first, however often the class is
inherited and with whatever arguments.

The walks differ in one place. Above a raw use of a generic class the second walk goes on without
arguments, the first one with the formals themselves. Where supertypes are saturated this happens
above the `Object` of an interface only, and a view that has arguments does not lie there.

## Main definitions

* `Registry.FormalsDistinct` — no two positions in the headers of classes have the same formal
* `Registry.RawOrSame` — what the two walks have in the same place
* `Registry.twofold` — a class that inherits an interface with two different arguments

## Main results

* `Registry.find?_of_classView` — both walks come to the same use first
* `Registry.get?_impliedBindings_of_classView` — so the type implies what the view says
* `Registry.impliedBindings_agree_view`
-/

namespace Generics

namespace Registry

variable {reg : Registry}

/-- No formal is declared twice, by one class or by two. -/
structure FormalsDistinct (reg : Registry) : Prop where
  /-- The formals of a class are distinct, -/
  nodup : ∀ c, (reg.formals c).Nodup
  /-- and no formal belongs to two classes. -/
  disjoint : ∀ c d v, v ∈ reg.formals c → v ∈ reg.formals d → c = d

theorem exists_class?_of_mem_formals {c : ClassId} {v : VarId} (h : v ∈ reg.formals c) :
    ∃ d, reg.class? c = some d := by
  cases hd : reg.class? c with
  | none => simp [formals, hd] at h
  | some d => exact ⟨d, rfl⟩

theorem mem_tableIds_of_mem_formals {c : ClassId} {v : VarId} (h : v ∈ reg.formals c) :
    c ∈ reg.tableIds :=
  (exists_class?_of_mem_formals h).elim fun _ hd => mem_tableIds_of_class? hd

instance (reg : Registry) : Decidable reg.FormalsDistinct :=
  decidable_of_iff ((∀ c ∈ reg.tableIds, (reg.formals c).Nodup) ∧
      ∀ c ∈ reg.tableIds, ∀ d ∈ reg.tableIds, ∀ v ∈ reg.formals c, v ∈ reg.formals d → c = d)
    ⟨fun h => ⟨fun c => by
        cases hf : reg.formals c with
        | nil => exact List.nodup_nil
        | cons v vs =>
          exact hf ▸ h.1 c (mem_tableIds_of_mem_formals (hf ▸ List.mem_cons_self)),
      fun c d v hc hd => h.2 c (mem_tableIds_of_mem_formals hc) d (mem_tableIds_of_mem_formals hd)
        v hc hd⟩,
    fun h => ⟨fun c _ => h.nodup c, fun c _ d _ v => h.disjoint c d v⟩⟩

/-! ### The walk over classes -/

/-- A step with arguments is a step over classes. -/
theorem map_fst_inheritedUses (hN : reg.SupertypesNominal) (u : Use) :
    (reg.inheritedUses u).map Prod.fst = reg.superclasses u.1 := by
  rw [inheritedUses, superclasses, List.map_filterMap]
  refine List.filterMap_congr fun t ht => ?_
  obtain ⟨c, hc⟩ := hN.classId? ht
  obtain ⟨args, hargs⟩ := use?_substitute hc (.ofList (reg.useBindings u))
  rw [hargs, hc]
  rfl

/-- The uses that are met are uses of the ancestors, one of each. -/
theorem map_fst_lineage (hN : reg.SupertypesNominal) (u : Use) :
    (reg.lineage u).map Prod.fst = reg.ancestors u.1 :=
  Search.map_key_walk (map_fst_inheritedUses hN) _ _ _

/-- Which classes lie above a use depends on its class only. -/
theorem keyDecides_inheritedUses (hN : reg.SupertypesNominal) (c : ClassId) :
    Search.KeyDecides reg.inheritedUses Prod.fst (fun w => w.1 == c) where
  next a b h := by rw [map_fst_inheritedUses hN, map_fst_inheritedUses hN, h]
  prop a b h := congrArg (· == c) h

/-! ### The same use comes first -/

/-- The uses are the same, or the first one is raw where the second one need not be. -/
def RawOrSame (reg : Registry) (a b : Use) : Prop := a.1 = b.1 ∧ reg.Fits b ∧ (a = b ∨ a.2 = [])

/-- The uses that one supertype gives rise to, above a raw use of a generic class and above any
other use. -/
theorem rawOrSame_of_mem_supertypes (hS : reg.SupertypesSaturated) {c : ClassId} {t : TypeExpr}
    (ht : t ∈ reg.supertypes c) (σ : Substitution) :
    Option.Rel reg.RawOrSame (t.classId?.map fun e => (e, [])) (t.substitute σ).use? ∧
      Option.Rel reg.RawOrSame (t.substitute σ).use? (t.substitute σ).use? := by
  have hclass : t.classId?.isSome = true := Option.isSome_iff_exists.2 (hS.nominal.classId? ht)
  obtain ⟨u, hu, hue⟩ : ∃ u, t.use? = some u ∧ t.classId? = some u.1 := by
    cases t with
    | raw e => exact ⟨_, rfl, rfl⟩
    | app e args owner => exact ⟨_, rfl, rfl⟩
    | _ => cases hclass
  have hfits : reg.Fits (u.substitute σ) := fun d hd =>
    (hS.fits_of_mem_supertypes ht hu d hd).imp (fun h => by rw [Use.substitute, h]; rfl)
      fun h => by rw [Use.substitute, List.length_map, h]
  rw [TypeExpr.use?_substitute hclass, hu, hue]
  exact ⟨.some ⟨rfl, hfits, .inr rfl⟩, .some ⟨rfl, hfits, .inl rfl⟩⟩

/-- One step up keeps the relation. -/
theorem RawOrSame.step (hS : reg.SupertypesSaturated) {a b : Use} (h : reg.RawOrSame a b) :
    List.Forall₂ reg.RawOrSame (reg.superUses a) (reg.inheritedUses b) := by
  obtain ⟨hclass, hfits, hargs⟩ := h
  have hsame : List.Forall₂ (fun t t' => t = t' ∧ t ∈ reg.supertypes a.1) (reg.supertypes a.1)
      (reg.supertypes b.1) := by
    rw [← hclass]
    exact List.forall₂_same.2 fun t ht => ⟨rfl, ht⟩
  rw [superUses, inheritedUses]
  cases hd : reg.class? a.1 with
  | none =>
    rw [← hclass, supertypes_of_not_defined hd]
    exact .nil
  | some d =>
    by_cases hraw : (a.2.isEmpty && d.isGeneric) = true
    · simp only [if_pos hraw, superclasses, List.map_filterMap]
      refine List.rel_filterMap ?_ hsame
      rintro t _ ⟨rfl, ht⟩
      exact (rawOrSame_of_mem_supertypes hS ht _).1
    · simp only [if_neg hraw]
      -- a raw use of a class without formals is the use itself
      have heq : a = b := by
        refine hargs.elim id fun hnil => ?_
        have hplain : d.typeParams = [] := by
          rw [hnil] at hraw
          simpa [ClassDef.isGeneric] using hraw
        refine Prod.ext hclass (hnil.trans ?_)
        rcases hfits d (hclass ▸ hd) with hb | hb
        · exact hb.symm
        · rw [hplain] at hb
          exact (List.length_eq_zero_iff.1 hb.symm).symm
      have hlen : (reg.formals b.1).length = b.2.length := by
        rw [← heq, formals_of_class? hd]
        exact (heq ▸ hfits : reg.Fits a).length_eq hd hraw
      have hbindings : Substitution.ofFormals d.typeParams a.2 = .ofList (reg.useBindings b) := by
        rw [useBindings, formalsFor, if_pos hlen, ← heq, formals_of_class? hd]
        rfl
      rw [hbindings]
      refine List.rel_filterMap ?_ hsame
      rintro t _ ⟨rfl, ht⟩
      exact (rawOrSame_of_mem_supertypes hS ht _).2

/-- **Both walks come to the same use first,** if the view has arguments. -/
theorem find?_of_classView (hS : reg.SupertypesSaturated) {u : Use} (hu : reg.Saturated u) {n : Nat}
    {c : ClassId} {args : List TypeExpr} (hne : args ≠ [])
    (h : reg.classView n c u = .found (c, args)) :
    (u :: (reg.lineage u).flatMap reg.inheritedUses).find? (fun w => w.1 == c) = some (c, args) ∧
      reg.Fits (c, args) := by
  have hstart : List.Forall₂ reg.RawOrSame [u] [u] := .cons ⟨rfl, hu.fits, .inl rfl⟩ .nil
  have hrel : Option.Rel reg.RawOrSame
      (Search.sweep reg.superUses (fun w => w.1 == c) n [u])
      (Search.sweep reg.inheritedUses (fun w => w.1 == c) n [u]) :=
    Search.sweep_rel (fun _ _ hab => hab.step hS) (fun _ _ hab => congrArg (· == c) hab.1) n hstart
  rw [Search.sweep_of_find (Search.keyDecides_id _ _) h] at hrel
  obtain ⟨w, hsweep, -, hfits, hw⟩ : ∃ w, Search.sweep reg.inheritedUses (fun w => w.1 == c) n [u] =
      some w ∧ reg.RawOrSame (c, args) w := by
    generalize Search.sweep reg.inheritedUses (fun w => w.1 == c) n [u] = r at hrel
    cases hrel with
    | some hab => exact ⟨_, rfl, hab⟩
  obtain rfl : (c, args) = w := hw.resolve_right hne
  -- some use of the class is met, and it can only be this one
  have hmem : c ∈ (reg.lineage u).map Prod.fst := by
    rw [map_fst_lineage hS.nominal]
    exact mem_ancestors_iff.2 (liesBelow_of_classView hS.nominal h).1
  obtain ⟨w, hw, hwc⟩ := List.mem_map.1 hmem
  obtain ⟨w', hfirst⟩ := Option.isSome_iff_exists.1
    (List.find?_isSome (p := fun w : Use => w.1 == c).2 ⟨w, hw, beq_iff_eq.2 hwc⟩)
  have hkey := keyDecides_inheritedUses hS.nominal c
  have hmet := Search.sweep_of_find hkey (Search.find_of_find?_walk hfirst)
  obtain rfl := Search.sweep_unique hmet hsweep
  exact ⟨Search.find?_append_flatMap_walk hkey (fun a ha => absurd ha List.not_mem_nil) hfirst,
    hfits⟩

/-! ### Bindings -/

/-- In bindings that are collected from several sources the first source that has a key settles it.
-/
theorem lookup_flatMap_of_find? {es : List Use} {f : Use → Bindings} {p : Use → Bool} {v : VarId}
    {w : Use} {t : TypeExpr} (hw : es.find? p = some w)
    (hnone : ∀ e ∈ es, p e = false → (f e).lookup v = none) (hv : (f w).lookup v = some t) :
    (es.flatMap f).lookup v = some t := by
  induction es with
  | nil => cases hw
  | cons e es ih =>
    rw [List.flatMap_cons, List.lookup_append]
    rw [List.find?_cons] at hw
    cases hp : p e with
    | true =>
      rw [hp] at hw
      obtain rfl := Option.some.inj hw
      rw [hv, Option.some_or]
    | false =>
      rw [hp] at hw
      rw [hnone e List.mem_cons_self hp, Option.none_or]
      exact ih hw fun e' he' => hnone e' (List.mem_cons_of_mem _ he')

/-- A use binds formals of its own class only. -/
theorem lookup_useBindings_of_not_mem {u : Use} {v : VarId} (h : v ∉ reg.formals u.1) :
    (reg.useBindings u).lookup v = none := by
  rw [List.lookup_eq_none_iff]
  intro e he
  have hmem := (List.of_mem_zip (show (e.1, e.2) ∈ _ from he)).1
  rw [formalsFor] at hmem
  split at hmem
  · exact bne_iff_ne.2 fun hv => h (hv ▸ hmem)
  · cases hmem

theorem lookup_useBindings {u : Use} (hn : (reg.formals u.1).Nodup)
    (hlen : (reg.formals u.1).length = u.2.length) {i : Nat} {v : VarId} {a : TypeExpr}
    (hv : (reg.formals u.1)[i]? = some v) (ha : u.2[i]? = some a) :
    (reg.useBindings u).lookup v = some a := by
  rw [useBindings, formalsFor, if_pos hlen]
  have hmem : (v, a) ∈ (reg.formals u.1).zip u.2 :=
    List.mem_of_getElem? (i := i) (List.getElem?_zip_eq_some.2 ⟨hv, ha⟩)
  refine lookup_of_forall_eq ⟨a, hmem⟩ fun b hb => ?_
  obtain ⟨j, hj⟩ := List.mem_iff_getElem?.1 hb
  obtain ⟨hjv, hjb⟩ := List.getElem?_zip_eq_some.1 hj
  have hi : i < (reg.formals u.1).length := (List.getElem?_eq_some_iff.1 hv).1
  obtain rfl : i = j := (List.getElem?_inj hi hn).1 (hv.trans hjv.symm)
  exact Option.some.inj (hjb.symm.trans ha)

/-- The bindings that a use without owner implies, in the order of the uses that they come from. -/
theorem get?_impliedBindings {t : TypeExpr} {u : Use} (hu : t.use? = some u)
    (howner : t.owner? = none) (v : VarId) :
    (reg.impliedBindings t).get? v =
      ((u :: (reg.lineage u).flatMap reg.inheritedUses).flatMap reg.useBindings).lookup v := by
  have hinherited : reg.inherited u =
      ((reg.lineage u).flatMap reg.inheritedUses).flatMap reg.useBindings := by
    rw [inherited, List.flatMap_assoc]
  rw [List.flatMap_cons, ← hinherited]
  cases t with
  | raw c =>
    obtain rfl := Option.some.inj hu
    have hown : reg.useBindings (c, []) = [] := by rw [useBindings, List.zip_nil_right]
    rw [impliedBindings_raw, Substitution.get?_bindAllIfAbsent, Substitution.get?_empty,
      Option.none_or, hown, List.nil_append]
  | app c args owner =>
    obtain rfl := Option.some.inj hu
    obtain rfl : owner = none := howner
    rw [impliedBindings_app, Substitution.get?_bindAllIfAbsent, Substitution.get?_empty,
      Option.none_or]
  | _ => cases hu

/-- What a view with arguments says about the formals of its class. -/
theorem get?_impliedBindings_of_classView (hS : reg.SupertypesSaturated) (hD : reg.FormalsDistinct)
    {t : TypeExpr} {u : Use} (hu : t.use? = some u) (howner : t.owner? = none)
    (hsat : reg.Saturated u) {n : Nat} {c : ClassId} (hc : reg.formals c ≠ [])
    {args : List TypeExpr} (hne : args ≠ []) (h : reg.classView n c u = .found (c, args)) :
    (reg.formals c).map (reg.impliedBindings t).get? = args.map some := by
  obtain ⟨hfirst, hfits⟩ := find?_of_classView hS hsat hne h
  have hlen : (reg.formals c).length = args.length := by
    obtain ⟨v, hv⟩ := List.exists_mem_of_ne_nil _ hc
    obtain ⟨d, hd⟩ := exists_class?_of_mem_formals hv
    rw [formals_of_class? hd]
    exact (hfits d hd).resolve_left hne
  refine List.ext_getElem (by simpa using hlen) fun i hi hi' => ?_
  rw [List.getElem_map, List.getElem_map, get?_impliedBindings hu howner]
  have hi : i < (reg.formals c).length := by simpa using hi
  refine lookup_flatMap_of_find? hfirst (fun e _ he => ?_)
    (lookup_useBindings (hD.nodup c) hlen (List.getElem?_eq_getElem hi)
      (List.getElem?_eq_getElem (hlen ▸ hi)))
  -- a use of another class does not bind a formal of `c`
  refine lookup_useBindings_of_not_mem fun hmem => ?_
  rw [hD.disjoint _ _ _ hmem (List.getElem_mem hi), beq_self_eq_true] at he
  cases he

/-- Where there is no view, nothing is bound. -/
theorem get?_impliedBindings_of_not_liesBelow (hN : reg.SupertypesNominal)
    (hD : reg.FormalsDistinct) {t : TypeExpr} {u : Use} (hu : t.use? = some u)
    (howner : t.owner? = none) {c : ClassId} (h : ¬ reg.LiesBelow u.1 c) {v : VarId}
    (hv : v ∈ reg.formals c) : (reg.impliedBindings t).get? v = none := by
  have hmet : ∀ w ∈ reg.lineage u, reg.LiesBelow u.1 w.1 := fun w hw =>
    mem_ancestors_iff.1 (map_fst_lineage hN u ▸ List.mem_map_of_mem hw)
  have hbelow : ∀ w ∈ u :: (reg.lineage u).flatMap reg.inheritedUses, reg.LiesBelow u.1 w.1 := by
    intro w hw
    rcases List.mem_cons.1 hw with rfl | hw
    · exact .refl
    · obtain ⟨a, ha, haw⟩ := List.mem_flatMap.1 hw
      exact .tail (hmet a ha) (map_fst_inheritedUses hN a ▸ List.mem_map_of_mem haw)
  rw [get?_impliedBindings hu howner, List.lookup_eq_none_iff]
  intro e he
  obtain ⟨w, hw, hew⟩ := List.mem_flatMap.1 he
  refine bne_iff_ne.2 fun heq => h ?_
  have hmem : v ∈ reg.formals w.1 := Classical.not_not.1 fun hnot =>
    absurd (List.lookup_eq_none_iff.1 (lookup_useBindings_of_not_mem hnot) e hew) (by simp [heq])
  exact hD.disjoint _ _ _ hmem hv ▸ hbelow w hw

/-- **Implied bindings agree with views.** If a type, seen as a generic class, has arguments, then the
type binds the formals of the class to these; if it has no such view, it binds none of them. -/
theorem impliedBindings_agree_view (hS : reg.SupertypesSaturated) (hD : reg.FormalsDistinct)
    {t : TypeExpr} {u : Use} (hu : t.use? = some u) (howner : t.owner? = none)
    (hsat : reg.Saturated u) {c : ClassId} (hc : reg.formals c ≠ []) :
    (∀ args owner, Answers (reg.view · t c) (some (.app c args owner)) →
      (reg.formals c).map (reg.impliedBindings t).get? = args.map some) ∧
    (Answers (reg.view · t c) none → ∀ v ∈ reg.formals c, (reg.impliedBindings t).get? v = none) ∧
    (reg.Acyclic → Halts (reg.view · t c)) := by
  simp only [view_of_use? hu]
  refine ⟨fun args owner hview => ?_, fun hview v hv => ?_, fun hA => ?_⟩
  · obtain ⟨n, ⟨e, brgs⟩, hw, hwt⟩ := exists_found_of_answers hview
    obtain rfl : e = c := (liesBelow_of_classView hS.nominal hw).2
    cases brgs with
    | nil => cases hwt
    | cons a as =>
      obtain rfl : args = a :: as := (TypeExpr.app.inj hwt).2.1
      exact get?_impliedBindings_of_classView hS hD hu howner hsat hc (List.cons_ne_nil a as) hw
  · exact get?_impliedBindings_of_not_liesBelow hS.nominal hD hu howner
      (not_liesBelow_of_answers hview) hv
  · exact exists_answers_of_not_endless (hA.not_endless hS.nominal c u)

/-- A method of `Source<T>` with a type parameter of its own: `<V> T orElse(V, T)`. -/
def orElse : Method where
  name := "orElse"
  typeParams := [⟨2⟩]
  params := [.var ⟨2⟩, .var ⟨0⟩]
  returnType := some (.var ⟨0⟩)

/-- A class that is a source twice, of strings through its superclass and of integers itself:
`Twofold extends Named<String> implements Source<Integer>` with `Named<U> implements Source<U>`. -/
def twofold : Registry where
  classes := #[some { name := objectName },
    some (classDef "String" [] (.raw ⟨0⟩) []),
    some (classDef "Integer" [] (.raw ⟨0⟩) []),
    some { interfaceDef "Source" [⟨0⟩] [] with methods := [orElse] },
    some (classDef "Named" [⟨1⟩] (.raw ⟨0⟩) [.ofClass ⟨3⟩ [.var ⟨1⟩]]),
    some (classDef "Twofold" [] (.ofClass ⟨4⟩ [.raw ⟨1⟩]) [.ofClass ⟨3⟩ [.raw ⟨2⟩]])]
  params := #[⟨"T", .ofClass ⟨3⟩, [.raw ⟨0⟩]⟩, ⟨"U", .ofClass ⟨4⟩, [.raw ⟨0⟩]⟩,
    ⟨"V", .ofMethod ⟨3⟩ "orElse" 2, [.raw ⟨0⟩]⟩]
  names := [("Twofold", ⟨5⟩), ("Named", ⟨4⟩), ("Source", ⟨3⟩), ("Integer", ⟨2⟩), ("String", ⟨1⟩),
    (objectName, ⟨0⟩)]
  object := ⟨0⟩

/-- The source of integers is nearer, so it is what the class is seen as, and what it implies. -/
theorem impliedBindings_twofold :
    Answers (twofold.view · (.raw ⟨5⟩) ⟨3⟩) (some (.ofClass ⟨3⟩ [.raw ⟨2⟩])) ∧
      (twofold.impliedBindings (.raw ⟨5⟩)).get? ⟨0⟩ = some (.raw ⟨2⟩) := by
  have hview : Answers (twofold.view · (.raw ⟨5⟩) ⟨3⟩) (some (.ofClass ⟨3⟩ [.raw ⟨2⟩])) :=
    Comparison.answers_of_refines (n := 3) (by decide +kernel)
      fun n => view_refines n (.raw ⟨5⟩) ⟨3⟩
  have hS : twofold.SupertypesSaturated := by decide +kernel
  have hD : twofold.FormalsDistinct := by decide +kernel
  have hagree := (impliedBindings_agree_view hS hD (t := .raw ⟨5⟩) (c := ⟨3⟩) rfl rfl
    (by decide +kernel) (by decide +kernel)).1 _ _ hview
  exact ⟨hview, (List.cons.inj hagree).1⟩

end Registry

end Generics
