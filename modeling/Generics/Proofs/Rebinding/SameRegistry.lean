import Generics.Proofs.Rebinding.RoundTrip
import Generics.Proofs.Renumbering.Names

/-!
# Carried over to the same registry

When a registry is replaced by a copy of itself, every type should stay as it is. Classes do, if
they are known by their names. A type variable is looked for at the declaration that its owner
describes, and for a method this is the first one with that name and that number of parameters.
Overloads that differ only in the types of their parameters are described alike: a variable of the
second one is looked for in the first, where it is taken for another variable of the same name, or
is not found at all. So a type stays as it is exactly if none of its variables is hidden in this
way.

## Main definitions

* `Registry.NamesDistinct` — within one declaration a type parameter is known by its name
* `Registry.Hidden` — a type parameter of a method that its owner does not lead to

## Main results

* `Registry.rebindVar_self_eq_ok_iff`, `Registry.rebind_self_eq_ok_iff`
* `Registry.not_hidden_of_methods_distinct` — nothing is hidden where no two methods are described
  alike
* `Registry.rebind_self_iff_not_hidden`
-/

namespace Generics

/-- The owner is a method. -/
def VarOwner.isMethod : VarOwner → Bool
  | .ofMethod _ _ _ => true
  | .ofClass _ | .ofConstructor _ _ => false

/-- What a class or a constructor lists is found there, whatever its methods are. -/
theorem ClassDef.paramsOf_eq_of_not_isMethod {d : ClassDef} {c : ClassId}
    {e : VarOwner × List VarId} (h : e ∈ d.declarations c) (he : e.1.isMethod = false) :
    d.paramsOf e.1 = e.2 := by
  rcases List.mem_cons.1 h with rfl | h
  · rfl
  rcases List.mem_append.1 h with h | h
  · obtain ⟨m, -, rfl⟩ := List.mem_map.1 h
    cases he
  · obtain ⟨⟨k, index⟩, hk, rfl⟩ := List.mem_map.1 h
    have hget : d.constructors[index]? = some k := List.mem_zipIdx_iff_getElem?.1 hk
    simp only [paramsOf, hget, Option.map_some, Option.getD_some]

namespace Registry

variable {S : Registry}

/-! ### Hidden variables -/

/-- What an owner leads to is what one of the declarations lists. -/
theorem mem_declarations_of_mem_paramsAt {o : VarOwner} {c : ClassId} {v : VarId}
    (h : v ∈ S.paramsAt o c) : (o.inClass c, S.paramsAt o c) ∈ S.declarations := by
  cases hd : S.class? c with
  | none =>
    rw [paramsAt, hd] at h
    cases h
  | some d =>
    have hparams : S.paramsAt o c = d.paramsOf o := by
      rw [paramsAt, hd, Option.map_some, Option.getD_some]
    rw [hparams] at h ⊢
    refine mem_declarations_iff.2 ⟨d, ?_, ?_⟩
    · rwa [VarOwner.classId_inClass]
    · rw [VarOwner.classId_inClass]
      exact ClassDef.mem_declarations_of_mem_paramsOf h

/-- The type parameters of one declaration have distinct names. -/
def NamesDistinct (reg : Registry) : Prop :=
  ∀ e ∈ reg.declarations, ∀ v ∈ e.2, ∀ w ∈ e.2, ∀ p ∈ reg.typeParam? v, ∀ q ∈ reg.typeParam? w,
    p.name = q.name → v = w

instance (reg : Registry) : Decidable reg.NamesDistinct :=
  inferInstanceAs (Decidable (∀ e ∈ reg.declarations, ∀ v ∈ e.2, ∀ w ∈ e.2,
    ∀ p ∈ reg.typeParam? v, ∀ q ∈ reg.typeParam? w, p.name = q.name → v = w))

/-- The variable is owned by a method, and the first method with the name and the number of
parameters that the owner gives does not list it. -/
def Hidden (reg : Registry) (v : VarId) : Prop :=
  ∃ p ∈ reg.typeParam? v, p.owner.isMethod = true ∧ v ∉ reg.paramsAt p.owner p.owner.classId

instance (reg : Registry) (v : VarId) : Decidable (reg.Hidden v) :=
  inferInstanceAs (Decidable (∃ p ∈ reg.typeParam? v, p.owner.isMethod = true ∧
    v ∉ reg.paramsAt p.owner p.owner.classId))

/-- A listed variable that is not hidden is found at the declaration that its owner describes. -/
theorem Listed.mem_paramsAt {v : VarId} (hv : S.Listed v) (hhidden : ¬S.Hidden v) {p : TypeParam}
    (hp : S.typeParam? v = some p) : v ∈ S.paramsAt p.owner p.owner.classId := by
  cases hmethod : p.owner.isMethod with
  | true =>
    by_contra hmem
    exact hhidden ⟨p, hp, hmethod, hmem⟩
  | false =>
    obtain ⟨p', hp', e, he, howner, hve⟩ := hv
    obtain rfl : p = p' := Option.some.inj (hp.symm.trans hp')
    obtain ⟨d, hd, hed⟩ := mem_declarations_iff.1 he
    rw [← howner] at hmethod
    rw [← howner, paramsAt, hd, Option.map_some, Option.getD_some,
      ClassDef.paramsOf_eq_of_not_isMethod hed hmethod]
    exact hve

/-- **Nothing is hidden** where no two methods of a class have the same name and number of
parameters. -/
theorem not_hidden_of_methods_distinct
    (h : ∀ c, ∀ d ∈ S.class? c, d.methodKeys.Nodup) {v : VarId} (hv : S.Listed v) :
    ¬S.Hidden v := by
  rintro ⟨p, hp, -, hmem⟩
  obtain ⟨p', hp', e, he, howner, hve⟩ := hv
  obtain rfl : p = p' := Option.some.inj (hp.symm.trans hp')
  obtain ⟨d, hd, hed⟩ := mem_declarations_iff.1 he
  refine hmem ?_
  rw [← howner, paramsAt, hd, Option.map_some, Option.getD_some,
    ClassDef.paramsOf_eq_of_mem_declarations (h _ d hd) hed]
  exact hve

/-! ### Parts of a type -/

/-- A defined class stays as it is. -/
theorem rebindClass_self (hS : S.NamesFaithful) {c : ClassId} (hc : S.isDefined c = true) :
    S.rebindClass S c = .ok c := by
  obtain ⟨d, hd⟩ := isDefined_iff.1 hc
  exact rebindClass_eq_ok_iff.2 ⟨d, hd, hS.lookup?_name hd⟩

/-- A listed variable stays as it is exactly if it is not hidden. -/
theorem rebindVar_self_eq_ok_iff (hS : S.NamesFaithful) (hdistinct : S.NamesDistinct) {v : VarId}
    (hv : S.Listed v) : S.rebindVar S v = .ok v ↔ ¬S.Hidden v := by
  constructor
  · rintro h ⟨p, hp, -, hmem⟩
    obtain ⟨p', c, hp', hc, hw⟩ := rebindVar_eq_ok_iff.1 h
    obtain rfl : p = p' := Option.some.inj (hp.symm.trans hp')
    obtain ⟨d, hd, hc'⟩ := rebindClass_eq_ok_iff.1 hc
    obtain rfl : c = p.owner.classId := Option.some.inj (hc'.symm.trans (hS.lookup?_name hd))
    exact hmem (List.mem_of_find?_eq_some hw)
  · intro hhidden
    obtain ⟨p, hp, e, he, howner, -⟩ := id hv
    rw [Option.mem_def] at hp
    have hmem : v ∈ S.paramsAt p.owner p.owner.classId := hv.mem_paramsAt hhidden hp
    obtain ⟨d, hd, -⟩ := mem_declarations_iff.1 he
    rw [howner] at hd
    refine rebindVar_eq_ok_iff.2 ⟨p, p.owner.classId, hp,
      rebindClass_self hS (isDefined_iff.2 ⟨d, hd⟩), ?_⟩
    -- Among what the owner leads to, the name is enough to tell the variable.
    have hname : ((S.typeParam? v).any fun q => q.name == p.name) = true := by simp [hp]
    rw [varNamed]
    refine find?_eq_some_of_unique hmem hname fun w hw hwname => ?_
    obtain ⟨q, hq, hwname⟩ := (Option.any_eq_true _ _).1 hwname
    exact hdistinct _ (mem_declarations_of_mem_paramsAt hmem) w hw v hmem q hq p hp
      (beq_iff_eq.1 hwname)

/-! ### Types -/

theorem rebind_app_self_iff (hS : S.NamesFaithful) {c : ClassId} (hc : S.isDefined c = true)
    {args : List TypeExpr} {owner : Option TypeExpr} :
    S.rebind S (.app c args owner) = .ok (.app c args owner) ↔
      (∀ a ∈ args, S.rebind S a = .ok a) ∧ ∀ o ∈ owner, S.rebind S o = .ok o := by
  rw [rebind_app_eq_ok_iff]
  constructor
  · rintro ⟨c', args', owner', -, hargs, howner, happ⟩
    obtain ⟨rfl, rfl, rfl⟩ := TypeExpr.app.inj happ
    refine ⟨List.map_inj_left.1 hargs, fun o ho => ?_⟩
    obtain rfl := Option.mem_def.1 ho
    exact Option.some.inj howner
  · rintro ⟨hargs, howner⟩
    exact ⟨c, args, owner, rebindClass_self hS hc, List.map_congr_left hargs,
      Option.map_congr howner, rfl⟩

theorem rebind_wildcard_self_iff {us ls : List TypeExpr} :
    S.rebind S (.wildcard us ls) = .ok (.wildcard us ls) ↔
      (∀ u ∈ us, S.rebind S u = .ok u) ∧ ∀ l ∈ ls, S.rebind S l = .ok l := by
  rw [rebind_wildcard_eq_ok_iff]
  constructor
  · rintro ⟨us', ls', hus, hls, hwildcard⟩
    obtain ⟨rfl, rfl⟩ := TypeExpr.wildcard.inj hwildcard
    exact ⟨List.map_inj_left.1 hus, List.map_inj_left.1 hls⟩
  · rintro ⟨hus, hls⟩
    exact ⟨us, ls, List.map_congr_left hus, List.map_congr_left hls, rfl⟩

/-- A type over defined classes stays as it is exactly if all its variables do. -/
theorem rebind_self_eq_ok_iff (hS : S.NamesFaithful) {t : TypeExpr} (ht : S.knows t = true) :
    S.rebind S t = .ok t ↔ ∀ v ∈ t.occurrences, S.rebindVar S v = .ok v := by
  induction t with
  | raw c =>
    refine iff_of_true (rebind_raw_eq_ok_iff.2 ⟨c, rebindClass_self hS ht, rfl⟩) fun v hv => ?_
    cases hv
  | app c args owner ihArgs ihOwner =>
    obtain ⟨hc, hargs, howner⟩ := (S.knows_app c args owner).1 ht
    rw [rebind_app_self_iff hS hc, TypeExpr.forall_mem_occurrences_app]
    refine and_congr ?_ ?_
    · exact forall₂_congr fun a ha => ihArgs a ha (hargs a ha)
    · exact forall₂_congr fun o ho => ihOwner o ho (howner o ho)
  | wildcard us ls ihUppers ihLowers =>
    obtain ⟨hus, hls⟩ := (S.knows_wildcard us ls).1 ht
    rw [rebind_wildcard_self_iff, TypeExpr.forall_mem_occurrences_wildcard]
    refine and_congr ?_ ?_
    · exact forall₂_congr fun u hu => ihUppers u hu (hus u hu)
    · exact forall₂_congr fun l hl => ihLowers l hl (hls l hl)
  | var v =>
    rw [rebind_var_eq_ok_iff]
    constructor
    · rintro ⟨w, hw, hvar⟩ v' hv'
      obtain rfl := List.mem_singleton.1 hv'
      obtain rfl := TypeExpr.var.inj hvar
      exact hw
    · exact fun h => ⟨v, h v List.mem_cons_self, rfl⟩
  | array elem ih =>
    rw [TypeExpr.occurrences_array, ← ih ht, rebind_array_eq_ok_iff]
    constructor
    · rintro ⟨e, he, harray⟩
      obtain rfl := TypeExpr.array.inj harray
      exact he
    · exact fun h => ⟨elem, h, rfl⟩

/-- **Carried over to the same registry, a type stays as it is exactly if none of its variables is
hidden.** Classes are known by their names, within one declaration type parameters have distinct
names, and every variable is listed where its owner says that it is declared. -/
theorem rebind_self_iff_not_hidden (hS : S.NamesFaithful) (hdistinct : S.NamesDistinct)
    {t : TypeExpr} (ht : S.knows t = true) (hvars : ∀ v ∈ t.occurrences, S.Listed v) :
    S.rebind S t = .ok t ↔ ∀ v ∈ t.occurrences, ¬S.Hidden v := by
  rw [rebind_self_eq_ok_iff hS ht]
  exact forall₂_congr fun v hv => rebindVar_self_eq_ok_iff hS hdistinct (hvars v hv)

/-- `Box<T>.Box<? super S & U>[]` stays as it is in the workshop, although there are two methods of
the name `swap`: they do not have equally many parameters. -/
theorem rebind_self_workshop :
    let t : TypeExpr := .array
      (.app ⟨2⟩ [.wildcard [] [.var ⟨2⟩, .var ⟨1⟩]] (some (.app ⟨2⟩ [.var ⟨0⟩] none)))
    (∀ v ∈ t.occurrences, ¬workshop.Hidden v) ∧ workshop.rebind workshop t = .ok t := by
  intro t
  have hhidden : ∀ v ∈ t.occurrences, ¬workshop.Hidden v := by decide +kernel
  exact ⟨hhidden, (rebind_self_iff_not_hidden namesFaithful_workshop (by decide +kernel)
    (by decide +kernel) (by decide +kernel)).2 hhidden⟩

/-- `<T extends Number> void pick(Object)` and `<T> void pick(Number)`. -/
def overloads : Registry where
  classes := #[some { name := objectName },
    some (classDef "Number" [] (.raw ⟨0⟩) []),
    some { classDef "Util" [] (.raw ⟨0⟩) [] with
      methods := [{ name := "pick", typeParams := [⟨0⟩], params := [.raw ⟨0⟩] },
        { name := "pick", typeParams := [⟨1⟩], params := [.raw ⟨1⟩] }] }]
  params := #[⟨"T", .ofMethod ⟨2⟩ "pick" 1, [.raw ⟨1⟩]⟩,
    ⟨"T", .ofMethod ⟨2⟩ "pick" 1, [.raw ⟨0⟩]⟩]
  names := [("Util", ⟨2⟩), ("Number", ⟨1⟩), (objectName, ⟨0⟩)]
  object := ⟨0⟩

/-- The variable of the second overload becomes that of the first, which has another bound. -/
theorem rebind_self_overloads :
    overloads.NamesFaithful ∧ overloads.NamesDistinct ∧
      (∀ v ∈ [⟨0⟩, ⟨1⟩], overloads.Listed v) ∧ overloads.knows (.var ⟨1⟩) = true ∧
      overloads.rebind overloads (.var ⟨1⟩) = .ok (.var ⟨0⟩) ∧
      overloads.bounds ⟨1⟩ ≠ overloads.bounds ⟨0⟩ := by
  decide +kernel

end Registry

end Generics
