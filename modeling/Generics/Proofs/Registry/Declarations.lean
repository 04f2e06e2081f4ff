import Generics.Proofs.Hierarchy.Acyclic
import Generics.Rebinding
import Mathlib.Data.List.Nodup

/-!
# Declarations and their type parameters

Type parameters are listed by classes, methods and constructors, and each of them names its owner.
That a declaration lists what it owns, and that an owner means one declaration only, is not part of
the type of registries. Where it holds, looking up the declaration that an owner describes gives all
the type parameters that are listed there.

## Main definitions

* `ClassDef.declarations`, `Registry.declarations`
* `Registry.WellDeclared` — a type parameter is known by its name and its declaration
* `Registry.Listed` — a variable that is listed by its owner

## Main results

* `ClassDef.mem_declarations_of_mem_paramsOf`, `ClassDef.paramsOf_eq_of_mem_declarations`
* `Registry.WellDeclared.varNamed_paramsAt` — a listed variable is found by its name
-/

namespace Generics

/-! ### Declarations -/

/-- The declaration of the same form in another class. -/
def VarOwner.inClass (c : ClassId) : VarOwner → VarOwner
  | .ofClass _ => .ofClass c
  | .ofMethod _ name arity => .ofMethod c name arity
  | .ofConstructor _ index => .ofConstructor c index

@[simp] theorem VarOwner.classId_inClass (c : ClassId) (o : VarOwner) :
    (o.inClass c).classId = c := by
  cases o <;> rfl

/-- A single member that passes is the one that is found. -/
theorem find?_eq_some_of_unique {α : Type} {p : α → Bool} {as : List α} {a : α} (ha : a ∈ as)
    (hp : p a = true) (h : ∀ b ∈ as, p b = true → b = a) : as.find? p = some a := by
  cases hfind : as.find? p with
  | none => exact absurd hp (List.find?_eq_none.1 hfind a ha)
  | some b => rw [h b (List.mem_of_find?_eq_some hfind) (List.find?_some hfind)]

namespace ClassDef

/-- The key by which an overload is picked. -/
def methodKeys (d : ClassDef) : List (String × Nat) :=
  d.methods.map fun m => (m.name, m.params.length)

/-- The declarations of the class `c` that is defined by `d`, each with the type parameters that it
lists: the class itself, its methods and its constructors. -/
def declarations (d : ClassDef) (c : ClassId) : List (VarOwner × List VarId) :=
  (.ofClass c, d.typeParams) ::
    (d.methods.map (fun m => (.ofMethod c m.name m.params.length, m.typeParams)) ++
      d.constructors.zipIdx.map fun k => (.ofConstructor c k.2, k.1.typeParams))

variable {d : ClassDef} {c : ClassId} {o : VarOwner}

/-- The class is looked at for the declaration only, whatever class the owner names. -/
theorem paramsOf_inClass (d : ClassDef) (c : ClassId) (o : VarOwner) :
    d.paramsOf (o.inClass c) = d.paramsOf o := by
  cases o <;> rfl

theorem classId_of_mem_declarations {e : VarOwner × List VarId} (h : e ∈ d.declarations c) :
    e.1.classId = c := by
  rcases List.mem_cons.1 h with rfl | h
  · rfl
  rcases List.mem_append.1 h with h | h
  · obtain ⟨m, -, rfl⟩ := List.mem_map.1 h
    rfl
  · obtain ⟨k, -, rfl⟩ := List.mem_map.1 h
    rfl

/-- What is looked up at a declaration is listed there. -/
theorem mem_declarations_of_mem_paramsOf {v : VarId} (h : v ∈ d.paramsOf o) :
    (o.inClass c, d.paramsOf o) ∈ d.declarations c := by
  cases o with
  | ofClass c' => exact List.mem_cons_self
  | ofMethod c' name arity =>
    simp only [paramsOf] at h ⊢
    cases hfind : d.methods.find? fun m => m.name == name && m.params.length == arity with
    | none =>
      rw [hfind] at h
      cases h
    | some m =>
      have hkey := List.find?_some hfind
      rw [Bool.and_eq_true, beq_iff_eq, beq_iff_eq] at hkey
      obtain ⟨rfl, rfl⟩ := hkey
      exact List.mem_cons_of_mem _ (List.mem_append_left _
        (List.mem_map.2 ⟨m, List.mem_of_find?_eq_some hfind, rfl⟩))
  | ofConstructor c' index =>
    simp only [paramsOf] at h ⊢
    cases hk : d.constructors[index]? with
    | none =>
      rw [hk] at h
      cases h
    | some k =>
      exact List.mem_cons_of_mem _ (List.mem_append_right _
        (List.mem_map.2 ⟨(k, index), List.mem_zipIdx_iff_getElem?.2 hk, rfl⟩))

/-- If no two methods have the same key, what is looked up at a declaration is all that it lists. -/
theorem paramsOf_eq_of_mem_declarations (hd : d.methodKeys.Nodup) {e : VarOwner × List VarId}
    (h : e ∈ d.declarations c) : d.paramsOf e.1 = e.2 := by
  rcases List.mem_cons.1 h with rfl | h
  · rfl
  rcases List.mem_append.1 h with h | h
  · obtain ⟨m, hm, rfl⟩ := List.mem_map.1 h
    have hfind : (d.methods.find? fun m' =>
        m'.name == m.name && m'.params.length == m.params.length) = some m := by
      refine find?_eq_some_of_unique hm (by simp) fun m' hm' hkey => ?_
      rw [Bool.and_eq_true, beq_iff_eq, beq_iff_eq] at hkey
      exact List.inj_on_of_nodup_map hd hm' hm (Prod.ext hkey.1 hkey.2)
    simp only [paramsOf, hfind, Option.map_some, Option.getD_some]
  · obtain ⟨⟨k, index⟩, hk, rfl⟩ := List.mem_map.1 h
    have hget : d.constructors[index]? = some k := List.mem_zipIdx_iff_getElem?.1 hk
    simp only [paramsOf, hget, Option.map_some, Option.getD_some]

end ClassDef

namespace Registry

/-- Every declaration of the registry, with the type parameters that it lists. -/
def declarations (reg : Registry) : List (VarOwner × List VarId) :=
  reg.tableIds.flatMap fun c => ((reg.class? c).map fun d => d.declarations c).getD []

theorem mem_declarations_iff {reg : Registry} {e : VarOwner × List VarId} :
    e ∈ reg.declarations ↔ ∃ d, reg.class? e.1.classId = some d ∧
      e ∈ d.declarations e.1.classId := by
  rw [declarations, List.mem_flatMap]
  constructor
  · rintro ⟨c, -, he⟩
    cases hd : reg.class? c with
    | none =>
      rw [hd] at he
      cases he
    | some d =>
      rw [hd] at he
      obtain rfl := ClassDef.classId_of_mem_declarations he
      exact ⟨d, hd, he⟩
  · rintro ⟨d, hd, he⟩
    exact ⟨e.1.classId, mem_tableIds_of_class? hd, by rwa [hd]⟩

/-- A type parameter is known by its name and by the declaration that lists it. -/
structure WellDeclared (reg : Registry) : Prop where
  /-- What a declaration lists is owned by that declaration. -/
  owner_eq : ∀ e ∈ reg.declarations, ∀ v ∈ e.2, ∀ p ∈ reg.typeParam? v, p.owner = e.1
  /-- The names within one declaration are distinct. -/
  names_distinct : ∀ e ∈ reg.declarations, ∀ v ∈ e.2, ∀ w ∈ e.2, ∀ p ∈ reg.typeParam? v,
    ∀ q ∈ reg.typeParam? w, p.name = q.name → v = w
  /-- No class has two methods with the same name and number of parameters. -/
  methods_distinct : ∀ c, ∀ d ∈ reg.class? c, d.methodKeys.Nodup

/-- The variable is declared, and the declaration that owns it lists it. -/
def Listed (reg : Registry) (v : VarId) : Prop :=
  ∃ p ∈ reg.typeParam? v, ∃ e ∈ reg.declarations, e.1 = p.owner ∧ v ∈ e.2

instance (reg : Registry) : Decidable reg.WellDeclared :=
  decidable_of_iff ((∀ e ∈ reg.declarations, ∀ v ∈ e.2, ∀ p ∈ reg.typeParam? v, p.owner = e.1) ∧
      (∀ e ∈ reg.declarations, ∀ v ∈ e.2, ∀ w ∈ e.2, ∀ p ∈ reg.typeParam? v,
        ∀ q ∈ reg.typeParam? w, p.name = q.name → v = w) ∧
      ∀ c ∈ reg.tableIds, ∀ d ∈ reg.class? c, d.methodKeys.Nodup)
    ⟨fun h => ⟨h.1, h.2.1, fun c d hd => h.2.2 c (mem_tableIds_of_class? hd) d hd⟩,
      fun h => ⟨h.owner_eq, h.names_distinct, fun c _ => h.methods_distinct c⟩⟩

instance (reg : Registry) (v : VarId) : Decidable (reg.Listed v) :=
  inferInstanceAs (Decidable (∃ p ∈ reg.typeParam? v, ∃ e ∈ reg.declarations,
    e.1 = p.owner ∧ v ∈ e.2))

variable {reg : Registry}

/-- The variable that is found has the name and is listed at the declaration. -/
theorem of_varNamed_paramsAt {name : String} {o : VarOwner} {c : ClassId} {w : VarId}
    (h : reg.varNamed name (reg.paramsAt o c) = some w) :
    ∃ q, reg.typeParam? w = some q ∧ q.name = name ∧
      ∃ vs, (o.inClass c, vs) ∈ reg.declarations ∧ w ∈ vs := by
  rw [varNamed] at h
  have hmem : w ∈ reg.paramsAt o c := List.mem_of_find?_eq_some h
  have hpass := List.find?_some h
  obtain ⟨q, hq, hname⟩ := (Option.any_eq_true _ _).1 hpass
  refine ⟨q, hq, beq_iff_eq.1 hname, ?_⟩
  rw [paramsAt] at hmem
  cases hd : reg.class? c with
  | none =>
    rw [hd] at hmem
    cases hmem
  | some d =>
    rw [hd] at hmem
    refine ⟨d.paramsOf o, mem_declarations_iff.2 ?_, hmem⟩
    rw [VarOwner.classId_inClass]
    exact ⟨d, hd, ClassDef.mem_declarations_of_mem_paramsOf hmem⟩

/-- A variable that is listed where it is declared is found there by its name. -/
theorem WellDeclared.varNamed_paramsAt (h : reg.WellDeclared) {v : VarId} {p : TypeParam}
    (hp : reg.typeParam? v = some p) {e : VarOwner × List VarId} (he : e ∈ reg.declarations)
    (howner : e.1 = p.owner) (hv : v ∈ e.2) :
    reg.varNamed p.name (reg.paramsAt p.owner p.owner.classId) = some v := by
  obtain ⟨d, hd, hmem⟩ := mem_declarations_iff.1 he
  have hparams : reg.paramsAt p.owner p.owner.classId = e.2 := by
    rw [← howner, paramsAt, hd, Option.map_some, Option.getD_some]
    exact ClassDef.paramsOf_eq_of_mem_declarations (h.methods_distinct _ d hd) hmem
  rw [hparams, varNamed]
  refine find?_eq_some_of_unique hv (by simp [hp]) fun w hw hname => ?_
  obtain ⟨q, hq, hname⟩ := (Option.any_eq_true _ _).1 hname
  exact h.names_distinct e he w hw v hv q hq p hp (beq_iff_eq.1 hname)

end Registry

end Generics
