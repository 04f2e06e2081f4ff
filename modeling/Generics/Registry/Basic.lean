import Generics.Ordered
import Generics.Registry.Declaration

/-!
# Registries

A registry is a table of classes, some of them only reserved, a table of type parameters, an index
of class names and the class `Object`. All look-ups are total: an unknown identifier has no
definition. The tables are not required to agree with each other here; that they do is a property
of registries built by the operations of `Generics.Registry.Edit`.

## Main definitions

* `Registry`, with `class?`, `typeParam?`, `lookup?`, `bounds` and `formals`.
* `Registry.classIds`: the defined classes by name.

## Main results

* `mem_classIds`: exactly the defined classes are listed.
-/

namespace Generics

/-- The classes and type parameters of a host's type system. -/
structure Registry where
  /-- Definitions by class number; `none` marks a number that is only reserved. -/
  classes : Array (Option ClassDef)
  /-- Type parameters by number. -/
  params : Array TypeParam
  /-- The class that each name stands for. -/
  names : List (String × ClassId)
  /-- The root of the hierarchy. -/
  object : ClassId
deriving DecidableEq, Repr

namespace Registry

/-- The definition of a class. -/
def class? (reg : Registry) (c : ClassId) : Option ClassDef := (reg.classes[c.idx]?).join

/-- The declaration of a type variable. -/
def typeParam? (reg : Registry) (v : VarId) : Option TypeParam := reg.params[v.idx]?

/-- The class is defined. -/
def isDefined (reg : Registry) (c : ClassId) : Bool := (reg.class? c).isSome

/-- The class of that name, if it is defined. -/
def lookup? (reg : Registry) (name : String) : Option ClassId :=
  (reg.names.lookup name).filter reg.isDefined

/-- `Object` as a type. -/
def objectType (reg : Registry) : TypeExpr := .raw reg.object

/-- The formal type parameters of a class, none for an unknown one. -/
def formals (reg : Registry) (c : ClassId) : List VarId :=
  ((reg.class? c).map ClassDef.typeParams).getD []

/-- The formal type parameters of a class if `n` arguments fit them, otherwise none. -/
def formalsFor (reg : Registry) (c : ClassId) (n : Nat) : List VarId :=
  if (reg.formals c).length = n then reg.formals c else []

/-- The upper bounds of a type variable, none for an unknown one. -/
def bounds (reg : Registry) (v : VarId) : List TypeExpr :=
  ((reg.typeParam? v).map TypeParam.bounds).getD []

/-- Explicit upper bounds stand for themselves; without any, the bound is `Object`. -/
def orObject (reg : Registry) (uppers : List TypeExpr) : List TypeExpr :=
  if uppers.isEmpty then [reg.objectType] else uppers

theorem orObject_of_ne_nil {reg : Registry} {uppers : List TypeExpr} (h : uppers ≠ []) :
    reg.orObject uppers = uppers := if_neg (by simpa using h)

theorem mem_orObject {reg : Registry} {uppers : List TypeExpr} {b : TypeExpr}
    (h : b ∈ reg.orObject uppers) : b = reg.objectType ∨ b ∈ uppers := by
  rw [orObject] at h
  split at h
  · exact .inl (List.mem_singleton.1 h)
  · exact .inr h

/-! ### Listing the classes -/

/-- Defined classes with their names, by number. -/
def named (reg : Registry) : List (String × ClassId) :=
  (List.range reg.classes.size).filterMap fun i =>
    (reg.class? ⟨i⟩).map fun d => (d.name, ⟨i⟩)

/-- The order of names by code points; equal names go by number. -/
def nameLe (a b : String × ClassId) : Bool :=
  if a.1 = b.1 then a.2.idx ≤ b.2.idx else a.1 ≤ b.1

/-- Every defined class, in the order of the names. -/
def classIds (reg : Registry) : List ClassId :=
  (Ordered.sort nameLe reg.named).map Prod.snd

/-- The number of defined classes. -/
def classCount (reg : Registry) : Nat := reg.named.length

theorem isDefined_iff {reg : Registry} {c : ClassId} :
    reg.isDefined c = true ↔ ∃ d, reg.class? c = some d := by
  simp [isDefined, Option.isSome_iff_exists]

theorem lt_size_of_class? {reg : Registry} {c : ClassId} {d : ClassDef}
    (h : reg.class? c = some d) : c.idx < reg.classes.size := by
  unfold class? at h
  cases hc : reg.classes[c.idx]? with
  | none => simp [hc] at h
  | some e => exact (Array.getElem?_eq_some_iff.1 hc).1

theorem mem_named {reg : Registry} {n : String} {c : ClassId} :
    (n, c) ∈ reg.named ↔ ∃ d, reg.class? c = some d ∧ d.name = n := by
  unfold named
  rw [List.mem_filterMap]
  constructor
  · rintro ⟨i, -, h⟩
    obtain ⟨d, hd, he⟩ := Option.map_eq_some_iff.1 h
    obtain ⟨rfl, rfl⟩ := Prod.mk.inj he
    exact ⟨d, hd, rfl⟩
  · rintro ⟨d, hd, rfl⟩
    exact ⟨c.idx, List.mem_range.2 (lt_size_of_class? hd), by simp [hd]⟩

/-- The list of classes holds exactly the defined ones. -/
theorem mem_classIds {reg : Registry} {c : ClassId} :
    c ∈ reg.classIds ↔ reg.isDefined c = true := by
  rw [classIds, List.mem_map, isDefined_iff]
  constructor
  · rintro ⟨⟨n, c'⟩, h, rfl⟩
    obtain ⟨d, hd, -⟩ := mem_named.1 (Ordered.mem_sort.1 h)
    exact ⟨d, hd⟩
  · rintro ⟨d, hd⟩
    exact ⟨(d.name, c), Ordered.mem_sort.2 (mem_named.2 ⟨d, hd, rfl⟩), rfl⟩

/-! ### The order of names -/

theorem nameLe_total (a b : String × ClassId) (h : nameLe a b = false) : nameLe b a = true := by
  simp only [nameLe] at h ⊢
  split at h
  · rename_i heq
    rw [if_pos heq.symm]
    simp only [decide_eq_false_iff_not, decide_eq_true_eq] at h ⊢
    omega
  · rename_i hne
    rw [if_neg (Ne.symm hne)]
    simp only [decide_eq_false_iff_not, decide_eq_true_eq] at h ⊢
    exact (String.le_total a.1 b.1).resolve_left h

theorem fst_le_of_nameLe {a b : String × ClassId} (h : nameLe a b = true) : a.1 ≤ b.1 := by
  simp only [nameLe] at h
  split at h
  · rename_i heq
    exact heq ▸ String.le_refl _
  · exact of_decide_eq_true h

theorem nameLe_antisymm {a b : String × ClassId} (hab : nameLe a b = true)
    (hba : nameLe b a = true) : a = b := by
  have hname : a.1 = b.1 := String.le_antisymm (fst_le_of_nameLe hab) (fst_le_of_nameLe hba)
  simp only [nameLe, hname, if_true, decide_eq_true_eq] at hab hba
  exact Prod.ext hname (ClassId.idx_injective (Nat.le_antisymm hab hba))

theorem nameLe_trans (a b c : String × ClassId) (hab : nameLe a b = true)
    (hbc : nameLe b c = true) : nameLe a c = true := by
  have hle : a.1 ≤ c.1 := String.le_trans (fst_le_of_nameLe hab) (fst_le_of_nameLe hbc)
  by_cases hac : a.1 = c.1
  · have hname : a.1 = b.1 :=
      String.le_antisymm (fst_le_of_nameLe hab) (hac ▸ fst_le_of_nameLe hbc)
    simp only [nameLe, if_pos hac, if_pos hname, if_pos (hname.symm.trans hac),
      decide_eq_true_eq] at hab hbc ⊢
    omega
  · simp only [nameLe, if_neg hac, decide_eq_true_eq]
    exact hle

/-! ### Look-ups -/

@[simp] theorem formals_of_class? {reg : Registry} {c : ClassId} {d : ClassDef}
    (h : reg.class? c = some d) : reg.formals c = d.typeParams := by
  simp [formals, h]

@[simp] theorem bounds_of_typeParam? {reg : Registry} {v : VarId} {p : TypeParam}
    (h : reg.typeParam? v = some p) : reg.bounds v = p.bounds := by
  simp [bounds, h]

end Registry

end Generics
