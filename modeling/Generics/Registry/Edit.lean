import Generics.Registry.Basic

/-!
# Building a registry

Classes get their number when their name is first met and their definition later, so that a class
can be mentioned in its own bounds. Redefining a class replaces its definition; an old name keeps
pointing to the number.

## Main definitions

* `Registry.initial`: the registry that knows `Object` only.
* `intern`, `define`, `addClass`, `addTypeParam`, `setBounds`.

## Main results

* `class?_define`, `typeParam?_addTypeParam`, `typeParam?_setBounds` and their companions: each
  operation changes what it names and nothing else.
* `bounds_ne_nil_of_addTypeParam`: a type parameter never goes without a bound.
-/

namespace Generics

/-- The name of the root class. -/
def objectName : String := "java.lang.Object"

namespace Registry

/-- The registry that knows `Object` only. -/
def initial : Registry where
  classes := #[some { name := objectName }]
  params := #[]
  names := [(objectName, ⟨0⟩)]
  object := ⟨0⟩

instance : Inhabited Registry := ⟨initial⟩

/-- The number of the class called `name`; a new name gets the next number. -/
def intern (name : String) (reg : Registry) : ClassId × Registry :=
  match reg.names.lookup name with
  | some c => (c, reg)
  | none =>
    let c : ClassId := ⟨reg.classes.size⟩
    (c, { reg with classes := reg.classes.push none, names := (name, c) :: reg.names })

/-- The class table, long enough for `c` to have a place. -/
def grown (reg : Registry) (c : ClassId) : Array (Option ClassDef) :=
  reg.classes ++ Array.replicate (c.idx + 1 - reg.classes.size) none

/-- Give `c` the definition `d`, and `d`'s name the number `c`. -/
def define (c : ClassId) (d : ClassDef) (reg : Registry) : Registry :=
  { reg with
    classes := (reg.grown c).setIfInBounds c.idx (some d)
    names := (d.name, c) :: reg.names }

/-- Define the class that `d` names. -/
def addClass (d : ClassDef) (reg : Registry) : ClassId × Registry :=
  let (c, reg) := reg.intern d.name
  (c, reg.define c d)

/-- Add a type parameter. Without bounds it is bounded by `Object`. -/
def addTypeParam (name : String) (owner : VarOwner) (bounds : List TypeExpr) (reg : Registry) :
    VarId × Registry :=
  (⟨reg.params.size⟩, { reg with params := reg.params.push ⟨name, owner, reg.orObject bounds⟩ })

/-- Replace the bounds of a type parameter, if it is known. -/
def setBounds (v : VarId) (bounds : List TypeExpr) (reg : Registry) : Registry :=
  { reg with params := reg.params.modify v.idx fun p => { p with bounds := reg.orObject bounds } }

/-! ### What the operations change -/

theorem size_grown (reg : Registry) (c : ClassId) :
    (reg.grown c).size = max reg.classes.size (c.idx + 1) := by
  simp only [grown, Array.size_append, Array.size_replicate]
  omega

theorem getElem?_grown_join (reg : Registry) (c d : ClassId) :
    ((reg.grown c)[d.idx]?).join = reg.class? d := by
  unfold grown class?
  by_cases h : d.idx < reg.classes.size
  · rw [Array.getElem?_append_left h]
  · rw [Array.getElem?_append_right (by omega), Array.getElem?_replicate]
    rw [Array.getElem?_eq_none (by omega)]
    split <;> rfl

/-- A definition changes the class it names and no other. -/
@[simp] theorem class?_define (reg : Registry) (c e : ClassId) (d : ClassDef) :
    (reg.define c d).class? e = if e = c then some d else reg.class? e := by
  unfold define
  change (((reg.grown c).setIfInBounds c.idx (some d))[e.idx]?).join = _
  rw [Array.getElem?_setIfInBounds]
  by_cases h : e = c
  · subst h
    have hlt : e.idx < (reg.grown e).size := by rw [size_grown]; omega
    simp [hlt]
  · have hne : c.idx ≠ e.idx := fun he => h (ClassId.idx_injective he.symm)
    rw [if_neg hne, if_neg h, getElem?_grown_join]

@[simp] theorem typeParam?_define (reg : Registry) (c : ClassId) (d : ClassDef) (v : VarId) :
    (reg.define c d).typeParam? v = reg.typeParam? v := rfl

@[simp] theorem object_define (reg : Registry) (c : ClassId) (d : ClassDef) :
    (reg.define c d).object = reg.object := rfl

/-- Interning a name changes no class. -/
@[simp] theorem class?_intern (reg : Registry) (name : String) (c : ClassId) :
    (reg.intern name).2.class? c = reg.class? c := by
  unfold intern
  split
  · rfl
  · simp only [class?, Array.getElem?_push]
    split
    · rename_i h
      rw [Array.getElem?_eq_none (by omega)]
      rfl
    · rfl

@[simp] theorem typeParam?_intern (reg : Registry) (name : String) (v : VarId) :
    (reg.intern name).2.typeParam? v = reg.typeParam? v := by
  unfold intern
  split <;> rfl

@[simp] theorem class?_addTypeParam (reg : Registry) (name : String) (owner : VarOwner)
    (bounds : List TypeExpr) (c : ClassId) :
    (reg.addTypeParam name owner bounds).2.class? c = reg.class? c := rfl

/-- A new type parameter leaves the others alone. -/
@[simp] theorem typeParam?_addTypeParam (reg : Registry) (name : String) (owner : VarOwner)
    (bounds : List TypeExpr) (v : VarId) :
    (reg.addTypeParam name owner bounds).2.typeParam? v =
      if v.idx = reg.params.size then some ⟨name, owner, reg.orObject bounds⟩
      else reg.typeParam? v := by
  simp [addTypeParam, typeParam?, Array.getElem?_push]

@[simp] theorem class?_setBounds (reg : Registry) (v : VarId) (bounds : List TypeExpr)
    (c : ClassId) : (reg.setBounds v bounds).class? c = reg.class? c := rfl

/-- New bounds change the type parameter that they are given for and no other. -/
@[simp] theorem typeParam?_setBounds (reg : Registry) (v w : VarId) (bounds : List TypeExpr) :
    (reg.setBounds v bounds).typeParam? w =
      if w = v then (reg.typeParam? w).map fun p => { p with bounds := reg.orObject bounds }
      else reg.typeParam? w := by
  simp only [setBounds, typeParam?, Array.getElem?_modify]
  by_cases h : w = v
  · simp [h]
  · have hne : v.idx ≠ w.idx := fun he => h (VarId.idx_injective he.symm)
    simp [h, hne]

theorem orObject_ne_nil (reg : Registry) (uppers : List TypeExpr) : reg.orObject uppers ≠ [] := by
  unfold orObject
  cases uppers <;> simp

/-- A type parameter never goes without a bound. -/
theorem bounds_ne_nil_of_addTypeParam (reg : Registry) (name : String) (owner : VarOwner)
    (bounds : List TypeExpr) :
    (reg.addTypeParam name owner bounds).2.bounds ⟨reg.params.size⟩ ≠ [] := by
  simp [Registry.bounds, orObject_ne_nil]

end Registry

end Generics
