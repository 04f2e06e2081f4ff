import Generics.Erasure
import Generics.Proofs.Hierarchy.Subclassing
import Generics.Proofs.Renumbering.Expressions
import Mathlib.Data.Finset.Card

/-!
# The same hierarchy under other numbers

Two registries are renumberings of each other if every declaration of one is the declaration of the
other with other numbers. They need not have their tables in common: a table may have places that are
only reserved, and these do not count. What a registry says about its hierarchy is then the same up to
the numbers: supertypes, subclassing, views and erasures. Array supertypes are found by name, and
names are not renumbered.

## Main definitions

* `ClassDef.renumber` and its companions
* `Registry.Renumbered` — one registry is the other one with other numbers

## Main results

* `Registry.Renumbered.isSubclass`, `Registry.Renumbered.view`, `Registry.Renumbered.erasure`
-/

namespace Generics

variable (ρ : Renumbering)

/-! ### Declarations -/

/-- The owner of a type parameter with other numbers. -/
def VarOwner.renumber : VarOwner → VarOwner
  | .ofClass c => .ofClass (ρ.classes c)
  | .ofMethod c name arity => .ofMethod (ρ.classes c) name arity
  | .ofConstructor c index => .ofConstructor (ρ.classes c) index

/-- The type parameter with other numbers. -/
def TypeParam.renumber (p : TypeParam) : TypeParam :=
  { p with owner := p.owner.renumber ρ, bounds := p.bounds.map (TypeExpr.renumber ρ) }

/-- The method with other numbers. -/
def Method.renumber (m : Method) : Method :=
  { m with
    typeParams := m.typeParams.map ρ.vars
    params := m.params.map (TypeExpr.renumber ρ)
    returnType := m.returnType.map (TypeExpr.renumber ρ) }

/-- The constructor with other numbers. -/
def Constructor.renumber (k : Constructor) : Constructor :=
  { typeParams := k.typeParams.map ρ.vars, params := k.params.map (TypeExpr.renumber ρ) }

/-- The definition with other numbers; the name, the kind and the flags stay. -/
def ClassDef.renumber (d : ClassDef) : ClassDef :=
  { d with
    typeParams := d.typeParams.map ρ.vars
    superclass := d.superclass.map (TypeExpr.renumber ρ)
    interfaces := d.interfaces.map (TypeExpr.renumber ρ)
    constructors := d.constructors.map (Constructor.renumber ρ)
    methods := d.methods.map (Method.renumber ρ) }

@[simp] theorem ClassDef.isGeneric_renumber (d : ClassDef) :
    (d.renumber ρ).isGeneric = d.isGeneric := by
  rw [isGeneric, isGeneric, renumber, List.isEmpty_map]

@[simp] theorem ClassDef.isInterface_renumber (d : ClassDef) :
    (d.renumber ρ).isInterface = d.isInterface := rfl

theorem ClassDef.declaredSupertypes_renumber (d : ClassDef) :
    (d.renumber ρ).declaredSupertypes = d.declaredSupertypes.map (TypeExpr.renumber ρ) := by
  rw [declaredSupertypes, declaredSupertypes, List.map_append]
  cases d with
  | mk _ _ _ _ superclass _ _ _ => cases superclass <;> rfl

/-- The erased type with other numbers. -/
def ErasedType.renumber : ErasedType → ErasedType
  | .plain c => .plain (ρ.classes c)
  | .array e => .array e.renumber

namespace Registry

/-- No two classes have the same name. -/
def NamesUnique (reg : Registry) : Prop :=
  ∀ c c' d d', reg.class? c = some d → reg.class? c' = some d' → d.name = d'.name → c = c'

/-- **One registry is the other one with other numbers:** every declaration is the declaration of the
other with other numbers, `Object` is `Object`, and a name stands for the same class. A class is
known by its name. -/
structure Renumbered (reg reg' : Registry) : Prop where
  /-- The same classes are defined, -/
  class? : ∀ c, reg'.class? (ρ.classes c) = (reg.class? c).map (ClassDef.renumber ρ)
  /-- the same type parameters are declared, -/
  typeParam? : ∀ v, reg'.typeParam? (ρ.vars v) = (reg.typeParam? v).map (TypeParam.renumber ρ)
  /-- and `Object` is `Object`. -/
  object : reg'.object = ρ.classes reg.object
  /-- Every name stands for the same class, -/
  lookup? : ∀ name, reg'.lookup? name = (reg.lookup? name).map ρ.classes
  /-- and no two classes have the same name. -/
  names : reg.NamesUnique

variable {ρ} {reg reg' : Registry} (h : Renumbered ρ reg reg')

include h

namespace Renumbered

/-! ### Look-ups -/

theorem isDefined (c : ClassId) : reg'.isDefined (ρ.classes c) = reg.isDefined c := by
  rw [Registry.isDefined, Registry.isDefined, h.class?, Option.isSome_map]

theorem formals (c : ClassId) : reg'.formals (ρ.classes c) = (reg.formals c).map ρ.vars := by
  rw [Registry.formals, Registry.formals, h.class?]
  cases reg.class? c <;> rfl

theorem formalsFor (c : ClassId) (n : Nat) :
    reg'.formalsFor (ρ.classes c) n = (reg.formalsFor c n).map ρ.vars := by
  rw [Registry.formalsFor, Registry.formalsFor, h.formals, List.length_map]
  split <;> rfl

theorem bounds (v : VarId) :
    reg'.bounds (ρ.vars v) = (reg.bounds v).map (TypeExpr.renumber ρ) := by
  rw [Registry.bounds, Registry.bounds, h.typeParam?]
  cases reg.typeParam? v <;> rfl

theorem objectType : reg'.objectType = reg.objectType.renumber ρ :=
  congrArg TypeExpr.raw h.object

theorem orObject (uppers : List TypeExpr) :
    reg'.orObject (uppers.map (TypeExpr.renumber ρ)) =
      (reg.orObject uppers).map (TypeExpr.renumber ρ) := by
  rw [Registry.orObject, Registry.orObject, List.isEmpty_map]
  split
  · rw [h.objectType, List.map_singleton]
  · rfl

/-- As many type parameters are declared. -/
theorem size_params : reg'.params.size = reg.params.size := by
  have hlt : ∀ v, (ρ.vars v).idx < reg'.params.size ↔ v.idx < reg.params.size := by
    intro v
    have hnone : reg'.typeParam? (ρ.vars v) = none ↔ reg.typeParam? v = none := by
      rw [h.typeParam?, Option.map_eq_none_iff]
    rw [Registry.typeParam?, Registry.typeParam?, Array.getElem?_eq_none_iff,
      Array.getElem?_eq_none_iff] at hnone
    exact Nat.not_le.symm.trans ((not_congr hnone).trans Nat.not_le)
  have hcard : ∀ {n m : Nat} {f : VarId → VarId}, Function.Injective f →
      (∀ v, v.idx < n → (f v).idx < m) → n ≤ m := by
    intro n m f hf hmaps
    have hle : (Finset.range n).card ≤ (Finset.range m).card := by
      refine Finset.card_le_card_of_injOn (fun i => (f ⟨i⟩).idx) (fun i hi => ?_) ?_
      · exact Finset.mem_coe.2 (Finset.mem_range.2 (hmaps ⟨i⟩ (Finset.mem_range.1 hi)))
      · intro i _ j _ hij
        exact congrArg VarId.idx (hf (VarId.idx_injective hij))
    rwa [Finset.card_range, Finset.card_range] at hle
  refine Nat.le_antisymm (hcard ρ.vars.symm.injective fun v hv => ?_)
    (hcard ρ.vars.injective fun v hv => (hlt v).2 hv)
  rw [← hlt, ρ.vars.apply_symm_apply]
  exact hv

/-! ### Supertypes -/

theorem supertypes (c : ClassId) :
    reg'.supertypes (ρ.classes c) = (reg.supertypes c).map (TypeExpr.renumber ρ) := by
  rw [Registry.supertypes, Registry.supertypes, h.class?]
  cases reg.class? c with
  | none => rfl
  | some d =>
    have hobject : (ρ.classes c != reg'.object) = (c != reg.object) :=
      congrArg (!·) (h.object ▸ ρ.classes.injective.beq_eq)
    have hcontains : (d.declaredSupertypes.map (TypeExpr.renumber ρ)).contains reg'.objectType =
        d.declaredSupertypes.contains reg.objectType := by
      rw [h.objectType, Bool.eq_iff_iff, List.contains_iff_mem, List.contains_iff_mem,
        List.mem_map_of_injective (TypeExpr.renumber_injective ρ)]
    simp only [Option.map_some, ClassDef.declaredSupertypes_renumber,
      ClassDef.isInterface_renumber, hobject, hcontains]
    split
    · rw [List.map_append, List.map_singleton, h.objectType]
    · rfl

theorem superclasses (c : ClassId) :
    reg'.superclasses (ρ.classes c) = (reg.superclasses c).map ρ.classes := by
  rw [Registry.superclasses, Registry.superclasses, h.supertypes, List.filterMap_map,
    List.map_filterMap]
  exact List.filterMap_congr fun t _ => TypeExpr.classId?_renumber ρ t

theorem liesBelow_iff {c d : ClassId} :
    reg'.LiesBelow (ρ.classes c) (ρ.classes d) ↔ reg.LiesBelow c d :=
  Search.reaches_map_iff ρ.classes.injective h.superclasses

theorem isSubclass (c d : ClassId) :
    reg'.isSubclass (ρ.classes c) (ρ.classes d) = reg.isSubclass c d := by
  rw [Bool.eq_iff_iff, isSubclass_iff, isSubclass_iff, h.liesBelow_iff, h.isDefined, h.object,
    ρ.classes.injective.eq_iff]

theorem isArraySupertype (c : ClassId) :
    reg'.isArraySupertype (ρ.classes c) = reg.isArraySupertype c := by
  have hname : ∀ name, (reg'.lookup? name == some (ρ.classes c)) = (reg.lookup? name == some c) := by
    intro name
    rw [h.lookup?, ← Option.map_some]
    exact (Option.map_injective ρ.classes.injective).beq_eq
  have hobject : (ρ.classes c == reg'.object) = (c == reg.object) :=
    h.object ▸ ρ.classes.injective.beq_eq
  simp only [Registry.isArraySupertype, hname, hobject]

/-! ### Views -/

omit h in
theorem use?_supertype (t : TypeExpr) (σ : Substitution) :
    ((t.renumber ρ).substitute (σ.renumber ρ)).use? =
      (t.substitute σ).use?.map (Use.renumber ρ) := by
  rw [← TypeExpr.renumber_substitute, TypeExpr.use?_renumber]

theorem superUses (u : Use) :
    reg'.superUses (u.renumber ρ) = (reg.superUses u).map (Use.renumber ρ) := by
  have hclass : reg'.class? (u.renumber ρ).1 = (reg.class? u.1).map (ClassDef.renumber ρ) :=
    h.class? u.1
  rw [Registry.superUses, Registry.superUses, hclass]
  cases reg.class? u.1 with
  | none => rfl
  | some d =>
    have hempty : (u.renumber ρ).2.isEmpty = u.2.isEmpty := List.isEmpty_map
    have hsupers : reg'.superclasses (u.renumber ρ).1 = (reg.superclasses u.1).map ρ.classes :=
      h.superclasses u.1
    have hsupertypes : reg'.supertypes (u.renumber ρ).1 =
        (reg.supertypes u.1).map (TypeExpr.renumber ρ) := h.supertypes u.1
    simp only [Option.map_some, hempty, ClassDef.isGeneric_renumber, hsupers, hsupertypes]
    split
    · rw [List.map_map, List.map_map]
      rfl
    · rw [List.filterMap_map, List.map_filterMap]
      refine List.filterMap_congr fun t _ => ?_
      rw [Function.comp_apply, ← use?_supertype, Substitution.renumber_ofFormals]
      rfl

theorem classView (rounds : Nat) (target : ClassId) (u : Use) :
    reg'.classView rounds (ρ.classes target) (u.renumber ρ) =
      (reg.classView rounds target u).map (Use.renumber ρ) := by
  have hkey : ∀ w : Use, id (w.renumber ρ) = (id w).renumber ρ := fun _ => rfl
  exact Search.find_map (Use.renumber_injective ρ) hkey h.superUses
    (fun w => ρ.classes.injective.beq_eq) rounds [] [u]

/-- A view as an answer, with other numbers. -/
abbrev renumberView (ρ : Renumbering) : Option TypeExpr → Option TypeExpr :=
  Option.map (TypeExpr.renumber ρ)

omit h in
theorem answer_map (o : Search.Outcome Use) :
    answer (o.map (Use.renumber ρ)) = (answer o).map (renumberView ρ) := by
  cases o with
  | found u => exact congrArg (fun t => some (some t)) (Use.renumber_toType ρ u).symm
  | absent => rfl
  | unfinished => rfl

omit h in
theorem firstView_map {f g : TypeExpr → Option (Option TypeExpr)} {ts : List TypeExpr}
    (hfg : ∀ t ∈ ts, g (t.renumber ρ) = (f t).map (renumberView ρ)) :
    firstView g (ts.map (TypeExpr.renumber ρ)) = (firstView f ts).map (renumberView ρ) := by
  induction ts with
  | nil => rfl
  | cons t ts ih =>
    have hrest := ih fun s hs => hfg s (List.mem_cons_of_mem _ hs)
    rw [List.map_cons, firstView, firstView, hfg t List.mem_cons_self]
    cases f t with
    | none => rfl
    | some r =>
      cases r with
      | none => exact hrest
      | some u => rfl

theorem viewWith {rounds : Nat} {target : ClassId} {onVar onVar' : VarId → Option (Option TypeExpr)}
    (hvar : ∀ v, onVar' (ρ.vars v) = (onVar v).map (renumberView ρ)) (t : TypeExpr) :
    reg'.viewWith rounds (ρ.classes target) onVar' (t.renumber ρ) =
      (reg.viewWith rounds target onVar t).map (renumberView ρ) := by
  have huse : ∀ u : Use, answer (reg'.classView rounds (ρ.classes target) (u.renumber ρ)) =
      (answer (reg.classView rounds target u)).map (renumberView ρ) := fun u => by
    rw [h.classView, answer_map]
  induction t with
  | raw c => exact huse (c, [])
  | app c args owner =>
    rw [TypeExpr.renumber_app]
    exact huse (c, args)
  | wildcard us ls ihUppers _ =>
    rw [TypeExpr.renumber_wildcard]
    cases us with
    | nil =>
      have hobject : (reg'.object, []) = Use.renumber ρ (reg.object, []) := by
        rw [h.object]
        rfl
      show answer (reg'.classView rounds (ρ.classes target) (reg'.object, [])) = _
      rw [hobject]
      exact huse (reg.object, [])
    | cons u us =>
      simp only [List.map_cons, Registry.viewWith]
      rw [viewFirstWith_eq, viewFirstWith_eq, ← List.map_cons]
      exact firstView_map ihUppers
  | var v => exact hvar v
  | array elem =>
    rw [TypeExpr.renumber_array, Registry.viewWith, Registry.viewWith, h.isArraySupertype]
    split <;> rfl

theorem viewFrom (rounds : Nat) (target : ClassId) (n : Nat) (seen : List VarId) (t : TypeExpr) :
    reg'.viewFrom rounds (ρ.classes target) n (seen.map ρ.vars) (t.renumber ρ) =
      (reg.viewFrom rounds target n seen t).map (renumberView ρ) := by
  induction n generalizing seen t with
  | zero => exact h.viewWith (fun _ => rfl) t
  | succ n ih =>
    refine h.viewWith (fun v => ?_) t
    by_cases hv : v ∈ seen
    · rw [if_pos hv, if_pos (ρ.mem_map_vars.2 hv)]
      rfl
    · rw [if_neg hv, if_neg (mt ρ.mem_map_vars.1 hv),
        h.bounds]
      exact firstView_map fun b _ => ih (v :: seen) b

/-- **A view of the renumbered expression** is the view of the expression, renumbered. -/
theorem view (rounds : Nat) (t : TypeExpr) (target : ClassId) :
    reg'.view rounds (t.renumber ρ) (ρ.classes target) =
      (reg.view rounds t target).map (renumberView ρ) := by
  rw [Registry.view, Registry.view, h.size_params]
  exact h.viewFrom rounds target _ [] t

/-! ### Erasure -/

theorem erasureWith {onVar onVar' : VarId → Option ErasedType}
    (hvar : ∀ v, onVar' (ρ.vars v) = (onVar v).map (ErasedType.renumber ρ)) (t : TypeExpr) :
    reg'.erasureWith onVar' (t.renumber ρ) =
      (reg.erasureWith onVar t).map (ErasedType.renumber ρ) := by
  induction t with
  | raw c => rfl
  | app c args owner =>
    rw [TypeExpr.renumber_app]
    rfl
  | wildcard us ls ihUppers _ =>
    rw [TypeExpr.renumber_wildcard]
    cases us with
    | nil => exact congrArg (fun c => some (ErasedType.plain c)) h.object
    | cons u us => exact ihUppers u List.mem_cons_self
  | var v => exact hvar v
  | array elem ih =>
    rw [TypeExpr.renumber_array, Registry.erasureWith, Registry.erasureWith, ih]
    cases reg.erasureWith onVar elem <;> rfl

theorem erasureFrom (n : Nat) (seen : List VarId) (t : TypeExpr) :
    reg'.erasureFrom n (seen.map ρ.vars) (t.renumber ρ) =
      (reg.erasureFrom n seen t).map (ErasedType.renumber ρ) := by
  have hobject : some (ErasedType.plain reg'.object) =
      (some (ErasedType.plain reg.object)).map (ErasedType.renumber ρ) :=
    congrArg (fun c => some (ErasedType.plain c)) h.object
  induction n generalizing seen t with
  | zero => exact h.erasureWith (fun _ => hobject) t
  | succ n ih =>
    refine h.erasureWith (fun v => ?_) t
    by_cases hv : v ∈ seen
    · rw [if_pos hv, if_pos (ρ.mem_map_vars.2 hv)]
      exact hobject
    · rw [if_neg hv, if_neg (mt ρ.mem_map_vars.1 hv),
        h.bounds, List.head?_map]
      cases (reg.bounds v).head? with
      | none => rfl
      | some b => exact ih (v :: seen) b

theorem erasure (t : TypeExpr) :
    reg'.erasure (t.renumber ρ) = (reg.erasure t).map (ErasedType.renumber ρ) := by
  rw [Registry.erasure, Registry.erasure, varRounds, varRounds, h.size_params]
  exact h.erasureFrom _ [] t

theorem isRawAssignable (target source : ErasedType) :
    reg'.isRawAssignable (target.renumber ρ) (source.renumber ρ) =
      reg.isRawAssignable target source := by
  induction target generalizing source with
  | plain t =>
    cases source with
    | plain s => exact h.isSubclass s t
    | array s => exact h.isArraySupertype t
  | array t ih =>
    cases source with
    | plain s => rfl
    | array s => exact ih s

end Renumbered

end Registry

end Generics
