import Generics.Proofs.AlongMaps
import Generics.Proofs.Substitution.Formals
import Generics.Hierarchy.View
import Mathlib.Logic.Equiv.Defs

/-!
# Other numbers for classes and type variables

Classes and type variables are known by numbers, and a number says no more than in which order a
registry met its entities. A renumbering gives each class and each type variable another number. What
is asked of an expression alone does not depend on the numbers, and a substitution acts on the
renumbered expression as it does on the expression itself. The bindings of a substitution are kept in
the order of the numbers, so that they come in another order afterwards; but only what is bound
counts.

## Main definitions

* `Renumbering`
* `TypeExpr.renumber`, `Substitution.renumber`, `Use.renumber`

## Main results

* `TypeExpr.renumber_injective`
* `Substitution.get?_renumber`, `Substitution.eq_renumber` — a renumbered substitution is known by
  what it binds
* `TypeExpr.renumber_substitute`
-/

namespace Generics

/-- Other numbers for the classes and the type variables. -/
structure Renumbering where
  /-- The new number of a class. -/
  classes : ClassId ≃ ClassId
  /-- The new number of a type variable. -/
  vars : VarId ≃ VarId

namespace Renumbering

/-- The old numbers again. -/
def symm (ρ : Renumbering) : Renumbering := ⟨ρ.classes.symm, ρ.vars.symm⟩

theorem mem_map_vars (ρ : Renumbering) {v : VarId} {vs : List VarId} :
    ρ.vars v ∈ vs.map ρ.vars ↔ v ∈ vs :=
  List.mem_map_of_injective ρ.vars.injective

end Renumbering

namespace TypeExpr

/-! ### Expressions -/

/-- The expression with other numbers. -/
def renumber (ρ : Renumbering) : TypeExpr → TypeExpr :=
  interpret {
    raw := fun c => .raw (ρ.classes c)
    app := fun c args owner => .app (ρ.classes c) args owner
    wildcard := .wildcard
    var := fun v => .var (ρ.vars v)
    array := .array }

variable (ρ : Renumbering)

@[simp] theorem renumber_raw (c : ClassId) : renumber ρ (.raw c) = .raw (ρ.classes c) := rfl

@[simp] theorem renumber_app (c : ClassId) (args : List TypeExpr) (owner : Option TypeExpr) :
    renumber ρ (.app c args owner) =
      .app (ρ.classes c) (args.map (renumber ρ)) (owner.map (renumber ρ)) :=
  interpret_app _ c args owner

@[simp] theorem renumber_wildcard (us ls : List TypeExpr) :
    renumber ρ (.wildcard us ls) = .wildcard (us.map (renumber ρ)) (ls.map (renumber ρ)) :=
  interpret_wildcard _ us ls

@[simp] theorem renumber_var (v : VarId) : renumber ρ (.var v) = .var (ρ.vars v) := rfl

@[simp] theorem renumber_array (t : TypeExpr) :
    renumber ρ (.array t) = .array (renumber ρ t) := rfl

theorem renumber_symm (t : TypeExpr) : (t.renumber ρ).renumber ρ.symm = t := by
  have hmap : ∀ {ts : List TypeExpr}, (∀ t ∈ ts, (t.renumber ρ).renumber ρ.symm = t) →
      (ts.map (renumber ρ)).map (renumber ρ.symm) = ts := fun h => by
    rw [List.map_map]
    exact map_eq_self_iff.2 h
  induction t with
  | raw c => exact congrArg raw (ρ.classes.symm_apply_apply c)
  | app c args owner ihArgs ihOwner =>
    have howner : (owner.map (renumber ρ)).map (renumber ρ.symm) = owner := by
      rw [Option.map_map]
      exact option_map_eq_self ihOwner
    rw [renumber_app, renumber_app, hmap ihArgs, howner]
    exact congrArg (app · args owner) (ρ.classes.symm_apply_apply c)
  | wildcard us ls ihUppers ihLowers =>
    rw [renumber_wildcard, renumber_wildcard, hmap ihUppers, hmap ihLowers]
  | var v => exact congrArg var (ρ.vars.symm_apply_apply v)
  | array t ih => exact congrArg array ih

theorem renumber_injective : Function.Injective (renumber ρ) :=
  Function.LeftInverse.injective (renumber_symm ρ)

@[simp] theorem renumber_inj {s t : TypeExpr} : s.renumber ρ = t.renumber ρ ↔ s = t :=
  (renumber_injective ρ).eq_iff

@[simp] theorem isConcrete_renumber (t : TypeExpr) :
    (t.renumber ρ).isConcrete = t.isConcrete := by
  induction t with
  | app c args owner ihArgs ihOwner =>
    have howner : (owner.map (renumber ρ)).all isConcrete = owner.all isConcrete := by
      cases owner with
      | none => rfl
      | some o => exact ihOwner o rfl
    rw [renumber_app, isConcrete_app, isConcrete_app, all_map_eq ihArgs, howner]
  | array t ih => exact ih
  | _ => simp

@[simp] theorem hasVars_renumber (t : TypeExpr) : (t.renumber ρ).hasVars = t.hasVars := by
  induction t with
  | app c args owner ihArgs ihOwner =>
    have howner : (owner.map (renumber ρ)).any hasVars = owner.any hasVars := by
      cases owner with
      | none => rfl
      | some o => exact ihOwner o rfl
    rw [renumber_app, hasVars_app, hasVars_app, any_map_eq ihArgs, howner]
  | wildcard us ls ihUppers ihLowers =>
    rw [renumber_wildcard, hasVars_wildcard, hasVars_wildcard, any_map_eq ihUppers,
      any_map_eq ihLowers]
  | array t ih => exact ih
  | _ => simp

@[simp] theorem shape_renumber (t : TypeExpr) : (t.renumber ρ).shape = t.shape := by
  cases t <;> simp [shape]

@[simp] theorem classId?_renumber (t : TypeExpr) :
    (t.renumber ρ).classId? = t.classId?.map ρ.classes := by
  cases t <;> simp [classId?]

@[simp] theorem args_renumber (t : TypeExpr) :
    (t.renumber ρ).args = t.args.map (renumber ρ) := by
  cases t <;> simp [args]

@[simp] theorem owner?_renumber (t : TypeExpr) :
    (t.renumber ρ).owner? = t.owner?.map (renumber ρ) := by
  cases t <;> simp [owner?]

theorem renumber_ofClass (c : ClassId) (args : List TypeExpr) :
    (ofClass c args).renumber ρ = ofClass (ρ.classes c) (args.map (renumber ρ)) := by
  cases args <;> simp

theorem map_renumber_vars (formals : List VarId) :
    (vars formals).map (renumber ρ) = vars (formals.map ρ.vars) := by
  rw [vars, vars, List.map_map, List.map_map]
  rfl

end TypeExpr

/-! ### Uses -/

/-- The use with other numbers. -/
def Use.renumber (ρ : Renumbering) (u : Use) : Use :=
  (ρ.classes u.1, u.2.map (TypeExpr.renumber ρ))

theorem Use.renumber_injective (ρ : Renumbering) : Function.Injective (Use.renumber ρ) := by
  rintro ⟨c, as⟩ ⟨d, bs⟩ h
  obtain ⟨hclass, hargs⟩ := Prod.mk.inj h
  exact Prod.ext (ρ.classes.injective hclass)
    ((TypeExpr.renumber_injective ρ).list_map hargs)

theorem Use.renumber_toType (ρ : Renumbering) (u : Use) :
    u.toType.renumber ρ = (u.renumber ρ).toType :=
  TypeExpr.renumber_ofClass ρ u.1 u.2

theorem TypeExpr.use?_renumber (ρ : Renumbering) (t : TypeExpr) :
    (t.renumber ρ).use? = t.use?.map (Use.renumber ρ) := by
  cases t <;> simp [use?, Use.renumber]

/-! ### Substitutions -/

/-- A binding with other numbers. -/
def renumberEntry (ρ : Renumbering) (e : VarId × TypeExpr) : VarId × TypeExpr :=
  (ρ.vars e.1, e.2.renumber ρ)

namespace Substitution

variable (ρ : Renumbering)

/-- The substitution with other numbers. -/
def renumber (σ : Substitution) : Substitution := ofList (σ.entries.map (renumberEntry ρ))

theorem lookup_map_renumberEntry (es : List (VarId × TypeExpr)) (v : VarId) :
    (es.map (renumberEntry ρ)).lookup (ρ.vars v) = (es.lookup v).map (TypeExpr.renumber ρ) :=
  lookup_map_of_injective ρ.vars.injective _ v es

/-- A renumbered variable is bound to what the variable is bound to, renumbered. -/
@[simp] theorem get?_renumber (σ : Substitution) (v : VarId) :
    (σ.renumber ρ).get? (ρ.vars v) = (σ.get? v).map (TypeExpr.renumber ρ) := by
  rw [renumber, get?_ofList, ← List.map_reverse, lookup_map_renumberEntry,
    lookup_reverse σ.ascending]
  rfl

/-- **A renumbered substitution is known by what it binds.** -/
theorem eq_renumber {σ τ : Substitution}
    (h : ∀ v, τ.get? (ρ.vars v) = (σ.get? v).map (TypeExpr.renumber ρ)) : τ = σ.renumber ρ := by
  refine ext_get? fun w => ?_
  obtain ⟨v, rfl⟩ := ρ.vars.surjective w
  rw [h, get?_renumber]

@[simp] theorem renumber_empty : renumber ρ .empty = .empty := rfl

theorem renumber_bind (σ : Substitution) (v : VarId) (t : TypeExpr) :
    (σ.bind v t).renumber ρ = (σ.renumber ρ).bind (ρ.vars v) (t.renumber ρ) := by
  refine (eq_renumber ρ fun w => ?_).symm
  rw [get?_bind, get?_bind, get?_renumber]
  by_cases hw : w = v
  · rw [if_pos hw, if_pos (congrArg _ hw)]
    rfl
  · rw [if_neg hw, if_neg fun h => hw (ρ.vars.injective h)]

theorem renumber_bindAllIfAbsent (σ : Substitution) (es : List (VarId × TypeExpr)) :
    (σ.bindAllIfAbsent es).renumber ρ =
      (σ.renumber ρ).bindAllIfAbsent (es.map (renumberEntry ρ)) := by
  refine (eq_renumber ρ fun w => ?_).symm
  rw [get?_bindAllIfAbsent, get?_bindAllIfAbsent, get?_renumber, lookup_map_renumberEntry]
  cases σ.get? w <;> rfl

theorem renumber_ofList (es : List (VarId × TypeExpr)) :
    (ofList es).renumber ρ = ofList (es.map (renumberEntry ρ)) := by
  refine (eq_renumber ρ fun w => ?_).symm
  rw [get?_ofList, get?_ofList, ← List.map_reverse, lookup_map_renumberEntry]

theorem renumber_ofFormals (formals : List VarId) (args : List TypeExpr) :
    (ofFormals formals args).renumber ρ =
      ofFormals (formals.map ρ.vars) (args.map (TypeExpr.renumber ρ)) := by
  rw [ofFormals, renumber_ofList, ofFormals, List.zip_map]
  rfl

theorem renumber_extend (σ τ : Substitution) :
    (σ.extend τ).renumber ρ = (σ.renumber ρ).extend (τ.renumber ρ) := by
  refine (eq_renumber ρ fun w => ?_).symm
  rw [get?_extend, get?_extend, get?_renumber, get?_renumber]
  cases τ.get? w <;> rfl

end Substitution

/-- **Substituting and renumbering** can be done in either order. -/
theorem TypeExpr.renumber_substitute (ρ : Renumbering) (σ : Substitution) (t : TypeExpr) :
    (t.substitute σ).renumber ρ = (t.renumber ρ).substitute (σ.renumber ρ) := by
  have hmap : ∀ {ts : List TypeExpr},
      (∀ t ∈ ts, (t.substitute σ).renumber ρ = (t.renumber ρ).substitute (σ.renumber ρ)) →
      (ts.map (substitute σ)).map (renumber ρ) =
        (ts.map (renumber ρ)).map (substitute (σ.renumber ρ)) := fun h => by
    rw [List.map_map, List.map_map]
    exact List.map_congr_left h
  induction t with
  | raw c => rfl
  | app c args owner ihArgs ihOwner =>
    have howner : (owner.map (substitute σ)).map (renumber ρ) =
        (owner.map (renumber ρ)).map (substitute (σ.renumber ρ)) := by
      rw [Option.map_map, Option.map_map]
      exact Option.map_congr ihOwner
    rw [substitute_app, renumber_app, renumber_app, substitute_app, hmap ihArgs, howner]
  | wildcard us ls ihUppers ihLowers =>
    rw [substitute_wildcard, renumber_wildcard, renumber_wildcard, substitute_wildcard,
      hmap ihUppers, hmap ihLowers]
  | var v =>
    rw [renumber_var, substitute_var, substitute_var, Substitution.get?_renumber]
    cases σ.get? v <;> rfl
  | array t ih => exact congrArg array ih

end Generics
