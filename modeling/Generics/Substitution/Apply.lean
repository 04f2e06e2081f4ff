import Generics.Substitution.Basic
import Generics.TypeExpr.Variables

/-!
# Applying a substitution

All bound variables are replaced at once; what replaces them is not looked at again. Unbound
variables stay, and no bound is checked.

## Main definitions

* `TypeExpr.substitute`.

## Main results

* An equation per shape, over the members of the lists.
* `substitute_empty`: the empty substitution changes nothing.
* `substitute_of_not_hasVars`: neither does any other where there is no variable.
-/

namespace Generics

namespace TypeExpr

/-- Replace every variable that `σ` binds. -/
def substitute (σ : Substitution) : TypeExpr → TypeExpr :=
  interpret {
    raw := .raw
    app := .app
    wildcard := .wildcard
    var := fun v => (σ.get? v).getD (.var v)
    array := .array }

variable (σ : Substitution)

@[simp] theorem substitute_raw (c : ClassId) : substitute σ (.raw c) = .raw c := rfl

@[simp] theorem substitute_app (c : ClassId) (args : List TypeExpr) (owner : Option TypeExpr) :
    substitute σ (.app c args owner) =
      .app c (args.map (substitute σ)) (owner.map (substitute σ)) :=
  interpret_app _ c args owner

@[simp] theorem substitute_wildcard (us ls : List TypeExpr) :
    substitute σ (.wildcard us ls) =
      .wildcard (us.map (substitute σ)) (ls.map (substitute σ)) :=
  interpret_wildcard _ us ls

@[simp] theorem substitute_var (v : VarId) :
    substitute σ (.var v) = (σ.get? v).getD (.var v) := rfl

@[simp] theorem substitute_array (t : TypeExpr) :
    substitute σ (.array t) = .array (substitute σ t) := rfl

/-- Two substitutions that agree on the variables of an expression act alike on it. -/
theorem substitute_congr {σ τ : Substitution} {t : TypeExpr}
    (h : ∀ v ∈ t.occurrences, σ.get? v = τ.get? v) : substitute σ t = substitute τ t := by
  induction t with
  | raw c => rfl
  | app c args owner ihArgs ihOwner =>
    have hArgs : args.map (substitute σ) = args.map (substitute τ) :=
      List.map_congr_left fun a ha => ihArgs a ha fun v hv =>
        h v (by simp only [occurrences_app, List.mem_append, List.mem_flatMap]
                exact Or.inl ⟨a, ha, hv⟩)
    have hOwner : owner.map (substitute σ) = owner.map (substitute τ) := by
      cases owner with
      | none => rfl
      | some o => simp [ihOwner o rfl fun v hv => h v (by simp [hv])]
    simp [hArgs, hOwner]
  | wildcard us ls ihUppers ihLowers =>
    have hUppers : us.map (substitute σ) = us.map (substitute τ) :=
      List.map_congr_left fun u hu => ihUppers u hu fun v hv =>
        h v (by simp only [occurrences_wildcard, List.mem_append, List.mem_flatMap]
                exact Or.inl ⟨u, hu, hv⟩)
    have hLowers : ls.map (substitute σ) = ls.map (substitute τ) :=
      List.map_congr_left fun l hl => ihLowers l hl fun v hv =>
        h v (by simp only [occurrences_wildcard, List.mem_append, List.mem_flatMap]
                exact Or.inr ⟨l, hl, hv⟩)
    simp [hUppers, hLowers]
  | var v => simp [h v (by simp)]
  | array t ih => simp [ih h]

/-- The empty substitution changes nothing. -/
@[simp] theorem substitute_empty (t : TypeExpr) : substitute .empty t = t := by
  induction t with
  | raw c => rfl
  | app c args owner ihArgs ihOwner =>
    have hArgs : args.map (substitute .empty) = args :=
      (List.map_congr_left ihArgs).trans (List.map_id _)
    have hOwner : owner.map (substitute .empty) = owner := by
      cases owner with
      | none => rfl
      | some o => simp [ihOwner o rfl]
    simp [hArgs, hOwner]
  | wildcard us ls ihUppers ihLowers =>
    have hUppers : us.map (substitute .empty) = us :=
      (List.map_congr_left ihUppers).trans (List.map_id _)
    have hLowers : ls.map (substitute .empty) = ls :=
      (List.map_congr_left ihLowers).trans (List.map_id _)
    simp [hUppers, hLowers]
  | var v => rfl
  | array t ih => simp [ih]

/-- An expression has a variable exactly if one occurs in it. -/
theorem hasVars_iff (t : TypeExpr) : t.hasVars = true ↔ t.occurrences ≠ [] := by
  induction t with
  | raw c => simp
  | app c args owner ihArgs ihOwner =>
    have hArgs : args.any hasVars = true ↔ args.flatMap occurrences ≠ [] := by
      simp only [List.any_eq_true, ne_eq, List.flatMap_eq_nil_iff, Classical.not_forall]
      exact ⟨fun ⟨a, ha, h⟩ => ⟨a, ha, (ihArgs a ha).1 h⟩,
        fun ⟨a, ha, h⟩ => ⟨a, ha, (ihArgs a ha).2 h⟩⟩
    have hOwner : owner.any hasVars = true ↔ (owner.map occurrences).getD [] ≠ [] := by
      cases owner with
      | none => simp
      | some o => simpa using ihOwner o rfl
    simp only [hasVars_app, Bool.or_eq_true, hArgs, hOwner, occurrences_app, ne_eq,
      List.append_eq_nil_iff, Classical.not_and_iff_not_or_not]
  | wildcard us ls ihUppers ihLowers =>
    have hUppers : us.any hasVars = true ↔ us.flatMap occurrences ≠ [] := by
      simp only [List.any_eq_true, ne_eq, List.flatMap_eq_nil_iff, Classical.not_forall]
      exact ⟨fun ⟨a, ha, h⟩ => ⟨a, ha, (ihUppers a ha).1 h⟩,
        fun ⟨a, ha, h⟩ => ⟨a, ha, (ihUppers a ha).2 h⟩⟩
    have hLowers : ls.any hasVars = true ↔ ls.flatMap occurrences ≠ [] := by
      simp only [List.any_eq_true, ne_eq, List.flatMap_eq_nil_iff, Classical.not_forall]
      exact ⟨fun ⟨a, ha, h⟩ => ⟨a, ha, (ihLowers a ha).1 h⟩,
        fun ⟨a, ha, h⟩ => ⟨a, ha, (ihLowers a ha).2 h⟩⟩
    simp only [hasVars_wildcard, Bool.or_eq_true, hUppers, hLowers, occurrences_wildcard, ne_eq,
      List.append_eq_nil_iff, Classical.not_and_iff_not_or_not]
  | var v => simp
  | array t ih => simpa using ih

/-- Where no variable occurs, a substitution changes nothing. -/
theorem substitute_of_not_hasVars {t : TypeExpr} (h : t.hasVars = false) : substitute σ t = t := by
  have hocc : t.occurrences = [] := by
    have := mt (hasVars_iff t).2 (by simp [h])
    simpa using this
  rw [@substitute_congr σ .empty t (by simp [hocc]), substitute_empty]

end TypeExpr

end Generics
