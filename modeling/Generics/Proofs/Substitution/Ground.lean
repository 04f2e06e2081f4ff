import Generics.Substitution.Apply

/-!
# Substituting one after the other, and everything at once

Two substitutions in a row act as one that does to every variable what the two do. A substitution
that binds every variable of an expression to a concrete type leaves no variable, and without
wildcards in the expression what is left is concrete.

## Main definitions

* `Substitution.GroundOn` — every variable of an expression is bound to a concrete type

## Main results

* `TypeExpr.mem_occurrences_substitute` — where the variables of the result come from
* `TypeExpr.substitute_substitute` — two substitutions in a row
* `TypeExpr.hasVars_substitute`, `TypeExpr.isConcrete_substitute`
-/

namespace Generics

namespace TypeExpr

/-! ### Variables and concrete types -/

theorem mem_occurrences_app {v : VarId} {c : ClassId} {args : List TypeExpr}
    {owner : Option TypeExpr} :
    v ∈ (app c args owner).occurrences ↔
      (∃ a ∈ args, v ∈ a.occurrences) ∨ ∃ o ∈ owner, v ∈ o.occurrences := by
  rw [occurrences_app, List.mem_append, List.mem_flatMap]
  cases owner <;> simp

theorem mem_occurrences_wildcard {v : VarId} {us ls : List TypeExpr} :
    v ∈ (wildcard us ls).occurrences ↔
      (∃ u ∈ us, v ∈ u.occurrences) ∨ ∃ l ∈ ls, v ∈ l.occurrences := by
  rw [occurrences_wildcard, List.mem_append, List.mem_flatMap, List.mem_flatMap]

theorem forall_mem_occurrences_app {P : VarId → Prop} {c : ClassId} {args : List TypeExpr}
    {owner : Option TypeExpr} :
    (∀ v ∈ (app c args owner).occurrences, P v) ↔
      (∀ a ∈ args, ∀ v ∈ a.occurrences, P v) ∧ ∀ o ∈ owner, ∀ v ∈ o.occurrences, P v := by
  rw [occurrences_app, List.forall_mem_append, List.forall_mem_flatMap]
  cases owner <;> simp

theorem forall_mem_occurrences_wildcard {P : VarId → Prop} {us ls : List TypeExpr} :
    (∀ v ∈ (wildcard us ls).occurrences, P v) ↔
      (∀ u ∈ us, ∀ v ∈ u.occurrences, P v) ∧ ∀ l ∈ ls, ∀ v ∈ l.occurrences, P v := by
  rw [occurrences_wildcard, List.forall_mem_append, List.forall_mem_flatMap,
    List.forall_mem_flatMap]

theorem hasVars_eq_false_iff {t : TypeExpr} : t.hasVars = false ↔ ∀ v, v ∉ t.occurrences := by
  rw [← List.eq_nil_iff_forall_not_mem, Bool.eq_false_iff, ne_eq, hasVars_iff, Classical.not_not]

theorem isConcrete_app_iff {c : ClassId} {args : List TypeExpr} {owner : Option TypeExpr} :
    (app c args owner).isConcrete = true ↔
      (∀ a ∈ args, a.isConcrete = true) ∧ ∀ o ∈ owner, o.isConcrete = true := by
  rw [isConcrete_app, Bool.and_eq_true, List.all_eq_true, Option.all_eq_true]
  rfl

theorem hasVars_app_eq_false_iff {c : ClassId} {args : List TypeExpr} {owner : Option TypeExpr} :
    (app c args owner).hasVars = false ↔
      (∀ a ∈ args, a.hasVars = false) ∧ ∀ o ∈ owner, o.hasVars = false := by
  rw [hasVars_app, Bool.or_eq_false_iff, List.any_eq_false, Option.any_eq_false]
  simp only [Bool.not_eq_true, Option.mem_def]

theorem hasWildcards_app_eq_false_iff {c : ClassId} {args : List TypeExpr}
    {owner : Option TypeExpr} :
    (app c args owner).hasWildcards = false ↔
      (∀ a ∈ args, a.hasWildcards = false) ∧ ∀ o ∈ owner, o.hasWildcards = false := by
  rw [hasWildcards_app, Bool.or_eq_false_iff, List.any_eq_false, Option.any_eq_false]
  simp only [Bool.not_eq_true, Option.mem_def]

/-- An expression without wildcards is concrete exactly if no variable occurs in it. -/
theorem isConcrete_iff_of_not_hasWildcards {t : TypeExpr} (hw : t.hasWildcards = false) :
    t.isConcrete = true ↔ t.hasVars = false := by
  induction t with
  | raw c => simp
  | app c args owner ihArgs ihOwner =>
    obtain ⟨hwargs, hwowner⟩ := hasWildcards_app_eq_false_iff.1 hw
    rw [isConcrete_app_iff, hasVars_app_eq_false_iff]
    exact and_congr (forall₂_congr fun a ha => ihArgs a ha (hwargs a ha))
      (forall₂_congr fun o ho => ihOwner o ho (hwowner o ho))
  | wildcard us ls => cases hw
  | var v => simp
  | array elem ih => exact ih hw

/-- No wildcard occurs in a concrete type. -/
theorem not_hasWildcards_of_isConcrete {t : TypeExpr} (ht : t.isConcrete = true) :
    t.hasWildcards = false := by
  induction t with
  | raw c => rfl
  | app c args owner ihArgs ihOwner =>
    obtain ⟨hargs, howner⟩ := isConcrete_app_iff.1 ht
    rw [hasWildcards_app_eq_false_iff]
    exact ⟨fun a ha => ihArgs a ha (hargs a ha), fun o ho => ihOwner o ho (howner o ho)⟩
  | wildcard us ls => cases ht
  | var v => cases ht
  | array elem ih => exact ih ht

theorem hasVars_of_isConcrete {t : TypeExpr} (ht : t.isConcrete = true) : t.hasVars = false :=
  (isConcrete_iff_of_not_hasWildcards (not_hasWildcards_of_isConcrete ht)).1 ht

/-- A substitution leaves a concrete type as it is. -/
theorem substitute_of_isConcrete {t : TypeExpr} (ht : t.isConcrete = true) (σ : Substitution) :
    t.substitute σ = t := substitute_of_not_hasVars σ (hasVars_of_isConcrete ht)

end TypeExpr

/-- Every variable of the expression is bound to a concrete type. -/
def Substitution.GroundOn (σ : Substitution) (t : TypeExpr) : Prop :=
  ∀ v ∈ t.occurrences, ∃ u, σ.get? v = some u ∧ u.isConcrete = true

instance (σ : Substitution) (t : TypeExpr) : Decidable (σ.GroundOn t) :=
  decidable_of_iff (∀ v ∈ t.occurrences, (σ.get? v).any TypeExpr.isConcrete = true)
    (forall_congr' fun _ => imp_congr_right fun _ => Option.any_eq_true _ _)

namespace Substitution.GroundOn

variable {σ : Substitution} {c : ClassId} {args : List TypeExpr} {owner : Option TypeExpr}

theorem of_arg (h : σ.GroundOn (.app c args owner)) {a : TypeExpr} (ha : a ∈ args) : σ.GroundOn a :=
  fun v hv => h v (TypeExpr.mem_occurrences_app.2 (Or.inl ⟨a, ha, hv⟩))

theorem of_owner (h : σ.GroundOn (.app c args owner)) {o : TypeExpr} (ho : o ∈ owner) :
    σ.GroundOn o := fun v hv => h v (TypeExpr.mem_occurrences_app.2 (Or.inr ⟨o, ho, hv⟩))

end Substitution.GroundOn

namespace TypeExpr

/-! ### After a substitution -/

/-- The variables of the result are those of what the variables are replaced by. -/
theorem mem_occurrences_substitute {σ : Substitution} {t : TypeExpr} {w : VarId} :
    w ∈ (t.substitute σ).occurrences ↔
      ∃ v ∈ t.occurrences, w ∈ (substitute σ (.var v)).occurrences := by
  induction t with
  | raw c => simp
  | app c args owner ihArgs ihOwner =>
    rw [substitute_app, mem_occurrences_app]
    constructor
    · rintro (⟨_, hmem, hw⟩ | ⟨_, hmem, hw⟩)
      · obtain ⟨a, ha, rfl⟩ := List.mem_map.1 hmem
        obtain ⟨v, hv, hvw⟩ := (ihArgs a ha).1 hw
        exact ⟨v, mem_occurrences_app.2 (Or.inl ⟨a, ha, hv⟩), hvw⟩
      · obtain ⟨o, ho, rfl⟩ := Option.map_eq_some_iff.1 hmem
        obtain ⟨v, hv, hvw⟩ := (ihOwner o ho).1 hw
        exact ⟨v, mem_occurrences_app.2 (Or.inr ⟨o, ho, hv⟩), hvw⟩
    · rintro ⟨v, hv, hvw⟩
      rcases mem_occurrences_app.1 hv with ⟨a, ha, hv⟩ | ⟨o, ho, hv⟩
      · exact Or.inl ⟨_, List.mem_map_of_mem ha, (ihArgs a ha).2 ⟨v, hv, hvw⟩⟩
      · exact Or.inr ⟨_, Option.map_eq_some_iff.2 ⟨o, ho, rfl⟩, (ihOwner o ho).2 ⟨v, hv, hvw⟩⟩
  | wildcard us ls ihUppers ihLowers =>
    rw [substitute_wildcard, mem_occurrences_wildcard]
    constructor
    · rintro (⟨_, hmem, hw⟩ | ⟨_, hmem, hw⟩)
      · obtain ⟨u, hu, rfl⟩ := List.mem_map.1 hmem
        obtain ⟨v, hv, hvw⟩ := (ihUppers u hu).1 hw
        exact ⟨v, mem_occurrences_wildcard.2 (Or.inl ⟨u, hu, hv⟩), hvw⟩
      · obtain ⟨l, hl, rfl⟩ := List.mem_map.1 hmem
        obtain ⟨v, hv, hvw⟩ := (ihLowers l hl).1 hw
        exact ⟨v, mem_occurrences_wildcard.2 (Or.inr ⟨l, hl, hv⟩), hvw⟩
    · rintro ⟨v, hv, hvw⟩
      rcases mem_occurrences_wildcard.1 hv with ⟨u, hu, hv⟩ | ⟨l, hl, hv⟩
      · exact Or.inl ⟨_, List.mem_map_of_mem hu, (ihUppers u hu).2 ⟨v, hv, hvw⟩⟩
      · exact Or.inr ⟨_, List.mem_map_of_mem hl, (ihLowers l hl).2 ⟨v, hv, hvw⟩⟩
  | var v => simp
  | array elem ih => exact ih

/-- What a variable that is bound becomes. -/
theorem substitute_var_of_get? {σ : Substitution} {v : VarId} {t : TypeExpr}
    (h : σ.get? v = some t) : substitute σ (.var v) = t := by
  rw [substitute_var, h, Option.getD_some]

/-- If every variable is bound to a concrete type, none is left. -/
theorem hasVars_substitute {σ : Substitution} {t : TypeExpr} (h : σ.GroundOn t) :
    (t.substitute σ).hasVars = false := by
  rw [hasVars_eq_false_iff]
  intro w hw
  obtain ⟨v, hv, hvw⟩ := mem_occurrences_substitute.1 hw
  obtain ⟨u, hu, hc⟩ := h v hv
  rw [substitute_var_of_get? hu] at hvw
  exact hasVars_eq_false_iff.1 (hasVars_of_isConcrete hc) w hvw

/-- If besides there is no wildcard, the result is concrete. -/
theorem isConcrete_substitute {σ : Substitution} {t : TypeExpr} (hw : t.hasWildcards = false)
    (h : σ.GroundOn t) : (t.substitute σ).isConcrete = true := by
  induction t with
  | raw c => rfl
  | app c args owner ihArgs ihOwner =>
    obtain ⟨hwargs, hwowner⟩ := hasWildcards_app_eq_false_iff.1 hw
    rw [substitute_app, isConcrete_app_iff]
    constructor
    · intro b hb
      obtain ⟨a, ha, rfl⟩ := List.mem_map.1 hb
      exact ihArgs a ha (hwargs a ha) (h.of_arg ha)
    · intro p hp
      obtain ⟨o, ho, rfl⟩ := Option.map_eq_some_iff.1 hp
      exact ihOwner o ho (hwowner o ho) (h.of_owner ho)
  | wildcard us ls => cases hw
  | var v =>
    obtain ⟨u, hu, hc⟩ := h v List.mem_cons_self
    rwa [substitute_var_of_get? hu]
  | array elem ih => exact ih hw h

/-- **Two substitutions in a row** act as one that does to every variable what the two do. -/
theorem substitute_substitute {σ τ ρ : Substitution} {t : TypeExpr}
    (h : ∀ v ∈ t.occurrences, (substitute σ (.var v)).substitute τ = substitute ρ (.var v)) :
    (t.substitute σ).substitute τ = t.substitute ρ := by
  induction t with
  | raw c => rfl
  | app c args owner ihArgs ihOwner =>
    have hargs : (args.map (substitute σ)).map (substitute τ) = args.map (substitute ρ) := by
      rw [List.map_map]
      exact List.map_congr_left fun a ha =>
        ihArgs a ha fun v hv => h v (mem_occurrences_app.2 (Or.inl ⟨a, ha, hv⟩))
    have howner : (owner.map (substitute σ)).map (substitute τ) = owner.map (substitute ρ) := by
      cases owner with
      | none => rfl
      | some o =>
        exact congrArg some
          (ihOwner o rfl fun v hv => h v (mem_occurrences_app.2 (Or.inr ⟨o, rfl, hv⟩)))
    rw [substitute_app, substitute_app, substitute_app, hargs, howner]
  | wildcard us ls ihUppers ihLowers =>
    have huppers : (us.map (substitute σ)).map (substitute τ) = us.map (substitute ρ) := by
      rw [List.map_map]
      exact List.map_congr_left fun u hu =>
        ihUppers u hu fun v hv => h v (mem_occurrences_wildcard.2 (Or.inl ⟨u, hu, hv⟩))
    have hlowers : (ls.map (substitute σ)).map (substitute τ) = ls.map (substitute ρ) := by
      rw [List.map_map]
      exact List.map_congr_left fun l hl =>
        ihLowers l hl fun v hv => h v (mem_occurrences_wildcard.2 (Or.inr ⟨l, hl, hv⟩))
    rw [substitute_wildcard, substitute_wildcard, substitute_wildcard, huppers, hlowers]
  | var v => exact h v List.mem_cons_self
  | array elem ih => exact congrArg array (ih h)

end TypeExpr

end Generics
