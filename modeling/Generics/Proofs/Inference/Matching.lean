import Generics.Inference.Arguments
import Generics.Proofs.Substitution.Ground

/-!
# Matching a pattern against an instance of it

The arguments of a supertype view are patterns over the formals of a class. Matched against what a
substitution makes of them, they give back what the substitution binds, for every formal that stands
in a pattern where matching looks: outside wildcards and owners.

## Main definitions

* `TypeExpr.exposed` — the variables outside wildcards and owners

## Main results

* `mem_matchFormals_substitute_iff` — which bindings come out, and no others
* `get?_matchAllFormals_substitute` — so exposed formals are bound as they were
-/

namespace Generics

/-- The variables of an expression that stand outside wildcards and owners. -/
def TypeExpr.exposed : TypeExpr → List VarId :=
  interpret {
    raw := fun _ => []
    app := fun _ args _ => args.flatten
    wildcard := fun _ _ => []
    var := fun v => [v]
    array := id }

theorem TypeExpr.mem_exposed_app {v : VarId} {c : ClassId} {args : List TypeExpr}
    {owner : Option TypeExpr} :
    v ∈ (app c args owner).exposed ↔ ∃ a ∈ args, v ∈ a.exposed := by
  have happ : (app c args owner).exposed = args.flatMap exposed := by
    rw [exposed, interpret_app, List.flatMap]
  rw [happ, List.mem_flatMap]

variable {formals : List VarId} {σ : Substitution} {v : VarId} {t : TypeExpr}

theorem mem_matchAllFormals_substitute_iff {ps : List TypeExpr} :
    (v, t) ∈ matchAllFormals formals ps (ps.map (TypeExpr.substitute σ)) ↔
      ∃ p ∈ ps, (v, t) ∈ matchFormals formals p (p.substitute σ) := by
  induction ps with
  | nil => simp [matchAllFormals]
  | cons p ps ih =>
    rw [List.map_cons, matchAllFormals, List.mem_append, ih]
    simp

/-- **What matching gives back:** the exposed formals, with what stands in their place. -/
theorem mem_matchFormals_substitute_iff {p : TypeExpr} :
    (v, t) ∈ matchFormals formals p (p.substitute σ) ↔
      v ∈ formals ∧ v ∈ p.exposed ∧ t = (TypeExpr.var v).substitute σ := by
  induction p with
  | raw c => simp [matchFormals, TypeExpr.exposed, TypeExpr.interpret_raw]
  | app c ps owner ih _ =>
    have hlength : ps.length = (ps.map (TypeExpr.substitute σ)).length := (List.length_map _).symm
    rw [TypeExpr.substitute_app, matchFormals, if_pos ⟨rfl, hlength⟩,
      mem_matchAllFormals_substitute_iff, TypeExpr.mem_exposed_app]
    constructor
    · rintro ⟨p, hp, h⟩
      obtain ⟨hformal, hexposed, ht⟩ := (ih p hp).1 h
      exact ⟨hformal, ⟨p, hp, hexposed⟩, ht⟩
    · rintro ⟨hformal, ⟨p, hp, hexposed⟩, ht⟩
      exact ⟨p, hp, (ih p hp).2 ⟨hformal, hexposed, ht⟩⟩
  | wildcard us ls _ _ => simp [matchFormals, TypeExpr.exposed, TypeExpr.interpret_wildcard]
  | var w =>
    have hexposed : v ∈ (TypeExpr.var w).exposed ↔ v = w := List.mem_singleton
    rw [matchFormals, hexposed]
    split
    · rename_i hw
      rw [List.mem_singleton, Prod.mk.injEq]
      constructor
      · rintro ⟨rfl, rfl⟩
        exact ⟨hw, rfl, rfl⟩
      · rintro ⟨-, rfl, rfl⟩
        exact ⟨rfl, rfl⟩
    · rename_i hw
      refine ⟨fun h => absurd h List.not_mem_nil, ?_⟩
      rintro ⟨hv, rfl, -⟩
      exact absurd hv hw
  | array p ih => exact ih

/-- A key that has one value only is looked up to it. -/
theorem lookup_of_forall_eq {es : Bindings} {t : TypeExpr} (hmem : ∃ u, (v, u) ∈ es)
    (h : ∀ u, (v, u) ∈ es → u = t) : es.lookup v = some t := by
  cases hl : es.lookup v with
  | none =>
    obtain ⟨u, hu⟩ := hmem
    have hne := List.lookup_eq_none_iff.1 hl (v, u) hu
    simp at hne
  | some u =>
    obtain ⟨before, after, he, -⟩ := List.lookup_eq_some_iff.1 hl
    rw [h u (by rw [he]; exact List.mem_append_right _ List.mem_cons_self)]

/-- A formal that is exposed in some pattern is bound to what stands in its place. -/
theorem get?_matchAllFormals_substitute {ps : List TypeExpr} (hv : v ∈ formals)
    (hexposed : ∃ p ∈ ps, v ∈ p.exposed) :
    (Substitution.empty.bindAllIfAbsent
        (matchAllFormals formals ps (ps.map (TypeExpr.substitute σ)))).get? v =
      some ((TypeExpr.var v).substitute σ) := by
  rw [Substitution.get?_bindAllIfAbsent, Substitution.get?_empty, Option.none_or]
  obtain ⟨p, hp, hpv⟩ := hexposed
  refine lookup_of_forall_eq ⟨_, mem_matchAllFormals_substitute_iff.2
    ⟨p, hp, mem_matchFormals_substitute_iff.2 ⟨hv, hpv, rfl⟩⟩⟩ fun u hu => ?_
  obtain ⟨q, -, hq⟩ := mem_matchAllFormals_substitute_iff.1 hu
  exact (mem_matchFormals_substitute_iff.1 hq).2.2

end Generics
