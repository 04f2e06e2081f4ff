import Generics.Inference.Arguments
import Generics.Proofs.Renumbering.Hierarchy

/-!
# Inferred bindings under other numbers

Bindings are collected along the hierarchy in the order of a walk, and never in the order of the
numbers; so under other numbers the same bindings come in the same order. The walk takes as many
rounds as the table of classes has places, and the tables of two registries may differ in places that
are only reserved. Rounds beyond the defined classes meet nothing, so this makes no difference.

## Main results

* `Registry.Renumbered.impliedBindings` — what a type implies
* `Registry.Renumbered.determined`, `Registry.Renumbered.context` — what a supertype determines
-/

namespace Generics

namespace Registry

/-! ### Rounds enough -/

theorem inheritedUses_ne_nil {reg : Registry} {u : Use} (h : reg.inheritedUses u ≠ []) :
    u.1 ∈ reg.tableIds := by
  obtain ⟨w, hw⟩ := List.exists_mem_of_ne_nil _ h
  obtain ⟨t, ht, -⟩ := List.mem_filterMap.1 hw
  obtain ⟨d, hd⟩ := exists_class?_of_mem_supertypes ht
  exact List.mem_map.2 ⟨u.1.idx, List.mem_range.2 (lt_size_of_class? hd), rfl⟩

/-- The lineage is met in any number of rounds that are enough. -/
theorem lineage_eq_walk {reg : Registry} {n : Nat} (hn : reg.rounds ≤ n) (u : Use) :
    reg.lineage u = Search.walk reg.inheritedUses Prod.fst n [] [u] := by
  induction hn with
  | refl => rfl
  | @step m hm ih =>
    refine ih.trans (Search.walk_succ_of_expandable (fun _ => inheritedUses_ne_nil) ?_).symm
    have hle := List.length_filter_le (fun c => decide (c ∉ ([] : List ClassId))) reg.tableIds
    rw [tableIds, List.length_map, List.length_range] at hle
    exact Nat.lt_of_le_of_lt hle hm

namespace Renumbered

variable {ρ : Renumbering} {reg reg' : Registry} (h : Renumbered ρ reg reg')

include h

/-! ### Implied bindings -/

theorem useBindings (u : Use) :
    reg'.useBindings (u.renumber ρ) = (reg.useBindings u).map (renumberEntry ρ) := by
  have hformals : reg'.formalsFor (u.renumber ρ).1 (u.renumber ρ).2.length =
      (reg.formalsFor u.1 u.2.length).map ρ.vars := by
    rw [Use.renumber, List.length_map]
    exact h.formalsFor u.1 u.2.length
  rw [Registry.useBindings, Registry.useBindings, hformals, Use.renumber, List.zip_map]
  rfl

theorem inheritedUses (u : Use) :
    reg'.inheritedUses (u.renumber ρ) = (reg.inheritedUses u).map (Use.renumber ρ) := by
  have hsupertypes : reg'.supertypes (u.renumber ρ).1 =
      (reg.supertypes u.1).map (TypeExpr.renumber ρ) := h.supertypes u.1
  rw [Registry.inheritedUses, Registry.inheritedUses, hsupertypes, h.useBindings,
    ← Substitution.renumber_ofList, List.filterMap_map, List.map_filterMap]
  exact List.filterMap_congr fun t _ => use?_supertype t _

theorem lineage (u : Use) :
    reg'.lineage (u.renumber ρ) = (reg.lineage u).map (Use.renumber ρ) := by
  have hn : reg.rounds ≤ max reg.rounds reg'.rounds := Nat.le_max_left _ _
  have hn' : reg'.rounds ≤ max reg.rounds reg'.rounds := Nat.le_max_right _ _
  rw [lineage_eq_walk hn, lineage_eq_walk hn']
  have hkey : ∀ w : Use, (w.renumber ρ).1 = ρ.classes w.1 := fun _ => rfl
  exact Search.walk_map ρ.classes.injective hkey h.inheritedUses _ [] [u]

theorem inherited (u : Use) :
    reg'.inherited (u.renumber ρ) = (reg.inherited u).map (renumberEntry ρ) := by
  rw [Registry.inherited, Registry.inherited, h.lineage]
  refine flatMap_map_eq (fun w => ?_) (reg.lineage u)
  rw [h.inheritedUses]
  exact flatMap_map_eq h.useBindings _

/-- Bindings and the variables met, with other numbers. -/
def renumberMet (ρ : Renumbering) (r : Bindings × List VarId) : Bindings × List VarId :=
  (r.1.map (renumberEntry ρ), r.2.map ρ.vars)

section Following

variable {onVar onVar' : VarId → List VarId → Bindings × List VarId}

omit h in
theorem impliedAllWith {ts : List TypeExpr}
    (hts : ∀ t ∈ ts, ∀ seen, reg'.impliedWith onVar' (t.renumber ρ) (seen.map ρ.vars) =
      renumberMet ρ (reg.impliedWith onVar t seen)) (seen : List VarId) :
    reg'.impliedAllWith onVar' (ts.map (TypeExpr.renumber ρ)) (seen.map ρ.vars) =
      renumberMet ρ (reg.impliedAllWith onVar ts seen) := by
  induction ts generalizing seen with
  | nil => rfl
  | cons t ts ih =>
    have hfirst := hts t List.mem_cons_self seen
    have hrest := ih (fun s hs => hts s (List.mem_cons_of_mem _ hs)) (reg.impliedWith onVar t seen).2
    rw [List.map_cons, Registry.impliedAllWith, Registry.impliedAllWith, hfirst]
    simp only [renumberMet] at hrest ⊢
    simp only [hrest, List.map_append]

theorem impliedWith
    (hvar : ∀ v seen, onVar' (ρ.vars v) (seen.map ρ.vars) = renumberMet ρ (onVar v seen))
    (t : TypeExpr) (seen : List VarId) :
    reg'.impliedWith onVar' (t.renumber ρ) (seen.map ρ.vars) =
      renumberMet ρ (reg.impliedWith onVar t seen) := by
  induction t generalizing seen with
  | raw c => exact congrArg (fun b => (b, seen.map ρ.vars)) (h.inherited (c, []))
  | app c args owner _ ihOwner =>
    have howner : reg'.impliedOwnerWith onVar' (owner.map (TypeExpr.renumber ρ))
        (seen.map ρ.vars) = renumberMet ρ (reg.impliedOwnerWith onVar owner seen) := by
      cases owner with
      | none => rfl
      | some o => exact ihOwner o rfl seen
    have huse := h.useBindings (c, args)
    have hinherited := h.inherited (c, args)
    simp only [Use.renumber] at huse hinherited
    rw [TypeExpr.renumber_app, Registry.impliedWith, Registry.impliedWith, howner]
    simp only [renumberMet, huse, hinherited, List.map_append]
  | wildcard us ls ihUppers _ =>
    rw [TypeExpr.renumber_wildcard]
    exact impliedAllWith ihUppers seen
  | var v => exact hvar v seen
  | array elem ih => exact ih seen

end Following

theorem impliedFrom (n : Nat) (t : TypeExpr) (seen : List VarId) :
    reg'.impliedFrom n (t.renumber ρ) (seen.map ρ.vars) =
      renumberMet ρ (reg.impliedFrom n t seen) := by
  induction n generalizing t seen with
  | zero => exact h.impliedWith (fun _ _ => rfl) t seen
  | succ n ih =>
    have hfold : ∀ (bs : List TypeExpr) (acc : Bindings × List VarId),
        (bs.map (TypeExpr.renumber ρ)).foldl
          (fun acc b => (acc.1 ++ (reg'.impliedFrom n b acc.2).1,
            (reg'.impliedFrom n b acc.2).2)) (renumberMet ρ acc) =
        renumberMet ρ (bs.foldl
          (fun acc b => (acc.1 ++ (reg.impliedFrom n b acc.2).1,
            (reg.impliedFrom n b acc.2).2)) acc) := by
      intro bs
      induction bs with
      | nil => intro acc; rfl
      | cons b bs ihBounds =>
        intro acc
        rw [List.map_cons, List.foldl_cons, List.foldl_cons, ← ihBounds]
        have hb : reg'.impliedFrom n (b.renumber ρ) (renumberMet ρ acc).2 =
            renumberMet ρ (reg.impliedFrom n b acc.2) := ih b acc.2
        rw [hb]
        simp only [renumberMet, List.map_append]
    refine h.impliedWith (fun v seen => ?_) t seen
    by_cases hv : v ∈ seen
    · rw [if_pos hv, if_pos (ρ.mem_map_vars.2 hv)]
      rfl
    · rw [if_neg hv, if_neg (mt ρ.mem_map_vars.1 hv),
        h.bounds]
      exact hfold (reg.bounds v) ([], v :: seen)

/-- **The renumbered expression implies** what the expression implies, renumbered. -/
theorem impliedBindings (t : TypeExpr) :
    reg'.impliedBindings (t.renumber ρ) = (reg.impliedBindings t).renumber ρ := by
  have hbindings := h.impliedFrom (reg.params.size + 1) t []
  rw [List.map_nil] at hbindings
  rw [Registry.impliedBindings, Registry.impliedBindings, h.size_params, hbindings,
    Substitution.renumber_bindAllIfAbsent, Substitution.renumber_empty]
  rfl

/-! ### Determined arguments -/

omit h in
theorem matchAllFormals {formals : List VarId} {ps : List TypeExpr}
    (hps : ∀ p ∈ ps, ∀ t, matchFormals (formals.map ρ.vars) (p.renumber ρ) (t.renumber ρ) =
      (matchFormals formals p t).map (renumberEntry ρ)) (ts : List TypeExpr) :
    Generics.matchAllFormals (formals.map ρ.vars) (ps.map (TypeExpr.renumber ρ))
        (ts.map (TypeExpr.renumber ρ)) =
      (Generics.matchAllFormals formals ps ts).map (renumberEntry ρ) := by
  induction ps generalizing ts with
  | nil => cases ts <;> rfl
  | cons p ps ih =>
    cases ts with
    | nil => rfl
    | cons t ts =>
      rw [List.map_cons, List.map_cons, Generics.matchAllFormals, Generics.matchAllFormals,
        hps p List.mem_cons_self t, ih (fun q hq => hps q (List.mem_cons_of_mem _ hq)) ts,
        List.map_append]

omit h in
theorem matchFormals (formals : List VarId) (p t : TypeExpr) :
    Generics.matchFormals (formals.map ρ.vars) (p.renumber ρ) (t.renumber ρ) =
      (Generics.matchFormals formals p t).map (renumberEntry ρ) := by
  induction p generalizing t with
  | raw c => cases t <;> rfl
  | app c ps owner ihArgs _ =>
    rw [TypeExpr.renumber_app]
    cases t with
    | app d ts o =>
      rw [TypeExpr.renumber_app]
      simp only [Generics.matchFormals, ρ.classes.injective.eq_iff, List.length_map]
      split
      · exact matchAllFormals ihArgs ts
      · rfl
    | wildcard us ls =>
      rw [TypeExpr.renumber_wildcard]
      rfl
    | _ => rfl
  | wildcard us ls =>
    rw [TypeExpr.renumber_wildcard]
    cases t <;> rfl
  | var v =>
    simp only [TypeExpr.renumber_var, Generics.matchFormals, ρ.mem_map_vars]
    split <;> rfl
  | array p ih =>
    cases t with
    | array t => exact ih t
    | app d ts o =>
      rw [TypeExpr.renumber_app]
      rfl
    | wildcard us ls =>
      rw [TypeExpr.renumber_wildcard]
      rfl
    | _ => rfl

theorem determined (rounds : Nat) (source : ClassId) (target : Use) :
    reg'.determined rounds (ρ.classes source) (target.renumber ρ) =
      (reg.determined rounds source target).map (Substitution.renumber ρ) := by
  have hown : TypeExpr.ofClass (ρ.classes source)
      (TypeExpr.vars ((reg.formals source).map ρ.vars)) =
      (TypeExpr.ofClass source (TypeExpr.vars (reg.formals source))).renumber ρ := by
    rw [TypeExpr.renumber_ofClass, TypeExpr.map_renumber_vars]
  have htarget : (target.renumber ρ).1 = ρ.classes target.1 := rfl
  simp only [Registry.determined, h.formals, List.isEmpty_map, hown, htarget, h.view]
  split
  · rfl
  · cases reg.view rounds (TypeExpr.ofClass source (TypeExpr.vars (reg.formals source))) target.1 with
    | none => rfl
    | some r =>
      cases r with
      | none => rfl
      | some u =>
        cases u with
        | app d args owner =>
          simp only [Option.map_some, TypeExpr.renumber_app]
          have hmatch := matchAllFormals
            (fun p (_ : p ∈ args) => matchFormals (ρ := ρ) (reg.formals source) p) target.2
          rw [Substitution.renumber_bindAllIfAbsent, Substitution.renumber_empty, ← hmatch]
          rfl
        | wildcard us ls =>
          simp only [Option.map_some, TypeExpr.renumber_wildcard]
          rfl
        | _ => rfl

theorem context (rounds : Nat) (source target : TypeExpr) :
    reg'.context rounds (source.renumber ρ) (target.renumber ρ) =
      (reg.context rounds source target).map (Substitution.renumber ρ) := by
  have himplied := h.impliedBindings target
  have herased := h.erasure source
  cases target with
  | app c args owner =>
    rw [TypeExpr.renumber_app] at himplied ⊢
    simp only [Registry.context, himplied, herased]
    cases reg.erasure source with
    | none => rfl
    | some e =>
      cases e with
      | array e => rfl
      | plain s =>
        have hdetermined := h.determined rounds s (c, args)
        simp only [Use.renumber] at hdetermined
        simp only [Option.map_some, ErasedType.renumber, hdetermined, Option.map_map]
        refine Option.map_congr fun τ _ => ?_
        exact (Substitution.renumber_extend ρ _ τ).symm
  | wildcard us ls =>
    rw [TypeExpr.renumber_wildcard] at himplied ⊢
    exact congrArg some himplied
  | _ => exact congrArg some himplied

end Renumbered

end Registry

end Generics
