import Generics.Proofs.Assignability.Questions
import Generics.Proofs.Renumbering.Hierarchy

/-!
# Assignability under other numbers

One step of the question whether a type is assignable to another one asks the hierarchy and smaller
questions. If the smaller questions have the same answers under other numbers, so has the step; and
with every budget the question as a whole has the same answer, or none on both sides.

## Main results

* `Registry.Renumbered.assignableStep` — one step
* `Registry.Renumbered.assignable?` — the question
-/

namespace Generics

namespace Registry

namespace Renumbered

variable {ρ : Renumbering} {reg reg' : Registry} (h : Renumbered ρ reg reg')

include h

theorem fitsErasedBounds (t : TypeExpr) (v : VarId) :
    reg'.fitsErasedBounds (t.renumber ρ) (ρ.vars v) = reg.fitsErasedBounds t v := by
  by_cases heq : t = .var v
  · exact (if_pos (congrArg _ heq)).trans (if_pos heq).symm
  have hne : t.renumber ρ ≠ .var (ρ.vars v) := (TypeExpr.renumber_injective ρ).ne heq
  unfold Registry.fitsErasedBounds
  rw [if_neg hne, if_neg heq, h.erasure, h.typeParam?]
  cases reg.erasure t with
  | none => rfl
  | some erased =>
    cases reg.typeParam? v with
    | none => rfl
    | some p =>
      refine all_map_eq fun b _ => ?_
      rw [h.erasure]
      cases reg.erasure b with
      | none => rw [Option.map_none, Option.any_none, Option.any_none]
      | some bound => exact h.isRawAssignable bound erased

theorem argumentBounds (t : TypeExpr) :
    reg'.argumentBounds (t.renumber ρ) =
      ((reg.argumentBounds t).1.map (TypeExpr.renumber ρ),
        (reg.argumentBounds t).2.map (TypeExpr.renumber ρ)) := by
  cases t with
  | wildcard us ls =>
    rw [TypeExpr.renumber_wildcard, Registry.argumentBounds, h.orObject]
    rfl
  | app c args owner =>
    rw [TypeExpr.renumber_app]
    simp [Registry.argumentBounds]
  | _ => rfl

section Questions

variable {assign assign' : TypeExpr → TypeExpr → Option Bool}
  (hassign : ∀ s t, assign' (s.renumber ρ) (t.renumber ρ) = assign s t)

include hassign

theorem contained (arg : TypeExpr) (us ls : List TypeExpr) :
    reg'.contained assign' (arg.renumber ρ) (us.map (TypeExpr.renumber ρ))
        (ls.map (TypeExpr.renumber ρ)) = reg.contained assign arg us ls := by
  have hbelow : ((us.map (TypeExpr.renumber ρ)).allM fun u =>
      ((reg.argumentBounds arg).1.map (TypeExpr.renumber ρ)).anyM fun a => assign' a u) =
      us.allM fun u => (reg.argumentBounds arg).1.anyM fun a => assign a u :=
    allM_map_eq fun u _ => anyM_map_eq fun a _ => hassign a u
  have habove : ((ls.map (TypeExpr.renumber ρ)).allM fun l =>
      ((reg.argumentBounds arg).2.map (TypeExpr.renumber ρ)).anyM fun a => assign' l a) =
      ls.allM fun l => (reg.argumentBounds arg).2.anyM fun a => assign l a :=
    allM_map_eq fun l _ => anyM_map_eq fun a _ => hassign l a
  rw [Registry.contained, Registry.contained, h.argumentBounds]
  simp only [hbelow, habove]

theorem argumentFits (arg target : TypeExpr) :
    reg'.argumentFits assign' (arg.renumber ρ) (target.renumber ρ) =
      reg.argumentFits assign arg target := by
  by_cases heq : arg = target
  · exact (if_pos (congrArg _ heq)).trans (if_pos heq).symm
  · have hne : arg.renumber ρ ≠ target.renumber ρ := (TypeExpr.renumber_injective ρ).ne heq
    cases target with
    | wildcard us ls =>
      rw [TypeExpr.renumber_wildcard] at hne ⊢
      exact (if_neg hne).trans ((h.contained hassign arg us ls).trans (if_neg heq).symm)
    | var v =>
      refine (if_neg hne).trans (Eq.trans ?_ (if_neg heq).symm)
      exact congrArg some (h.fitsErasedBounds arg v)
    | raw c => exact (if_neg hne).trans (if_neg heq).symm
    | app c args owner =>
      rw [TypeExpr.renumber_app] at hne ⊢
      exact (if_neg hne).trans (if_neg heq).symm
    | array elem => exact (if_neg hne).trans (if_neg heq).symm

theorem argumentsFit (args targets : List TypeExpr) :
    reg'.argumentsFit assign' (args.map (TypeExpr.renumber ρ))
        (targets.map (TypeExpr.renumber ρ)) = reg.argumentsFit assign args targets := by
  rw [Registry.argumentsFit, Registry.argumentsFit, List.length_map, List.length_map, List.zip_map]
  split
  · refine allM_map_eq fun e _ => ?_
    rw [Prod.map_fst, Prod.map_snd]
    exact h.argumentFits hassign e.1 e.2
  · rfl

theorem viewFits (targets : List TypeExpr) (r : Option TypeExpr) :
    reg'.viewFits assign' (targets.map (TypeExpr.renumber ρ)) (r.map (TypeExpr.renumber ρ)) =
      reg.viewFits assign targets r := by
  cases r with
  | none => rfl
  | some t =>
    cases t with
    | app c args owner =>
      rw [Option.map_some, TypeExpr.renumber_app]
      exact h.argumentsFit hassign args targets
    | wildcard us ls =>
      rw [Option.map_some, TypeExpr.renumber_wildcard]
      rfl
    | _ => rfl

end Questions

/-- The view of a renumbered use is answered if that of the use is. -/
theorem answer_classView (rounds : Nat) (target : ClassId) (u : Use) :
    answer (reg'.classView rounds (ρ.classes target) (u.renumber ρ)) =
      (answer (reg.classView rounds target u)).map (renumberView ρ) := by
  rw [h.classView, answer_map]

/-- **One step has the same answer,** if the questions that it leads to have. -/
theorem assignableStep {assign assign' : List VarId → TypeExpr → TypeExpr → Option Bool}
    (hassign : ∀ seen s t,
      assign' (seen.map ρ.vars) (s.renumber ρ) (t.renumber ρ) = assign seen s t)
    (rounds : Nat) (seen : List VarId) (s t : TypeExpr) :
    reg'.assignableStep assign' rounds (seen.map ρ.vars) (s.renumber ρ) (t.renumber ρ) =
      reg.assignableStep assign rounds seen s t := by
  by_cases heq : s = t
  · exact (if_pos (congrArg _ heq)).trans (if_pos heq).symm
  have hne : s.renumber ρ ≠ t.renumber ρ := (TypeExpr.renumber_injective ρ).ne heq
  have hstep : ∀ {r r' : Option Bool} {u u' : Option Bool}, r' = r →
      (if s.renumber ρ = t.renumber ρ then u' else r') = if s = t then u else r := fun hr => by
    rw [if_neg hne, if_neg heq, hr]
  have hvar : ∀ v, (if ρ.vars v ∈ seen.map ρ.vars then some false
      else (reg'.bounds (ρ.vars v)).anyM fun b =>
        assign' (ρ.vars v :: seen.map ρ.vars) b (t.renumber ρ)) =
      if v ∈ seen then some false
      else (reg.bounds v).anyM fun b => assign (v :: seen) b t := by
    intro v
    simp only [ρ.mem_map_vars, h.bounds]
    split
    · rfl
    · exact anyM_map_eq fun b _ => hassign (v :: seen) b t
  have huppers : ∀ us, ((reg'.orObject (us.map (TypeExpr.renumber ρ))).anyM fun b =>
      assign' (seen.map ρ.vars) b (t.renumber ρ)) =
      (reg.orObject us).anyM fun b => assign seen b t := fun us => by
    rw [h.orObject]
    exact anyM_map_eq fun b _ => hassign seen b t
  have huse : ∀ {u : Use}, s.use? = some u → (s.renumber ρ).use? = some (u.renumber ρ) :=
    fun hu => by rw [TypeExpr.use?_renumber, hu, Option.map_some]
  cases t with
  | var v => exact hstep (congrArg some (h.fitsErasedBounds s v))
  | wildcard us ls =>
    rw [TypeExpr.renumber_wildcard] at hstep ⊢
    exact hstep (h.contained (hassign seen) s us ls)
  | raw c =>
    have hview : ∀ {u : Use}, s.use? = some u →
        reg'.assignableStep assign' rounds (seen.map ρ.vars) (s.renumber ρ) (.raw (ρ.classes c)) =
          reg.assignableStep assign rounds seen s (.raw c) := fun hu => by
      rw [assignableStep_raw_of_use? (huse hu) hne, assignableStep_raw_of_use? hu heq,
        h.answer_classView, Option.map_map]
      exact Option.map_congr fun r _ => Option.isSome_map
    cases s with
    | var v => exact hstep (hvar v)
    | wildcard us ls =>
      rw [TypeExpr.renumber_wildcard] at hstep ⊢
      exact hstep (huppers us)
    | array elem => exact hstep (congrArg some (h.isArraySupertype c))
    | raw d => exact hview rfl
    | app d args owner => exact hview rfl
  | app c targets owner =>
    have hview : ∀ {u : Use}, s.use? = some u →
        reg'.assignableStep assign' rounds (seen.map ρ.vars) (s.renumber ρ)
            ((TypeExpr.app c targets owner).renumber ρ) =
          reg.assignableStep assign rounds seen s (.app c targets owner) := fun hu => by
      rw [TypeExpr.renumber_app] at hne ⊢
      rw [assignableStep_of_use? (huse hu) hne, assignableStep_of_use? hu heq,
        h.answer_classView, Option.bind_map]
      exact Option.bind_congr fun r _ => h.viewFits (hassign seen) targets r
    rw [TypeExpr.renumber_app] at hvar huppers hstep
    cases s with
    | var v =>
      rw [TypeExpr.renumber_app]
      exact hstep (hvar v)
    | wildcard us ls =>
      rw [TypeExpr.renumber_wildcard] at hstep ⊢
      rw [TypeExpr.renumber_app]
      exact hstep (huppers us)
    | array elem =>
      rw [TypeExpr.renumber_app]
      exact hstep rfl
    | raw d => exact hview rfl
    | app d args owner => exact hview rfl
  | array elem =>
    cases s with
    | var v => exact hstep (hvar v)
    | wildcard us ls =>
      rw [TypeExpr.renumber_wildcard] at hstep ⊢
      exact hstep (huppers us)
    | array e => exact hstep (hassign seen e elem)
    | raw d => exact hstep rfl
    | app d args owner =>
      rw [TypeExpr.renumber_app] at hstep ⊢
      exact hstep rfl

theorem assignableFrom (n : Nat) (seen : List VarId) (s t : TypeExpr) :
    reg'.assignableFrom n (seen.map ρ.vars) (s.renumber ρ) (t.renumber ρ) =
      reg.assignableFrom n seen s t := by
  induction n generalizing seen s t with
  | zero => rfl
  | succ n ih => exact h.assignableStep ih n seen s t

/-- **Assignability does not depend on the numbers:** with the same budget the answer is the same, or
there is none on both sides. -/
theorem assignable? (budget : Nat) (s t : TypeExpr) :
    reg'.assignable? budget (s.renumber ρ) (t.renumber ρ) = reg.assignable? budget s t :=
  h.assignableFrom budget [] s t

end Renumbered

end Registry

end Generics
