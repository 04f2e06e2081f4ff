import Generics.Proofs.Hierarchy.ViewWalk
import Mathlib.Data.Set.Finite.Basic

/-!
# Walks without end

The walk to a view keeps uses apart by the class and the arguments, and of these there are
infinitely many. So it may go on for ever where a walk over classes would stop. It comes to an end
in two cases: if the target is reached, and if there are only finitely many uses to meet. In all
other cases it has none.

## Main definitions

* `Registry.above` — the uses that a use leads to

## Main results

* `Search.exists_closed_of_find_absent` — a search that has failed has met finitely many nodes
* `Search.exists_find_ne_unfinished_iff` — when a search comes to an answer
* `Registry.halts_view_iff` — when the view of a use is found or known not to exist
* `Registry.forall_halts_view_iff` — types of all shapes have views if uses of classes have
-/

namespace Generics

namespace Search

variable {α : Type} [DecidableEq α] {next : α → List α} {p : α → Bool}

/-- A search that fails has met everything, and that is a list of nodes. -/
theorem exists_closed_of_find_absent {n : Nat} {seen layer : List α}
    (hf : Frontier next seen layer) (h : find next id p n seen layer = .absent) :
    ∃ met, Frontier next met [] ∧ ∀ a, a ∈ seen ∨ a ∈ layer → a ∈ met := by
  induction n generalizing seen layer with
  | zero => cases h
  | succ n ih =>
    rw [find] at h
    cases hp : (fresh id seen layer).find? p with
    | some b =>
      simp only [hp] at h
      cases h
    | none =>
      simp only [hp] at h
      split at h
      · -- nothing is fresh, so the layer has been seen before
        rename_i hempty
        have hseen : ∀ a, a ∈ seen ∨ a ∈ layer → a ∈ seen := by
          intro a ha
          have hafter := mem_seen_after ha
          rwa [List.isEmpty_iff.1 hempty] at hafter
        exact ⟨seen, fun a ha b hb => Or.inl (hseen b (hf a ha b hb)), hseen⟩
      · obtain ⟨met, hclosed, hmet⟩ := ih hf.step h
        exact ⟨met, hclosed, fun a ha => hmet a (Or.inl (mem_seen_after ha))⟩

/-- **A search ends** exactly if a node with the property can be reached or there are only finitely
many nodes to meet. -/
theorem exists_find_ne_unfinished_iff {a : α} :
    (∃ n, find next id p n [] [a] ≠ .unfinished) ↔
      (∃ b, Reaches next a b ∧ p b = true) ∨ {b | Reaches next a b}.Finite := by
  constructor
  · rintro ⟨n, hn⟩
    cases hfind : find next id p n [] [a] with
    | found b =>
      obtain ⟨hb, c, hc, hreach⟩ := reaches_of_find hfind
      exact Or.inl ⟨b, List.mem_singleton.1 hc ▸ hreach, hb⟩
    | absent =>
      obtain ⟨met, hclosed, hmet⟩ := exists_closed_of_find_absent (frontier_nil next [a]) hfind
      refine Or.inr (met.finite_toSet.subset fun b hb => ?_)
      exact hclosed.mem_of_reaches (hmet a (Or.inr List.mem_cons_self)) hb
    | unfinished => exact absurd hfind hn
  · rintro (⟨b, hab, hb⟩ | hfinite)
    · obtain ⟨n, c, hc⟩ := exists_find_of_reaches hab hb
      exact ⟨n, by rw [hc]; exact nofun⟩
    · have hexp : ∀ b ∈ [a], ∀ c, Reaches next b c → next c ≠ [] →
          id c ∈ hfinite.toFinset.toList := by
        intro b hb c hbc _
        rw [id, Finset.mem_toList, Set.Finite.mem_toFinset]
        exact List.mem_singleton.1 hb ▸ hbc
      exact ⟨_, find_ne_unfinished hexp (Nat.lt_succ_self _)⟩

end Search

namespace Registry

variable {reg : Registry}

/-- The use and all uses that it leads to. -/
def above (reg : Registry) (u : Use) : Set Use := {w | Search.Reaches reg.superUses u w}

theorem not_endless_iff {target : ClassId} {u : Use} :
    ¬ reg.Endless target u ↔ (∃ w ∈ reg.above u, w.1 = target) ∨ (reg.above u).Finite := by
  rw [Endless, not_forall]
  refine Search.exists_find_ne_unfinished_iff.trans (or_congr_left (exists_congr fun w => ?_))
  rw [beq_iff_eq]
  rfl

/-- A view of a use is found or known not to exist unless the walk is endless. -/
theorem halts_view_iff_not_endless {s : TypeExpr} {u : Use} (hs : s.use? = some u)
    (target : ClassId) : (Halts fun n => reg.view n s target) ↔ ¬ reg.Endless target u := by
  simp only [view_of_use? hs]
  refine ⟨?_, exists_answers_of_not_endless⟩
  rintro ⟨r, hr⟩ hend
  obtain ⟨n, hn⟩ := hr.exists_eq
  rw [hend n] at hn
  cases hn

/-- **When the walk to a view ends.** The target is reached, or there are finitely many uses above.
-/
theorem halts_view_iff {s : TypeExpr} {u : Use} (hs : s.use? = some u) (target : ClassId) :
    (Halts fun n => reg.view n s target) ↔
      (∃ w ∈ reg.above u, w.1 = target) ∨ (reg.above u).Finite :=
  (halts_view_iff_not_endless hs target).trans not_endless_iff

/-- Types of all shapes have their views, or are known to have none, exactly if no walk from a use
is endless. -/
theorem forall_halts_view_iff :
    (∀ t target, Halts fun n => reg.view n t target) ↔ ∀ target u, ¬ reg.Endless target u := by
  refine ⟨fun h target u => ?_, fun h t target => halts_view h t target⟩
  exact (halts_view_iff_not_endless (Use.use?_toType u) target).1 (h u.toType target)

end Registry

end Generics
