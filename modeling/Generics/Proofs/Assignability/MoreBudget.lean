import Generics.Assignability
import Generics.Proofs.Hierarchy.ViewWalk

/-!
# More budget never loses an answer about assignability

One step of the definition asks its smaller questions with one step less, so an answer that is there
with some budget stays with every larger one.

## Main results

* `Registry.assignableStep_refines` — one step keeps the comparison
* `Registry.assignable?_refines`, `Registry.answers_assignable?`
-/

namespace Generics

namespace Registry

variable {reg : Registry}

theorem contained_rel (C : Comparison) {assign assign' : TypeExpr → TypeExpr → Option Bool}
    (h : ∀ s t, C.rel (assign s t) (assign' s t)) (arg : TypeExpr) (uppers lowers : List TypeExpr) :
    C.rel (reg.contained assign arg uppers lowers) (reg.contained assign' arg uppers lowers) := by
  refine C.bind ?_ fun below => C.bind ?_ fun above => C.some (below && above)
  · exact C.allM fun u _ => C.anyM fun a _ => h a u
  · exact C.allM fun l _ => C.anyM fun a _ => h l a

theorem argumentFits_rel (C : Comparison) {assign assign' : TypeExpr → TypeExpr → Option Bool}
    (h : ∀ s t, C.rel (assign s t) (assign' s t)) (arg target : TypeExpr) :
    C.rel (reg.argumentFits assign arg target) (reg.argumentFits assign' arg target) := by
  unfold argumentFits
  split
  · exact C.some true
  · split
    · exact contained_rel C h arg _ _
    · exact C.some _
    · exact C.some false

theorem argumentsFit_rel (C : Comparison) {assign assign' : TypeExpr → TypeExpr → Option Bool}
    (h : ∀ s t, C.rel (assign s t) (assign' s t)) (args targets : List TypeExpr) :
    C.rel (reg.argumentsFit assign args targets) (reg.argumentsFit assign' args targets) := by
  rw [argumentsFit, argumentsFit]
  split
  · exact C.allM fun e _ => argumentFits_rel C h e.1 e.2
  · exact C.some false

/-- One step answers whatever it answers with less to go on. -/
theorem assignableStep_refines {assign assign' : List VarId → TypeExpr → TypeExpr → Option Bool}
    (h : ∀ seen s t, Comparison.refines.rel (assign seen s t) (assign' seen s t)) (rounds : Nat)
    (seen : List VarId) (source target : TypeExpr) :
    Comparison.refines.rel (reg.assignableStep assign rounds seen source target)
      (reg.assignableStep assign' (rounds + 1) seen source target) := by
  have hview : ∀ s c, Comparison.refines.rel (reg.view rounds s c) (reg.view (rounds + 1) s c) :=
    fun s c => view_refines rounds s c
  unfold assignableStep
  split
  · exact Comparison.refines.some true
  · split
    · exact Comparison.refines.some _
    · exact contained_rel _ (h seen) _ _ _
    · split
      · exact Comparison.refines.some false
      · exact Comparison.refines.anyM fun b _ => h _ b _
    · exact Comparison.refines.anyM fun b _ => h seen b _
    · exact h seen _ _
    · exact Comparison.refines.some false
    · exact Comparison.refines.some _
    · exact Comparison.refines.some false
    · exact Comparison.refines.map _ (hview _ _)
    · rename_i c targets owner _ _ _ _
      intro r hr
      -- a view that is there stays the same, and its arguments are compared with more budget
      cases hv : reg.view rounds source c with
      | none =>
        rw [hv] at hr
        cases hr
      | some v =>
        rw [hview source c v hv]
        rw [hv] at hr
        cases v with
        | none => exact hr
        | some t =>
          cases t with
          | app d args o => exact argumentsFit_rel _ (h seen) args targets r hr
          | _ => exact hr

theorem assignableFrom_refines (n : Nat) (seen : List VarId) (source target : TypeExpr) :
    Comparison.refines.rel (reg.assignableFrom n seen source target)
      (reg.assignableFrom (n + 1) seen source target) := by
  induction n generalizing seen source target with
  | zero =>
    intro r hr
    cases hr
  | succ n ih => exact assignableStep_refines ih n seen source target

/-- More budget never loses an answer. -/
theorem assignable?_refines (n : Nat) (source target : TypeExpr) :
    Comparison.refines.rel (reg.assignable? n source target)
      (reg.assignable? (n + 1) source target) :=
  assignableFrom_refines n [] source target

/-- An answer with some budget is the answer. -/
theorem answers_assignable? {n : Nat} {source target : TypeExpr} {b : Bool}
    (h : reg.assignable? n source target = some b) :
    Answers (fun n => reg.assignable? n source target) b :=
  Comparison.answers_of_refines h fun n => assignable?_refines n source target

end Registry

end Generics
