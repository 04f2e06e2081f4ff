import Generics.Proofs.Hierarchy.Expansion
import Generics.Proofs.Hierarchy.SubclassOrder
import Generics.Proofs.Inference.Halting
import Generics.Proofs.Inference.Inherited
import Generics.Proofs.Resolution.ConcreteSources

/-!
# Which walks through the hierarchy end

Three walks climb the declared supertypes. The search for a superclass and the collection of what is
bound on the way up keep classes apart, so they meet each class once and end on every registry. The
walk to a view keeps classes apart by their arguments, so a class that comes back with an argument
that has grown is gone through again, and there is nothing else to stop it. On an acyclic hierarchy
this does no harm. On a cyclic one it depends on what the arguments do on the way round. A view also
follows variables to their bounds, but none twice in a row, and to see that this is never cut off it
is made once more with no answer where the number of turns is used up.

## Main definitions

* `Registry.viewFromWithin` — a view, without an answer if variables are followed too often
* `Registry.seesaw` — a cyclic hierarchy on which no argument goes on growing

## Main results

* `Registry.viewFromWithin_eq` — how often variables may have to be followed
* `Registry.halts_walks` — two walks always end, and when the third does
* `Registry.view_spiral_eq_none` — a walk to a view that never ends
-/

namespace Generics

namespace Registry

variable {reg : Registry}

/-! ### Following variables -/

/-- The view below the variables `seen`. There is no answer if variables would have to be followed
more than the given number of times in a row. -/
def viewFromWithin (reg : Registry) (rounds : Nat) (target : ClassId) :
    Nat → List VarId → TypeExpr → Option (Option TypeExpr)
  | 0, _ => reg.viewWith rounds target fun _ => none
  | n + 1, seen => reg.viewWith rounds target fun v =>
    if v ∈ seen then some none
    else firstView (viewFromWithin reg rounds target n (v :: seen)) (reg.bounds v)

/-- **Variables are not followed for ever:** it is enough that they may be followed more often than
there are variables left. -/
theorem viewFromWithin_eq {rounds : Nat} {target : ClassId} {n m : Nat} {seen : List VarId}
    (hn : (reg.unseen seen).length < n) (hm : (reg.unseen seen).length < m) (t : TypeExpr) :
    reg.viewFromWithin rounds target n seen t = reg.viewFrom rounds target m seen t := by
  induction n generalizing m seen t with
  | zero => omega
  | succ n ih =>
    obtain ⟨m, rfl⟩ : ∃ k, m = k + 1 := ⟨m - 1, by omega⟩
    rw [viewFromWithin, viewFrom]
    congr 1
    funext v
    by_cases hv : v ∈ seen
    · rw [if_pos hv, if_pos hv]
    · rw [if_neg hv, if_neg hv]
      refine firstView_congr fun b hb => ?_
      have hlt := length_unseen_cons_lt hv hb
      exact ih (by omega) (by omega) b

/-! ### All walks -/

/-- **Which walks end.** The search for a superclass and the collection of inherited bindings always
do, and variables are never followed more often than there are variables. The walk from a use to its
view as a class ends exactly if the class is reached or the use leads to finitely many uses. All
types have views, or are known to have none, exactly if this holds for every use. Where supertypes
are uses of classes and the formals of a class are distinct, this can be read off the declarations:
it is the case exactly if no position leads back to itself with a level gained. -/
theorem halts_walks (reg : Registry) :
    (∀ sub sup, Answers (reg.isSubclassWithin · sub sup) (reg.isSubclass sub sup)) ∧
    (∀ u, Answers (reg.inheritedWithin · u) (reg.inherited u)) ∧
    (∀ n rounds t target, reg.params.size < n →
      reg.viewFromWithin rounds target n [] t = reg.view rounds t target) ∧
    (∀ s u target, s.use? = some u → ((Halts fun n => reg.view n s target) ↔
      (∃ w ∈ reg.above u, w.1 = target) ∨ (reg.above u).Finite)) ∧
    ((∀ t target, Halts fun n => reg.view n t target) ↔
      ∀ u target, (∃ w ∈ reg.above u, w.1 = target) ∨ (reg.above u).Finite) ∧
    (reg.SupertypesNominal → (∀ c, (reg.formals c).Nodup) →
      ((∀ t target, Halts fun n => reg.view n t target) ↔ ¬ reg.Expansive)) := by
  refine ⟨fun sub sup => ⟨reg.classes.size + 2, fun n hn => isSubclassWithin_eq_some hn sub sup⟩,
    fun u => ⟨reg.classes.size + 2, fun n hn => inheritedWithin_eq_some hn u⟩, ?_,
    fun s u target hs => halts_view_iff hs target, ?_,
    fun hN hdistinct => forall_halts_view_iff_not_expansive hdistinct hN⟩
  · intro n rounds t target hn
    have hle := reg.length_unseen_nil_le
    exact viewFromWithin_eq (Nat.lt_of_le_of_lt hle hn) (Nat.lt_succ_of_le hle) t
  · rw [forall_halts_view_iff, forall_comm]
    simp only [not_endless_iff]

example : ¬ standard.Expansive := by decide +kernel

/-- `Swap<A, B> extends Swap<B, A>`, and `Ping<T> extends Pong<Ping<T>>` where
`Pong<U> extends Ping<Object>`: the hierarchy is cyclic, but no argument goes on growing. -/
def seesaw : Registry where
  classes := #[some { name := objectName },
    some (classDef "Swap" [⟨0⟩, ⟨1⟩] (.ofClass ⟨1⟩ [.var ⟨1⟩, .var ⟨0⟩]) []),
    some (classDef "Ping" [⟨2⟩] (.ofClass ⟨3⟩ [.ofClass ⟨2⟩ [.var ⟨2⟩]]) []),
    some (classDef "Pong" [⟨3⟩] (.ofClass ⟨2⟩ [.raw ⟨0⟩]) [])]
  params := #[⟨"A", .ofClass ⟨1⟩, [.raw ⟨0⟩]⟩, ⟨"B", .ofClass ⟨1⟩, [.raw ⟨0⟩]⟩,
    ⟨"T", .ofClass ⟨2⟩, [.raw ⟨0⟩]⟩, ⟨"U", .ofClass ⟨3⟩, [.raw ⟨0⟩]⟩]
  names := [("Pong", ⟨3⟩), ("Ping", ⟨2⟩), ("Swap", ⟨1⟩), (objectName, ⟨0⟩)]
  object := ⟨0⟩

/-- All walks end here, though a class may be met several times: from `Ping<T>` the way leads to
`Pong<Ping<T>>` and on to `Ping<Object>`, `Pong<Ping<Object>>` and no further. -/
theorem halts_walks_seesaw :
    (¬ seesaw.Acyclic ∧ seesaw.SupertypesNominal ∧ ¬ seesaw.Expansive) ∧
    (∀ t target, Halts fun n => seesaw.view n t target) ∧
    (seesaw.above (⟨2⟩, [.var ⟨2⟩])).Finite ∧
    Answers (seesaw.isSubclassWithin · ⟨3⟩ ⟨1⟩) false := by
  obtain ⟨hsub, -, -, huse, -, hall⟩ := halts_walks seesaw
  have hN : seesaw.SupertypesNominal := by decide +kernel
  have hdistinct : seesaw.FormalsDistinct := by decide +kernel
  have hE : ¬ seesaw.Expansive := by decide +kernel
  have hhalts := (hall hN hdistinct.nodup).2 hE
  have hnot : ¬ ∃ w ∈ seesaw.above (⟨2⟩, [.var ⟨2⟩]), w.1 = ⟨1⟩ := by
    rintro ⟨w, hw, hclass⟩
    have hbelow : seesaw.LiesBelow ⟨2⟩ w.1 := liesBelow_of_reaches hN hw
    rw [hclass, ← mem_ancestors_iff] at hbelow
    exact absurd hbelow (by decide +kernel)
  have hpair : seesaw.isSubclass ⟨3⟩ ⟨1⟩ = false := by decide +kernel
  exact ⟨⟨by decide +kernel, hN, hE⟩, hhalts,
    ((huse (.ofClass ⟨2⟩ [.var ⟨2⟩]) _ ⟨1⟩ rfl).1 (hhalts _ _)).resolve_left hnot,
    hpair ▸ hsub ⟨3⟩ ⟨1⟩⟩

/-- `Spiral<T>` extends `Spiral<Box<T>>`. This is a registry that can be built, its one cycle puts
the argument into a box each time, and the view of `Spiral<T>` as `Object` is never found and never
known not to exist, whatever number of rounds is allowed. -/
theorem view_spiral_eq_none :
    (spiral 500).Built ∧ (spiral 500).SupertypesNominal ∧
    (∀ n, (spiral 500).view n (.app ⟨1⟩ [.var ⟨0⟩] none) ⟨0⟩ = none) ∧
    ¬ ∀ t target, Halts fun n => (spiral 500).view n t target := by
  have hnone : ∀ n, (spiral 500).view n (.app ⟨1⟩ [.var ⟨0⟩] none) ⟨0⟩ = none := by
    intro n
    rw [view_app, endless_spiral 500 n]
    rfl
  refine ⟨built_spiral 500, supertypesNominal_spiral 500, hnone, fun h => ?_⟩
  obtain ⟨r, hr⟩ := h (.app ⟨1⟩ [.var ⟨0⟩] none) ⟨0⟩
  obtain ⟨n, hn⟩ := hr.exists_eq
  cases (hnone n).symm.trans hn

end Registry

end Generics
