import Generics.Proofs.Hierarchy.Acyclic
import Generics.Proofs.Inference.OwnFormals

/-!
# Owners are not compared

A parameterized type may stand inside an enclosing type, its owner. Two such types are equal only if
their owners are, and type arguments are compared for equality, owners included. Assignability of
the types themselves never looks at the owner: the view of a use is made from its class and its
arguments, and the arguments of the view are compared with those of the target. So the owners of the
outermost uses may be exchanged without changing any answer, on every registry and for types of
every shape; and of two concrete uses of one class with arguments the first is assignable to the
second exactly if their arguments are equal, which makes it the same type only up to the owner.

## Main definitions

* `TypeExpr.withoutOwner` — a type up to its owner
* `Registry.nested` — a class inside a generic one

## Main results

* `Registry.assignableFrom_withoutOwner` — one answer for all owners
* `Registry.answers_assignable_withoutOwner_iff` — so assignability is about types without owners
* `Registry.assignable_iff_args_eq` — concrete uses of one class are invariant up to the owner
* `Registry.assignable_other_owner` — and the owner is lost
-/

namespace Generics

namespace TypeExpr

/-- The expression without the owner of its outermost use. -/
def withoutOwner : TypeExpr → TypeExpr
  | .app c args _ => .app c args none
  | t => t

@[simp] theorem withoutOwner_app (c : ClassId) (args : List TypeExpr) (owner : Option TypeExpr) :
    (app c args owner).withoutOwner = .app c args none := rfl

/-- Types that are the same without their owners are the same, or they are uses of one class with
the same arguments. -/
theorem eq_or_app_of_withoutOwner_eq {s t : TypeExpr} (h : s.withoutOwner = t.withoutOwner) :
    s = t ∨ ∃ c args o o', s = .app c args o ∧ t = .app c args o' := by
  cases s with
  | app c args o =>
    cases t with
    | app d args' o' =>
      obtain ⟨rfl, rfl, -⟩ := app.inj h
      exact .inr ⟨c, args, o, o', rfl, rfl⟩
    | _ => cases h
  | _ =>
    cases t with
    | app d args' o' => cases h
    | _ => exact .inl h

@[simp] theorem withoutOwner_withoutOwner (t : TypeExpr) :
    t.withoutOwner.withoutOwner = t.withoutOwner := by
  cases t <;> rfl

end TypeExpr

namespace Registry

variable {reg : Registry}

/-! ### The same answer for all owners -/

/-- Types that are the same without their owners are assignable to each other, in two steps. -/
theorem assignableFrom_of_withoutOwner_eq {s t : TypeExpr} (h : s.withoutOwner = t.withoutOwner)
    (n : Nat) (seen : List VarId) : reg.assignableFrom (n + 2) seen s t = some true := by
  show reg.assignableStep (reg.assignableFrom (n + 1)) (n + 1) seen s t = some true
  by_cases heq : s = t
  · exact if_pos heq
  · obtain ⟨c, args, o, o', rfl, rfl⟩ := (TypeExpr.eq_or_app_of_withoutOwner_eq h).resolve_left heq
    rw [assignableStep_of_use? rfl heq, classView_self]
    cases args with
    | nil => rfl
    | cons a as => exact argumentsFit_self _ _

/-- Where two uses meet, only their classes and arguments count. -/
theorem assignableStep_of_use?_refines {n : Nat} {seen : List VarId} {s s' : TypeExpr} {u : Use}
    (hs : s.use? = some u) (hs' : s'.use? = some u) {c : ClassId} {targets : List TypeExpr}
    {o o' : Option TypeExpr} (hne : s ≠ .app c targets o) (hne' : s' ≠ .app c targets o') :
    Comparison.refines.rel
      (reg.assignableStep (reg.assignableFrom n) n seen s (.app c targets o))
      (reg.assignableStep (reg.assignableFrom (n + 1)) (n + 1) seen s' (.app c targets o')) := by
  rw [assignableStep_of_use? hs hne, assignableStep_of_use? hs' hne']
  refine Comparison.refines.bind (classView_refines n c u) fun v => ?_
  cases v with
  | none => exact Comparison.refines.some false
  | some t =>
    cases t with
    | app d args owner =>
      exact argumentsFit_rel _ (fun s t => assignableFrom_refines n seen s t) args targets
    | _ => exact Comparison.refines.refl _

/-- **The owners of source and target are never read.** What is answered for two types is answered,
with one step more, for two types that are the same up to the owner. -/
theorem assignableFrom_withoutOwner (n : Nat) {seen : List VarId} {s t s' t' : TypeExpr}
    (hs : s.withoutOwner = s'.withoutOwner) (ht : t.withoutOwner = t'.withoutOwner) :
    Comparison.refines.rel (reg.assignableFrom n seen s t)
      (reg.assignableFrom (n + 1) seen s' t') := by
  induction n generalizing seen s t s' t' with
  | zero =>
    intro r hr
    cases hr
  | succ n ih =>
    by_cases hsame : s.withoutOwner = t.withoutOwner
    · intro r hr
      have hr' := assignableFrom_refines (n + 1) seen s t r hr
      rw [assignableFrom_of_withoutOwner_eq hsame] at hr'
      rw [assignableFrom_of_withoutOwner_eq (hs.symm.trans (hsame.trans ht)), hr']
    have hne : s ≠ t := fun he => hsame (he ▸ rfl)
    have hne' : s' ≠ t' := fun he => hsame (hs.trans (he ▸ ht.symm))
    rcases TypeExpr.eq_or_app_of_withoutOwner_eq hs with rfl | ⟨c, args, o, o', rfl, rfl⟩
    · rcases TypeExpr.eq_or_app_of_withoutOwner_eq ht with rfl | ⟨d, targets, p, p', rfl, rfl⟩
      · exact assignableFrom_refines (n + 1) seen s t
      · -- only the target has another owner
        show Comparison.refines.rel (reg.assignableStep _ n seen s _)
          (reg.assignableStep _ (n + 1) seen s _)
        cases s with
        | raw c => exact assignableStep_of_use?_refines rfl rfl hne hne'
        | app c args o => exact assignableStep_of_use?_refines rfl rfl hne hne'
        | wildcard us ls =>
          simp only [assignableStep, if_neg hne, if_neg hne']
          exact Comparison.refines.anyM fun b _ => ih rfl ht
        | var v =>
          simp only [assignableStep, if_neg hne, if_neg hne']
          split
          · exact Comparison.refines.some false
          · exact Comparison.refines.anyM fun b _ => ih rfl ht
        | array elem =>
          simp only [assignableStep, if_neg hne, if_neg hne']
          exact Comparison.refines.some false
    · show Comparison.refines.rel (reg.assignableStep _ n seen (.app c args o) t)
        (reg.assignableStep _ (n + 1) seen (.app c args o') t')
      rcases TypeExpr.eq_or_app_of_withoutOwner_eq ht with rfl | ⟨d, targets, p, p', rfl, rfl⟩
      · -- only the source has another owner
        cases t with
        | raw d =>
          rw [assignableStep_raw_of_use? rfl hne, assignableStep_raw_of_use? rfl hne']
          exact Comparison.refines.map _ (classView_refines n d _)
        | app d targets p => exact assignableStep_of_use?_refines rfl rfl hne hne'
        | wildcard us ls =>
          simp only [assignableStep, if_neg hne, if_neg hne']
          refine Comparison.refines.bind ?_ fun below => Comparison.refines.bind ?_ fun above =>
            Comparison.refines.some (below && above)
          · exact Comparison.refines.allM fun u _ =>
              Comparison.refines.bind (ih hs rfl) fun b => Comparison.refines.refl _
          · exact Comparison.refines.allM fun l _ =>
              Comparison.refines.bind (ih rfl hs) fun b => Comparison.refines.refl _
        | var v =>
          simp only [assignableStep, if_neg hne, if_neg hne']
          exact Comparison.refines.some _
        | array elem =>
          simp only [assignableStep, if_neg hne, if_neg hne']
          exact Comparison.refines.some false
      · exact assignableStep_of_use?_refines rfl rfl hne hne'

/-- Assignability is a question about the types without their owners. -/
theorem answers_assignable_withoutOwner_iff {s t : TypeExpr} {b : Bool} :
    Answers (fun n => reg.assignable? n s t) b ↔
      Answers (fun n => reg.assignable? n s.withoutOwner t.withoutOwner) b := by
  constructor
  · intro h
    obtain ⟨n, hn⟩ := h.exists_eq
    exact answers_assignable? (assignableFrom_withoutOwner n (by simp) (by simp) b hn)
  · intro h
    obtain ⟨n, hn⟩ := h.exists_eq
    exact answers_assignable? (assignableFrom_withoutOwner n (by simp) (by simp) b hn)

/-! ### Uses of one class -/

/-- Concrete arguments are fitted by themselves only, and this is always settled. -/
theorem argumentsFit_of_isConcrete {assign : TypeExpr → TypeExpr → Option Bool}
    {args targets : List TypeExpr} (ht : ∀ t ∈ targets, t.isConcrete = true) :
    reg.argumentsFit assign args targets = some (decide (args = targets)) := by
  cases hfit : reg.argumentsFit assign args targets with
  | none =>
    have heach : ∀ e ∈ args.zip targets,
        reg.argumentFits assign e.1 e.2 = pure (decide (e.1 = e.2)) := by
      intro e he
      have hconcrete := ht e.2 (List.of_mem_zip he).2
      obtain ⟨arg, target⟩ := e
      by_cases heq : arg = target
      · simp [argumentFits, heq]
      · cases target with
        | wildcard us ls => cases hconcrete
        | var v => cases hconcrete
        | _ => simp [argumentFits, heq]
    rw [argumentsFit] at hfit
    split at hfit
    · rw [allM_congr heach, List.allM_pure] at hfit
      cases hfit
    · cases hfit
  | some b =>
    cases b with
    | true => rw [decide_eq_true (eq_of_argumentsFit ht hfit)]
    | false =>
      have hne : args ≠ targets := by
        rintro rfl
        rw [argumentsFit_self] at hfit
        cases hfit
      rw [decide_eq_false hne]

/-- **Concrete uses of one class with arguments are assignable exactly if their arguments are the
same.** So they are assignable exactly if they are equal, unless they differ in nothing but their
owners. -/
theorem assignable_iff_args_eq {c : ClassId} {args targets : List TypeExpr}
    {o p : Option TypeExpr} (hargs : args ≠ [])
    (ht : (TypeExpr.app c targets p).isConcrete = true) :
    Answers (fun n => reg.assignable? n (.app c args o) (.app c targets p))
        (decide (args = targets)) ∧
      ((Answers (fun n => reg.assignable? n (.app c args o) (.app c targets p)) true ↔
          TypeExpr.app c args o = .app c targets p) ↔
        (args = targets → o = p)) := by
  have hanswers : Answers (fun n => reg.assignable? n (.app c args o) (.app c targets p))
      (decide (args = targets)) := by
    by_cases heq : args = targets
    · subst heq
      rw [decide_eq_true rfl]
      exact answers_assignable? (assignableFrom_of_withoutOwner_eq (by rfl) 0 [])
    · have hne : TypeExpr.app c args o ≠ .app c targets p := fun h => heq (TypeExpr.app.inj h).2.1
      refine answers_assignable? (n := 2) ?_
      show reg.assignableStep (reg.assignableFrom 1) 1 [] (.app c args o) (.app c targets p) = _
      rw [assignableStep_of_use? rfl hne, classView_self, answer, Option.bind_some,
        Use.toType_of_ne_nil hargs]
      exact argumentsFit_of_isConcrete (TypeExpr.isConcrete_app_iff.1 ht).1
  refine ⟨hanswers, ?_⟩
  have htrue : Answers (fun n => reg.assignable? n (.app c args o) (.app c targets p)) true ↔
      args = targets := by
    refine ⟨fun h => of_decide_eq_true (hanswers.unique h), fun h => ?_⟩
    rwa [decide_eq_true h] at hanswers
  rw [htrue, TypeExpr.app.injEq]
  constructor
  · exact fun h heq => (h.1 heq).2.2
  · exact fun h => ⟨fun heq => ⟨rfl, heq, h heq⟩, fun heq => heq.2.1⟩

/-- A class `Inner<Y>` inside `Outer<X>`, beside `String`. -/
def nested : Registry where
  classes := #[some { name := objectName },
    some (classDef "Outer" [⟨0⟩] (.raw ⟨0⟩) []),
    some (classDef "Outer$Inner" [⟨1⟩] (.raw ⟨0⟩) []),
    some (classDef "String" [] (.raw ⟨0⟩) [])]
  params := #[⟨"X", .ofClass ⟨1⟩, [.raw ⟨0⟩]⟩, ⟨"Y", .ofClass ⟨2⟩, [.raw ⟨0⟩]⟩]
  names := [("String", ⟨3⟩), ("Outer$Inner", ⟨2⟩), ("Outer", ⟨1⟩), (objectName, ⟨0⟩)]
  object := ⟨0⟩

/-- The type `Outer<T>.Inner<U>`. -/
def nested.inner (t u : TypeExpr) : TypeExpr := .app ⟨2⟩ [u] (some (.app ⟨1⟩ [t] none))

/-- An `Outer<String>.Inner<String>` is no `Outer<String>.Inner<Object>`. -/
theorem assignable_iff_args_eq_nested :
    ([TypeExpr.raw ⟨3⟩] ≠ [] ∧ (nested.inner (.raw ⟨3⟩) (.raw ⟨0⟩)).isConcrete = true) ∧
    Answers (fun n => nested.assignable? n (nested.inner (.raw ⟨3⟩) (.raw ⟨3⟩))
      (nested.inner (.raw ⟨3⟩) (.raw ⟨0⟩))) false := by
  have hne : [TypeExpr.raw ⟨3⟩] ≠ [] := by decide
  have hc : (nested.inner (.raw ⟨3⟩) (.raw ⟨0⟩)).isConcrete = true := by decide
  exact ⟨⟨hne, hc⟩, (assignable_iff_args_eq hne hc).1⟩

/-- An `Outer<String>.Inner<String>` is assignable to `Outer<Object>.Inner<String>`, another type.
As type arguments, where they are compared for equality, the two are told apart. -/
theorem assignable_other_owner :
    (nested.Acyclic ∧ (nested.formals ⟨1⟩).length = 1 ∧ (nested.formals ⟨2⟩).length = 1 ∧
      (nested.inner (.raw ⟨3⟩) (.raw ⟨3⟩)).isConcrete = true ∧
      (nested.inner (.raw ⟨0⟩) (.raw ⟨3⟩)).isConcrete = true ∧
      nested.inner (.raw ⟨3⟩) (.raw ⟨3⟩) ≠ nested.inner (.raw ⟨0⟩) (.raw ⟨3⟩)) ∧
    Answers (fun n => nested.assignable? n (nested.inner (.raw ⟨3⟩) (.raw ⟨3⟩))
      (nested.inner (.raw ⟨0⟩) (.raw ⟨3⟩))) true ∧
    Answers (fun n => nested.assignable? n
      (.app ⟨1⟩ [nested.inner (.raw ⟨3⟩) (.raw ⟨3⟩)] none)
      (.app ⟨1⟩ [nested.inner (.raw ⟨0⟩) (.raw ⟨3⟩)] none)) false :=
  ⟨⟨by decide +kernel, by decide, by decide, by decide, by decide, by decide⟩,
    answers_assignable? (n := 3) (by decide +kernel),
    answers_assignable? (n := 3) (by decide +kernel)⟩

end Registry

end Generics
