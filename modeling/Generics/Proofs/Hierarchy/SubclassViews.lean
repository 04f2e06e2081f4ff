import Generics.Proofs.Assignability.Questions
import Generics.Proofs.Hierarchy.Acyclic
import Generics.Registry.Standard

/-!
# Subclassing and supertype views

Two searches climb the same hierarchy. Nominal subclassing walks over classes, and the view of a use
carries its arguments along. On an acyclic hierarchy both come to an end, and whether the view
exists is a matter of the classes alone: it exists exactly for what the class leads to. The two part
at `Object`. Every defined class counts as a subclass of `Object` at once, without a walk, while the
view as `Object` has to be reached. An interface has `Object` above it even if it declares nothing;
a class without a superclass, or below one that is not defined, does not lead to `Object`, so it has
no view as `Object` and is not assignable to it.

## Main definitions

* `Registry.Parented` — every class but `Object` has a defined class directly above it
* `Registry.orphaned` — a registry with a class that has not

## Main results

* `Registry.Acyclic.liesBelow_object` — where every class has a parent, all lead to `Object`
* `Registry.isSubclass_eq_isSome_view` — when the two searches agree
* `Registry.isSubclass_ne_isSome_view_orphaned` — and where they do not
-/

namespace Generics

namespace Registry

variable {reg : Registry}

/-- A use is assignable to a raw type exactly if it has a view as its class. -/
theorem answers_assignable_raw {s : TypeExpr} {u : Use} (hs : s.use? = some u) {t : ClassId}
    {r : Option TypeExpr} (hr : Answers (reg.view · s t) r) :
    Answers (fun n => reg.assignable? n s (.raw t)) r.isSome := by
  by_cases heq : s = .raw t
  · -- a class is found where the walk starts
    subst heq
    have hself : reg.classView 1 t (t, []) = .found (t, []) := classView_self 0 t []
    obtain rfl := (answers_view hs (Option.some.inj hs ▸ hself)).unique hr
    exact answers_assignable? (assignable?_self reg 0 _)
  · obtain ⟨n, hn⟩ := hr.exists_eq
    refine answers_assignable? (n := n + 1) ?_
    have hstep : reg.assignable? (n + 1) s (.raw t) =
        reg.assignableStep (reg.assignableFrom n) n [] s (.raw t) := rfl
    rw [hstep, assignableStep_raw_of_use? hs heq, ← view_of_use? hs, hn]
    rfl

/-! ### Classes with a parent -/

/-- Every defined class but `Object` has a defined class directly above it. -/
def Parented (reg : Registry) : Prop :=
  ∀ c, reg.isDefined c = true →
    c = reg.object ∨ ∃ d ∈ reg.superclasses c, reg.isDefined d = true

instance (reg : Registry) : Decidable reg.Parented :=
  decidable_of_iff (∀ c ∈ reg.tableIds, reg.isDefined c = true →
      c = reg.object ∨ ∃ d ∈ reg.superclasses c, reg.isDefined d = true)
    ⟨fun h c hc => (isDefined_iff.1 hc).elim fun _ hd => h c (mem_tableIds_of_class? hd) hc,
      fun h c _ hc => h c hc⟩

/-- Where every class has a parent, every class leads to `Object`. -/
theorem Acyclic.liesBelow_object (hA : reg.Acyclic) (hP : reg.Parented) {c : ClassId}
    (hc : reg.isDefined c = true) : reg.LiesBelow c reg.object := by
  induction c using hA.wellFounded.induction with
  | h c ih =>
    rcases hP c hc with rfl | ⟨d, hd, hdefined⟩
    · exact .refl
    · exact .head hd (ih d hd hdefined)

/-! ### Agreement -/

/-- For a defined class only the shortcut to `Object` is added to what the class leads to. -/
theorem isSubclass_iff_of_isDefined {c t : ClassId} (hc : reg.isDefined c = true) :
    reg.isSubclass c t = true ↔ reg.LiesBelow c t ∨ t = reg.object := by
  rw [isSubclass_iff, and_iff_left hc]

/-- **Subclassing and views agree,** unless they are asked about `Object` for a class that does not
lead to it. On an acyclic hierarchy a use of a defined class has a view as `t`, and is assignable to
the raw `t`, exactly if its class leads to `t`; it is a subclass of `t` if and only if it has this
view, unless `t` is `Object` and the class does not lead there. Where every class but `Object` has a
defined class directly above it, there is no such class. -/
theorem isSubclass_eq_isSome_view (hA : reg.Acyclic) (hN : reg.SupertypesNominal) {s : TypeExpr}
    {u : Use} (hs : s.use? = some u) (hd : reg.isDefined u.1 = true) (t : ClassId) :
    ∃ r, Answers (reg.view · s t) r ∧ Answers (fun n => reg.assignable? n s (.raw t)) r.isSome ∧
      (r.isSome = true ↔ reg.LiesBelow u.1 t) ∧
      (reg.isSubclass u.1 t = r.isSome ↔ (t = reg.object → reg.LiesBelow u.1 t)) ∧
      (reg.Parented → reg.isSubclass u.1 t = r.isSome) := by
  obtain ⟨r, hr, hbelow⟩ := hA.exists_answers_view hN hs t
  have hagree : reg.isSubclass u.1 t = r.isSome ↔ (t = reg.object → reg.LiesBelow u.1 t) := by
    rw [Bool.eq_iff_iff, isSubclass_iff_of_isDefined hd, hbelow, or_iff_left_iff_imp]
  refine ⟨r, hr, answers_assignable_raw hs hr, hbelow, hagree, fun hP => hagree.2 ?_⟩
  rintro rfl
  exact hA.liesBelow_object hP hd

/-- On the standard registry `ArrayList<String>` is seen as `Object`, as its class is below it. -/
theorem isSubclass_eq_isSome_view_arrayList :
    (standard.Acyclic ∧ standard.SupertypesNominal ∧ standard.Parented ∧
      standard.isDefined ⟨15⟩ = true) ∧
    standard.isSubclass ⟨15⟩ ⟨0⟩ = true ∧
    Answers (standard.view · (.app ⟨15⟩ [.raw ⟨10⟩] none) ⟨0⟩) (some (.raw ⟨0⟩)) ∧
    Answers (fun n => standard.assignable? n (.app ⟨15⟩ [.raw ⟨10⟩] none) (.raw ⟨0⟩)) true := by
  have hA : standard.Acyclic := by decide +kernel
  have hN : standard.SupertypesNominal := by decide +kernel
  have hP : standard.Parented := by decide +kernel
  have hd : standard.isDefined ⟨15⟩ = true := by decide +kernel
  have hsub : standard.isSubclass ⟨15⟩ ⟨0⟩ = true := by decide +kernel
  have hview : Answers (standard.view · (.app ⟨15⟩ [.raw ⟨10⟩] none) ⟨0⟩)
      (some (.raw ⟨0⟩)) :=
    Comparison.answers_of_refines (n := 5) (by decide +kernel) fun n => view_refines n _ _
  obtain ⟨r, hr, hassign, -, -, hagree⟩ :=
    isSubclass_eq_isSome_view hA hN (s := .app ⟨15⟩ [.raw ⟨10⟩] none) rfl hd ⟨0⟩
  rw [← hagree hP, hsub] at hassign
  exact ⟨⟨hA, hN, hP, hd⟩, hsub, hview, hassign⟩

/-- A class `Orphan` that declares no supertype, beside `Object`. -/
def orphaned : Registry := (initial.addClass { name := "Orphan" }).2

/-- The class `Orphan` is a subclass of `Object`, but it has no view as `Object` and is not
assignable to it.
-/
theorem isSubclass_ne_isSome_view_orphaned :
    (orphaned.Acyclic ∧ orphaned.SupertypesNominal ∧ orphaned.isDefined ⟨1⟩ = true) ∧
    orphaned.isSubclass ⟨1⟩ orphaned.object = true ∧
    Answers (orphaned.view · (.raw ⟨1⟩) orphaned.object) none ∧
    Answers (fun n => orphaned.assignable? n (.raw ⟨1⟩) (.raw orphaned.object)) false :=
  ⟨⟨by decide +kernel, by decide +kernel, by decide +kernel⟩, by decide +kernel,
    Comparison.answers_of_refines (n := 3) (by decide +kernel) fun n => view_refines n _ _,
    answers_assignable? (n := 4) (by decide +kernel)⟩

end Registry

end Generics
