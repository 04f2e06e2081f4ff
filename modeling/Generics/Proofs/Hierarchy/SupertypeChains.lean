import Generics.Proofs.Hierarchy.Acyclic
import Generics.Proofs.Hierarchy.FirstPath
import Generics.Registry.Standard

/-!
# Chains of supertypes

A step of a chain goes from a class with arguments to one of its supertypes, with the arguments put
in for the formals; from a raw use of a generic class it goes to the bare class of the supertype.
The view of a use as a class above it is the end of one such chain. Where several chains lead to the
class they may end in different arguments, and the order of declaration decides between them: the
view is the end of the shortest chain, and of the shortest ones the end of the first.

The walk to the view leaves out a use that it has met before. What it finds does not depend on this,
so the statement speaks of all chains. On a registry with a cyclic hierarchy the walk finds the end
of the first chain as well, but if there is none it need not notice.

## Main definitions

* `Registry.climb` — the end of the chain with the given choices
* `Registry.IsFirstChain` — the shortest chain, and the first of the shortest
* `Registry.delta` — a class that reads the same interface along two chains

## Main results

* `Registry.exists_classView_iff_isFirstChain` — on every registry, the walk finds the first chain
* `Registry.view_isFirstChain` — the view is its end, and there is none without a chain
-/

namespace Generics

namespace Registry

variable {reg : Registry}

/-- The choices above a use: one for each supertype of its class, in the order of declaration. -/
def superChoices (reg : Registry) (u : Use) : List (Option Use) :=
  (reg.supertypes u.1).map (reg.stepTo u)

/-- The end of a chain of supertypes that is given by the number of the supertype at each step. -/
def climb (reg : Registry) (path : List Nat) (u : Use) : Option Use :=
  Search.follow reg.superChoices path u

@[simp] theorem climb_nil (u : Use) : reg.climb [] u = some u := rfl

/-- The chain leads to a use of the class, every other chain that does is longer, or is as long and
takes a later supertype where the two first differ. -/
def IsFirstChain (reg : Registry) (target : ClassId) (u : Use) (path : List Nat) (w : Use) : Prop :=
  Search.IsFirstPath reg.superChoices (fun w => w.1 == target) u path w

/-- The steps of the walk to a view are the steps of chains. -/
theorem superUses_eq_options : reg.superUses = Search.options reg.superChoices := by
  funext u
  rw [superUses_eq_filterMap, Search.options, superChoices, List.filterMap_map]
  rfl

/-- What can be reached from a use is what a chain leads to. -/
theorem reaches_iff_climb {u w : Use} :
    Search.Reaches reg.superUses u w ↔ ∃ path, reg.climb path u = some w := by
  rw [superUses_eq_options]
  exact Search.reaches_iff_follow

/-- **The walk to a view finds the end of the first chain,** on every registry. -/
theorem exists_classView_iff_isFirstChain {target : ClassId} {u w : Use} :
    (∃ rounds, reg.classView rounds target u = .found w) ↔
      ∃ path, reg.IsFirstChain target u path w := by
  simp only [classView, superUses_eq_options]
  exact Search.exists_find_iff_isFirstPath

/-- A view is the end of the first chain. -/
theorem answers_view_iff_isFirstChain {s : TypeExpr} {u : Use} (hs : s.use? = some u)
    {target : ClassId} {t : TypeExpr} :
    Answers (reg.view · s target) (some t) ↔
      ∃ path w, reg.IsFirstChain target u path w ∧ w.toType = t := by
  constructor
  · intro h
    simp only [view_of_use? hs] at h
    obtain ⟨rounds, w, hw, rfl⟩ := exists_found_of_answers h
    obtain ⟨path, hpath⟩ := exists_classView_iff_isFirstChain.1 ⟨rounds, hw⟩
    exact ⟨path, w, hpath, rfl⟩
  · rintro ⟨path, w, hpath, rfl⟩
    obtain ⟨rounds, hw⟩ := exists_classView_iff_isFirstChain.2 ⟨path, hpath⟩
    exact answers_view hs hw

/-- **The view is exact.** On an acyclic hierarchy the view of a use as a class is always found or
known not to exist. It exists exactly if a chain of supertypes leads from the use to the class, and
it is the end of the shortest such chain, and of several shortest ones of the first in the order of
declaration. -/
theorem view_isFirstChain (hA : reg.Acyclic) (hN : reg.SupertypesNominal) {s : TypeExpr} {u : Use}
    (hs : s.use? = some u) (target : ClassId) :
    ∃ r, Answers (reg.view · s target) r ∧
      (r.isSome = true ↔ ∃ path w, reg.climb path u = some w ∧ w.1 = target) ∧
      ∀ t, r = some t ↔ ∃ path w, reg.IsFirstChain target u path w ∧ w.toType = t := by
  obtain ⟨r, hr, hbelow⟩ := hA.exists_answers_view hN hs target
  refine ⟨r, hr, hbelow.trans ⟨fun h => ?_, ?_⟩, fun t => ?_⟩
  · obtain ⟨rounds, w, hw⟩ := classView_of_liesBelow h u.2
    obtain ⟨path, hpath⟩ := reaches_iff_climb.1 (reaches_of_classView hw)
    exact ⟨path, w, hpath, (liesBelow_of_classView hN hw).2⟩
  · rintro ⟨path, w, hpath, rfl⟩
    exact liesBelow_of_reaches hN (reaches_iff_climb.2 ⟨path, hpath⟩)
  · rw [← answers_view_iff_isFirstChain hs]
    exact ⟨fun h => h ▸ hr, fun h => hr.unique h⟩

/-- `Delta<C> implements Upper<C>, Lower<C>`, where `Upper<A> extends Source<List<A>>` and
`Lower<B> extends Source<B>`. -/
def delta : Registry where
  classes := #[some { name := objectName },
    some (classDef "String" [] (.raw ⟨0⟩) []),
    some (interfaceDef "List" [⟨0⟩] []),
    some (interfaceDef "Source" [⟨1⟩] []),
    some (interfaceDef "Upper" [⟨2⟩] [.ofClass ⟨3⟩ [.ofClass ⟨2⟩ [.var ⟨2⟩]]]),
    some (interfaceDef "Lower" [⟨3⟩] [.ofClass ⟨3⟩ [.var ⟨3⟩]]),
    some (classDef "Delta" [⟨4⟩] (.raw ⟨0⟩) [.ofClass ⟨4⟩ [.var ⟨4⟩], .ofClass ⟨5⟩ [.var ⟨4⟩]])]
  params := #[⟨"E", .ofClass ⟨2⟩, [.raw ⟨0⟩]⟩, ⟨"T", .ofClass ⟨3⟩, [.raw ⟨0⟩]⟩,
    ⟨"A", .ofClass ⟨4⟩, [.raw ⟨0⟩]⟩, ⟨"B", .ofClass ⟨5⟩, [.raw ⟨0⟩]⟩,
    ⟨"C", .ofClass ⟨6⟩, [.raw ⟨0⟩]⟩]
  names := [("Delta", ⟨6⟩), ("Lower", ⟨5⟩), ("Upper", ⟨4⟩), ("Source", ⟨3⟩), ("List", ⟨2⟩),
    ("String", ⟨1⟩), (objectName, ⟨0⟩)]
  object := ⟨0⟩

/-- Two chains of two steps lead from `Delta<String>` to `Source`, the first one to a source of
lists and the second one to a source of strings. The view is the end of the first. -/
theorem view_isFirstChain_delta :
    (delta.Acyclic ∧ delta.SupertypesNominal) ∧
    delta.climb [1, 0] (⟨6⟩, [.raw ⟨1⟩]) = some (⟨3⟩, [.ofClass ⟨2⟩ [.raw ⟨1⟩]]) ∧
    delta.climb [2, 0] (⟨6⟩, [.raw ⟨1⟩]) = some (⟨3⟩, [.raw ⟨1⟩]) ∧
    Answers (delta.view · (.ofClass ⟨6⟩ [.raw ⟨1⟩]) ⟨3⟩)
      (some (.ofClass ⟨3⟩ [.ofClass ⟨2⟩ [.raw ⟨1⟩]])) ∧
    ∃ path w, delta.IsFirstChain ⟨3⟩ (⟨6⟩, [.raw ⟨1⟩]) path w ∧
      w.toType = .ofClass ⟨3⟩ [.ofClass ⟨2⟩ [.raw ⟨1⟩]] := by
  have hA : delta.Acyclic := by decide +kernel
  have hN : delta.SupertypesNominal := by decide +kernel
  have hview : Answers (delta.view · (.ofClass ⟨6⟩ [.raw ⟨1⟩]) ⟨3⟩)
      (some (.ofClass ⟨3⟩ [.ofClass ⟨2⟩ [.raw ⟨1⟩]])) :=
    Comparison.answers_of_refines (n := 4) (by decide +kernel) fun n => view_refines n _ _
  obtain ⟨r, hr, -, hfirst⟩ :=
    view_isFirstChain hA hN (s := .ofClass ⟨6⟩ [.raw ⟨1⟩]) (u := (⟨6⟩, [.raw ⟨1⟩])) rfl ⟨3⟩
  exact ⟨⟨hA, hN⟩, by decide +kernel, by decide +kernel, hview, (hfirst _).1 (hr.unique hview)⟩

end Registry

end Generics
