import Generics.Proofs.Hierarchy.Subclassing
import Generics.Proofs.PartialAnswers
import Generics.Registry.Standard

/-!
# Nominal subclassing on every registry

Nothing is asked of the registry here: the hierarchy may have cycles, a class may be reserved and
never defined, and a supertype may be an expression of any shape. The search for a superclass is
first made with a number of rounds and with no answer where these are used up. A round that goes on
meets a defined class that has not been met before, so two rounds more than there are classes are
enough. What is found is a chain of supertypes that are uses of classes; all other shapes are passed
over.

`Object` is not searched for: every defined class is below it at once. The two rules together make
an order only if nothing lies above `Object`. Otherwise a class may be below `Object` by the first
rule and not below what `Object` is below by the second.

## Main definitions

* `Registry.isSubclassWithin` — the search, without an answer if it is cut off
* `Registry.DirectlyAbove` — one class is the class of a supertype of another
* `Registry.whirl` — a cycle of classes with supertypes of every shape

## Main results

* `Registry.isSubclassWithin_eq_some` — how many rounds are enough
* `Registry.isSubclass_trans` — below a top that is one
* `Registry.isSubclass_exact`
-/

namespace Generics

namespace Registry

variable {reg : Registry}

/-- Subclassing by a search that may be cut off. A class is below itself and, if it is defined,
below `Object`; any other superclass has to be met on the way up. -/
def isSubclassWithin (reg : Registry) (rounds : Nat) (sub sup : ClassId) : Option Bool :=
  if sub = sup ∨ sup = reg.object then some (reg.isDefined sub || sub == sup)
  else
    match Search.find reg.superclasses id (fun c => c == sup) rounds [] [sub] with
    | .found _ => some true
    | .absent => some false
    | .unfinished => none

/-- The second class is the class of a supertype of the first. -/
def DirectlyAbove (reg : Registry) (c d : ClassId) : Prop :=
  ∃ t ∈ reg.supertypes c, t.classId? = some d

theorem mem_superclasses_iff {c d : ClassId} : d ∈ reg.superclasses c ↔ reg.DirectlyAbove c d :=
  List.mem_filterMap

/-! ### The search ends -/

/-- **The search is not cut off** if it has two rounds more than there are classes. -/
theorem isSubclassWithin_eq_some {rounds : Nat} (h : reg.classes.size + 1 < rounds)
    (sub sup : ClassId) : reg.isSubclassWithin rounds sub sup = some (reg.isSubclass sub sup) := by
  rw [isSubclassWithin, isSubclass]
  by_cases heq : sub = sup
  · rw [if_pos (Or.inl heq), if_pos heq]
    simp [heq]
  by_cases hobj : sup = reg.object
  · rw [if_pos (Or.inr hobj), if_neg heq, if_pos hobj, beq_false_of_ne heq, Bool.or_false]
  rw [if_neg (not_or.2 ⟨heq, hobj⟩), if_neg heq, if_neg hobj]
  have hrounds : (reg.tableIds.filter (· ∉ [])).length + 1 < rounds := by
    have hle := List.length_filter_le (fun c => decide (c ∉ ([] : List ClassId))) reg.tableIds
    have hlt := reg.length_tableIds_lt_rounds
    rw [Registry.rounds] at hlt
    omega
  have hfinished : Search.find reg.superclasses id (fun c => c == sup) rounds [] [sub] ≠
      .unfinished :=
    Search.find_ne_unfinished (fun _ _ _ _ => mem_tableIds_of_superclasses_ne_nil) hrounds
  cases hfind : Search.find reg.superclasses id (fun c => c == sup) rounds [] [sub] with
  | found c =>
    obtain ⟨hc, b, hb, hbc⟩ := Search.reaches_of_find hfind
    obtain rfl : b = sub := List.mem_singleton.1 hb
    obtain rfl : c = sup := by simpa using hc
    rw [List.contains_iff_mem.2 (mem_ancestors_iff.2 hbc)]
  | absent =>
    refine congrArg some (Eq.symm (Bool.eq_false_iff.2 fun hsup => ?_))
    have hreach : reg.LiesBelow sub sup := mem_ancestors_iff.1 (List.contains_iff_mem.1 hsup)
    simpa using Search.prop_eq_false_of_find_absent hfind hreach
  | unfinished => exact absurd hfind hfinished

/-! ### The order -/

/-- A class leads to itself and to the ends of the chains of supertypes that start at it. -/
theorem liesBelow_iff_eq_or_transGen {sub sup : ClassId} :
    reg.LiesBelow sub sup ↔ sub = sup ∨ Relation.TransGen reg.DirectlyAbove sub sup := by
  have hstep : (fun c d => d ∈ reg.superclasses c) = reg.DirectlyAbove := by
    funext c d
    exact propext mem_superclasses_iff
  rw [LiesBelow, Search.Reaches, hstep, Relation.reflTransGen_iff_eq_or_transGen, eq_comm]

/-- Nothing is added above `Object`. -/
theorem supertypes_object (hobj : ∀ d, reg.class? reg.object = some d → d.declaredSupertypes = []) :
    reg.supertypes reg.object = [] := by
  rw [supertypes]
  cases hd : reg.class? reg.object with
  | none => rfl
  | some d => simp [hobj d hd]

/-- **Subclassing is transitive** if `Object` declares no supertypes. -/
theorem isSubclass_trans (hobj : ∀ d, reg.class? reg.object = some d → d.declaredSupertypes = [])
    {a b c : ClassId} (hab : reg.isSubclass a b = true) (hbc : reg.isSubclass b c = true) :
    reg.isSubclass a c = true := by
  rw [isSubclass_iff] at *
  rcases hbc with hbc | ⟨rfl, hdefined⟩
  · rcases hab with hab | ⟨rfl, hdefined⟩
    · exact Or.inl (hab.trans hbc)
    · -- from `Object` there is no way up
      rcases Relation.ReflTransGen.cases_head hbc with rfl | ⟨d, hd, -⟩
      · exact Or.inr ⟨rfl, hdefined⟩
      · rw [superclasses, supertypes_object hobj] at hd
        cases hd
  · by_cases heq : a = b
    · exact Or.inr ⟨rfl, heq ▸ hdefined⟩
    · rcases hab with hab | ⟨-, hdefined⟩
      · exact Or.inr ⟨rfl, hab.isDefined heq⟩
      · exact Or.inr ⟨rfl, hdefined⟩

/-- **Nominal subclassing is exact on every registry.** The search for a superclass always ends.
It succeeds for the class itself, for `Object` if the class is defined, and for the ends of the
chains of one or more supertypes that start at the class. If `Object` declares no supertypes, this
is reflexive and transitive. -/
theorem isSubclass_exact (reg : Registry) :
    (∀ sub sup, Answers (reg.isSubclassWithin · sub sup) (reg.isSubclass sub sup)) ∧
    (∀ sub sup, reg.isSubclass sub sup = true ↔
      sub = sup ∨ (sup = reg.object ∧ reg.isDefined sub = true) ∨
        Relation.TransGen reg.DirectlyAbove sub sup) ∧
    ((∀ d, reg.class? reg.object = some d → d.declaredSupertypes = []) →
      (∀ c, reg.isSubclass c c = true) ∧
      ∀ a b c, reg.isSubclass a b = true → reg.isSubclass b c = true →
        reg.isSubclass a c = true) := by
  refine ⟨fun sub sup => ⟨reg.classes.size + 2, fun n hn => isSubclassWithin_eq_some hn sub sup⟩,
    fun sub sup => ?_, fun hobj => ⟨reg.isSubclass_self, fun a b c => isSubclass_trans hobj⟩⟩
  rw [isSubclass_iff, liesBelow_iff_eq_or_transGen, or_assoc]
  exact or_congr_right or_comm

/-- `First<T> extends Second<First<T>>` and `Second<T> extends First<Second<T>>` go round in a
circle. `First` has an array, a wildcard and a variable among its supertypes as well, `Second` a
class that is only reserved. -/
def whirl : Registry where
  classes := #[some { name := objectName },
    some (classDef "First" [⟨0⟩] (.ofClass ⟨2⟩ [.ofClass ⟨1⟩ [.var ⟨0⟩]])
      [.array (.raw ⟨3⟩), .wildcard [.raw ⟨3⟩] [], .var ⟨0⟩]),
    some (classDef "Second" [⟨1⟩] (.ofClass ⟨1⟩ [.ofClass ⟨2⟩ [.var ⟨1⟩]]) [.raw ⟨3⟩]),
    none]
  params := #[⟨"T", .ofClass ⟨1⟩, [.raw ⟨0⟩]⟩, ⟨"T", .ofClass ⟨2⟩, [.raw ⟨0⟩]⟩]
  names := [("Missing", ⟨3⟩), ("Second", ⟨2⟩), ("First", ⟨1⟩), (objectName, ⟨0⟩)]
  object := ⟨0⟩

/-- In the circle either class is below the other, and both are below the reserved class. This one
is not defined, so it is not below `Object`. -/
theorem isSubclass_exact_whirl :
    Answers (whirl.isSubclassWithin · ⟨2⟩ ⟨1⟩) true ∧
    Answers (whirl.isSubclassWithin · ⟨1⟩ ⟨3⟩) true ∧
    Answers (whirl.isSubclassWithin · ⟨3⟩ ⟨0⟩) false ∧
    (Relation.TransGen whirl.DirectlyAbove ⟨1⟩ ⟨1⟩ ∧ whirl.isSubclass ⟨1⟩ ⟨0⟩ = true) := by
  obtain ⟨hhalts, hexact, horder⟩ := isSubclass_exact whirl
  have hobj : ∀ d, whirl.class? whirl.object = some d → d.declaredSupertypes = [] := by
    intro d hd
    obtain rfl : { name := objectName } = d := Option.some.inj hd
    rfl
  have hsecond : whirl.isSubclass ⟨2⟩ ⟨1⟩ = true := by decide +kernel
  have hcycle : Relation.TransGen whirl.DirectlyAbove ⟨1⟩ ⟨1⟩ :=
    .tail (.single (mem_superclasses_iff.1 (by decide +kernel)))
      (mem_superclasses_iff.1 (by decide +kernel : (⟨1⟩ : ClassId) ∈ whirl.superclasses ⟨2⟩))
  have hobject : whirl.isSubclass ⟨1⟩ ⟨0⟩ = true :=
    (horder hobj).2 ⟨1⟩ ⟨2⟩ ⟨0⟩ (by decide +kernel)
      ((hexact ⟨2⟩ ⟨0⟩).2 (Or.inr (Or.inl ⟨rfl, by decide +kernel⟩)))
  have hmissing : whirl.isSubclass ⟨1⟩ ⟨3⟩ = true := by decide +kernel
  have hroot : whirl.isSubclass ⟨3⟩ ⟨0⟩ = false := by decide +kernel
  exact ⟨hsecond ▸ hhalts ⟨2⟩ ⟨1⟩, hmissing ▸ hhalts ⟨1⟩ ⟨3⟩, hroot ▸ hhalts ⟨3⟩ ⟨0⟩, hcycle,
    hobject⟩

end Registry

end Generics
