import Generics.Proofs.Registry.WellApplied
import Generics.Proofs.Session.Reset

/-!
# Carried over to a class with other type parameters

A type is carried over with all its arguments, and nothing is compared with the class of the same
name where it goes: that is done only when a class is applied with the check. So the numbers of
arguments are right afterwards exactly if every class that is applied in the type declares as many
type parameters in one registry as in the other. This holds wherever types are carried over, be it
one by one, in place, or with the pool of a session.

## Main definitions

* `Registry.KeepsArity` — a class has as many type parameters in the other registry
* `Registry.CarriesArity` — when carried over types are well applied

## Main results

* `Registry.wellApplied_rebind_iff`
* `Registry.carriesArity`
-/

namespace Generics

/-- A property that the members of a list have exactly if their results have another one. -/
theorem forall_mem_iff_of_map_ok {ε α β : Type} {f : α → Except ε β} {P : α → Prop} {Q : β → Prop}
    {as : List α} {bs : List β} (h : ∀ a ∈ as, ∀ b, f a = .ok b → (Q b ↔ P a))
    (hf : as.map f = bs.map .ok) : (∀ b ∈ bs, Q b) ↔ ∀ a ∈ as, P a := by
  induction as generalizing bs with
  | nil =>
    obtain rfl := List.map_eq_nil_iff.1 hf.symm
    simp
  | cons a as ih =>
    cases bs with
    | nil => cases hf
    | cons b bs =>
      obtain ⟨hb, hbs⟩ := List.cons.inj hf
      rw [List.forall_mem_cons, List.forall_mem_cons, h a List.mem_cons_self b hb,
        ih (fun a' ha' => h a' (List.mem_cons_of_mem _ ha')) hbs]

namespace Registry

variable {old new : Registry} {t u : TypeExpr}

/-- If `new` has a class of the same name, it declares as many type parameters. -/
def KeepsArity (old new : Registry) (c : ClassId) : Prop :=
  ∀ d ∈ old.class? c, ∀ c' ∈ new.lookup? d.name, ∀ d' ∈ new.class? c',
    d'.typeParams.length = d.typeParams.length

instance (old new : Registry) (c : ClassId) : Decidable (old.KeepsArity new c) :=
  inferInstanceAs (Decidable (∀ d ∈ old.class? c, ∀ c' ∈ new.lookup? d.name, ∀ d' ∈ new.class? c',
    d'.typeParams.length = d.typeParams.length))

/-- A class that is applied to the right number of arguments is so where it is carried over exactly
if it has as many type parameters there. -/
theorem keepsArity_iff_of_rebindClass {c c' : ClassId} {n : Nat}
    (h : old.rebindClass new c = .ok c') (hc : ∀ d ∈ old.class? c, d.typeParams.length = n) :
    old.KeepsArity new c ↔ ∀ d' ∈ new.class? c', d'.typeParams.length = n := by
  obtain ⟨d, hd, hc'⟩ := rebindClass_eq_ok_iff.1 h
  constructor
  · intro hkeeps d' hd'
    exact (hkeeps d hd c' hc' d' hd').trans (hc d hd)
  · intro hlen d₁ hd₁ c₁ hc₁ d' hd'
    obtain rfl := Option.some.inj (hd.symm.trans hd₁)
    obtain rfl := Option.some.inj (hc'.symm.trans hc₁)
    exact (hlen d' hd').trans (hc d hd).symm

/-- **A type that is carried over is well applied exactly if its classes keep their numbers of type
parameters,** if it was well applied before. -/
theorem wellApplied_rebind_iff (ht : old.WellApplied t) (h : old.rebind new t = .ok u) :
    new.WellApplied u ↔ ∀ e ∈ t.applications, old.KeepsArity new e.1 := by
  induction t generalizing u with
  | raw c =>
    obtain ⟨c', -, rfl⟩ := rebind_raw_eq_ok_iff.1 h
    simp [TypeExpr.applications]
  | app c args owner ihArgs ihOwner =>
    obtain ⟨c', args', owner', hc, hargs, howner, rfl⟩ := rebind_app_eq_ok_iff.1 h
    obtain ⟨htc, htargs, htowner⟩ := wellApplied_app_iff.1 ht
    have hlen : args'.length = args.length := by
      rw [← List.length_map (f := Except.ok (ε := RebindError)), ← hargs, List.length_map]
    have hargs' : (∀ b ∈ args', new.WellApplied b) ↔
        ∀ a ∈ args, ∀ e ∈ a.applications, old.KeepsArity new e.1 :=
      forall_mem_iff_of_map_ok (fun a ha b hb => ihArgs a ha (htargs a ha) hb) hargs
    have howner' : (∀ p ∈ owner', new.WellApplied p) ↔
        ∀ o ∈ owner, ∀ e ∈ o.applications, old.KeepsArity new e.1 := by
      cases owner with
      | none =>
        obtain rfl := Option.map_eq_none_iff.1 howner.symm
        simp
      | some o =>
        cases owner' with
        | none => cases howner
        | some p => simpa using ihOwner o rfl (htowner o rfl) (Option.some.inj howner)
    rw [wellApplied_app_iff, hlen, ← keepsArity_iff_of_rebindClass hc htc, hargs', howner',
      TypeExpr.forall_mem_applications_app]
  | wildcard us ls ihUppers ihLowers =>
    obtain ⟨us', ls', hus, hls, rfl⟩ := rebind_wildcard_eq_ok_iff.1 h
    obtain ⟨htus, htls⟩ := wellApplied_wildcard_iff.1 ht
    rw [wellApplied_wildcard_iff, TypeExpr.forall_mem_applications_wildcard,
      forall_mem_iff_of_map_ok (fun a ha b hb => ihUppers a ha (htus a ha) hb) hus,
      forall_mem_iff_of_map_ok (fun a ha b hb => ihLowers a ha (htls a ha) hb) hls]
  | var v =>
    obtain ⟨w, -, rfl⟩ := rebind_var_eq_ok_iff.1 h
    simp [TypeExpr.applications]
  | array elem ih =>
    obtain ⟨e, he, rfl⟩ := rebind_array_eq_ok_iff.1 h
    rw [wellApplied_array_iff, ih (wellApplied_array_iff.1 ht) he, TypeExpr.applications]

theorem changeSource_eq_true_iff :
    old.changeSource new t = (true, u) ↔ old.rebind new t = .ok u := by
  rw [changeSource]
  cases old.rebind new t <;> simp

/-- Which of the well-applied types of `old` are well applied after they are carried over to
`new`. -/
structure CarriesArity (old new : Registry) : Prop where
  /-- One type, -/
  rebind : ∀ t u, old.WellApplied t → old.rebind new t = .ok u →
    (new.WellApplied u ↔ ∀ e ∈ t.applications, old.KeepsArity new e.1)
  /-- a type that is changed in place, -/
  changeSource : ∀ t u, old.WellApplied t → old.changeSource new t = (true, u) →
    (new.WellApplied u ↔ ∀ e ∈ t.applications, old.KeepsArity new e.1)
  /-- and every type in the pool of a session: it is what has become of a recorded one. -/
  reset : ∀ s : Session, s.registry = old → (∀ t ∈ s.pool.entries, old.WellApplied t) →
    ∀ u ∈ (s.reset new).2.pool.entries, ∃ t ∈ s.pool.entries, old.rebind new t = .ok u ∧
      (new.WellApplied u ↔ ∀ e ∈ t.applications, old.KeepsArity new e.1)

/-- **Types are carried over well applied exactly if the classes that are applied in them have
equally many type parameters on both sides.** -/
theorem carriesArity (old new : Registry) : old.CarriesArity new where
  rebind _ _ ht h := wellApplied_rebind_iff ht h
  changeSource _ _ ht h := wellApplied_rebind_iff ht (changeSource_eq_true_iff.1 h)
  reset := by
    rintro s rfl hpool u hu
    obtain ⟨t, ht, h⟩ := Session.mem_carried_iff.1 (Pool.mem_ofList.1 hu)
    exact ⟨t, ht, h, wellApplied_rebind_iff (hpool t ht) h⟩

/-- `Box<Box<Box>>` stays well applied on the way from one workshop to the other, since the boxes of
both have one type parameter. -/
theorem carriesArity_workshop :
    let t : TypeExpr := .app ⟨2⟩ [.app ⟨2⟩ [.raw ⟨2⟩] none] none
    let u : TypeExpr := .app ⟨1⟩ [.app ⟨1⟩ [.raw ⟨1⟩] none] none
    workshop.WellApplied t ∧ workshop.rebind otherWorkshop t = .ok u ∧
      otherWorkshop.WellApplied u := by
  intro t u
  have ht : workshop.WellApplied t := by decide +kernel
  have h : workshop.rebind otherWorkshop t = .ok u := by decide +kernel
  exact ⟨ht, h, ((carriesArity workshop otherWorkshop).rebind t u ht h).2 (by decide +kernel)⟩

/-- `Box<T>`. -/
def boxes : Registry where
  classes := #[some { name := objectName }, some (classDef "Box" [⟨0⟩] (.raw ⟨0⟩) [])]
  params := #[⟨"T", .ofClass ⟨1⟩, [.raw ⟨0⟩]⟩]
  names := [("Box", ⟨1⟩), (objectName, ⟨0⟩)]
  object := ⟨0⟩

/-- `Box<A, B>`. -/
def wideBoxes : Registry where
  classes := #[some { name := objectName }, some (classDef "Box" [⟨0⟩, ⟨1⟩] (.raw ⟨0⟩) [])]
  params := #[⟨"A", .ofClass ⟨1⟩, [.raw ⟨0⟩]⟩, ⟨"B", .ofClass ⟨1⟩, [.raw ⟨0⟩]⟩]
  names := [("Box", ⟨1⟩), (objectName, ⟨0⟩)]
  object := ⟨0⟩

/-- `Box<Object>` is carried over to a `Box` with two type parameters as it is, one by one, in place
and with the pool; the checked application refuses it there. -/
theorem carriesArity_wideBoxes :
    let t : TypeExpr := .app ⟨1⟩ [.raw ⟨0⟩] none
    let s : Session := { registry := boxes, pool := .ofList [t] }
    boxes.WellApplied t ∧ boxes.rebind wideBoxes t = .ok t ∧
      boxes.changeSource wideBoxes t = (true, t) ∧
      (s.reset wideBoxes).2.pool.entries = [t] ∧ ¬ wideBoxes.WellApplied t ∧
      wideBoxes.apply ⟨1⟩ [.raw ⟨0⟩] none = .error (.arityMismatch "Box" 2 1) := by
  decide +kernel

end Registry

end Generics
