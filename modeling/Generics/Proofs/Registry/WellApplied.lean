import Generics.Proofs.Hierarchy.ViewSubstitution
import Generics.Proofs.TypeExpr.Places
import Generics.Registry.Application

/-!
# Types with the right number of arguments

A class should be applied to as many arguments as it declares type parameters. Building a type does
not ask for that, since a type may be written down before its classes are defined; only the checked
application of a class does. Here the property is stated for every application in a type, wherever
it stands, and of classes that are not defined nothing is asked. It is kept by substitution and
handed on between types and the uses that the hierarchy is walked with.

## Main definitions

* `Registry.WellApplied` — every defined class in a type has as many arguments as type parameters
* `Registry.BindsWellApplied`, `Registry.UseWellApplied` — the same for bindings and for uses
* `Registry.DeclaresWellApplied` — declared supertypes and bounds are well applied

## Main results

* `Registry.WellApplied.of_apply` — what the checked application builds
* `Registry.WellApplied.substitute`
* `Registry.UseWellApplied.of_use?`, `Registry.UseWellApplied.toType`
-/

namespace Generics

namespace Registry

variable {reg : Registry} {t : TypeExpr} {c : ClassId} {args : List TypeExpr}
  {owner : Option TypeExpr}

/-! ### Types -/

/-- Every class in the type that is applied to arguments, and is defined, has as many of them as it
declares type parameters. -/
def WellApplied (reg : Registry) (t : TypeExpr) : Prop :=
  ∀ e ∈ t.applications, ∀ d ∈ reg.class? e.1, d.typeParams.length = e.2.length

instance (reg : Registry) (t : TypeExpr) : Decidable (reg.WellApplied t) :=
  inferInstanceAs (Decidable (∀ e ∈ t.applications, ∀ d ∈ reg.class? e.1,
    d.typeParams.length = e.2.length))

@[simp] theorem wellApplied_raw (c : ClassId) : reg.WellApplied (.raw c) := by
  intro e he
  rw [TypeExpr.applications] at he
  cases he

@[simp] theorem wellApplied_var (v : VarId) : reg.WellApplied (.var v) := by
  intro e he
  rw [TypeExpr.applications] at he
  cases he

@[simp] theorem wellApplied_array_iff {elem : TypeExpr} :
    reg.WellApplied (.array elem) ↔ reg.WellApplied elem := by
  rw [WellApplied, TypeExpr.applications]
  rfl

theorem wellApplied_app_iff :
    reg.WellApplied (.app c args owner) ↔
      (∀ d ∈ reg.class? c, d.typeParams.length = args.length) ∧
        (∀ a ∈ args, reg.WellApplied a) ∧ ∀ o ∈ owner, reg.WellApplied o :=
  TypeExpr.forall_mem_applications_app

theorem wellApplied_wildcard_iff {us ls : List TypeExpr} :
    reg.WellApplied (.wildcard us ls) ↔
      (∀ u ∈ us, reg.WellApplied u) ∧ ∀ l ∈ ls, reg.WellApplied l :=
  TypeExpr.forall_mem_applications_wildcard

/-- The checked application of a class to well-applied arguments is well applied. -/
theorem WellApplied.of_apply (h : reg.apply c args owner = .ok t)
    (hargs : ∀ a ∈ args, reg.WellApplied a) (howner : ∀ o ∈ owner, reg.WellApplied o) :
    reg.WellApplied t := by
  obtain ⟨⟨d, hd, hlen⟩, rfl⟩ := apply_eq_ok_iff.1 h
  refine wellApplied_app_iff.2 ⟨fun d' hd' => ?_, hargs, howner⟩
  obtain rfl := Option.some.inj (hd.symm.trans hd')
  exact hlen

theorem WellApplied.of_mem_args (h : reg.WellApplied t) {a : TypeExpr} (ha : a ∈ t.args) :
    reg.WellApplied a := by
  cases t with
  | app c args owner => exact (wellApplied_app_iff.1 h).2.1 a ha
  | _ => cases ha

theorem WellApplied.of_mem_owner (h : reg.WellApplied t) {o : TypeExpr} (ho : o ∈ t.owner?) :
    reg.WellApplied o := by
  cases t with
  | app c args owner => exact (wellApplied_app_iff.1 h).2.2 o ho
  | _ => cases ho

/-- Instead of no bounds there is `Object`, which is not applied to anything. -/
theorem wellApplied_of_mem_orObject {us : List TypeExpr} (h : ∀ u ∈ us, reg.WellApplied u)
    {b : TypeExpr} (hb : b ∈ reg.orObject us) : reg.WellApplied b := by
  rcases mem_orObject hb with rfl | hmem
  · exact wellApplied_raw _
  · exact h b hmem

/-! ### Bindings -/

/-- Everything that is bound is well applied. -/
def BindsWellApplied (reg : Registry) (σ : Substitution) : Prop :=
  ∀ v t, σ.get? v = some t → reg.WellApplied t

theorem bindsWellApplied_empty : reg.BindsWellApplied .empty := fun _ _ h => nomatch h

namespace BindsWellApplied

variable {σ τ : Substitution} {es : List (VarId × TypeExpr)}

theorem bind (hσ : reg.BindsWellApplied σ) (v : VarId) (ht : reg.WellApplied t) :
    reg.BindsWellApplied (σ.bind v t) := by
  intro w u hu
  rw [Substitution.get?_bind] at hu
  split at hu
  · obtain rfl := Option.some.inj hu
    exact ht
  · exact hσ w u hu

theorem bindAllIfAbsent (hσ : reg.BindsWellApplied σ) (h : ∀ e ∈ es, reg.WellApplied e.2) :
    reg.BindsWellApplied (σ.bindAllIfAbsent es) := by
  intro v u hu
  rw [Substitution.get?_bindAllIfAbsent, Option.or_eq_some_iff] at hu
  rcases hu with hu | ⟨-, hu⟩
  · exact hσ v u hu
  · obtain ⟨before, after, rfl, -⟩ := List.lookup_eq_some_iff.1 hu
    exact h (v, u) (List.mem_append_right _ List.mem_cons_self)

theorem ofList (h : ∀ e ∈ es, reg.WellApplied e.2) : reg.BindsWellApplied (.ofList es) := by
  intro v u hu
  rw [Substitution.get?_ofList] at hu
  obtain ⟨before, after, hes, -⟩ := List.lookup_eq_some_iff.1 hu
  refine h (v, u) (List.mem_reverse.1 ?_)
  rw [hes]
  exact List.mem_append_right _ List.mem_cons_self

theorem ofFormals {formals : List VarId} (h : ∀ a ∈ args, reg.WellApplied a) :
    reg.BindsWellApplied (.ofFormals formals args) :=
  fun _ _ hu => h _ (Substitution.mem_of_get?_ofFormals hu)

theorem extend (hσ : reg.BindsWellApplied σ) (hτ : reg.BindsWellApplied τ) :
    reg.BindsWellApplied (σ.extend τ) := by
  intro v u hu
  rw [Substitution.get?_extend, Option.or_eq_some_iff] at hu
  rcases hu with hu | ⟨-, hu⟩
  · exact hτ v u hu
  · exact hσ v u hu

end BindsWellApplied

/-- **Substitution keeps the numbers of arguments.** -/
theorem WellApplied.substitute {σ : Substitution} (ht : reg.WellApplied t)
    (hσ : reg.BindsWellApplied σ) : reg.WellApplied (t.substitute σ) := by
  induction t with
  | raw c => exact wellApplied_raw c
  | app c args owner ihArgs ihOwner =>
    obtain ⟨hc, hargs, howner⟩ := wellApplied_app_iff.1 ht
    rw [TypeExpr.substitute_app]
    refine wellApplied_app_iff.2 ⟨fun d hd => ?_, fun b hb => ?_, fun p hp => ?_⟩
    · rw [List.length_map]
      exact hc d hd
    · obtain ⟨a, ha, rfl⟩ := List.mem_map.1 hb
      exact ihArgs a ha (hargs a ha)
    · obtain ⟨o, ho, rfl⟩ := Option.map_eq_some_iff.1 hp
      exact ihOwner o ho (howner o ho)
  | wildcard us ls ihUppers ihLowers =>
    obtain ⟨hus, hls⟩ := wellApplied_wildcard_iff.1 ht
    rw [TypeExpr.substitute_wildcard]
    refine wellApplied_wildcard_iff.2 ⟨fun b hb => ?_, fun b hb => ?_⟩
    · obtain ⟨u, hu, rfl⟩ := List.mem_map.1 hb
      exact ihUppers u hu (hus u hu)
    · obtain ⟨l, hl, rfl⟩ := List.mem_map.1 hb
      exact ihLowers l hl (hls l hl)
  | var v =>
    rw [TypeExpr.substitute_var]
    cases hv : σ.get? v with
    | none => exact wellApplied_var v
    | some u => exact hσ v u hv
  | array elem ih => exact wellApplied_array_iff.2 (ih (wellApplied_array_iff.1 ht))

/-! ### Uses -/

/-- The use is raw, or has as many arguments as its class has type parameters; and the arguments are
well applied. -/
structure UseWellApplied (reg : Registry) (u : Use) : Prop where
  /-- The number of arguments is right. -/
  fits : reg.Fits u
  /-- The arguments are well applied. -/
  args : ∀ a ∈ u.2, reg.WellApplied a

theorem useWellApplied_raw (c : ClassId) : reg.UseWellApplied (c, []) :=
  ⟨fun _ _ => .inl rfl, fun _ ha => absurd ha List.not_mem_nil⟩

theorem useWellApplied_of_app (h : reg.WellApplied (.app c args owner)) :
    reg.UseWellApplied (c, args) := by
  obtain ⟨hc, hargs, -⟩ := wellApplied_app_iff.1 h
  exact ⟨fun d hd => .inr (hc d hd), hargs⟩

/-- A well-applied type stands for such a use, -/
theorem UseWellApplied.of_use? {u : Use} (ht : reg.WellApplied t) (hu : t.use? = some u) :
    reg.UseWellApplied u := by
  cases t with
  | raw c =>
    obtain rfl := Option.some.inj hu
    exact useWellApplied_raw c
  | app c args owner =>
    obtain rfl := Option.some.inj hu
    exact useWellApplied_of_app ht
  | _ => cases hu

/-- and such a use is a well-applied type. -/
theorem UseWellApplied.toType {u : Use} (hu : reg.UseWellApplied u) :
    reg.WellApplied u.toType := by
  obtain ⟨c, args⟩ := u
  cases args with
  | nil => exact wellApplied_raw c
  | cons a as =>
    refine wellApplied_app_iff.2 ⟨fun d hd => ?_, hu.args, fun o ho => nomatch ho⟩
    rcases hu.fits d hd with hnil | hlen
    · cases hnil
    · exact hlen

/-! ### Declarations -/

/-- Declared supertypes and bounds are well applied. -/
structure DeclaresWellApplied (reg : Registry) : Prop where
  /-- Supertypes, -/
  supertypes : ∀ c, ∀ d ∈ reg.class? c, ∀ t ∈ d.declaredSupertypes, reg.WellApplied t
  /-- and the bounds of type parameters. -/
  bounds : ∀ p ∈ reg.params, ∀ b ∈ p.bounds, reg.WellApplied b

instance (reg : Registry) : Decidable reg.DeclaresWellApplied :=
  decidable_of_iff ((∀ c ∈ reg.tableIds, ∀ d ∈ reg.class? c, ∀ t ∈ d.declaredSupertypes,
      reg.WellApplied t) ∧ ∀ p ∈ reg.params, ∀ b ∈ p.bounds, reg.WellApplied b)
    ⟨fun h => ⟨fun c d hd => h.1 c (mem_tableIds_of_class? hd) d hd, h.2⟩,
      fun h => ⟨fun c _ => h.supertypes c, h.bounds⟩⟩

namespace DeclaresWellApplied

variable (h : reg.DeclaresWellApplied)

include h

theorem of_mem_supertypes (ht : t ∈ reg.supertypes c) : reg.WellApplied t := by
  obtain ⟨d, hd, hdecl | rfl⟩ := exists_declared_of_mem_supertypes ht
  · exact h.supertypes c d hd t hdecl
  · exact wellApplied_raw _

theorem of_typeParam? {v : VarId} {p : TypeParam} (hp : reg.typeParam? v = some p) {b : TypeExpr}
    (hb : b ∈ p.bounds) : reg.WellApplied b :=
  h.bounds p (Array.mem_of_getElem? hp) b hb

theorem of_mem_bounds {v : VarId} {b : TypeExpr} (hb : b ∈ reg.bounds v) : reg.WellApplied b := by
  cases hp : reg.typeParam? v with
  | none =>
    rw [Registry.bounds, hp] at hb
    cases hb
  | some p =>
    rw [bounds_of_typeParam? hp] at hb
    exact h.of_typeParam? hp hb

end DeclaresWellApplied

end Registry

end Generics
