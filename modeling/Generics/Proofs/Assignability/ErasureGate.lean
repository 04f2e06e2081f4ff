import Generics.Resolution.Instantiate
import Generics.Proofs.Hierarchy.ViewWalk
import Generics.Proofs.Registry.Bounded
import Generics.Proofs.Substitution.Ground

/-!
# What is assignable passes the erasure gate

The question whether one type can become another first compares the two erasures. For a concrete
source this comparison never turns down what is assignable: a view of the source lies above its
class, a wildcard erases to its first upper bound, and a variable to the erasure of its first bound.

The last is the delicate point. The erasure of a variable reads the bound with the variable already
marked as met, while the bound check reads the bound afresh. On cyclic bounds the first stops
earlier with `Object`, which is where `CutAt` comes in.

## Main definitions

* `TypeExpr.rootClass?`, `Registry.isRooted` — the class below all array brackets, and that it is
  known
* `CutAt` — one erased type is another with a part replaced by the root class

## Main results

* `Registry.erasureFrom_cut` — marking more variables as met only cuts an erasure
* `Resolver.gate_of_assignable`, `Resolver.gate_of_assignableFrom`
-/

namespace Generics

/-! ### The class below the brackets -/

/-- The class that an expression uses once all array brackets are removed. -/
def TypeExpr.rootClass? : TypeExpr → Option ClassId
  | .array elem => elem.rootClass?
  | t => t.classId?

/-- The class below all array brackets. -/
def ErasedType.root : ErasedType → ClassId
  | .plain c => c
  | .array elem => elem.root

/-- The class below all array brackets is defined. -/
def Registry.isRooted (reg : Registry) (t : TypeExpr) : Bool := t.rootClass?.any reg.isDefined

/-- `e` is `f` with a part replaced by the class `top`. -/
inductive CutAt (top : ClassId) : ErasedType → ErasedType → Prop where
  /-- All of it is replaced. -/
  | here (f : ErasedType) : CutAt top (.plain top) f
  /-- A class stays. -/
  | plain (c : ClassId) : CutAt top (.plain c) (.plain c)
  /-- Something in the component is replaced. -/
  | array {e f : ErasedType} (h : CutAt top e f) : CutAt top (.array e) (.array f)

namespace Registry

variable {reg : Registry}

/-- A concrete type has an erasure, with the same class below the brackets. -/
theorem exists_erasure_of_isConcrete (reg : Registry) {s : TypeExpr} (hs : s.isConcrete = true) :
    ∃ e, reg.erasure s = some e ∧ s.rootClass? = some e.root := by
  induction s with
  | raw c => exact ⟨.plain c, rfl, rfl⟩
  | app c args owner => exact ⟨.plain c, rfl, rfl⟩
  | wildcard us ls => cases hs
  | var v => cases hs
  | array elem ih =>
    obtain ⟨e, he, hroot⟩ := ih hs
    exact ⟨.array e, by rw [erasure_array, he]; rfl, hroot⟩

/-- The erasure of a use of a class is the class. -/
theorem erasure_of_use? {s : TypeExpr} {u : Use} (h : s.use? = some u) :
    reg.erasure s = some (.plain u.1) := by
  cases s with
  | raw c => exact Option.some.inj h ▸ rfl
  | app c args owner => exact Option.some.inj h ▸ rfl
  | _ => cases h

theorem isDefined_root {s : TypeExpr} {e : ErasedType} (hd : reg.isRooted s = true)
    (he : s.rootClass? = some e.root) : reg.isDefined e.root = true := by
  rwa [isRooted, he, Option.any_some] at hd

/-! ### Assignment between erased types -/

theorem isRawAssignable_self (e : ErasedType) : reg.isRawAssignable e e = true := by
  induction e with
  | plain c => exact isSubclass_self reg c
  | array elem ih => exact ih

theorem isRawAssignable_object {e : ErasedType} (h : reg.isDefined e.root = true) :
    reg.isRawAssignable (.plain reg.object) e = true := by
  cases e with
  | plain c => exact isSubclass_iff.2 (Or.inr ⟨rfl, h⟩)
  | array elem => simp [isRawAssignable, isArraySupertype]

/-- Whatever fits a slot fits the slot with a part of it replaced by `Object`. -/
theorem isRawAssignable_of_cut {e f g : ErasedType} (hcut : CutAt reg.object g f)
    (hroot : reg.isDefined e.root = true) (h : reg.isRawAssignable f e = true) :
    reg.isRawAssignable g e = true := by
  induction hcut generalizing e with
  | here f => exact isRawAssignable_object hroot
  | plain c => exact h
  | array _ ih =>
    cases e with
    | plain c => cases h
    | array elem => exact ih hroot h

/-! ### Erasures below different variables -/

theorem erasureWith_cut {onVar onVar' : VarId → Option ErasedType}
    (h : ∀ v f, onVar v = some f → ∃ g, onVar' v = some g ∧ CutAt reg.object g f)
    {t : TypeExpr} {f : ErasedType} (ht : reg.erasureWith onVar t = some f) :
    ∃ g, reg.erasureWith onVar' t = some g ∧ CutAt reg.object g f := by
  induction t generalizing f with
  | raw c =>
    obtain rfl := Option.some.inj ht
    exact ⟨.plain c, rfl, .plain c⟩
  | app c args owner =>
    obtain rfl := Option.some.inj ht
    exact ⟨.plain c, rfl, .plain c⟩
  | wildcard us ls ihUppers _ =>
    cases us with
    | nil =>
      obtain rfl := Option.some.inj ht
      exact ⟨.plain reg.object, rfl, .here _⟩
    | cons u us => exact ihUppers u List.mem_cons_self ht
  | var v => exact h v f ht
  | array elem ih =>
    obtain ⟨f', hf', rfl⟩ := Option.map_eq_some_iff.1 ht
    obtain ⟨g, hg, hcut⟩ := ih hf'
    exact ⟨.array g, by rw [erasureWith, hg]; rfl, .array hcut⟩

/-- Marking more variables as met, or following fewer of them, only cuts an erasure. -/
theorem erasureFrom_cut {n m : Nat} (hnm : n ≤ m) {seen seen' : List VarId} (hsub : seen ⊆ seen')
    {t : TypeExpr} {f : ErasedType} (h : reg.erasureFrom m seen t = some f) :
    ∃ g, reg.erasureFrom n seen' t = some g ∧ CutAt reg.object g f := by
  induction n generalizing m seen seen' t f with
  | zero =>
    cases m with
    | zero => exact erasureWith_cut (fun v f _ => ⟨_, rfl, .here f⟩) h
    | succ m => exact erasureWith_cut (fun v f _ => ⟨_, rfl, .here f⟩) h
  | succ n ih =>
    cases m with
    | zero => omega
    | succ m =>
      refine erasureWith_cut (fun v f hv => ?_) h
      by_cases hmet : v ∈ seen'
      · exact ⟨.plain reg.object, if_pos hmet, .here f⟩
      · rw [if_neg fun hs => hmet (hsub hs)] at hv
        rw [if_neg hmet]
        obtain ⟨b, hb, hf⟩ := Option.bind_eq_some_iff.1 hv
        obtain ⟨g, hg, hcut⟩ := ih (by omega) (List.cons_subset_cons v hsub) hf
        exact ⟨g, Option.bind_eq_some_iff.2 ⟨b, hb, hg⟩, hcut⟩

/-- A variable erases to its first bound's erasure, perhaps cut where the bound comes back to it. -/
theorem erasure_var_cut {v : VarId} {p : TypeParam} {b : TypeExpr} {bs : List TypeExpr}
    (hp : reg.typeParam? v = some p) (hb : p.bounds = b :: bs) {f : ErasedType}
    (hf : reg.erasure b = some f) :
    ∃ g, reg.erasure (.var v) = some g ∧ CutAt reg.object g f := by
  obtain ⟨g, hg, hcut⟩ := erasureFrom_cut (Nat.le_succ reg.params.size)
    (List.nil_subset [v]) hf
  refine ⟨g, ?_, hcut⟩
  rw [erasure_var, bounds_of_typeParam? hp, hb]
  exact hg

/-- The erasure of a concrete type does not depend on the erasures of variables. -/
theorem erasureWith_of_isConcrete (onVar onVar' : VarId → Option ErasedType) {t : TypeExpr}
    (ht : t.isConcrete = true) : reg.erasureWith onVar t = reg.erasureWith onVar' t := by
  induction t with
  | raw c => rfl
  | app c args owner => rfl
  | wildcard us ls => cases ht
  | var v => cases ht
  | array elem ih => exact congrArg (Option.map ErasedType.array) (ih ht)

/-- A variable whose first bound is concrete has the erasure of that bound. -/
theorem erasure_var_of_head? {v : VarId} {b : TypeExpr} (hb : (reg.bounds v).head? = some b)
    (hc : b.isConcrete = true) : reg.erasure (.var v) = reg.erasure b := by
  rw [erasure_var, hb, Option.bind_some]
  cases reg.params.size with
  | zero => exact erasureWith_of_isConcrete _ _ hc
  | succ n => exact erasureWith_of_isConcrete _ _ hc

/-! ### Uses of classes -/

/-- A use of a class has views only of the classes above it. -/
theorem liesBelow_of_view (hN : reg.SupertypesNominal) {s view : TypeExpr} {u : Use} {c : ClassId}
    {rounds : Nat} (hs : s.use? = some u) (h : reg.view rounds s c = some (some view)) :
    reg.LiesBelow u.1 c := by
  rw [view_of_use? hs] at h
  cases hw : reg.classView rounds c u with
  | found w => exact (liesBelow_of_classView hN hw).1
  | _ =>
    rw [hw] at h
    cases h

/-- A use of a class that is assignable to another use lies below the class of that use. -/
theorem liesBelow_of_assignableFrom (hN : reg.SupertypesNominal) {n : Nat} {seen : List VarId}
    {s : TypeExpr} {u : Use} (hs : s.use? = some u) {c : ClassId} {args : List TypeExpr}
    {owner : Option TypeExpr}
    (h : reg.assignableFrom n seen s (.app c args owner) = some true) : reg.LiesBelow u.1 c := by
  cases n with
  | zero => cases h
  | succ n =>
    rw [assignableFrom] at h
    unfold assignableStep at h
    split at h
    · rename_i heq
      subst heq
      obtain rfl := Option.some.inj hs
      exact .refl
    · cases s with
      | wildcard us ls => cases hs
      | var v => cases hs
      | array elem => cases hs
      | _ =>
        simp only at h
        split at h
        · cases h
        · rename_i hv
          exact liesBelow_of_view hN hs hv
        · rename_i hv
          exact liesBelow_of_view hN hs hv
        · cases h

end Registry

/-! ### The gate -/

namespace Resolver

variable {R : Resolver}

theorem gate_iff {source target : TypeExpr} :
    R.gate source target = true ↔ ∃ e f, R.registry.erasure source = some e ∧
      R.registry.erasure target = some f ∧ R.registry.isRawAssignable f e = true := by
  rw [gate]
  cases R.registry.erasure source with
  | none => simp
  | some e => cases R.registry.erasure target <;> simp

/-- A free variable that accepts a concrete type by its bounds accepts it by its erasure. -/
theorem gate_of_fitsErasedBounds (hB : R.registry.Bounded) {s : TypeExpr}
    (hs : s.isConcrete = true) (hd : R.registry.isRooted s = true) {v : VarId}
    (h : R.registry.fitsErasedBounds s v = true) : R.gate s (.var v) = true := by
  obtain ⟨e, he, hroot⟩ := R.registry.exists_erasure_of_isConcrete hs
  have hne : s ≠ .var v := by
    rintro rfl
    cases hs
  rw [Registry.fitsErasedBounds, if_neg hne, he] at h
  cases hp : R.registry.typeParam? v with
  | none => simp [hp] at h
  | some p =>
    simp only [hp, List.all_eq_true] at h
    obtain ⟨b, bs, hb⟩ := List.exists_cons_of_ne_nil (hB v p hp)
    have hfirst := h b (hb ▸ List.mem_cons_self)
    cases hf : R.registry.erasure b with
    | none => simp [hf] at hfirst
    | some f =>
      rw [hf, Option.any_some] at hfirst
      obtain ⟨g, hg, hcut⟩ := Registry.erasure_var_cut hp hb hf
      exact gate_iff.2 ⟨e, g, he, hg,
        Registry.isRawAssignable_of_cut hcut (Registry.isDefined_root hd hroot) hfirst⟩

/-- A use of a class passes for whatever has a class above it as its erasure. -/
theorem gate_of_liesBelow {source target : TypeExpr} {u : Use} {c : ClassId}
    (hs : source.use? = some u) (ht : R.registry.erasure target = some (.plain c))
    (h : R.registry.LiesBelow u.1 c) : R.gate source target = true :=
  gate_iff.2 ⟨_, _, Registry.erasure_of_use? hs, ht, Registry.isSubclass_iff.2 (Or.inl h)⟩

theorem gate_self {s : TypeExpr} (hs : s.isConcrete = true) : R.gate s s = true := by
  obtain ⟨e, he, -⟩ := R.registry.exists_erasure_of_isConcrete hs
  exact gate_iff.2 ⟨e, e, he, he, Registry.isRawAssignable_self e⟩

theorem gate_wildcard_nil {s : TypeExpr} (hs : s.isConcrete = true)
    (hd : R.registry.isRooted s = true) (ls : List TypeExpr) :
    R.gate s (.wildcard [] ls) = true := by
  obtain ⟨e, he, hroot⟩ := R.registry.exists_erasure_of_isConcrete hs
  exact gate_iff.2 ⟨e, _, he, rfl,
    Registry.isRawAssignable_object (Registry.isDefined_root hd hroot)⟩

theorem gate_array {s t : TypeExpr} (h : R.gate s t = true) :
    R.gate (.array s) (.array t) = true := by
  obtain ⟨e, f, he, hf, hfits⟩ := gate_iff.1 h
  exact gate_iff.2 ⟨.array e, .array f, by rw [Registry.erasure_array, he]; rfl,
    by rw [Registry.erasure_array, hf]; rfl, hfits⟩

/-- An array passes for the classes above all arrays. -/
theorem gate_array_class {s target : TypeExpr} (hs : s.isConcrete = true) {c : ClassId}
    (hc : R.registry.isArraySupertype c = true)
    (ht : R.registry.erasure target = some (.plain c)) : R.gate (.array s) target = true := by
  obtain ⟨e, he, -⟩ := R.registry.exists_erasure_of_isConcrete hs
  exact gate_iff.2 ⟨.array e, _, by rw [Registry.erasure_array, he]; rfl, ht, hc⟩

/-- A concrete argument lies below every upper bound of a wildcard that contains it. -/
theorem assign_of_contained {reg : Registry} {assign : TypeExpr → TypeExpr → Option Bool}
    {s : TypeExpr} (hs : s.isConcrete = true) {us ls : List TypeExpr}
    (h : reg.contained assign s us ls = some true) {u : TypeExpr} (hu : u ∈ us) :
    assign s u = some true := by
  have hbounds : reg.argumentBounds s = ([s], [s]) := by
    cases s with
    | wildcard => cases hs
    | _ => rfl
  simp only [Registry.contained, hbounds, Option.bind_eq_bind, Option.bind_eq_some_iff,
    Option.pure_def, Option.some.injEq, Bool.and_eq_true] at h
  obtain ⟨below, hbelow, -, -, hbt, -⟩ := h
  rw [hbt] at hbelow
  obtain ⟨a, ha, hassign⟩ := exists_of_anyM_eq_true (allM_eq_true_iff.1 hbelow u hu)
  rwa [List.mem_singleton.1 ha] at hassign

/-- **The gate lets through what is assignable.** Whatever accepts a concrete source in an answer
about assignability also accepts its erasure. Unless it is concrete itself, the source must be of a
known class; only if it has variables do these need bounds. -/
theorem gate_of_assignable (hN : R.registry.SupertypesNominal) {n : Nat} {seen : List VarId}
    {s t : TypeExpr} (hs : s.isConcrete = true)
    (hrooted : t.isConcrete = false → R.registry.isRooted s = true)
    (hbounded : t.hasVars = true → R.registry.Bounded)
    (h : R.registry.assignableFrom n seen s t = some true) : R.gate s t = true := by
  -- along the recursion the source only loses brackets, so it stays concrete and of a known class
  induction n generalizing s t with
  | zero => cases h
  | succ n ih =>
    have hassign := h
    rw [Registry.assignableFrom] at h
    unfold Registry.assignableStep at h
    by_cases heq : s = t
    · exact heq ▸ gate_self hs
    rw [if_neg heq] at h
    cases t with
    | var v => exact gate_of_fitsErasedBounds (hbounded rfl) hs (hrooted rfl) (Option.some.inj h)
    | wildcard us ls =>
      cases us with
      | nil => exact gate_wildcard_nil hs (hrooted rfl) ls
      | cons u us =>
        have hu : R.registry.assignableFrom n seen s u = some true :=
          assign_of_contained hs h List.mem_cons_self
        have hvars : u.hasVars = true → R.registry.Bounded := fun hu => hbounded (by simp [hu])
        have hgate : R.gate s u = true := ih hs (fun _ => hrooted rfl) hvars hu
        exact hgate
    | array t =>
      cases s with
      | array s => exact gate_array (ih hs hrooted hbounded h)
      | wildcard us ls => cases hs
      | var v => cases hs
      | _ => cases h
    | raw c =>
      cases s with
      | array s => exact gate_array_class hs (Option.some.inj h) rfl
      | wildcard us ls => cases hs
      | var v => cases hs
      | _ =>
        obtain ⟨v, hv, hsome⟩ := Option.map_eq_some_iff.1 h
        obtain ⟨w, rfl⟩ := Option.isSome_iff_exists.1 hsome
        exact gate_of_liesBelow rfl rfl (Registry.liesBelow_of_view hN rfl hv)
    | app c targets owner =>
      cases s with
      | array s => cases h
      | wildcard us ls => cases hs
      | var v => cases hs
      | _ => exact gate_of_liesBelow rfl rfl (Registry.liesBelow_of_assignableFrom hN rfl hassign)

/-- For a concrete target the source does not matter. -/
theorem gate_of_assignable_concrete (hN : R.registry.SupertypesNominal) {n : Nat}
    {seen : List VarId} {s t : TypeExpr} (hs : s.isConcrete = true) (ht : t.isConcrete = true)
    (h : R.registry.assignableFrom n seen s t = some true) : R.gate s t = true := by
  refine gate_of_assignable hN hs (fun hopen => ?_) (fun hvars => ?_) h
  · rw [ht] at hopen
    cases hopen
  · rw [TypeExpr.hasVars_of_isConcrete ht] at hvars
    cases hvars

/-- For a source of a known class the target does not matter. -/
theorem gate_of_assignableFrom (hB : R.registry.Bounded) (hN : R.registry.SupertypesNominal)
    {n : Nat} {seen : List VarId} {s t : TypeExpr} (hs : s.isConcrete = true)
    (hd : R.registry.isRooted s = true)
    (h : R.registry.assignableFrom n seen s t = some true) : R.gate s t = true :=
  gate_of_assignable hN hs (fun _ => hd) (fun _ => hB) h

end Resolver

end Generics
