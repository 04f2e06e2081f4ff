import Generics.Proofs.Registry.NameIndex
import Generics.Proofs.Resolution.CheckedBindings
import Generics.Proofs.Resolution.DeclaredBounds
import Generics.Proofs.Resolution.FoundBindings

/-!
# What the search through the registry finds

A variable that is bound to nothing is resolved by its bounds: by the most specific of them if that
fits all, else by the first class of the registry that does. The search tries the classes without
type parameters, best first, and puts a cheap test before the bound check: the class must lie below
the erasures of the bounds.

The two tests do not read the same bounds. The check puts the candidate in the place of the variable;
an erasure marks the variable as met and goes on with `Object` where it comes back to it. That the
cheap test turns down nothing that the check would accept has two parts. What passes the check passes
by its erasure for the bounds with the candidate put in. And putting in a class changes the erasure
of a bound only where the variable itself is reached below no brackets, as no class lies below an
array; what is reached there is the erasure of the first bound, and for that the candidate passes as
well.

## Main definitions

* `ClassDef.NoLater`, `Registry.NoLater` — the order in which classes are tried
* `Resolver.StandsFor` — a class without type parameters may stand for a variable
* `Resolver.FoundFor` — what the search finds for a variable

## Main results

* `Registry.pairwise_standIns` — the classes are tried in that order
* `Registry.passesErased_of_forall` — what passes with the class put in passes by its erasure
* `Resolver.passesErased_of_checkBounds` — the cheap test turns down nothing that would be accepted
* `Resolver.selection_complete`
-/

namespace Generics

/-! ### The order of the classes -/

/-- `c` is tried no later than `d`: classes come before interfaces, concrete classes before abstract
ones, and for the rest the names decide. -/
def ClassDef.NoLater (c d : ClassDef) : Prop :=
  c.isInterface < d.isInterface ∨ c.isInterface = d.isInterface ∧
    (c.isAbstract < d.isAbstract ∨ c.isAbstract = d.isAbstract ∧ c.name ≤ d.name)

namespace Registry

variable {reg : Registry}

/-- Both classes are defined, and the first is tried no later than the second. -/
def NoLater (reg : Registry) (c d : ClassId) : Prop :=
  ∃ dc ∈ reg.class? c, ∃ dd ∈ reg.class? d, dc.NoLater dd

theorem noLater_self {c : ClassId} (h : reg.isDefined c = true) : reg.NoLater c c := by
  obtain ⟨d, hd⟩ := isDefined_iff.1 h
  exact ⟨d, hd, d, hd, Or.inr ⟨rfl, Or.inr ⟨rfl, String.le_refl _⟩⟩⟩

theorem noLater_of_preferable {c d : ClassId} {dc dd : ClassDef} (hc : reg.class? c = some dc)
    (hd : reg.class? d = some dd) (h : reg.preferable c d = true)
    (hname : reg.preferable d c = true → dc.name ≤ dd.name) : dc.NoLater dd := by
  simp only [preferable, remoteness, hc, hd, decide_eq_true_eq] at h hname
  rw [ClassDef.NoLater]
  cases hci : dc.isInterface <;> cases hdi : dd.isInterface <;>
    cases hca : dc.isAbstract <;> cases hda : dd.isAbstract <;> simp_all

theorem preferable_total (reg : Registry) (c d : ClassId) (h : reg.preferable c d = false) :
    reg.preferable d c = true := by
  simp only [preferable, decide_eq_true_eq, decide_eq_false_iff_not] at h ⊢
  omega

theorem preferable_trans (reg : Registry) (c d e : ClassId) (hcd : reg.preferable c d = true)
    (hde : reg.preferable d e = true) : reg.preferable c e = true := by
  simp only [preferable, decide_eq_true_eq] at hcd hde ⊢
  omega

/-- **The classes are tried in the order** of `NoLater`: the names decide because they come first,
and sorting by the rest is stable. -/
theorem pairwise_standIns (reg : Registry) : reg.standIns.Pairwise reg.NoLater := by
  have hnames := (pairwise_classIds reg).filter reg.isPlain
  have hsorted := Ordered.pairwise_sort_stable (preferable_total reg) (preferable_trans reg) hnames
  refine hsorted.imp_of_mem fun {c d} hc hd h => ?_
  obtain ⟨dc, hdc⟩ := isDefined_iff.1 (isDefined_of_isPlain (mem_standIns.1 hc))
  obtain ⟨dd, hdd⟩ := isDefined_iff.1 (isDefined_of_isPlain (mem_standIns.1 hd))
  refine ⟨dc, hdc, dd, hdd, noLater_of_preferable hdc hdd h.1 fun hdc' => ?_⟩
  obtain ⟨dc', hc', dd', hd', hname⟩ := h.2 hdc'
  obtain rfl := Option.some.inj (hdc.symm.trans hc')
  obtain rfl := Option.some.inj (hdd.symm.trans hd')
  exact hname

/-! ### Erasures with a class put in -/

/-- Below the variables `seen` these have the erasure `Object`. -/
theorem exists_erasureFrom_eq (reg : Registry) (n : Nat) (seen : List VarId) :
    ∃ onVar, reg.erasureFrom n seen = reg.erasureWith onVar ∧
      ∀ v ∈ seen, onVar v = some (.plain reg.object) := by
  cases n with
  | zero => exact ⟨_, rfl, fun _ _ => rfl⟩
  | succ n => exact ⟨_, rfl, fun v hv => if_pos hv⟩

/-- If a class passes for an expression with itself in the place of a variable, it passes for the
expression as it is, as far as it passes for the variable. -/
theorem isRawAssignable_of_substitute {onVar : VarId → Option ErasedType} {v : VarId} {c : ClassId}
    (hv : ∀ f, onVar v = some f → reg.isRawAssignable f (.plain c) = true) {t : TypeExpr}
    {f g : ErasedType} (hf : reg.erasureWith onVar t = some f)
    (hg : reg.erasureWith onVar (t.substitute (.bind .empty v (.raw c))) = some g)
    (h : reg.isRawAssignable g (.plain c) = true) : reg.isRawAssignable f (.plain c) = true := by
  induction t generalizing f g with
  | raw d =>
    obtain rfl := Option.some.inj (hf.symm.trans hg)
    exact h
  | app d args owner =>
    obtain rfl := Option.some.inj (hf.symm.trans hg)
    exact h
  | wildcard us ls ihUppers _ =>
    cases us with
    | nil =>
      obtain rfl := Option.some.inj (hf.symm.trans hg)
      exact h
    | cons u us => exact ihUppers u List.mem_cons_self hf hg h
  | var w =>
    by_cases hw : w = v
    · exact hv f (hw ▸ hf)
    · have hsame : TypeExpr.substitute (.bind .empty v (.raw c)) (.var w) = .var w := by
        rw [TypeExpr.substitute_var, Substitution.get?_bind, if_neg hw]
        rfl
      rw [hsame] at hg
      obtain rfl := Option.some.inj (hf.symm.trans hg)
      exact h
  | array elem ih =>
    -- an array has an array for its erasure, whatever is put in, and no class lies below it
    obtain ⟨g', -, rfl⟩ := Option.map_eq_some_iff.1 hg
    cases h

/-- A class that passes for the first bound of a variable, with itself in the place of the variable,
passes for the variable. -/
theorem isRawAssignable_erasure_var {c : ClassId} (hd : reg.isDefined c = true) {v : VarId}
    {b : TypeExpr} (hb : (reg.bounds v).head? = some b) {f g : ErasedType}
    (hg : reg.erasure (b.substitute (.bind .empty v (.raw c))) = some g)
    (h : reg.isRawAssignable g (.plain c) = true) (hf : reg.erasure (.var v) = some f) :
    reg.isRawAssignable f (.plain c) = true := by
  rw [erasure_var, hb, Option.bind_some] at hf
  obtain ⟨g', hg', hcut⟩ := erasureFrom_cut (Nat.le_succ reg.params.size) (List.nil_subset [v]) hg
  have hfits : reg.isRawAssignable g' (.plain c) = true := isRawAssignable_of_cut hcut hd h
  obtain ⟨onVar, honVar, hmet⟩ := exists_erasureFrom_eq reg reg.params.size [v]
  rw [honVar] at hf hg'
  refine isRawAssignable_of_substitute (fun e he => ?_) hf hg' hfits
  rw [hmet v List.mem_cons_self] at he
  obtain rfl := Option.some.inj he
  exact isRawAssignable_object hd

/-- **A class that passes for all bounds of a variable with itself in the place of the variable
passes by their erasures.** -/
theorem passesErased_of_forall {c : ClassId} (hd : reg.isDefined c = true) {v : VarId}
    (h : ∀ b ∈ reg.bounds v, ∃ g, reg.erasure (b.substitute (.bind .empty v (.raw c))) = some g ∧
      reg.isRawAssignable g (.plain c) = true) :
    reg.passesErased (reg.bounds v) c = true := by
  rw [passesErased, List.all_eq_true]
  intro f hf
  obtain ⟨b, hb, hbf⟩ := List.mem_filterMap.1 hf
  obtain ⟨g, hg, hfits⟩ := h b hb
  obtain ⟨first, rest, hfirst⟩ := List.exists_cons_of_ne_nil (List.ne_nil_of_mem hb)
  have hhead : (reg.bounds v).head? = some first := by rw [hfirst]; rfl
  obtain ⟨e, he, hefits⟩ := h first (hfirst ▸ List.mem_cons_self)
  have hvar : ∀ f, reg.erasure (.var v) = some f → reg.isRawAssignable f (.plain c) = true :=
    fun f => isRawAssignable_erasure_var hd hhead he hefits
  obtain ⟨onVar, honVar, -⟩ := exists_erasureFrom_eq reg reg.varRounds []
  have herasure : reg.erasure = reg.erasureWith onVar := honVar
  rw [herasure] at hvar hbf hg
  exact isRawAssignable_of_substitute hvar hbf hg hfits

end Registry

namespace Resolver

variable {R : Resolver} {σ : Substitution}

/-! ### The cheap test -/

/-- What passes the bound check passes by its erasure for every bound, read with the candidate in
the place of the variable. -/
theorem gate_of_checkBounds (hN : R.registry.SupertypesNominal) {candidate : TypeExpr}
    (hc : candidate.isConcrete = true) (hd : R.registry.isRooted candidate = true) {v : VarId}
    {uppers : List TypeExpr} {n : Nat}
    (h : R.checkBounds (R.canBecomeAt n) candidate (some v) uppers [] σ = some true) :
    ∀ b ∈ uppers, R.gate candidate (b.substitute (σ.bind v candidate)) = true := by
  intro b hb
  have hbound := checkBounds_eq_true_iff.1 h b hb
  split at hbound
  · exact gate_of_canBecomeAt hc hbound
  · rename_i hvars
    exact gate_of_assignable hN hc (fun _ => hd) (fun h => absurd h hvars) hbound

theorem isRooted_raw {c : ClassId} (hd : R.registry.isDefined c = true) :
    R.registry.isRooted (.raw c) = true := hd

/-- **The cheap test turns down nothing that would be accepted:** a class that passes the check of
the bounds of a variable lies below their erasures. -/
theorem passesErased_of_checkBounds (hN : R.registry.SupertypesNominal) {c : ClassId}
    (hd : R.registry.isDefined c = true) {v : VarId} {n : Nat}
    (h : R.checkBounds (R.canBecomeAt n) (.raw c) (some v) (R.registry.bounds v) [] .empty =
      some true) : R.registry.passesErased (R.registry.bounds v) c = true := by
  refine Registry.passesErased_of_forall hd fun b hb => ?_
  obtain ⟨e, g, he, hg, hfits⟩ := gate_iff.1 (gate_of_checkBounds hN rfl (isRooted_raw hd) h b hb)
  obtain rfl := Option.some.inj he
  exact ⟨g, hg, hfits⟩

/-! ### Bounds that the preferred one does not fit -/

/-- Where no bounds are written `Object` is preferred, and it fits. So bounds that the preferred one
does not fit are written. -/
theorem orObject_eq_of_refused {n : Nat} {preferred : Option TypeExpr}
    (h : R.Refused (R.instantiateAt n) become var (R.registry.orObject uppers) σ preferred) :
    R.registry.orObject uppers = uppers := by
  cases uppers with
  | cons u us => rfl
  | nil =>
    obtain ⟨hpreferred, hfits⟩ := h
    have hobject : ∀ b ∈ [R.registry.objectType], b.isConcrete = true := by
      intro b hb
      rw [List.mem_singleton.1 hb]
      rfl
    have hspecific : R.registry.mostSpecific [R.registry.objectType] = some R.registry.objectType :=
      List.find?_cons_of_pos (by simp [Registry.objectType, Registry.isRawAssignable_self])
    have hsame : R.preferredBound (R.instantiateAt n) [R.registry.objectType] σ =
        some (some R.registry.objectType) := by
      rw [preferredBound_of_isConcrete hobject, hspecific]
    obtain rfl := Option.some.inj (hsame.symm.trans hpreferred)
    have hcheck : R.checkBounds become R.registry.objectType var [R.registry.objectType] [] σ =
        some false := hfits
    rw [Registry.objectType] at hcheck
    rcases isAssignable_self R (.raw R.registry.object) with hassign | hassign <;>
      cases var <;> simp [checkBounds, hassign] at hcheck

/-! ### The classes that are tried -/

/-- The class has no type parameters, and it may stand for the variable where nothing is bound. -/
def StandsFor (R : Resolver) (c : ClassId) (v : VarId) : Prop :=
  R.registry.isPlain c = true ∧
    (R.satisfies (.raw c) (.variable v) .empty).run = some (.ok true)

/-- A class that may stand for a variable is accepted when it is tried. -/
theorem tries_of_standsFor (hN : R.registry.SupertypesNominal) {c : ClassId} {v : VarId}
    (h : R.StandsFor c v) :
    R.tries (R.canBecomeAt (R.levels 1)) (some v) (R.registry.bounds v) .empty c = some true := by
  obtain ⟨hplain, hpasses⟩ := h
  have hcheck := ((satisfies_variable_iff rfl).1 hpasses).2
  have herased := passesErased_of_checkBounds hN (Registry.isDefined_of_isPlain hplain) hcheck
  rw [tries, if_pos herased, hcheck]

theorem standsFor_of_tries {c : ClassId} {v : VarId} {p : TypeParam}
    (hp : R.registry.typeParam? v = some p) (hplain : R.registry.isPlain c = true)
    (h : R.tries (R.canBecomeAt (R.levels 1)) (some v) (R.registry.bounds v) .empty c = some true) :
    R.StandsFor c v :=
  ⟨hplain, (satisfies_variable_iff rfl).2 ⟨by rw [hp]; rfl, checkBounds_of_tries h⟩⟩

/-- If the search finds nothing, no class may stand for the variable. -/
theorem not_standsFor_of_searchRegistry (hN : R.registry.SupertypesNominal) {v : VarId}
    (h : R.searchRegistry (R.canBecomeAt (R.levels 1)) (some v) (R.registry.bounds v) .empty =
      some none) (c : ClassId) : ¬ R.StandsFor c v := by
  intro hc
  have hrefused := searchRegistry_eq_some_none_iff.1 h c (Registry.mem_standIns.2 hc.1)
  rw [tries_of_standsFor hN hc] at hrefused
  cases hrefused

/-- What the search finds is the first of the classes that may stand for the variable. -/
theorem first_of_searchRegistry (hN : R.registry.SupertypesNominal) {v : VarId} {p : TypeParam}
    (hp : R.registry.typeParam? v = some p) {r : TypeExpr}
    (h : R.searchRegistry (R.canBecomeAt (R.levels 1)) (some v) (R.registry.bounds v) .empty =
      some (some r)) :
    ∃ c, r = .raw c ∧ R.StandsFor c v ∧ ∀ d, R.StandsFor d v → R.registry.NoLater c d := by
  obtain ⟨c, rfl, hfound⟩ := searchRegistry_eq_some_some_iff.1 h
  obtain ⟨hmem, hpasses⟩ := of_findM?_eq_some hfound
  have hplain := Registry.mem_standIns.1 hmem
  refine ⟨c, rfl, standsFor_of_tries hp hplain hpasses, fun d hd => ?_⟩
  have hd' := Registry.mem_standIns.2 hd.1
  rcases rel_of_findM?_eq_some R.registry.pairwise_standIns hfound hd' (tries_of_standsFor hN hd)
    with rfl | hle
  · exact Registry.noLater_self (Registry.isDefined_of_isPlain hplain)
  · exact hle

/-! ### Variables that are bound to nothing -/

/-- No bound is preferred that fits all bounds of the variable, and the search through the registry
ends with `r`. -/
structure FoundFor (R : Resolver) (v : VarId) (r : TypeExpr) : Prop where
  /-- The most specific bound does not fit. -/
  refused : ∃ preferred, R.Refused (R.instantiateAt (R.levels 1)) (R.canBecomeAt (R.levels 1))
    (some v) (R.registry.orObject (R.registry.bounds v)) .empty preferred
  /-- The search answers `r`. -/
  found : R.searchRegistry (R.canBecomeAt (R.levels 1)) (some v)
    (R.registry.orObject (R.registry.bounds v)) .empty = some (some r)

/-- A variable that is bound to nothing is resolved by a selection between its bounds. -/
theorem run_instantiate_var_eq_some_iff {v : VarId} {p : TypeParam}
    (hp : R.registry.typeParam? v = some p) {r : Except Failure TypeExpr} :
    (R.instantiate (.var v) .empty).run = some r ↔
      R.Selected (R.instantiateAt (R.levels 1)) (R.canBecomeAt (R.levels 1)) (.var v) (some v)
        (R.registry.orObject (R.registry.bounds v)) .empty r := by
  have hstep : R.instantiate (.var v) .empty = R.selectStep (R.instantiateAt (R.levels 1))
      (R.canBecomeAt (R.levels 1)) (.var v) (some v) p.bounds [] .empty := by
    change R.instantiateVarStep (R.instantiateAt (R.levels 1)) (R.canBecomeAt (R.levels 1)) v
      .empty = _
    rw [instantiateVarStep, hp]
    rfl
  rw [hstep, run_selectStep_nil_eq_some_iff, Registry.bounds_of_typeParam? hp]

/-- **The selection for a variable that is bound to nothing is complete, and what the registry search
finds comes first.** If the variable cannot be resolved, no class without type parameters may stand
for it; and a result of the search may stand for it and is tried no later than any other such
class. -/
theorem selection_complete (R : Resolver) (hN : R.registry.SupertypesNominal) {v : VarId}
    {p : TypeParam} (hp : R.registry.typeParam? v = some p) :
    (∀ e, (R.instantiate (.var v) .empty).run = some (.error e) → ∀ c, ¬ R.StandsFor c v) ∧
    ∀ r, R.FoundFor v r → (R.instantiate (.var v) .empty).Yields r ∧
      ∃ c, r = .raw c ∧ R.StandsFor c v ∧ ∀ d, R.StandsFor d v → R.registry.NoLater c d := by
  constructor
  · intro e h
    cases (run_instantiate_var_eq_some_iff hp).1 h with
    | nothing hrefused hnone _ =>
      rw [orObject_eq_of_refused hrefused] at hnone
      exact not_standsFor_of_searchRegistry hN hnone
  · rintro r ⟨⟨preferred, hrefused⟩, hfound⟩
    refine ⟨(run_instantiate_var_eq_some_iff hp).2 (.found hrefused hfound), ?_⟩
    rw [orObject_eq_of_refused hrefused] at hfound
    exact first_of_searchRegistry hN hp hfound

end Resolver

/-! ### Versions -/

/-- `Comparable<X>`, a class `Version` that is comparable with itself and a class
`Sorter<S extends Comparable<S>>` with a method `<U extends Version & Sorter> both()`. -/
def Registry.versions : Registry :=
  let (comparable, reg) := initial.intern "Comparable"
  let (x, reg) := reg.addTypeParam "X" (.ofClass comparable) []
  let reg := reg.define comparable (interfaceDef "Comparable" [x] [])
  let (version, reg) := reg.intern "Version"
  let reg := reg.define version
    (classDef "Version" [] (.raw ⟨0⟩) [.ofClass comparable [.raw version]])
  let (sorter, reg) := reg.intern "Sorter"
  let (s, reg) := reg.addTypeParam "S" (.ofClass sorter) []
  let reg := reg.setBounds s [.ofClass comparable [.var s]]
  let (u, reg) := reg.addTypeParam "U" (.ofMethod sorter "both" 0) [.raw version, .raw sorter]
  reg.define sorter { classDef "Sorter" [s] (.raw ⟨0⟩) [] with
    methods := [{ name := "both", typeParams := [u] }] }

namespace Resolver

/-- `Comparable<Version>` is not comparable with itself, so for `S` the registry is searched, and
`Version` is found. No class is a version and a sorter, so `U` cannot be resolved. -/
theorem selection_complete_versions :
    let R : Resolver := { registry := Registry.versions }
    R.registry.SupertypesNominal ∧ (R.registry.typeParam? ⟨1⟩).isSome = true ∧
      (R.registry.typeParam? ⟨2⟩).isSome = true ∧
      R.FoundFor ⟨1⟩ (.raw ⟨2⟩) ∧ R.StandsFor ⟨2⟩ ⟨1⟩ ∧
      (∀ c, R.StandsFor c ⟨1⟩ → R.registry.NoLater ⟨2⟩ c) ∧
      (R.instantiate (.var ⟨2⟩) .empty).run = some (.error ⟨.var ⟨2⟩, .noCandidate⟩) ∧
      ∀ c, ¬ R.StandsFor c ⟨2⟩ := by
  intro R
  have hN : R.registry.SupertypesNominal := by decide +kernel
  have hs : (R.registry.typeParam? ⟨1⟩).isSome = true := by decide +kernel
  have hu : (R.registry.typeParam? ⟨2⟩).isSome = true := by decide +kernel
  obtain ⟨p, hp⟩ := Option.isSome_iff_exists.1 hs
  obtain ⟨q, hq⟩ := Option.isSome_iff_exists.1 hu
  have hpreferred : R.preferredBound (R.instantiateAt (R.levels 1))
      (R.registry.orObject (R.registry.bounds ⟨1⟩)) .empty =
        some (some (.app ⟨1⟩ [.raw ⟨2⟩] none)) := by decide +kernel
  have hfits : R.preferredFits (R.canBecomeAt (R.levels 1)) (some (.app ⟨1⟩ [.raw ⟨2⟩] none))
      (some ⟨1⟩) (R.registry.orObject (R.registry.bounds ⟨1⟩)) .empty = some false := by
    decide +kernel
  have hfound : R.FoundFor ⟨1⟩ (.raw ⟨2⟩) := ⟨⟨_, hpreferred, hfits⟩, by decide +kernel⟩
  have hfailed : (R.instantiate (.var ⟨2⟩) .empty).run =
      some (.error ⟨.var ⟨2⟩, .noCandidate⟩) := by decide +kernel
  obtain ⟨-, c, hc, hstands, hfirst⟩ := (selection_complete R hN hp).2 _ hfound
  obtain rfl := TypeExpr.raw.inj hc
  exact ⟨hN, hs, hu, hfound, hstands, hfirst, hfailed, (selection_complete R hN hq).1 _ hfailed⟩

end Resolver

end Generics
