import Generics.Proofs.Resolution.Halting
import Generics.Proofs.Resolution.RegistrySearch
import Generics.Proofs.Resolution.StepComparison

/-!
# An unbounded wildcard as the only argument

`C<?>` for a class with one formal is resolved in two steps. A type is selected between the bounds of
the formal, and the class applied to that type is then checked like any other application. The
selection does not know that the wildcard stands for the formal: it reads the bounds with the formal
left as a variable, while the check reads them with the selected type put in.

For a formal that does not occur in its own bounds the two readings are the same. A class that may
stand for the formal is then a candidate, so the selection does not fail, and what it selects passes
the check. For a formal that is bounded by itself the readings differ: what the selection makes of
the bound may lie below the bound with the formal in it and still be turned down when it is put in,
and after that no other candidate is tried.

## Main results

* `Resolver.checkBounds_unmentioned` — the two readings of bounds that do not mention the formal
* `Resolver.instantiate_anything` — the two steps
* `Resolver.instantiate_wildcardArgument` — when they end with a type
* `Resolver.instantiate_wildcardArgument_refused` — a class that would do, and a failure
-/

namespace Generics

namespace Resolver

variable {R : Resolver} {inst : TypeExpr → Substitution → Attempt TypeExpr}
  {become : TypeExpr → TypeExpr → Option Bool} {uppers lowers : List TypeExpr} {σ : Substitution}
  {c : ClassId} {f : VarId} {p : TypeParam}

/-! ### The two readings -/

/-- Bounds that do not mention a variable read the same whether it stands for the candidate or not. -/
theorem checkBounds_unmentioned {candidate : TypeExpr} (h : ∀ b ∈ uppers, f ∉ b.occurrences) :
    R.checkBounds become candidate (some f) uppers [] σ =
      R.checkBounds become candidate none uppers [] σ := by
  refine congrArg₂ Option.bind (allM_congr fun b hb => ?_) rfl
  have hsame : b.substitute (σ.bind f candidate) = b.substitute σ := by
    refine TypeExpr.substitute_congr fun w hw => ?_
    rw [Substitution.get?_bind, if_neg]
    rintro rfl
    exact h b hb hw
  simp only [hsame]

/-- A check with more levels never turns down what passes with fewer. -/
theorem checkBounds_ne_false {candidate : TypeExpr} (hc : candidate.isConcrete = true)
    {var : Option VarId} {n m : Nat}
    (h : R.checkBounds (R.canBecomeAt n) candidate var uppers [] σ = some true) :
    R.checkBounds (R.canBecomeAt m) candidate var uppers [] σ ≠ some false := by
  intro hfalse
  have hlevels : HelpersCompare .agrees R R.budget (R.instantiateAt n) (R.instantiateAt n)
      (R.selectAt n) (R.selectAt n) (R.canBecomeAt n) (R.canBecomeAt m) :=
    ⟨fun _ _ => Comparison.agrees.refl _, fun _ _ => Comparison.agrees.refl _,
      fun _ _ _ _ => Comparison.agrees.refl _, fun _ t hs => canBecomeAt_agrees hs n m t⟩
  cases checkBounds_rel hlevels hc var uppers [] σ true false h hfalse

/-! ### The two steps -/

/-- Before anything is chosen the bounds of a formal read as they are declared. -/
theorem seenBounds_empty (hp : R.registry.typeParam? f = some p) (fs : List VarId) :
    R.seenBounds .empty (f :: fs) = p.bounds := by
  rw [seenBounds, knownFormal_cons hp]
  exact List.map_id'' TypeExpr.substitute_empty p.bounds

/-- Nothing concrete is the wildcard itself, so the check of the formal spares only what is not
concrete. -/
theorem fitsFormal_anything (hp : R.registry.typeParam? f = some p) (a : TypeExpr) :
    R.fitsFormal become .empty [f] .anything a .empty =
      R.finalFits become a (some f) p.bounds .empty := by
  have hnew : (a != .anything && a.isConcrete) = a.isConcrete := by
    cases a <;> simp [TypeExpr.anything]
  simp only [fitsFormal, knownFormal_cons hp, replacementFits, seenBounds_empty hp, finalFits, hnew]

theorem exists_levels_one (hdepth : 0 < R.maxDepth) : ∃ n, R.levels 1 = n + 1 :=
  ⟨R.maxDepth - 1, by simp only [levels]; omega⟩

/-- **The two steps:** the wildcard is resolved between the bounds of the formal, and what it is
resolved to is checked as the formal. -/
theorem instantiate_anything (hformals : R.registry.formals c = [f])
    (hp : R.registry.typeParam? f = some p) {n : Nat} (hn : R.levels 1 = n + 1) :
    R.instantiate (.app c [.anything] none) .empty = (do
      let a ← R.selectStep (R.instantiateAt n) (R.canBecomeAt n) .anything none p.bounds [] .empty
      let fits ← R.finalFits (R.canBecomeAt (R.levels 1)) a (some f) p.bounds .empty
      if fits then return .app c [a] none
      else throw ⟨.app c [.anything] none, .boundViolation⟩) := by
  have hlevels : R.levels 0 = R.levels 1 + 1 := rfl
  have hfor : R.registry.formalsFor c 1 = [f] := by
    rw [Registry.formalsFor, hformals]
    rfl
  have hselect : resolveArg (R.instantiateAt (n + 1)) (R.selectAt (n + 1)) p.bounds .anything .empty =
      R.selectStep (R.instantiateAt n) (R.canBecomeAt n) .anything none p.bounds [] .empty := rfl
  rw [instantiate, hlevels, instantiateAt_succ, instantiateStep, List.length_singleton, hfor,
    instantiateArgs_cons, seenBounds_empty hp, hn, hselect]
  simp only [fitsFormal_anything hp, bind_assoc]
  refine bind_congr fun a => bind_congr fun fits => ?_
  cases fits <;> rfl

/-- The final check is passed by what is not concrete and by what may stand for the formal. -/
theorem finalFits_eq_true_iff (hp : R.registry.typeParam? f = some p) {a : TypeExpr} :
    R.finalFits (R.canBecomeAt (R.levels 1)) a (some f) p.bounds .empty = some true ↔
      (a.isConcrete = true → (R.satisfies a (.variable f) .empty).run = some (.ok true)) := by
  rw [finalFits]
  split
  · rename_i ha
    rw [satisfies_variable_iff ha, hp, Registry.bounds_of_typeParam? hp]
    simp [ha]
  · rename_i ha
    simp [ha]

/-- `C<?>` is resolved to `C<a>` exactly if a wildcard with the bounds of the formal is resolved to
`a`, one level down, and `a` may stand for the formal, unless it is not concrete. -/
theorem yields_anything_iff (hformals : R.registry.formals c = [f])
    (hp : R.registry.typeParam? f = some p) (hdepth : 0 < R.maxDepth) {r : TypeExpr} :
    (R.instantiate (.app c [.anything] none) .empty).Yields r ↔
      ∃ a, r = .app c [a] none ∧ (R.instantiate (.wildcard p.bounds []) .empty 1).Yields a ∧
        (a.isConcrete = true → (R.satisfies a (.variable f) .empty).run = some (.ok true)) := by
  obtain ⟨n, hn⟩ := exists_levels_one hdepth
  have hwildcard : R.instantiate (.wildcard p.bounds []) .empty 1 =
      R.selectStep (R.instantiateAt n) (R.canBecomeAt n) (.wildcard p.bounds []) none p.bounds []
        .empty := by
    rw [instantiate, hn]
    rfl
  rw [instantiate_anything hformals hp hn, Attempt.yields_bind, hwildcard]
  constructor
  · rintro ⟨a, ha, h⟩
    obtain ⟨hfits, h⟩ := Attempt.yields_guard.1 h
    exact ⟨a, (Attempt.yields_pure.1 h).symm, yields_selectStep_congr ha,
      (finalFits_eq_true_iff hp).1 hfits⟩
  · rintro ⟨a, rfl, ha, hpasses⟩
    exact ⟨a, yields_selectStep_congr ha, Attempt.yields_guard.2
      ⟨(finalFits_eq_true_iff hp).2 hpasses, Attempt.yields_pure.2 rfl⟩⟩

/-! ### Formals that are not bounded by themselves -/

/-- A class that may stand for the formal is a candidate for the wildcard, so the selection does not
fail. -/
theorem not_error_of_standsFor (hN : R.registry.SupertypesNominal)
    (hp : R.registry.typeParam? f = some p) (hunmentioned : ∀ b ∈ p.bounds, f ∉ b.occurrences)
    {e : ClassId} (he : R.StandsFor e f) {n : Nat} (hn : n ≤ R.levels 1) {subject : TypeExpr}
    {failure : Failure} :
    (R.selectStep (R.instantiateAt n) (R.canBecomeAt n) subject none p.bounds [] .empty).run ≠
      some (.error failure) := by
  intro h
  obtain ⟨hplain, hpasses⟩ := he
  have hcheck := ((satisfies_variable_iff rfl).1 hpasses).2
  have herased := passesErased_of_checkBounds hN (Registry.isDefined_of_isPlain hplain) hcheck
  rw [Registry.bounds_of_typeParam? hp] at hcheck herased
  cases run_selectStep_nil_eq_some_iff.1 h with
  | nothing hrefused hnone _ =>
    rw [orObject_eq_of_refused hrefused] at hnone
    have htried := searchRegistry_eq_some_none_iff.1 hnone e (Registry.mem_standIns.2 hplain)
    have hbelow := checkBounds_of_le hn rfl hcheck
    rw [checkBounds_unmentioned hunmentioned] at hbelow
    rw [tries, if_pos herased, hbelow] at htried
    cases htried

/-- What is selected between bounds that do not mention the formal is not turned down as the
formal. -/
theorem finalFits_ne_false (hunmentioned : ∀ b ∈ p.bounds, f ∉ b.occurrences) {n m : Nat}
    {subject a : TypeExpr}
    (ha : (R.selectStep (R.instantiateAt n) (R.canBecomeAt n) subject none p.bounds []
      .empty).Yields a) :
    R.finalFits (R.canBecomeAt m) a (some f) p.bounds .empty ≠ some false := by
  have hobject : ∀ b ∈ R.registry.orObject p.bounds, f ∉ b.occurrences := by
    intro b hb
    rcases Registry.mem_orObject hb with rfl | hmem
    · exact List.not_mem_nil
    · exact hunmentioned b hmem
  rw [finalFits]
  split
  · rename_i hc
    have hcheck := checkBounds_of_selectStep ha hc
    rw [← checkBounds_unmentioned hobject] at hcheck
    exact checkBounds_ne_false hc (checkBounds_of_orObject hcheck)
  · decide

/-- So `C<?>` is not an error. -/
theorem not_error_anything (hN : R.registry.SupertypesNominal)
    (hformals : R.registry.formals c = [f]) (hp : R.registry.typeParam? f = some p)
    (hdepth : 0 < R.maxDepth) (hunmentioned : ∀ b ∈ p.bounds, f ∉ b.occurrences) {e : ClassId}
    (he : R.StandsFor e f) {failure : Failure} :
    (R.instantiate (.app c [.anything] none) .empty).run ≠ some (.error failure) := by
  obtain ⟨n, hn⟩ := exists_levels_one hdepth
  rw [instantiate_anything hformals hp hn]
  intro h
  rcases Attempt.run_bind_eq_error_iff.1 h with hselect | ⟨a, ha, h⟩
  · exact not_error_of_standsFor hN hp hunmentioned he (by omega) hselect
  · obtain ⟨fits, hfits, h⟩ := Attempt.run_bind_liftM_eq_some_iff.1 h
    cases fits with
    | true => cases h
    | false => exact finalFits_ne_false hunmentioned ha hfits

/-! ### When a wildcard is resolved -/

/-- **An unbounded wildcard as the only argument.** It is resolved exactly if the bounds of the
formal, read with the formal left as a variable, lead to a type that may stand for the formal or is
not concrete. If the formal does not occur in its own bounds this is so whenever some class without
type parameters may stand for the formal, provided that questions about supertypes have answers. -/
theorem instantiate_wildcardArgument (R : Resolver) (hN : R.registry.SupertypesNominal)
    {c : ClassId} {f : VarId} {p : TypeParam} (hformals : R.registry.formals c = [f])
    (hp : R.registry.typeParam? f = some p) (hdepth : 0 < R.maxDepth) :
    (∀ r, (R.instantiate (.app c [.anything] none) .empty).Yields r ↔
      ∃ a, r = .app c [a] none ∧ (R.instantiate (.wildcard p.bounds []) .empty 1).Yields a ∧
        (a.isConcrete = true → (R.satisfies a (.variable f) .empty).run = some (.ok true))) ∧
    (R.registry.Decided → (∀ b ∈ p.bounds, f ∉ b.occurrences) →
      (∃ e, R.registry.isPlain e = true ∧ R.Passes (.raw e) f .empty) →
      ∃ a, Answers (fun n => ((R.withBudget n).instantiate (.app c [.anything] none) .empty).run)
        (.ok (.app c [a] none))) := by
  refine ⟨fun r => yields_anything_iff hformals hp hdepth, fun hdecided hunmentioned he => ?_⟩
  obtain ⟨e, hplain, M, hM⟩ := he
  obtain ⟨result, N, hN'⟩ := (halting hdecided).instantiate (.app c [.anything] none) .empty 0
  -- with this budget both the class has passed and the resolution has ended
  let S := R.withBudget (max N M)
  have hstands : S.StandsFor e f := ⟨hplain, hM _ (by omega)⟩
  have hrun : (S.instantiate (.app c [.anything] none) .empty).run = some result :=
    hN' (max N M) (by omega)
  cases result with
  | error failure =>
    exact absurd hrun (not_error_anything (R := S) hN hformals hp hdepth hunmentioned hstands)
  | ok r =>
    obtain ⟨a, rfl, -⟩ := (yields_anything_iff (R := S) hformals hp hdepth).1 hrun
    exact ⟨a, N, hN'⟩

end Resolver

/-! ### A bounded box -/

namespace Registry

/-- `Number`, its subclass `Integer` and a class `Box<T extends Number>`. -/
def boundedBox : Registry :=
  let (number, reg) := initial.addClass
    { name := "Number", isAbstract := true, superclass := some (.raw ⟨0⟩) }
  let (_, reg) := reg.addClass { name := "Integer", superclass := some (.raw number) }
  let (box, reg) := reg.intern "Box"
  let (t, reg) := reg.addTypeParam "T" (.ofClass box) [.raw number]
  reg.define box { name := "Box", typeParams := [t], superclass := some (.raw ⟨0⟩) }

end Registry

namespace Resolver

/-- `Box<?>` is resolved, as `Integer` may stand for the formal. -/
theorem instantiate_wildcardArgument_box :
    let R : Resolver := { registry := Registry.boundedBox }
    R.registry.SupertypesNominal ∧ R.registry.formals ⟨3⟩ = [⟨0⟩] ∧ R.registry.Decided ∧
      R.Passes (.raw ⟨2⟩) ⟨0⟩ .empty ∧
      ∃ a, Answers (fun n => ((R.withBudget n).instantiate (.app ⟨3⟩ [.anything] none) .empty).run)
        (.ok (.app ⟨3⟩ [a] none)) := by
  intro R
  have hN : R.registry.SupertypesNominal := by decide +kernel
  have hformals : R.registry.formals ⟨3⟩ = [⟨0⟩] := by decide +kernel
  have hp : R.registry.typeParam? ⟨0⟩ = some ⟨"T", .ofClass ⟨3⟩, [.raw ⟨1⟩]⟩ := by decide +kernel
  have hdecided : R.registry.Decided :=
    Registry.decided_of_acyclic (by decide +kernel) hN (by decide +kernel)
  have hpasses : R.Passes (.raw ⟨2⟩) ⟨0⟩ .empty := by
    refine passes_of_isConcrete rfl (by rw [hp]; rfl) fun b hb => ?_
    rw [Registry.bounds_of_typeParam? hp] at hb
    obtain rfl := List.mem_singleton.1 hb
    exact ⟨rfl, Registry.answers_assignable? (n := 3) (by decide +kernel)⟩
  have hunmentioned : ∀ b ∈ [TypeExpr.raw ⟨1⟩], (⟨0⟩ : VarId) ∉ b.occurrences := by decide
  exact ⟨hN, hformals, hdecided, hpasses, (instantiate_wildcardArgument R hN hformals hp
    (by decide)).2 hdecided hunmentioned ⟨⟨2⟩, by decide +kernel, hpasses⟩⟩

/-- `Version` may stand for the formal of `Sorter`, at the depth that is used unless another one is
asked for. Yet `Sorter<?>` is an error: `Comparable<Version>` is selected, which lies below
`Comparable<S>` and is not comparable with itself. -/
theorem instantiate_wildcardArgument_refused :
    let R : Resolver := { registry := Registry.versions }
    R.registry.SupertypesNominal ∧ R.registry.isDefined ⟨3⟩ = true ∧
      R.registry.formals ⟨3⟩ = [⟨1⟩] ∧ (R.registry.typeParam? ⟨1⟩).isSome = true ∧
      R.maxDepth = 3 ∧ R.StandsFor ⟨2⟩ ⟨1⟩ ∧
      (R.instantiate (.wildcard [.app ⟨1⟩ [.var ⟨1⟩] none] []) .empty 1).Yields
        (.app ⟨1⟩ [.raw ⟨2⟩] none) ∧
      (R.instantiate (.app ⟨3⟩ [.anything] none) .empty).run =
        some (.error ⟨.app ⟨3⟩ [.anything] none, .boundViolation⟩) := by
  intro R
  refine ⟨?_, ?_, ?_, ?_, rfl, ⟨?_, ?_⟩, ?_, ?_⟩
  · decide +kernel
  · decide +kernel
  · decide +kernel
  · decide +kernel
  · decide +kernel
  · rw [satisfies_variable_iff rfl]
    decide +kernel
  · decide +kernel
  · decide +kernel

end Resolver

end Generics
