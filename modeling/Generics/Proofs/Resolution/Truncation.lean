import Generics.Proofs.Resolution.Concrete
import Generics.Proofs.Resolution.FullBindings
import Generics.Proofs.Resolution.StepComparison
import Generics.Registry.Edit

/-!
# One variable, one type

Every occurrence of a variable is resolved on its own, with the levels that are left where it
stands. So what comes out has, at each occurrence, what the variable is resolved to on that level,
and two occurrences on the same level are resolved alike. On different levels they need not be: with
fewer levels left a bound of the variable may be cut off, and then a class is looked for instead. If
the deeper occurrence is resolved without ever being cut off, more levels change nothing, and the
result is an instance of the expression.

## Main definitions

* `Resolver.completeAt`, `Resolver.completeSelectAt` — resolution that has no answer where it would
  be cut off
* `Resolver.resolvedAs` — what a variable is resolved to at a depth

## Main results

* `Resolver.completeAt_agrees` — what is not cut off does not depend on the levels left
* `Resolver.eq_fill_of_yields` — every occurrence is resolved on its own
* `Resolver.explained_of_yields`
-/

namespace Generics

namespace Resolver

variable (R : Resolver)

/-! ### Never cut off -/

mutual

/-- Resolve an expression with the given number of levels left; no answer if one is missing. -/
def completeAt (R : Resolver) : Nat → TypeExpr → Substitution → Attempt TypeExpr
  | 0, t, _ => if t.isConcrete then pure t else liftM (none : Option TypeExpr)
  | n + 1, t, σ =>
    R.instantiateStep (completeAt R n) (completeSelectAt R n) (R.canBecomeAt n) t σ

/-- Pick a type between bounds with the given number of levels left; no answer if one is missing. -/
def completeSelectAt (R : Resolver) :
    Nat → TypeExpr → List TypeExpr → List TypeExpr → Substitution → Attempt TypeExpr
  | 0, _, _, _, _ => liftM (none : Option TypeExpr)
  | n + 1, subject, uppers, lowers, σ =>
    R.selectStep (completeAt R n) (R.canBecomeAt n) subject none uppers lowers σ

end

/-- What the variable is resolved to at a depth; itself if resolution does not come to a result. -/
def resolvedAs (σ : Substitution) (v : VarId) (depth : Nat) : TypeExpr :=
  match (R.instantiate (.var v) σ depth).run with
  | some (.ok a) => a
  | _ => .var v

variable {R} {σ : Substitution}

theorem agrees_of_none {α : Type} {x y : Attempt α} (hx : x.run = none) :
    Comparison.agrees.rel x.run y.run := by
  intro a b ha
  rw [hx] at ha
  cases ha

/-- Each level without a cut compares with every level that has at least as many left. -/
theorem helpersCompare_complete {n m : Nat} (h : n ≤ m) :
    HelpersCompare Comparison.agrees R R.budget (R.completeAt n) (R.instantiateAt m)
      (R.completeSelectAt n) (R.selectAt m) (R.canBecomeAt n) (R.canBecomeAt m) := by
  induction n generalizing m with
  | zero =>
    refine ⟨fun s t => Comparison.agrees.refl _, fun t σ => ?_, fun s us ls σ => agrees_of_none rfl,
      fun s t hs => canBecomeAt_agrees hs 0 m t⟩
    by_cases ht : t.isConcrete = true
    · rw [instantiateAt_of_isConcrete ht, completeAt, if_pos ht]
      exact Comparison.agrees.refl _
    · rw [completeAt, if_neg ht]
      exact agrees_of_none rfl
  | succ n ih =>
    cases m with
    | zero => omega
    | succ m =>
      have H := ih (Nat.le_of_succ_le_succ h)
      exact ⟨fun s t => Comparison.agrees.refl _, fun t σ => instantiateStep_rel H t σ,
        fun s us ls σ => selectStep_rel H s none us ls σ,
        fun s t hs => canBecomeAt_agrees hs (n + 1) (m + 1) t⟩

/-- **What is not cut off does not depend on the levels left.** -/
theorem completeAt_agrees {n m : Nat} (h : n ≤ m) {t a b : TypeExpr}
    (ha : (R.completeAt n t σ).Yields a) (hb : (R.instantiateAt m t σ).Yields b) : a = b :=
  Except.ok.inj ((helpersCompare_complete h).inst t σ _ _ ha hb)

/-! ### Every occurrence on its own -/

theorem resolvedAs_of_yields {v : VarId} {depth : Nat} {a : TypeExpr}
    (h : (R.instantiate (.var v) σ depth).Yields a) : R.resolvedAs σ v depth = a := by
  have hrun : (R.instantiate (.var v) σ depth).run = some (.ok a) := h
  rw [resolvedAs, hrun]

/-- Beyond the maximal depth every occurrence stays, and so does the expression. -/
theorem eq_fill_of_deep {depth : Nat} (h : R.maxDepth < depth) {t r : TypeExpr}
    (hr : (R.instantiate t σ depth).Yields r) :
    r = t.fill (R.resolvedAs σ) depth ∧ ∀ e ∈ t.sites,
      (R.instantiate (.var e.1) σ (depth + e.2)).Yields (R.resolvedAs σ e.1 (depth + e.2)) := by
  have hvar : ∀ e : VarId × Nat, (R.instantiate (.var e.1) σ (depth + e.2)).Yields (.var e.1) := by
    intro e
    rw [instantiate_of_deep (Nat.lt_of_lt_of_le h (Nat.le_add_right _ _)), Attempt.yields_pure]
  constructor
  · rw [instantiate_of_deep h, Attempt.yields_pure] at hr
    have hfill : t.fill (R.resolvedAs σ) depth = t.substitute .empty :=
      TypeExpr.fill_eq_substitute fun e _ => resolvedAs_of_yields (hvar e)
    rw [hfill, TypeExpr.substitute_empty, hr]
  · intro e _
    rw [resolvedAs_of_yields (hvar e)]
    exact hvar e

/-- **Every occurrence is resolved on its own.** What comes out of an expression without wildcards
has at each occurrence what the variable is resolved to there. -/
theorem eq_fill_of_yields {depth : Nat} {t r : TypeExpr} (hw : t.hasWildcards = false)
    (hr : (R.instantiate t σ depth).Yields r) :
    r = t.fill (R.resolvedAs σ) depth ∧ ∀ e ∈ t.sites,
      (R.instantiate (.var e.1) σ (depth + e.2)).Yields (R.resolvedAs σ e.1 (depth + e.2)) := by
  induction t generalizing depth r with
  | raw c =>
    rw [instantiate, instantiateAt_of_isConcrete rfl, Attempt.yields_pure] at hr
    exact ⟨hr.symm, fun e he => absurd he List.not_mem_nil⟩
  | app c args owner ihArgs ihOwner =>
    rcases Nat.lt_or_ge R.maxDepth depth with hdeep | hle
    · exact eq_fill_of_deep hdeep hr
    obtain ⟨hwargs, hwowner⟩ := TypeExpr.hasWildcards_app_eq_false_iff.1 hw
    rw [instantiate_of_le hle] at hr
    obtain ⟨results, owner', rfl, hlen, hresults, howner⟩ := exists_of_yields_app hwargs hr
    have hargs := fun i hi hi' =>
      ihArgs _ (List.getElem_mem hi) (hwargs _ (List.getElem_mem hi)) (hresults i hi hi')
    have hown : owner' = owner.map (fun o => o.fill (R.resolvedAs σ) (depth + 1)) ∧
        ∀ o ∈ owner, ∀ e ∈ o.sites, (R.instantiate (.var e.1) σ (depth + 1 + e.2)).Yields
          (R.resolvedAs σ e.1 (depth + 1 + e.2)) := by
      cases howner with
      | none => exact ⟨rfl, fun o ho => absurd ho (Option.not_mem_none o)⟩
      | some ho =>
        have ih := ihOwner _ rfl (hwowner _ rfl) ho
        refine ⟨congrArg some ih.1, fun o hmem => ?_⟩
        obtain rfl := Option.some.inj hmem
        exact ih.2
    refine ⟨?_, fun e he => ?_⟩
    · rw [TypeExpr.fill_app, hown.1]
      refine congrArg (TypeExpr.app c · _) (List.ext_getElem (by rw [hlen, List.length_map]) ?_)
      intro i hi' hi
      rw [List.getElem_map]
      exact (hargs i (hlen ▸ hi') hi').1
    · obtain ⟨j, hj, hsite⟩ := TypeExpr.mem_sites_app.1 he
      rw [hj, show depth + (j + 1) = depth + 1 + j by omega]
      rcases hsite with ⟨a, ha, hsite⟩ | ⟨o, ho, hsite⟩
      · obtain ⟨i, hi, rfl⟩ := List.mem_iff_getElem.1 ha
        exact (hargs i hi (hlen ▸ hi)).2 _ hsite
      · exact hown.2 o ho _ hsite
  | wildcard us ls => cases hw
  | var v =>
    refine ⟨(resolvedAs_of_yields hr).symm, fun e he => ?_⟩
    obtain rfl := List.mem_singleton.1 he
    exact (resolvedAs_of_yields hr).symm ▸ hr
  | array elem ih =>
    rcases Nat.lt_or_ge R.maxDepth depth with hdeep | hle
    · exact eq_fill_of_deep hdeep hr
    rw [instantiate_of_le hle, instantiateStep, Attempt.yields_bind] at hr
    obtain ⟨r', hr', he⟩ := hr
    obtain ⟨hfill, hsites⟩ := ih hw hr'
    refine ⟨?_, fun e he => ?_⟩
    · rw [← Attempt.yields_pure.1 he, TypeExpr.fill_array, hfill]
    · obtain ⟨j, hj, hsite⟩ := TypeExpr.mem_sites_array.1 he
      rw [hj, show depth + (j + 1) = depth + 1 + j by omega]
      exact hsites _ hsite

/-- **One variable, one type, level by level.** What comes out of an expression without wildcards
has at each occurrence what the variable is resolved to at that nesting. If of two occurrences at
different nestings the deeper one is resolved without being cut off, both are resolved alike; and if
that holds throughout, the result is the expression under one substitution. -/
theorem explained_of_yields {depth : Nat} {t r : TypeExpr} (hw : t.hasWildcards = false)
    (hr : (R.instantiate t σ depth).Yields r) :
    (r = t.fill (R.resolvedAs σ) depth ∧ ∀ e ∈ t.sites,
      (R.instantiate (.var e.1) σ (depth + e.2)).Yields (R.resolvedAs σ e.1 (depth + e.2))) ∧
    ((∀ v j k, (v, j) ∈ t.sites → (v, k) ∈ t.sites → j < k →
        ∃ a, (R.completeAt (R.levels (depth + k)) (.var v) σ).Yields a) →
      ∃ τ, r = t.substitute τ) := by
  obtain ⟨hfill, hsites⟩ := eq_fill_of_yields hw hr
  refine ⟨⟨hfill, hsites⟩, fun hcomplete => ?_⟩
  -- both occurrences have what the deeper one has without a cut
  have hdeeper : ∀ v j k, (v, j) ∈ t.sites → (v, k) ∈ t.sites → j < k →
      R.resolvedAs σ v (depth + j) = R.resolvedAs σ v (depth + k) := by
    intro v j k hj hk hlt
    obtain ⟨a, ha⟩ := hcomplete v j k hj hk hlt
    have hlevels : R.levels (depth + k) ≤ R.levels (depth + j) :=
      R.levels_le_levels (Nat.add_le_add_left (Nat.le_of_lt hlt) depth)
    rw [← completeAt_agrees hlevels ha (hsites _ hj),
      ← completeAt_agrees (Nat.le_refl _) ha (hsites _ hk)]
  rw [hfill]
  refine TypeExpr.exists_substitute_of_fill fun v i j hi hj => ?_
  rcases Nat.lt_trichotomy i j with hlt | rfl | hlt
  · exact hdeeper v i j hi hj hlt
  · rfl
  · exact (hdeeper v j i hj hi hlt).symm

end Resolver

/-! ### A chain of bounds -/

namespace Registry

/-- `Object`, the abstract `Number` and `Integer` below it, classes `Pair<A, B>` and `Box<E>`, and
two variables `U extends Number` and `T extends U`. -/
def withNumbers : Registry :=
  let (number, reg) :=
    initial.addClass { name := "Number", isAbstract := true, superclass := some (.raw ⟨0⟩) }
  let (_, reg) := reg.addClass { name := "Integer", superclass := some (.raw number) }
  let (pair, reg) := reg.intern "Pair"
  let (box, reg) := reg.intern "Box"
  let (a, reg) := reg.addTypeParam "A" (.ofClass pair) []
  let (b, reg) := reg.addTypeParam "B" (.ofClass pair) []
  let (e, reg) := reg.addTypeParam "E" (.ofClass box) []
  let (u, reg) := reg.addTypeParam "U" (.ofMethod pair "of" 2) [.raw number]
  let (_, reg) := reg.addTypeParam "T" (.ofMethod pair "of" 2) [.var u]
  let reg := reg.define pair { name := "Pair", typeParams := [a, b], superclass := some (.raw ⟨0⟩) }
  reg.define box { name := "Box", typeParams := [e], superclass := some (.raw ⟨0⟩) }

end Registry

namespace Resolver

/-- `Pair<T, Box<T>>` over `withNumbers`. -/
def pairOfBox : TypeExpr := .app ⟨3⟩ [.var ⟨4⟩, .app ⟨4⟩ [.var ⟨4⟩] none] none

/-- Down to depth two `Pair<T, Box<T>>` becomes `Pair<Number, Box<Integer>>`, which is no instance
of it: for the inner occurrence the bound `U` of `T` is cut off, and a class is looked for instead.
-/
theorem not_explained_when_cut_off :
    pairOfBox.hasWildcards = false ∧
      (instantiate { registry := Registry.withNumbers, maxDepth := 2 } pairOfBox .empty).Yields
        (.app ⟨3⟩ [.raw ⟨1⟩, .app ⟨4⟩ [.raw ⟨2⟩] none] none) ∧
      TypeExpr.isConcrete (.app ⟨3⟩ [.raw ⟨1⟩, .app ⟨4⟩ [.raw ⟨2⟩] none] none) = true ∧
      ¬ ∃ τ, .app ⟨3⟩ [.raw ⟨1⟩, .app ⟨4⟩ [.raw ⟨2⟩] none] none = pairOfBox.substitute τ := by
  refine ⟨by decide, by decide +kernel, by decide, ?_⟩
  rintro ⟨τ, h⟩
  rw [pairOfBox, TypeExpr.substitute_app] at h
  obtain ⟨-, hargs, -⟩ := TypeExpr.app.inj h
  obtain ⟨houter, hrest⟩ := List.cons.inj hargs
  obtain ⟨hbox, -⟩ := List.cons.inj hrest
  rw [TypeExpr.substitute_app] at hbox
  obtain ⟨-, hinner, -⟩ := TypeExpr.app.inj hbox
  have hsame := houter.trans (List.cons.inj hinner).1.symm
  cases hsame

/-- One level more is enough: both occurrences become `Number`. -/
theorem explained_pairOfBox :
    ∃ τ, .app ⟨3⟩ [.raw ⟨1⟩, .app ⟨4⟩ [.raw ⟨1⟩] none] none = pairOfBox.substitute τ := by
  have hr : (instantiate { registry := Registry.withNumbers, maxDepth := 3 } pairOfBox
      .empty).Yields (.app ⟨3⟩ [.raw ⟨1⟩, .app ⟨4⟩ [.raw ⟨1⟩] none] none) := by decide +kernel
  refine (explained_of_yields (by decide) hr).2 fun v j k hj hk hlt => ?_
  have hsites : pairOfBox.sites = [(⟨4⟩, 1), (⟨4⟩, 2)] := by decide
  rw [hsites] at hj hk
  have hdeep : (v, k) = (⟨4⟩, 2) := by
    simp only [List.mem_cons, Prod.mk.injEq, List.not_mem_nil, or_false] at hj hk
    rcases hk with ⟨rfl, rfl⟩ | ⟨rfl, rfl⟩
    · omega
    · rfl
  obtain ⟨rfl, rfl⟩ := Prod.mk.inj hdeep
  exact ⟨.raw ⟨1⟩, by decide +kernel⟩

end Resolver

end Generics
