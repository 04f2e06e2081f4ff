import Generics.Proofs.Inference.Halting
import Generics.Proofs.Resolution.Arguments
import Generics.Proofs.Resolution.ConcreteSources
import Generics.Resolution.Boundaries
import Generics.Resolution.Members
import Generics.Resolution.Reparameterize

/-!
# Resolution comes to an end

Resolution, the choice between bounds, the check of bounds, the search of the registry and the
question of use call each other. Each of them goes on one level below, except that the question of
use resolves its source on its own level first; so the number of levels that are left, and on one
level the question before the resolution, says how much is left to do, whatever the bounds of
variables and the bindings look like. What can take for ever are the questions about supertypes that
are asked on the way: whether one type is assignable to another, and what a type is when it is seen
as a class above it. Where these have an answer, so has everything that resolution does.

## Main definitions

* `Registry.Decided` — all questions about supertypes have an answer, with enough budget
* `Resolver.HelpersHalt` — the levels below one level come to an end
* `Resolver.Halting` — every operation of a resolver comes to an end

## Main results

* `Resolver.halts_instantiateStep`, `Resolver.halts_canBecomeStep` — one level
* `Resolver.helpersHalt` — all levels
* `Resolver.halting`
* `Registry.decided_of_acyclic` — where the questions about supertypes have answers
-/

namespace Generics

/-- Questions about supertypes have an answer with enough budget, whatever they are about. -/
structure Registry.Decided (reg : Registry) : Prop where
  /-- Whether one type is assignable to another, -/
  assignable : ∀ s t, Halts fun n => reg.assignable? n s t
  /-- and what a type is seen as a class. -/
  view : ∀ t c, Halts fun n => reg.view n t c

namespace Registry.Decided

variable {reg : Registry} (h : reg.Decided)

include h

theorem not_endless (target : ClassId) (u : Use) : ¬ reg.Endless target u := by
  intro hend
  obtain ⟨r, N, hN⟩ := h.view u.toType target
  have hview : reg.view N u.toType target = some r := hN N (Nat.le_refl N)
  rw [view_of_use? u.use?_toType, hend] at hview
  cases hview

theorem determined (c : ClassId) (u : Use) : Halts fun n => reg.determined n c u :=
  Resolver.exists_determined fun _ => h.not_endless _ _

theorem context (s t : TypeExpr) : Halts fun n => reg.context n s t := by
  cases t with
  | app c args owner =>
    cases hs : reg.erasure s with
    | none =>
      simp only [Registry.context, hs]
      exact Halts.some _
    | some e =>
      cases e with
      | plain d =>
        simp only [Registry.context, hs]
        exact (h.determined d (c, args)).map _
      | array e =>
        simp only [Registry.context, hs]
        exact Halts.some _
  | _ => exact Halts.some _

end Registry.Decided

namespace Resolver

variable {R : Resolver}

/-! ### One level -/

/-- The levels below one level come to an end with enough budget. -/
structure HelpersHalt (inst : Nat → TypeExpr → Substitution → Attempt TypeExpr)
    (select : Nat → TypeExpr → List TypeExpr → List TypeExpr → Substitution → Attempt TypeExpr)
    (become : Nat → TypeExpr → TypeExpr → Option Bool) : Prop where
  /-- Parts are resolved, -/
  inst : ∀ t σ, Halts fun n => (inst n t σ).run
  /-- so are wildcards, -/
  select : ∀ s us ls σ, Halts fun n => (select n s us ls σ).run
  /-- and it is known what a type can become. -/
  become : ∀ s t, Halts fun n => become n s t

section Level

variable {inst : Nat → TypeExpr → Substitution → Attempt TypeExpr}
  {select : Nat → TypeExpr → List TypeExpr → List TypeExpr → Substitution → Attempt TypeExpr}
  {become : Nat → TypeExpr → TypeExpr → Option Bool}
  (h : R.registry.Decided) (H : HelpersHalt inst select become)

include h H

theorem halts_checkBounds (candidate : TypeExpr) (var : Option VarId)
    (uppers lowers : List TypeExpr) (σ : Substitution) :
    Halts fun n => (R.withBudget n).checkBounds (become n) candidate var uppers lowers σ := by
  simp only [checkBounds]
  refine Halts.bind (Halts.allM fun b _ => ?_) fun below _ => ?_
  · exact Halts.ite (fun _ => H.become candidate _) fun _ => h.assignable candidate _
  · exact Halts.ite (fun _ => Halts.allM fun b _ => h.assignable _ candidate)
      fun _ => Halts.some false

theorem halts_finalFits (candidate : TypeExpr) (var : Option VarId) (uppers : List TypeExpr)
    (σ : Substitution) :
    Halts fun n => (R.withBudget n).finalFits (become n) candidate var uppers σ := by
  simp only [finalFits]
  exact Halts.ite (fun _ => halts_checkBounds h H candidate var uppers [] σ)
    fun _ => Halts.some true

theorem halts_preferredFits (preferred : Option TypeExpr) (var : Option VarId)
    (uppers : List TypeExpr) (σ : Substitution) :
    Halts fun n => (R.withBudget n).preferredFits (become n) preferred var uppers σ := by
  simp only [preferredFits]
  cases preferred with
  | none => exact Halts.some false
  | some t =>
    exact Halts.ite (fun _ => halts_checkBounds h H t var uppers [] σ) fun _ => Halts.some false

theorem halts_searchRegistry (var : Option VarId) (uppers : List TypeExpr) (σ : Substitution) :
    Halts fun n => (R.withBudget n).searchRegistry (become n) var uppers σ := by
  simp only [searchRegistry, registry_withBudget]
  refine Halts.bind (Halts.findM? fun c _ => ?_) fun found _ => Halts.some _
  exact Halts.ite (fun _ => halts_checkBounds h H (.raw c) var uppers [] σ)
    fun _ => Halts.some false

omit h in
theorem halts_preferredBound (uppers : List TypeExpr) (σ : Substitution) :
    Halts fun n => (R.withBudget n).preferredBound (inst n) uppers σ := by
  have hmap : ∀ n, (R.withBudget n).preferredBound (inst n) uppers σ =
      (uppers.mapM fun b => inst n b σ).run.map fun r => match r with
        | .error _ => none
        | .ok bounds => R.registry.mostSpecific bounds := by
    intro n
    rw [preferredBound]
    cases (uppers.mapM fun b => inst n b σ).run with
    | none => rfl
    | some r => cases r <;> rfl
  simp only [hmap]
  exact (Halts.mapM fun b _ => H.inst b σ).map _

theorem halts_selectStep (subject : TypeExpr) (var : Option VarId) (uppers lowers : List TypeExpr)
    (σ : Substitution) :
    Halts fun n =>
      ((R.withBudget n).selectStep (inst n) (become n) subject var uppers lowers σ).run := by
  simp only [selectStep, registry_withBudget]
  cases lowers with
  | cons lower lowers =>
    refine Halts.bindAttempt (H.inst lower σ) fun candidate => ?_
    exact Halts.guardAttempt (halts_finalFits h H candidate var _ σ) (Halts.some _)
  | nil =>
    refine Halts.liftAttempt (halts_preferredBound H _ σ) fun preferred => ?_
    refine Halts.liftAttempt (halts_preferredFits h H preferred var _ σ) fun fits => ?_
    refine Halts.ite (fun _ => Halts.some _) fun _ => ?_
    refine Halts.liftAttempt (halts_searchRegistry h H var _ σ) fun found => ?_
    cases found with
    | some t => exact Halts.some _
    | none =>
      cases preferred with
      | none => exact Halts.some _
      | some t => exact Halts.ite (fun _ => Halts.some _) fun _ => Halts.some _

theorem halts_instantiateVarStep (v : VarId) (σ : Substitution) :
    Halts fun n => ((R.withBudget n).instantiateVarStep (inst n) (become n) v σ).run := by
  simp only [instantiateVarStep, registry_withBudget]
  cases R.registry.typeParam? v with
  | none => exact Halts.some _
  | some p =>
    dsimp only
    cases (σ.get? v).filter (· != .var v) with
    | none => exact halts_selectStep h H _ _ _ _ σ
    | some value =>
      dsimp only
      by_cases hv : value.isConcrete
      · simp only [if_pos hv, pure_bind]
        exact Halts.guardAttempt (halts_finalFits h H value _ _ σ) (Halts.some _)
      · simp only [if_neg hv]
        refine Halts.bindAttempt (H.inst value σ) fun candidate => ?_
        exact Halts.guardAttempt (halts_finalFits h H candidate _ _ σ) (Halts.some _)

theorem halts_fitsFormal (chosen : Substitution) (formals : List VarId) (arg result : TypeExpr)
    (σ : Substitution) :
    Halts fun n => (R.withBudget n).fitsFormal (become n) chosen formals arg result σ := by
  simp only [fitsFormal, replacementFits, knownFormal_withBudget, seenBounds_withBudget]
  cases R.knownFormal formals with
  | none => exact Halts.some true
  | some f =>
    exact Halts.ite (fun _ => halts_checkBounds h H result _ _ [] σ) fun _ => Halts.some true

omit h in
theorem halts_resolveArg (bounds : List TypeExpr) (arg : TypeExpr) (σ : Substitution) :
    Halts fun n => (resolveArg (inst n) (select n) bounds arg σ).run := by
  cases arg with
  | wildcard us ls => exact H.select _ _ _ σ
  | _ => exact H.inst _ σ

theorem halts_instantiateArgs (subject : TypeExpr) (σ chosen : Substitution)
    (formals : List VarId) (args : List TypeExpr) :
    Halts fun n => ((R.withBudget n).instantiateArgs (inst n) (select n) (become n) subject σ
      chosen formals args).run := by
  induction args generalizing chosen formals with
  | nil => exact Halts.some _
  | cons arg args ih =>
    simp only [instantiateArgs_cons, seenBounds_withBudget, choose_withBudget]
    refine Halts.bindAttempt (halts_resolveArg H _ arg σ) fun result => ?_
    refine Halts.guardAttempt (halts_fitsFormal h H chosen formals arg result σ) ?_
    exact Halts.bindAttempt (ih _ _) fun rest => Halts.some _

/-- **One level of resolution comes to an end** if the levels below do. -/
theorem halts_instantiateStep (t : TypeExpr) (σ : Substitution) :
    Halts fun n =>
      ((R.withBudget n).instantiateStep (inst n) (select n) (become n) t σ).run := by
  cases t with
  | raw c => exact Halts.some _
  | app c args owner =>
    refine Halts.bindAttempt (halts_instantiateArgs h H (.app c args owner) σ .empty
      (R.registry.formalsFor c args.length) args) fun args' => ?_
    cases owner with
    | none => exact Halts.some _
    | some o => exact Halts.bindAttempt (H.inst o σ) fun o' => Halts.some _
  | wildcard us ls => exact halts_selectStep h H _ _ us ls σ
  | var v => exact halts_instantiateVarStep h H v σ
  | array elem => exact Halts.bindAttempt (H.inst elem σ) fun elem' => Halts.some _

omit H in
theorem halts_settled (source target : TypeExpr) :
    Halts fun n => (R.withBudget n).settled source target := by
  simp only [settled]
  exact Halts.ite (fun _ => h.assignable source target) fun _ => Halts.some false

omit H in
/-- **One level of the question comes to an end** if the source is resolved on this level and the
question has an answer on the level below. -/
theorem halts_canBecomeStep (hinst : ∀ t σ, Halts fun n => (inst n t σ).run)
    (hbecome : ∀ s t, Halts fun n => become n s t) (source target : TypeExpr) :
    Halts fun n => (R.withBudget n).canBecomeStep (inst n) (become n) source target := by
  simp only [canBecomeStep, gate_withBudget]
  refine Halts.ite (fun _ => ?_) fun _ => Halts.some false
  refine Halts.bind (h.context source target) fun σ _ => ?_
  refine Halts.bind (hinst source σ) fun r _ => ?_
  cases r with
  | error e => exact Halts.some false
  | ok t => exact Halts.ite (fun _ => halts_settled h source target) fun _ => hbecome t target

end Level

/-! ### All levels -/

section Operations

variable (h : R.registry.Decided)

include h

/-- **All levels come to an end.** -/
theorem helpersHalt (k : Nat) :
    HelpersHalt (fun n => (R.withBudget n).instantiateAt k) (fun n => (R.withBudget n).selectAt k)
      (fun n => (R.withBudget n).canBecomeAt k) := by
  induction k with
  | zero =>
    refine ⟨fun t σ => Halts.some _, fun s us ls σ => Halts.some _, fun s t => ?_⟩
    simp only [canBecomeAt_zero, gate_withBudget]
    exact Halts.ite (fun _ => halts_settled h s t) fun _ => Halts.some false
  | succ k ih =>
    have hinst : ∀ t σ, Halts fun n => ((R.withBudget n).instantiateAt (k + 1) t σ).run :=
      fun t σ => halts_instantiateStep h ih t σ
    exact ⟨hinst, fun s us ls σ => halts_selectStep h ih s none us ls σ,
      fun s t => halts_canBecomeStep h hinst ih.become s t⟩

theorem halts_instantiate (t : TypeExpr) (σ : Substitution) (depth : Nat) :
    Halts fun n => ((R.withBudget n).instantiate t σ depth).run :=
  (helpersHalt h (R.levels depth)).inst t σ

theorem halts_satisfies (candidate : TypeExpr) (source : BoundSource) (σ : Substitution) :
    Halts fun n => ((R.withBudget n).satisfies candidate source σ).run := by
  have hbounds : Halts fun n => (R.withBudget n).boundsHold candidate source σ := by
    simp only [boundsHold, registry_withBudget]
    rcases source with v | ⟨us, ls⟩
    · dsimp only
      cases R.registry.typeParam? v with
      | none => exact Halts.some false
      | some p => exact halts_checkBounds h (helpersHalt h (R.levels 1)) _ _ _ _ σ
    · exact halts_checkBounds h (helpersHalt h (R.levels 1)) _ _ _ _ σ
  cases candidate with
  | var v => exact Halts.some _
  | wildcard us ls => exact Halts.some _
  | _ => exact hbounds.map Except.ok

theorem halts_reparameterizeUse (source : TypeExpr) (c : ClassId) (superType : TypeExpr) :
    Halts fun n => ((R.withBudget n).reparameterizeUse source c superType).run := by
  simp only [reparameterizeUse, registry_withBudget]
  cases R.registry.class? c with
  | none => exact Halts.some _
  | some d =>
    refine Halts.ite (fun _ => ?_) fun _ => Halts.some _
    cases superType with
    | app e args owner =>
      refine Halts.ite (fun _ => ?_) fun _ => Halts.some _
      exact Halts.liftAttempt (h.determined c (e, args)) fun σ => Halts.some _
    | _ => exact Halts.some _

theorem halts_reparameterize (source superType : TypeExpr) :
    Halts fun n => ((R.withBudget n).reparameterize source superType).run := by
  induction source generalizing superType with
  | raw c => exact halts_reparameterizeUse h _ c superType
  | app c args owner => exact halts_reparameterizeUse h _ c superType
  | wildcard us ls => exact Halts.some _
  | var v => exact Halts.some _
  | array s ih =>
    cases superType with
    | array t => exact Halts.bindAttempt (ih t) fun elem => Halts.some _
    | raw c =>
      simp only [Resolver.reparameterize, registry_withBudget]
      exact Halts.ite (fun _ => Halts.some _) fun _ => Halts.some _
    | _ => exact Halts.some _

theorem halts_chooseTypeArgs (vs : List VarId) (σ : Substitution) :
    Halts fun n => ((R.withBudget n).chooseTypeArgs vs σ).run := by
  induction vs generalizing σ with
  | nil => exact Halts.some _
  | cons v vs ih =>
    refine Halts.bindAttempt (halts_instantiate h (.var v) σ 0) fun t => ?_
    exact Halts.bindAttempt (ih (σ.bind v t)) fun r => Halts.some _

theorem halts_instantiateAll (σ : Substitution) (ts : List TypeExpr) :
    Halts fun n => ((R.withBudget n).instantiateAll σ ts).run := by
  induction ts with
  | nil => exact Halts.some _
  | cons t ts ih =>
    refine Halts.bindAttempt (halts_instantiate h t σ 0) fun u => ?_
    exact Halts.bindAttempt ih fun us => Halts.some _

theorem halts_instantiateReturn (σ : Substitution) (o : Option TypeExpr) :
    Halts fun n => ((R.withBudget n).instantiateReturn σ o).run := by
  cases o with
  | none => exact Halts.some _
  | some t => exact Halts.bindAttempt (halts_instantiate h t σ 0) fun u => Halts.some _

theorem halts_instantiateMethod (receiver : TypeExpr) (m : Method) :
    Halts fun n => ((R.withBudget n).instantiateMethod receiver m).run := by
  simp only [instantiateMethod, registry_withBudget]
  refine Halts.bindAttempt (halts_chooseTypeArgs h _ _) fun r => ?_
  refine Halts.bindAttempt (halts_instantiateAll h r.2 _) fun params => ?_
  exact Halts.bindAttempt (halts_instantiateReturn h r.2 _) fun returnType => Halts.some _

theorem halts_instantiateConstructor (owner : TypeExpr) (k : Constructor) :
    Halts fun n => ((R.withBudget n).instantiateConstructor owner k).run := by
  simp only [instantiateConstructor, registry_withBudget]
  cases owner.classId?.bind fun c => (R.registry.class? c).map fun d => (c, d) with
  | none => exact Halts.some _
  | some e =>
    refine Halts.bindAttempt (halts_instantiate h _ _ 0) fun constructed => ?_
    refine Halts.bindAttempt (halts_chooseTypeArgs h _ _) fun r => ?_
    exact Halts.bindAttempt (halts_instantiateAll h r.2 _) fun params => Halts.some _

end Operations

end Resolver

/-- Every operation of a resolver comes to an end, with a result or with a failure. -/
structure Resolver.Halting (R : Resolver) : Prop where
  /-- Resolution, nested at any depth and under any bindings. -/
  instantiate : ∀ t σ depth, Halts fun n => ((R.withBudget n).instantiate t σ depth).run
  /-- The check of a candidate. -/
  satisfies : ∀ t source σ, Halts fun n => ((R.withBudget n).satisfies t source σ).run
  /-- The question of use. -/
  canBecome : ∀ s t, Halts fun n => (R.withBudget n).canBecome s t
  /-- The bindings that a type implies, which need no budget. -/
  impliedBindings : ∀ t, Answers (R.registry.impliedWithin · t) (R.registry.impliedBindings t)
  /-- The bindings that a supertype determines. -/
  determined : ∀ c u, Halts fun n => R.registry.determined n c u
  /-- Arguments from a supertype. -/
  reparameterize : ∀ source superType,
    Halts fun n => ((R.withBudget n).reparameterize source superType).run
  /-- The signature of a method. -/
  instantiateMethod : ∀ receiver m,
    Halts fun n => ((R.withBudget n).instantiateMethod receiver m).run
  /-- The signature of a constructor. -/
  instantiateConstructor : ∀ owner k,
    Halts fun n => ((R.withBudget n).instantiateConstructor owner k).run

namespace Resolver

variable {R : Resolver}

/-- **Every operation of a resolver comes to an end** if questions about supertypes have answers,
whatever the bounds of variables, the bindings and the maximal depth. -/
theorem halting (h : R.registry.Decided) : R.Halting where
  instantiate := halts_instantiate h
  satisfies := halts_satisfies h
  canBecome := (helpersHalt h (R.levels 0)).become
  impliedBindings := R.registry.answers_impliedWithin
  determined := h.determined
  reparameterize := halts_reparameterize h
  instantiateMethod := halts_instantiateMethod h
  instantiateConstructor := halts_instantiateConstructor h

end Resolver

/-! ### Bounds that lead in a circle -/

namespace Registry

/-- What lies above classes decides whether questions about supertypes have answers. No condition on
the bounds of variables is needed. -/
theorem decided_of_acyclic {reg : Registry} (hA : reg.Acyclic) (hN : reg.SupertypesNominal)
    (hL : reg.SupertypesLowerFree) : reg.Decided where
  assignable s t := halts_of_acc (q := ⟨[], s, t⟩) (hA.not_endless hN) (acc_of_supertypes hL _)
  view t c := halts_view (hA.not_endless hN) t c

/-- `Knot<A extends B, B extends A>`, whose method `<C extends Knot<C, ? super C>> tie(C)` has a
type parameter that is bounded by itself, and a supertype that is not defined. -/
def knots : Registry where
  classes := #[some { name := objectName },
    some { classDef "Knot" [⟨0⟩, ⟨1⟩] (.raw ⟨7⟩) [] with
      methods := [{ name := "tie", typeParams := [⟨2⟩], params := [.var ⟨2⟩] }] }]
  params := #[⟨"A", .ofClass ⟨1⟩, [.var ⟨1⟩]⟩, ⟨"B", .ofClass ⟨1⟩, [.var ⟨0⟩]⟩,
    ⟨"C", .ofMethod ⟨1⟩ "tie" 1, [.ofClass ⟨1⟩ [.var ⟨2⟩, .superOf (.var ⟨2⟩)]]⟩]
  names := [("Knot", ⟨1⟩), (objectName, ⟨0⟩)]
  object := ⟨0⟩

end Registry

/-- Resolution over `Knot` comes to an end, also for the binding of `A` to `Knot<A, B>[]` and at a
maximal depth of a million. -/
theorem Resolver.halting_knots :
    Registry.knots.Decided ∧
      let R : Resolver := { registry := Registry.knots, maxDepth := 1000000 }
      Halts fun n => ((R.withBudget n).instantiate (.ofClass ⟨1⟩ [.var ⟨0⟩, .var ⟨2⟩])
        (Substitution.empty.bind ⟨0⟩ (.array (.ofClass ⟨1⟩ [.var ⟨0⟩, .var ⟨1⟩]))) 0).run := by
  let R : Resolver := { registry := Registry.knots, maxDepth := 1000000 }
  have h : R.registry.Decided :=
    Registry.decided_of_acyclic (by decide +kernel) (by decide +kernel) (by decide +kernel)
  exact ⟨h, (halting h).instantiate _ _ _⟩

end Generics
