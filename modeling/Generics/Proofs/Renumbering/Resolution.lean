import Generics.Proofs.Renumbering.Assignability
import Generics.Proofs.Renumbering.Candidates
import Generics.Proofs.Renumbering.Inference
import Generics.Proofs.Resolution.Arguments

/-!
# Resolution under other numbers

One level of resolution takes what it needs of the level below as arguments. If those do on the
renumbered inputs what they do on the inputs, so does the level: what is bound, which candidates are
tried and in which order does not depend on the numbers. All levels follow by induction. A failure is
the same failure, of the renumbered type.

## Main definitions

* `Failure.renumber`, `renumberAttempt`
* `Resolver.Renumbered` — a resolver over the renumbered registry, with the same limits
* `Resolver.HelpersRenumbered` — what one level takes of the level below

## Main results

* `Resolver.Renumbered.instantiateStep`, `Resolver.Renumbered.canBecomeStep` — one level
* `Resolver.Renumbered.instantiate`, `Resolver.Renumbered.canBecome` — all levels
-/

namespace Generics

/-- The failure with other numbers; the reason stays. -/
def Failure.renumber (ρ : Renumbering) (f : Failure) : Failure :=
  { f with type := f.type.renumber ρ }

/-- An attempt to find a type, with other numbers. -/
abbrev renumberAttempt (ρ : Renumbering) : Attempt TypeExpr → Attempt TypeExpr :=
  mapAttempt (Failure.renumber ρ) (TypeExpr.renumber ρ)

namespace Resolver

/-- The resolver reads the renumbered registry and has the same limits. -/
structure Renumbered (ρ : Renumbering) (R R' : Resolver) : Prop where
  /-- The registry has other numbers, -/
  registry : R.registry.Renumbered ρ R'.registry
  /-- types are followed to the same depth, -/
  maxDepth : R'.maxDepth = R.maxDepth
  /-- and as many steps are spent on a question. -/
  budget : R'.budget = R.budget

/-- The helpers of one level do on the renumbered inputs what others do on the inputs. -/
structure HelpersRenumbered (ρ : Renumbering)
    (inst inst' : TypeExpr → Substitution → Attempt TypeExpr)
    (select select' : TypeExpr → List TypeExpr → List TypeExpr → Substitution → Attempt TypeExpr)
    (become become' : TypeExpr → TypeExpr → Option Bool) : Prop where
  /-- Parts are resolved to the renumbered parts. -/
  inst : ∀ t σ, inst' (t.renumber ρ) (σ.renumber ρ) = renumberAttempt ρ (inst t σ)
  /-- Wildcards are. -/
  select : ∀ s us ls σ, select' (s.renumber ρ) (us.map (TypeExpr.renumber ρ))
    (ls.map (TypeExpr.renumber ρ)) (σ.renumber ρ) = renumberAttempt ρ (select s us ls σ)
  /-- What a type can become has the same answer. -/
  become : ∀ s t, become' (s.renumber ρ) (t.renumber ρ) = become s t

namespace Renumbered

variable {ρ : Renumbering} {R R' : Resolver} (h : Renumbered ρ R R')

include h

theorem isAssignable (s t : TypeExpr) :
    R'.isAssignable (s.renumber ρ) (t.renumber ρ) = R.isAssignable s t := by
  rw [Resolver.isAssignable, Resolver.isAssignable, h.budget]
  exact h.registry.assignable? R.budget s t

theorem context (source target : TypeExpr) :
    R'.context (source.renumber ρ) (target.renumber ρ) =
      (R.context source target).map (Substitution.renumber ρ) := by
  rw [Resolver.context, Resolver.context, h.budget]
  exact h.registry.context R.budget source target

theorem levels (depth : Nat) : R'.levels depth = R.levels depth := by
  rw [Resolver.levels, Resolver.levels, h.maxDepth]

theorem gate (source target : TypeExpr) :
    R'.gate (source.renumber ρ) (target.renumber ρ) = R.gate source target := by
  rw [Resolver.gate, Resolver.gate, h.registry.erasure, h.registry.erasure]
  cases R.registry.erasure source with
  | none => rfl
  | some s =>
    cases R.registry.erasure target with
    | none => rfl
    | some t => exact h.registry.isRawAssignable t s

theorem settled (source target : TypeExpr) :
    R'.settled (source.renumber ρ) (target.renumber ρ) = R.settled source target := by
  rw [Resolver.settled, Resolver.settled, TypeExpr.isConcrete_renumber, h.isAssignable]

/-! ### Formals -/

theorem knownFormal (formals : List VarId) :
    R'.knownFormal (formals.map ρ.vars) =
      (R.knownFormal formals).map fun f => (ρ.vars f.1, f.2.renumber ρ) := by
  rw [Resolver.knownFormal, Resolver.knownFormal, List.head?_map]
  cases formals.head? with
  | none => rfl
  | some v =>
    simp only [Option.map_some, Option.bind_some, h.registry.typeParam?]
    cases R.registry.typeParam? v <;> rfl

theorem seenBounds (chosen : Substitution) (formals : List VarId) :
    R'.seenBounds (chosen.renumber ρ) (formals.map ρ.vars) =
      (R.seenBounds chosen formals).map (TypeExpr.renumber ρ) := by
  rw [Resolver.seenBounds, Resolver.seenBounds, h.knownFormal]
  cases R.knownFormal formals with
  | none => rfl
  | some f =>
    show (f.2.bounds.map (TypeExpr.renumber ρ)).map (TypeExpr.substitute (chosen.renumber ρ)) =
      (f.2.bounds.map (TypeExpr.substitute chosen)).map (TypeExpr.renumber ρ)
    rw [List.map_map, List.map_map]
    exact List.map_congr_left fun b _ => (TypeExpr.renumber_substitute ρ chosen b).symm

theorem choose (chosen : Substitution) (formals : List VarId) (result : TypeExpr) :
    R'.choose (chosen.renumber ρ) (formals.map ρ.vars) (result.renumber ρ) =
      (R.choose chosen formals result).renumber ρ := by
  rw [Resolver.choose, Resolver.choose, h.knownFormal]
  cases R.knownFormal formals with
  | none => rfl
  | some f => exact (Substitution.renumber_bind ρ chosen f.1 result).symm

section Level

variable {inst inst' : TypeExpr → Substitution → Attempt TypeExpr}
  {select select' : TypeExpr → List TypeExpr → List TypeExpr → Substitution → Attempt TypeExpr}
  {become become' : TypeExpr → TypeExpr → Option Bool}
  (H : HelpersRenumbered ρ inst inst' select select' become become')

include H

/-! ### Bounds and candidates -/

theorem checkBounds (candidate : TypeExpr) (var : Option VarId) (uppers lowers : List TypeExpr)
    (σ : Substitution) :
    R'.checkBounds become' (candidate.renumber ρ) (var.map ρ.vars)
        (uppers.map (TypeExpr.renumber ρ)) (lowers.map (TypeExpr.renumber ρ)) (σ.renumber ρ) =
      R.checkBounds become candidate var uppers lowers σ := by
  have hchecks : ∀ τ : Substitution,
      ((uppers.map (TypeExpr.renumber ρ)).allM fun b =>
        if (b.substitute (τ.renumber ρ)).hasVars
        then become' (candidate.renumber ρ) (b.substitute (τ.renumber ρ))
        else R'.isAssignable (candidate.renumber ρ) (b.substitute (τ.renumber ρ))) =
      (uppers.allM fun b =>
        if (b.substitute τ).hasVars then become candidate (b.substitute τ)
        else R.isAssignable candidate (b.substitute τ)) ∧
      ((lowers.map (TypeExpr.renumber ρ)).allM fun b =>
        R'.isAssignable (b.substitute (τ.renumber ρ)) (candidate.renumber ρ)) =
      lowers.allM fun b => R.isAssignable (b.substitute τ) candidate := fun τ => by
    constructor
    · refine allM_map_eq fun b _ => ?_
      rw [← TypeExpr.renumber_substitute, TypeExpr.hasVars_renumber, H.become, h.isAssignable]
    · refine allM_map_eq fun b _ => ?_
      rw [← TypeExpr.renumber_substitute, h.isAssignable]
  cases var with
  | none =>
    obtain ⟨hbelow, habove⟩ := hchecks σ
    simp only [Resolver.checkBounds, Option.map_none, hbelow, habove]
  | some v =>
    obtain ⟨hbelow, habove⟩ := hchecks (σ.bind v candidate)
    rw [Substitution.renumber_bind] at hbelow habove
    simp only [Resolver.checkBounds, Option.map_some, hbelow, habove]

theorem searchRegistry (var : Option VarId) (uppers : List TypeExpr) (σ : Substitution) :
    R'.searchRegistry become' (var.map ρ.vars) (uppers.map (TypeExpr.renumber ρ)) (σ.renumber ρ) =
      (R.searchRegistry become var uppers σ).map (Option.map (TypeExpr.renumber ρ)) := by
  have hsearch : (R'.registry.standIns.findM? fun c =>
      if R'.registry.passesErased (uppers.map (TypeExpr.renumber ρ)) c
      then R'.checkBounds become' (.raw c) (var.map ρ.vars) (uppers.map (TypeExpr.renumber ρ)) []
        (σ.renumber ρ)
      else some false) =
      (R.registry.standIns.findM? fun c =>
        if R.registry.passesErased uppers c then R.checkBounds become (.raw c) var uppers [] σ
        else some false).map (Option.map ρ.classes) := by
    rw [h.registry.standIns]
    refine findM?_map_eq fun c _ => ?_
    rw [h.registry.passesErased, ← h.checkBounds H]
    rfl
  have hraw : ∀ found : Option (Option ClassId),
      (found.map (Option.map ρ.classes)).bind (fun f => some (f.map TypeExpr.raw)) =
        (found.bind fun f => some (f.map TypeExpr.raw)).map (Option.map (TypeExpr.renumber ρ)) := by
    intro found
    cases found with
    | none => rfl
    | some c => cases c <;> rfl
  rw [Resolver.searchRegistry, Resolver.searchRegistry, hsearch]
  exact hraw _

theorem preferredBound (uppers : List TypeExpr) (σ : Substitution) :
    R'.preferredBound inst' (uppers.map (TypeExpr.renumber ρ)) (σ.renumber ρ) =
      (R.preferredBound inst uppers σ).map (Option.map (TypeExpr.renumber ρ)) := by
  have hbounds : (uppers.map (TypeExpr.renumber ρ)).mapM (fun b => inst' b (σ.renumber ρ)) =
      mapAttempt (Failure.renumber ρ) (List.map (TypeExpr.renumber ρ))
        (uppers.mapM fun b => inst b σ) := mapM_map_eq fun b _ => H.inst b σ
  rw [Resolver.preferredBound, Resolver.preferredBound, hbounds, mapAttempt]
  cases (uppers.mapM fun b => inst b σ).run with
  | none => rfl
  | some r =>
    cases r with
    | error e => rfl
    | ok bounds => exact congrArg some (h.registry.mostSpecific bounds)

theorem finalFits (candidate : TypeExpr) (var : Option VarId) (uppers : List TypeExpr)
    (σ : Substitution) :
    R'.finalFits become' (candidate.renumber ρ) (var.map ρ.vars)
        (uppers.map (TypeExpr.renumber ρ)) (σ.renumber ρ) =
      R.finalFits become candidate var uppers σ := by
  rw [Resolver.finalFits, Resolver.finalFits, TypeExpr.isConcrete_renumber, ← h.checkBounds H,
    List.map_nil]

theorem preferredFits (preferred : Option TypeExpr) (var : Option VarId) (uppers : List TypeExpr)
    (σ : Substitution) :
    R'.preferredFits become' (preferred.map (TypeExpr.renumber ρ)) (var.map ρ.vars)
        (uppers.map (TypeExpr.renumber ρ)) (σ.renumber ρ) =
      R.preferredFits become preferred var uppers σ := by
  cases preferred with
  | none => rfl
  | some t =>
    simp only [Resolver.preferredFits, Option.map_some]
    rw [TypeExpr.isConcrete_renumber, ← h.checkBounds H, List.map_nil]

/-! ### One level -/

theorem selectStep (subject : TypeExpr) (var : Option VarId) (uppers lowers : List TypeExpr)
    (σ : Substitution) :
    R'.selectStep inst' become' (subject.renumber ρ) (var.map ρ.vars)
        (uppers.map (TypeExpr.renumber ρ)) (lowers.map (TypeExpr.renumber ρ)) (σ.renumber ρ) =
      renumberAttempt ρ (R.selectStep inst become subject var uppers lowers σ) := by
  unfold Resolver.selectStep
  rw [h.registry.orObject]
  cases lowers with
  | cons lower lowers =>
    simp only [List.map_cons]
    rw [H.inst]
    refine mapAttempt_bind _ fun candidate => ?_
    rw [h.finalFits H]
    refine mapAttempt_ask _ fun fits => ?_
    cases fits <;> rfl
  | nil =>
    simp only [List.map_nil]
    rw [h.preferredBound H]
    refine mapAttempt_liftM_bind _ fun preferred => ?_
    rw [h.preferredFits H]
    refine mapAttempt_ask _ fun fits => ?_
    cases fits with
    | true => cases preferred <;> rfl
    | false =>
      simp only [Bool.false_eq_true, if_false]
      rw [h.searchRegistry H]
      refine mapAttempt_liftM_bind _ fun found => ?_
      cases found with
      | some t => rfl
      | none =>
        cases preferred with
        | none => rfl
        | some t =>
          simp only [Option.map_some, Option.map_none, TypeExpr.isConcrete_renumber]
          split <;> rfl

theorem instantiateVarStep (v : VarId) (σ : Substitution) :
    R'.instantiateVarStep inst' become' (ρ.vars v) (σ.renumber ρ) =
      renumberAttempt ρ (R.instantiateVarStep inst become v σ) := by
  have hvalue : ((σ.renumber ρ).get? (ρ.vars v)).filter (· != .var (ρ.vars v)) =
      ((σ.get? v).filter (· != .var v)).map (TypeExpr.renumber ρ) := by
    rw [Substitution.get?_renumber]
    cases σ.get? v with
    | none => rfl
    | some t =>
      have hne : (t.renumber ρ != .var (ρ.vars v)) = (t != .var v) := by
        rw [← TypeExpr.renumber_var]
        exact congrArg (!·) (TypeExpr.renumber_injective ρ).beq_eq
      simp only [Option.map_some, Option.filter_some, hne]
      split <;> rfl
  unfold Resolver.instantiateVarStep
  rw [hvalue, h.registry.typeParam?]
  cases R.registry.typeParam? v with
  | none => rfl
  | some p =>
    cases (σ.get? v).filter (· != .var v) with
    | none => exact h.selectStep H (.var v) (some v) p.bounds [] σ
    | some value =>
      have hnext : ∀ candidate : TypeExpr,
          (do
            let fits ← R'.finalFits become' (candidate.renumber ρ) (some (ρ.vars v))
              (p.bounds.map (TypeExpr.renumber ρ)) (σ.renumber ρ)
            if fits then return candidate.renumber ρ
            else throw ⟨.var (ρ.vars v), .boundViolation⟩ : Attempt TypeExpr) =
          renumberAttempt ρ (do
            let fits ← R.finalFits become candidate (some v) p.bounds σ
            if fits then return candidate else throw ⟨.var v, .boundViolation⟩) := by
        intro candidate
        rw [← h.finalFits H]
        refine mapAttempt_ask _ fun fits => ?_
        cases fits <;> rfl
      simp only [Option.map_some, TypeExpr.isConcrete_renumber]
      split
      · exact mapAttempt_bind (pure value) hnext
      · rw [H.inst]
        exact mapAttempt_bind (inst value σ) hnext

omit h in
theorem resolveArg (bounds : List TypeExpr) (arg : TypeExpr) (σ : Substitution) :
    Resolver.resolveArg inst' select' (bounds.map (TypeExpr.renumber ρ)) (arg.renumber ρ)
        (σ.renumber ρ) =
      renumberAttempt ρ (Resolver.resolveArg inst select bounds arg σ) := by
  cases arg with
  | wildcard us ls =>
    have hselect := H.select (.wildcard us ls) (us ++ bounds) ls σ
    rw [TypeExpr.renumber_wildcard, List.map_append] at hselect
    rw [TypeExpr.renumber_wildcard]
    exact hselect
  | app c args owner =>
    have hinst := H.inst (.app c args owner) σ
    rw [TypeExpr.renumber_app] at hinst ⊢
    exact hinst
  | raw c => exact H.inst (.raw c) σ
  | var v => exact H.inst (.var v) σ
  | array elem => exact H.inst (.array elem) σ

theorem fitsFormal (chosen : Substitution) (formals : List VarId) (arg result : TypeExpr)
    (σ : Substitution) :
    R'.fitsFormal become' (chosen.renumber ρ) (formals.map ρ.vars) (arg.renumber ρ)
        (result.renumber ρ) (σ.renumber ρ) =
      R.fitsFormal become chosen formals arg result σ := by
  have hne : (result.renumber ρ != arg.renumber ρ) = (result != arg) :=
    congrArg (!·) (TypeExpr.renumber_injective ρ).beq_eq
  rw [Resolver.fitsFormal, Resolver.fitsFormal, h.knownFormal, h.seenBounds]
  cases R.knownFormal formals with
  | none => rfl
  | some f =>
    have hcheck := h.checkBounds H result (some f.1) (R.seenBounds chosen formals) [] σ
    simp only [Option.map_some, replacementFits, hne, TypeExpr.isConcrete_renumber]
    split
    · exact hcheck
    · rfl

theorem instantiateArgs (subject : TypeExpr) (σ chosen : Substitution) (formals : List VarId)
    (args : List TypeExpr) :
    R'.instantiateArgs inst' select' become' (subject.renumber ρ) (σ.renumber ρ)
        (chosen.renumber ρ) (formals.map ρ.vars) (args.map (TypeExpr.renumber ρ)) =
      mapAttempt (Failure.renumber ρ) (List.map (TypeExpr.renumber ρ))
        (R.instantiateArgs inst select become subject σ chosen formals args) := by
  induction args generalizing chosen formals with
  | nil => rfl
  | cons arg args ih =>
    rw [List.map_cons, instantiateArgs_cons, instantiateArgs_cons, h.seenBounds,
      resolveArg H]
    refine mapAttempt_bind _ fun result => ?_
    rw [h.fitsFormal H]
    refine mapAttempt_ask _ fun fits => ?_
    cases fits with
    | false => rfl
    | true =>
      simp only [if_true]
      rw [h.choose, ← List.map_tail, ih]
      exact mapAttempt_bind _ fun rest => rfl

/-- **One level resolves** the renumbered expression to the renumbered result. -/
theorem instantiateStep (t : TypeExpr) (σ : Substitution) :
    R'.instantiateStep inst' select' become' (t.renumber ρ) (σ.renumber ρ) =
      renumberAttempt ρ (R.instantiateStep inst select become t σ) := by
  cases t with
  | raw c => rfl
  | app c args owner =>
    have hargs := h.instantiateArgs H (.app c args owner) σ .empty
      (R.registry.formalsFor c args.length) args
    rw [Substitution.renumber_empty] at hargs
    rw [TypeExpr.renumber_app] at hargs ⊢
    simp only [Resolver.instantiateStep, List.length_map, h.registry.formalsFor]
    rw [hargs]
    refine mapAttempt_bind _ fun args' => ?_
    cases owner with
    | none =>
      show pure _ = pure _
      rw [TypeExpr.renumber_app]
      rfl
    | some o =>
      simp only [Option.map_some]
      rw [H.inst]
      refine mapAttempt_bind _ fun o' => ?_
      rw [mapAttempt_pure, TypeExpr.renumber_app]
      rfl
  | wildcard us ls =>
    have hselect := h.selectStep H (.wildcard us ls) none us ls σ
    rw [TypeExpr.renumber_wildcard] at hselect ⊢
    exact hselect
  | var v => exact h.instantiateVarStep H v σ
  | array elem =>
    show inst' (elem.renumber ρ) (σ.renumber ρ) >>= _ = _
    rw [H.inst]
    exact mapAttempt_bind _ fun elem' => rfl

/-- **One level answers** what the source can become as it does for the inputs. -/
theorem canBecomeStep (source target : TypeExpr) :
    R'.canBecomeStep inst' become' (source.renumber ρ) (target.renumber ρ) =
      R.canBecomeStep inst become source target := by
  rw [Resolver.canBecomeStep, Resolver.canBecomeStep, h.gate, h.context]
  split
  · cases R.context source target with
    | none => rfl
    | some σ =>
      have hrun : (inst' (source.renumber ρ) (σ.renumber ρ)).run =
          (inst source σ).run.map (mapResult (Failure.renumber ρ) (TypeExpr.renumber ρ)) :=
        congrArg ExceptT.run (H.inst source σ)
      show (inst' (source.renumber ρ) (σ.renumber ρ)).run.bind _ = (inst source σ).run.bind _
      rw [hrun]
      cases (inst source σ).run with
      | none => rfl
      | some r =>
        cases r with
        | error e => rfl
        | ok t =>
          simp only [mapResult, Option.map_some, Option.bind_some, TypeExpr.renumber_inj,
            h.settled, H.become]
  · rfl

end Level

/-! ### All levels -/

/-- **All levels** do on the renumbered inputs what they do on the inputs. -/
theorem helpersRenumbered (n : Nat) :
    HelpersRenumbered ρ (R.instantiateAt n) (R'.instantiateAt n) (R.selectAt n) (R'.selectAt n)
      (R.canBecomeAt n) (R'.canBecomeAt n) := by
  induction n with
  | zero =>
    refine ⟨fun _ _ => rfl, fun _ _ _ _ => rfl, fun s t => ?_⟩
    rw [canBecomeAt_zero, canBecomeAt_zero, h.gate, h.settled]
  | succ n ih =>
    refine ⟨fun t σ => h.instantiateStep ih t σ, fun s us ls σ => h.selectStep ih s none us ls σ,
      fun s t => ?_⟩
    have H : HelpersRenumbered ρ (R.instantiateAt (n + 1)) (R'.instantiateAt (n + 1))
        (R.selectAt n) (R'.selectAt n) (R.canBecomeAt n) (R'.canBecomeAt n) :=
      ⟨fun t σ => h.instantiateStep ih t σ, ih.select, ih.become⟩
    exact h.canBecomeStep H s t

/-- **The renumbered expression is resolved** to the renumbered result. -/
theorem instantiate (t : TypeExpr) (σ : Substitution) (depth : Nat) :
    R'.instantiate (t.renumber ρ) (σ.renumber ρ) depth =
      renumberAttempt ρ (R.instantiate t σ depth) := by
  rw [Resolver.instantiate, Resolver.instantiate, h.levels]
  exact (h.helpersRenumbered _).inst t σ

/-- **What a type can become** has the same answer. -/
theorem canBecome (source target : TypeExpr) :
    R'.canBecome (source.renumber ρ) (target.renumber ρ) = R.canBecome source target := by
  rw [Resolver.canBecome, Resolver.canBecome, h.levels]
  exact (h.helpersRenumbered _).become source target

end Renumbered

end Resolver

end Generics
