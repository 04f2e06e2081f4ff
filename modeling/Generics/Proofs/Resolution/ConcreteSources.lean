import Generics.Proofs.Assignability.ErasureGate
import Generics.Proofs.Assignability.MoreBudget
import Generics.Proofs.Resolution.Concrete
import Generics.Session.Basic

/-!
# Concrete sources and the question of use

For a concrete source the question whether it can be used as a target is the question whether it is
assignable to the target, asked behind the erasure gate and behind the computation of a context that
the answer does not use. The gate lets through whatever is assignable. The context is another
matter: it walks from the class of the source, applied to its own formals, to the class of the
target, and this walk may have no end. That happens in one case only, `EndlessContext`, where the
gate passes because every class lies below `Object` and not because the walk can get there.

## Main definitions

* `Registry.EndlessContext`
* `Resolver.withBudget`, `Session.withBudget`

## Main results

* `Resolver.exists_context` — in all other cases there is a context
* `Resolver.answers_canBecome`, `Resolver.canBecome_of_endlessContext` — with and without one
* `Session.canBecome_decides_isAssignable` — both questions compared, and what follows for pools
-/

namespace Generics

/-- The same resolver with another budget. -/
def Resolver.withBudget (R : Resolver) (n : Nat) : Resolver := { R with budget := n }

/-- The same session with another budget. -/
def Session.withBudget (s : Session) (n : Nat) : Session := { s with budget := n }

/-! ### What the budget is spent on

Questions about supertypes, and nothing else. -/

section WithBudget

variable {R : Resolver}

@[simp] theorem Resolver.registry_withBudget (n : Nat) :
    (R.withBudget n).registry = R.registry := rfl

@[simp] theorem Resolver.gate_withBudget (n : Nat) : (R.withBudget n).gate = R.gate := rfl

@[simp] theorem Resolver.knownFormal_withBudget (n : Nat) :
    (R.withBudget n).knownFormal = R.knownFormal := rfl

@[simp] theorem Resolver.seenBounds_withBudget (n : Nat) :
    (R.withBudget n).seenBounds = R.seenBounds := rfl

@[simp] theorem Resolver.choose_withBudget (n : Nat) : (R.withBudget n).choose = R.choose := rfl

@[simp] theorem Resolver.chosenAfter_withBudget (n : Nat) :
    (R.withBudget n).chosenAfter = R.chosenAfter := by
  funext chosen formals results
  induction results generalizing chosen formals with
  | nil => rfl
  | cons r rs ih => rw [chosenAfter, chosenAfter, ih, choose_withBudget]

end WithBudget

namespace Registry

variable {reg : Registry}

/-- The target applies `Object` to arguments, and the walk to `Object` from the generic class of the
source, applied to its own formals, never ends. -/
def EndlessContext (reg : Registry) (source target : TypeExpr) : Prop :=
  ∃ c args owner, reg.erasure source = some (.plain c) ∧ target = .app reg.object args owner ∧
    reg.formals c ≠ [] ∧ reg.Endless reg.object (c, TypeExpr.vars (reg.formals c))

/-- Where the context never comes, the source is not assignable. -/
theorem EndlessContext.not_assignable (hN : reg.SupertypesNominal) {source target : TypeExpr}
    (h : reg.EndlessContext source target) (hs : source.isConcrete = true) (n : Nat) :
    reg.assignable? n source target ≠ some true := by
  obtain ⟨c, args, owner, hc, rfl, -, hend⟩ := h
  intro hassign
  have huse : ∃ brgs, source.use? = some (c, brgs) := by
    cases source with
    | raw d =>
      obtain rfl : d = c := by simpa using hc
      exact ⟨[], rfl⟩
    | app d brgs o =>
      obtain rfl : d = c := by simpa using hc
      exact ⟨brgs, rfl⟩
    | array elem =>
      rw [erasure_array] at hc
      obtain ⟨_, -, he⟩ := Option.map_eq_some_iff.1 hc
      cases he
    | wildcard us ls => cases hs
    | var v => cases hs
  obtain ⟨brgs, huse⟩ := huse
  exact not_endless_of_liesBelow (liesBelow_of_assignableFrom hN huse hassign) _ hend

end Registry

namespace Resolver

variable {R : Resolver}

/-! ### The context -/

/-- What the view of a class, applied to its own formals, binds them to. -/
def bindingsOfView (formals : List VarId) (args : List TypeExpr) : Option TypeExpr → Substitution
  | some (.app _ patterns _) =>
    Substitution.empty.bindAllIfAbsent (matchAllFormals formals patterns args)
  | _ => .empty

theorem determined_of_formals_ne_nil {reg : Registry} {c : ClassId} {u : Use} (n : Nat)
    (h : reg.formals c ≠ []) :
    reg.determined n c u =
      (Registry.answer (reg.classView n u.1 (c, TypeExpr.vars (reg.formals c)))).map
        (bindingsOfView (reg.formals c) u.2) := by
  obtain ⟨f, fs, hcons⟩ := List.exists_cons_of_ne_nil h
  have hview : reg.view n (.ofClass c (TypeExpr.vars (reg.formals c))) u.1 =
      Registry.answer (reg.classView n u.1 (c, TypeExpr.vars (reg.formals c))) := by
    rw [hcons]
    rfl
  rw [Registry.determined, if_neg (by simp [hcons]), hview]
  cases Registry.answer (reg.classView n u.1 (c, TypeExpr.vars (reg.formals c))) with
  | none => rfl
  | some r =>
    cases r with
    | none => rfl
    | some t => cases t <;> rfl

/-- The arguments that a supertype determines are found unless the walk to it is endless. -/
theorem exists_determined {reg : Registry} {c : ClassId} {u : Use}
    (h : reg.formals c ≠ [] → ¬ reg.Endless u.1 (c, TypeExpr.vars (reg.formals c))) :
    ∃ τ, Answers (fun n => reg.determined n c u) τ := by
  by_cases hformals : reg.formals c = []
  · exact ⟨.empty, 0, fun n _ => by simp [Registry.determined, hformals]⟩
  · obtain ⟨r, hr⟩ := Registry.exists_answers_of_not_endless (h hformals)
    simp only [determined_of_formals_ne_nil _ hformals]
    exact ⟨_, hr.map _⟩

/-- Below the gate there is a context, except in the one case. -/
theorem exists_context {s t : TypeExpr} (hgate : R.gate s t = true)
    (h : ¬ R.registry.EndlessContext s t) :
    ∃ σ, Answers (fun n => (R.withBudget n).context s t) σ := by
  have himplied : (∀ n, R.registry.context n s t = some (R.registry.impliedBindings t)) →
      ∃ σ, Answers (fun n => (R.withBudget n).context s t) σ :=
    fun hσ => ⟨_, 0, fun n _ => hσ n⟩
  cases t with
  | app c args owner =>
    cases hs : R.registry.erasure s with
    | none => exact himplied fun n => by simp only [Registry.context, hs]
    | some e =>
      cases e with
      | array e => exact himplied fun n => by simp only [Registry.context, hs]
      | plain d =>
        have hend : R.registry.formals d ≠ [] →
            ¬ R.registry.Endless c (d, TypeExpr.vars (R.registry.formals d)) := by
          intro hformals hendless
          obtain ⟨e, f, he, hf, hraw⟩ := gate_iff.1 hgate
          obtain rfl : .plain d = e := Option.some.inj (hs.symm.trans he)
          obtain rfl : .plain c = f := Option.some.inj hf
          -- either the class of the target is reached, or it is `Object` and the case is the one
          rcases Registry.isSubclass_iff.1 hraw with hbelow | ⟨rfl, -⟩
          · exact Registry.not_endless_of_liesBelow hbelow _ hendless
          · exact h ⟨d, args, owner, hs, rfl, hformals, hendless⟩
        obtain ⟨τ, hτ⟩ := exists_determined (u := (c, args)) hend
        refine ⟨_, (hτ.map (R.registry.impliedBindings (.app c args owner)).extend).congr ⟨0, ?_⟩⟩
        intro n _
        change R.registry.context n s (.app c args owner) = _
        simp only [Registry.context, hs]
  | _ => exact himplied fun n => rfl

/-! ### The question -/

/-- Where a context can be had and the gate lets through what is assignable, the question of use has
the answer that assignability has. -/
theorem answers_canBecome_of_gate {s t : TypeExpr} (hs : s.isConcrete = true) {b : Bool}
    (hb : Answers (fun n => (R.withBudget n).isAssignable s t) b)
    (hgate : b = true → R.gate s t = true) (h : ¬ R.registry.EndlessContext s t) :
    Answers (fun n => (R.withBudget n).canBecome s t) b := by
  have hstep : ∀ n, (R.withBudget n).canBecome s t =
      if R.gate s t then ((R.withBudget n).context s t).bind fun _ =>
        (R.withBudget n).isAssignable s t else some false :=
    fun n => canBecomeAt_succ_of_isConcrete hs _ t
  obtain ⟨N, hN⟩ := hb
  by_cases hpassed : R.gate s t = true
  · obtain ⟨σ, M, hM⟩ := exists_context hpassed h
    refine ⟨max N M, fun n hn => (hstep n).trans ?_⟩
    have hcontext : (R.withBudget n).context s t = some σ := hM n (by omega)
    rw [if_pos hpassed, hcontext, Option.bind_some]
    exact hN n (by omega)
  · have hfalse : b = false := Bool.eq_false_iff.2 fun hbt => hpassed (hgate hbt)
    exact ⟨N, fun n _ => (hstep n).trans (by rw [if_neg hpassed, hfalse])⟩

theorem answers_canBecome (hB : R.registry.Bounded) (hN : R.registry.SupertypesNominal)
    {s t : TypeExpr} (hs : s.isConcrete = true) (hd : R.registry.isRooted s = true) {b : Bool}
    (hb : Answers (fun n => (R.withBudget n).isAssignable s t) b)
    (h : ¬ R.registry.EndlessContext s t) :
    Answers (fun n => (R.withBudget n).canBecome s t) b := by
  refine answers_canBecome_of_gate hs hb (fun hbt => ?_) h
  subst hbt
  obtain ⟨k, hk⟩ : ∃ k, R.registry.assignable? k s t = some true := hb.exists_eq
  exact gate_of_assignableFrom hB hN hs hd hk

/-- What is assignable to a concrete type can be used as it. -/
theorem answers_canBecome_of_assignable (hN : R.registry.SupertypesNominal) {s t : TypeExpr}
    (hs : s.isConcrete = true) (ht : t.isConcrete = true)
    (hassign : Answers (fun n => (R.withBudget n).isAssignable s t) true) :
    Answers (fun n => (R.withBudget n).canBecome s t) true := by
  obtain ⟨k, hk⟩ : ∃ k, R.registry.assignable? k s t = some true := hassign.exists_eq
  have hgate : R.gate s t = true := gate_of_assignable_concrete hN hs ht hk
  exact answers_canBecome_of_gate hs hassign (fun _ => hgate) fun hend =>
    hend.not_assignable hN hs k hk

/-- Where no context can be had, the question of use has no answer. -/
theorem canBecome_of_endlessContext {s t : TypeExpr} (hd : R.registry.isRooted s = true)
    (hs : s.isConcrete = true) (h : R.registry.EndlessContext s t) (n : Nat) :
    (R.withBudget n).canBecome s t = none := by
  obtain ⟨c, args, owner, hc, rfl, hformals, hend⟩ := h
  have hgate : R.gate s (.app R.registry.object args owner) = true := by
    obtain ⟨e, he, hroot⟩ := R.registry.exists_erasure_of_isConcrete hs
    exact gate_iff.2 ⟨e, _, he, rfl,
      Registry.isRawAssignable_object (Registry.isDefined_root hd hroot)⟩
  have hcontext : (R.withBudget n).context s (.app R.registry.object args owner) = none := by
    change R.registry.context n s _ = none
    simp only [Registry.context, hc, determined_of_formals_ne_nil n hformals, hend n,
      Registry.answer, Option.map_none]
  change (R.withBudget n).canBecomeAt (R.maxDepth + 1) s _ = none
  rw [canBecomeAt_succ_of_isConcrete hs, hcontext]
  exact if_pos hgate

end Resolver

namespace Session

variable {S : Session}

/-- **Concrete sources: the question of use is the question of assignability,** wherever that one is
answered, and for pools as well as for single types. The one exception is an endless context: there
the source is not assignable, and the question of use is never answered. -/
theorem canBecome_decides_isAssignable (hB : S.registry.Bounded)
    (hN : S.registry.SupertypesNominal) :
    (∀ s t b, s.isConcrete = true → S.registry.isRooted s = true →
      Answers (fun n => (S.withBudget n).resolver.isAssignable s t) b →
      (¬ S.registry.EndlessContext s t →
        Answers (fun n => (S.withBudget n).resolver.canBecome s t) b) ∧
      (S.registry.EndlessContext s t →
        b = false ∧ ∀ n, (S.withBudget n).resolver.canBecome s t = none)) ∧
    ∀ slot fits, (∀ e ∈ S.pool.entries, e.isConcrete = true ∧ S.registry.isRooted e = true ∧
        Answers (fun n => (S.withBudget n).resolver.isAssignable e slot) (fits e)) →
      ((∀ e ∈ S.pool.entries, ¬ S.registry.EndlessContext e slot) →
        Answers (fun n => (S.withBudget n).candidatesFor slot) (S.pool.entries.filter fits)) ∧
      ((∃ e ∈ S.pool.entries, S.registry.EndlessContext e slot) →
        ∀ n, (S.withBudget n).candidatesFor slot = none) := by
  have hanswers : ∀ {s t b}, s.isConcrete = true → S.registry.isRooted s = true →
      Answers (fun n => (S.withBudget n).resolver.isAssignable s t) b →
      ¬ S.registry.EndlessContext s t →
      Answers (fun n => (S.withBudget n).resolver.canBecome s t) b :=
    fun hs hd hb h => Resolver.answers_canBecome (R := S.resolver) hB hN hs hd hb h
  have hnone : ∀ {s t}, s.isConcrete = true → S.registry.isRooted s = true →
      S.registry.EndlessContext s t →
      ∀ n, (S.withBudget n).resolver.canBecome s t = none :=
    fun hs hd h n => Resolver.canBecome_of_endlessContext (R := S.resolver) hd hs h n
  refine ⟨fun s t b hs hd hb => ⟨hanswers hs hd hb, fun h => ⟨?_, hnone hs hd h⟩⟩,
    fun slot fits hpool => ⟨fun h => ?_, ?_⟩⟩
  · obtain ⟨N, hN'⟩ := hb
    refine Bool.eq_false_iff.2 fun hbt => ?_
    subst hbt
    exact h.not_assignable hN hs N (hN' N (Nat.le_refl N))
  · exact Answers.filterM fun e he =>
      hanswers (hpool e he).1 (hpool e he).2.1 (hpool e he).2.2 (h e he)
  · rintro ⟨e, he, hend⟩ n
    cases hc : (S.withBudget n).candidatesFor slot with
    | none => rfl
    | some ts =>
      exact absurd (hnone (hpool e he).1 (hpool e he).2.1 hend n)
        ((filterM_eq_some_iff.1 hc).1 e he)

end Session

/-! ### A class that is passed on to itself

`Spiral<T>` extends `Spiral<Box<T>>`, perhaps several times over, so the walk from `Spiral<T>` meets
`Spiral<Box<T>>`, `Spiral<Box<Box<T>>>` and so on. The raw `Spiral` has nothing but itself above it,
and a question about it is soon answered. -/

namespace Registry

/-- What lies above `Spiral<T>`. -/
def aboveSpiral : TypeExpr := .app ⟨1⟩ [.app ⟨2⟩ [.var ⟨0⟩] none] none

/-- The class, with the given number of repeated supertypes. -/
def spiralDef (copies : Nat) : ClassDef :=
  { name := "Spiral", typeParams := [⟨0⟩], superclass := some aboveSpiral,
    interfaces := List.replicate copies aboveSpiral }

/-- The registry of `Object`, `Spiral` and a `Box` that is only mentioned. -/
def spiral (copies : Nat) : Registry :=
  (((initial.intern "Spiral").2.intern "Box").2.addTypeParam "T" (.ofClass ⟨1⟩) []).2.define ⟨1⟩
    (spiralDef copies)

variable (copies : Nat)

theorem built_spiral : (spiral copies).Built :=
  .define _ _ (.addTypeParam _ _ _ (.intern _ (.intern _ .initial)))

theorem class?_spiral : (spiral copies).class? ⟨1⟩ = some (spiralDef copies) := by
  rw [spiral, class?_define, if_pos rfl]

theorem mem_declaredSupertypes_spiralDef {t : TypeExpr}
    (h : t ∈ (spiralDef copies).declaredSupertypes) : t = aboveSpiral := by
  rcases List.mem_cons.1 h with h | h
  · exact h
  · exact List.eq_of_mem_replicate h

theorem supertypes_spiral :
    (spiral copies).supertypes ⟨1⟩ = aboveSpiral :: List.replicate copies aboveSpiral := by
  rw [supertypes, class?_spiral]
  rfl

theorem mem_supertypes_spiral {t : TypeExpr} (h : t ∈ (spiral copies).supertypes ⟨1⟩) :
    t = aboveSpiral := by
  rw [supertypes_spiral] at h
  rcases List.mem_cons.1 h with h | h
  · exact h
  · exact List.eq_of_mem_replicate h

theorem formals_spiral : (spiral copies).formals ⟨1⟩ = [⟨0⟩] := by
  rw [formals_of_class? (class?_spiral copies)]
  rfl

theorem supertypesNominal_spiral : (spiral copies).SupertypesNominal := by
  intro c d hd t ht
  rw [spiral, class?_define] at hd
  split at hd
  · obtain rfl := Option.some.inj hd
    rw [mem_declaredSupertypes_spiralDef copies ht]
    rfl
  · rw [class?_addTypeParam, class?_intern, class?_intern] at hd
    have hobject : c = ⟨0⟩ := ClassId.idx_injective (by
      have hlt : c.idx < 1 := lt_size_of_class? hd
      change c.idx = 0
      omega)
    subst hobject
    obtain rfl : { name := objectName } = d := Option.some.inj hd
    cases ht

/-- The parameter in so many boxes. -/
def boxed : Nat → TypeExpr
  | 0 => .var ⟨0⟩
  | n + 1 => .app ⟨2⟩ [boxed n] none

theorem boxed_injective (i j : Nat) (h : boxed i = boxed j) : i = j := by
  induction i generalizing j with
  | zero =>
    cases j with
    | zero => rfl
    | succ j => cases h
  | succ i ih =>
    cases j with
    | zero => cases h
    | succ j =>
      rw [boxed, boxed, TypeExpr.app.injEq, List.cons.injEq] at h
      exact congrArg (· + 1) (ih j h.2.1.1)

/-- Each step of the walk puts the argument into one more box. -/
theorem superUses_spiral (a : TypeExpr) :
    (spiral copies).superUses (⟨1⟩, [a]) ≠ [] ∧
      ∀ u ∈ (spiral copies).superUses (⟨1⟩, [a]), u = (⟨1⟩, [.app ⟨2⟩ [a] none]) := by
  have hnext : (aboveSpiral.substitute (.ofFormals ((spiral copies).formals ⟨1⟩) [a])).use? =
      some (⟨1⟩, [.app ⟨2⟩ [a] none]) := by
    rw [formals_spiral, aboveSpiral, TypeExpr.substitute_app, List.map_singleton,
      TypeExpr.substitute_app]
    rfl
  constructor
  · have hmem : aboveSpiral ∈ (spiral copies).supertypes ⟨1⟩ := by
      rw [supertypes_spiral]
      exact List.mem_cons_self
    exact List.ne_nil_of_mem (mem_superUses_iff.2 ⟨aboveSpiral, hmem, hnext⟩)
  · intro u hu
    obtain ⟨t, ht, ⟨⟨hnil, -⟩, -⟩ | ⟨-, hw⟩⟩ := superUses_cases hu
    · cases hnil
    · rw [mem_supertypes_spiral copies ht] at hw
      exact Option.some.inj (hw.symm.trans hnext)

/-- So the walk to `Object` never ends. -/
theorem endless_spiral : (spiral copies).Endless ⟨0⟩ (⟨1⟩, [.var ⟨0⟩]) := by
  intro rounds
  exact Search.find_of_path (f := fun i => ((⟨1⟩, [boxed i]) : Use))
    (p := fun u => u.1 == (⟨0⟩ : ClassId))
    (fun i j h => boxed_injective i j (List.cons.inj (Prod.mk.inj h).2).1)
    (fun i => superUses_spiral copies (boxed i)) (fun _ => rfl) rounds

theorem endlessContext_spiral :
    (spiral copies).EndlessContext (.raw ⟨1⟩) (.app ⟨0⟩ [.raw ⟨0⟩] none) := by
  refine ⟨⟨1⟩, [.raw ⟨0⟩], none, rfl, rfl, by rw [formals_spiral]; exact List.cons_ne_nil _ _, ?_⟩
  rw [formals_spiral]
  exact endless_spiral copies

/-- The raw class is no use of `Object`, and that is found out in three steps. -/
theorem assignable?_spiral :
    (spiral copies).assignable? 3 (.raw ⟨1⟩) (.app ⟨0⟩ [.raw ⟨0⟩] none) = some false := by
  have hself : ∀ u ∈ (spiral copies).superUses (⟨1⟩, []), u = (⟨1⟩, []) := by
    intro u hu
    obtain ⟨t, ht, ⟨-, hc, hnil⟩ | ⟨hplain, -⟩⟩ := superUses_cases hu
    · rw [mem_supertypes_spiral copies ht] at hc
      exact Prod.ext (Option.some.inj hc).symm hnil
    · exact absurd ⟨rfl, by rw [formals_spiral]; exact List.cons_ne_nil _ _⟩ hplain
  have hclass : (spiral copies).classView 2 ⟨0⟩ (⟨1⟩, []) = .absent :=
    Search.find_of_loop hself rfl
  have hview : (spiral copies).view 2 (.raw ⟨1⟩) ⟨0⟩ = some none := by
    rw [view_raw, hclass]
    rfl
  unfold assignable? assignableFrom assignableStep
  simp only [hview]
  rfl

end Registry

namespace Session

/-- A session over the class that is passed on to itself, with the raw class in the pool. -/
def spiral : Session :=
  { registry := Registry.spiral 500, pool := Pool.ofList [.raw ⟨1⟩] }

theorem answers_isAssignable_spiral :
    Answers (fun n => (spiral.withBudget n).resolver.isAssignable (.raw ⟨1⟩)
      (.app ⟨0⟩ [.raw ⟨0⟩] none)) false :=
  Registry.answers_assignable? (Registry.assignable?_spiral 500)

/-- For the raw class and `Object` with an argument assignability is denied, while the question of
use and with it the question for candidates are never answered. -/
theorem candidatesFor_spiral_unanswered :
    spiral.registry.Built ∧ spiral.registry.SupertypesNominal ∧
      TypeExpr.isConcrete (.raw ⟨1⟩) = true ∧ spiral.registry.isRooted (.raw ⟨1⟩) = true ∧
      spiral.pool.entries = [.raw ⟨1⟩] ∧
      Answers (fun n => (spiral.withBudget n).resolver.isAssignable (.raw ⟨1⟩)
        (.app ⟨0⟩ [.raw ⟨0⟩] none)) false ∧
      (∀ n, (spiral.withBudget n).resolver.canBecome (.raw ⟨1⟩) (.app ⟨0⟩ [.raw ⟨0⟩] none) = none) ∧
      ∀ n, (spiral.withBudget n).candidatesFor (.app ⟨0⟩ [.raw ⟨0⟩] none) = none := by
  have hnone : ∀ n, (spiral.withBudget n).resolver.canBecome (.raw ⟨1⟩)
      (.app ⟨0⟩ [.raw ⟨0⟩] none) = none :=
    fun n => Resolver.canBecome_of_endlessContext (R := spiral.resolver) rfl rfl
      (Registry.endlessContext_spiral 500) n
  refine ⟨Registry.built_spiral 500, Registry.supertypesNominal_spiral 500, rfl, rfl, rfl,
    answers_isAssignable_spiral, hnone, fun n => ?_⟩
  change List.filterM _ [TypeExpr.raw ⟨1⟩] = none
  simp only [List.filterM, List.filterAuxM, hnone n]
  rfl

/-- The raw class is a candidate for itself, and none is ever named for `Object` with an argument.
-/
theorem candidatesFor_spiral :
    Answers (fun n => (spiral.withBudget n).resolver.canBecome (.raw ⟨1⟩) (.raw ⟨1⟩)) true ∧
      Answers (fun n => (spiral.withBudget n).candidatesFor (.raw ⟨1⟩)) [.raw ⟨1⟩] ∧
      ∀ n, (spiral.withBudget n).candidatesFor (.app ⟨0⟩ [.raw ⟨0⟩] none) = none := by
  have h := canBecome_decides_isAssignable (S := spiral) (Registry.built_spiral 500).bounded
    (Registry.supertypesNominal_spiral 500)
  have hself : Answers (fun n => (spiral.withBudget n).resolver.isAssignable (.raw ⟨1⟩)
      (.raw ⟨1⟩)) true :=
    Registry.answers_assignable? (Registry.assignable?_self _ 0 _)
  have hother : ¬ spiral.registry.EndlessContext (.raw ⟨1⟩) (.raw ⟨1⟩) := by
    rintro ⟨_, _, _, -, he, -⟩
    cases he
  refine ⟨(h.1 _ _ true rfl rfl hself).1 hother, (h.2 (.raw ⟨1⟩) (fun _ => true) ?_).1 ?_,
    (h.2 (.app ⟨0⟩ [.raw ⟨0⟩] none) (fun _ => false) ?_).2 ?_⟩
  · intro e he
    rw [List.mem_singleton.1 he]
    exact ⟨rfl, rfl, hself⟩
  · intro e he
    rw [List.mem_singleton.1 he]
    exact hother
  · intro e he
    rw [List.mem_singleton.1 he]
    exact ⟨rfl, rfl, answers_isAssignable_spiral⟩
  · exact ⟨_, List.mem_singleton.2 rfl, Registry.endlessContext_spiral 500⟩

end Session

end Generics
