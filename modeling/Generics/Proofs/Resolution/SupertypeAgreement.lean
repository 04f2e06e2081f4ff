import Generics.Proofs.Assignability.Transitivity
import Generics.Proofs.Inference.RecoveredArguments
import Generics.Proofs.Resolution.MoreBudget

/-!
# Agreement with a supertype

A type that is given the arguments of a supertype is meant to agree with it, that is, to be
assignable to it: `ArrayList` and `List<String>` give `ArrayList<String>`. Which arguments there are
to choose is up to the view of the class over its own formals, as the class of the supertype. The
formals that are exposed there are determined, each by what matching finds for it first; all others
keep the arguments they have. Nothing is compared afterwards. So the result need not agree: a class
may pass one formal on twice where the supertype has two arguments, or pass on a fixed type. And a
class without formals is given back as it is, without a look at the supertype.

What matching finds is right as far as anything is. If some choice for the determined arguments
agrees with the supertype, the result does, and it is this choice.

## Main definitions

* `Registry.Determines`, `Registry.VariesAsDetermined` — the arguments that are up to the supertype
* `Registry.twins` — with a class that passes one formal on twice

## Main results

* `Registry.answers_assignable_iff_own` — assignability read off the view over the own formals
* `Resolver.completedArgs_eq` — if anything agrees, it is the completed arguments
* `Resolver.agrees_iff_instance` — for views that show all their formals
* `Resolver.reparameterize_refused_iff`, `Resolver.eq_or_completed_of_reparameterize` — what is
  refused, and what a result is
* `Resolver.reparameterize_agrees_iff` — when the result agrees
* `Resolver.reparameterize_disagrees_twin` — results that do not agree
-/

namespace Generics

namespace Registry

variable {reg : Registry} {c g : ClassId} {args targs : List TypeExpr} {owner : Option TypeExpr}

/-! ### Assignability and the view over the own formals -/

/-- A use of a class is assignable to a concrete application if its view has its arguments or none.
-/
theorem answers_assignable_app_iff {s : TypeExpr} {u : Use} (hs : s.use? = some u)
    (ht : (TypeExpr.app g targs owner).isConcrete = true) :
    Answers (fun n => reg.assignable? n s (.app g targs owner)) true ↔
      ∃ n v, reg.classView n g u = .found v ∧ (v.2 = [] ∨ v.2 = targs) := by
  rw [answers_assignable_iff hs (w := (g, targs)) rfl ht]
  constructor
  · rintro (rfl | ⟨n, v, hv, hraw | hargs⟩)
    · obtain rfl := Option.some.inj hs
      exact ⟨1, _, classView_self 0 g targs, .inr rfl⟩
    · cases hraw
    · exact ⟨n, v, hv, hargs⟩
  · rintro ⟨n, v, hv, hargs⟩
    exact .inr ⟨n, v, hv, .inr hargs⟩

/-- **Assignability is a matter of the view over the own formals.** An application is assignable to
a concrete supertype exactly if this view has no arguments, or those of the supertype once the
arguments are put in. -/
theorem answers_assignable_iff_own (h : reg.SupertypesFit) (hdistinct : (reg.formals c).Nodup)
    (hlen : (reg.formals c).length = args.length) {rounds : Nat} {patterns : List TypeExpr}
    (hown : reg.classView rounds g (c, TypeExpr.vars (reg.formals c)) = .found (g, patterns))
    {s : TypeExpr} (hs : s.use? = some (c, args))
    (ht : (TypeExpr.app g targs owner).isConcrete = true) :
    Answers (fun n => reg.assignable? n s (.app g targs owner)) true ↔
      patterns = [] ∨
        patterns.map (TypeExpr.substitute (.ofFormals (reg.formals c) args)) = targs := by
  obtain ⟨n, hn⟩ := exists_classView_of_own h hdistinct hlen hown
  rw [answers_assignable_app_iff hs ht]
  constructor
  · rintro ⟨m, v, hv, hargs⟩
    obtain rfl := classView_unique hn hv
    exact hargs.imp_left List.map_eq_nil_iff.1
  · intro hargs
    exact ⟨n, _, hn, hargs.imp_left List.map_eq_nil_iff.2⟩

/-! ### What is up to the supertype -/

/-- A formal of the class `c` is bound if the class is to have the view `u`. -/
def Determines (reg : Registry) (c : ClassId) (u : Use) (f : VarId) : Prop :=
  ∃ τ, Answers (fun n => reg.determined n c u) τ ∧ τ.get? f ≠ none

/-- The type `s` is `r`, but for arguments whose formals are bound if the class is to have the view
`u`. -/
def VariesAsDetermined (reg : Registry) (u : Use) (r s : TypeExpr) : Prop :=
  ∃ c args args', r.use? = some (c, args) ∧ s.use? = some (c, args') ∧
    args'.length = args.length ∧
    ∀ i : Nat, (∀ f, (reg.formals c)[i]? = some f → ¬ reg.Determines c u f) → args'[i]? = args[i]?

theorem variesAsDetermined_self {r : TypeExpr} {v : Use} (hr : r.use? = some v) (u : Use) :
    reg.VariesAsDetermined u r r :=
  ⟨v.1, v.2, v.2, hr, hr, rfl, fun _ _ => rfl⟩

/-- A class without formals leaves nothing to choose. -/
theorem use?_eq_of_variesAsDetermined {r s : TypeExpr} {v : Use} (hr : r.use? = some v)
    (hformals : reg.formals v.1 = []) {u : Use} (h : reg.VariesAsDetermined u r s) :
    s.use? = some v := by
  obtain ⟨c, args, args', hr', hs, -, hkeep⟩ := h
  obtain rfl := Option.some.inj (hr.symm.trans hr')
  have hargs : args' = args := by
    refine List.ext_getElem? fun i => hkeep i fun f hf => ?_
    rw [hformals] at hf
    cases hf
  rw [hs, hargs]

end Registry

namespace Resolver

variable {R : Resolver} {c g : ClassId} {args targs : List TypeExpr} {owner : Option TypeExpr}

/-- **What matching finds is the only choice.** If the view over the own formals, with some
arguments put in, has the arguments of the supertype, then those are the completed arguments, as far
as these are determined. -/
theorem completedArgs_eq {formals : List VarId} (hdistinct : formals.Nodup)
    (hlen : formals.length = args.length) {patterns current : List TypeExpr}
    (htargs : patterns.map (TypeExpr.substitute (.ofFormals formals args)) = targs)
    (hkeep : ∀ (i : Nat) f, formals[i]? = some f →
      (bindingsOfView formals targs (some (.app g patterns none))).get? f = none →
      args[i]? = (completedArgs (bindingsOfView formals targs (some (.app g patterns none))) formals
        current)[i]?) :
    completedArgs (bindingsOfView formals targs (some (.app g patterns none))) formals current =
      args := by
  refine List.ext_getElem? fun i => ?_
  cases hf : formals[i]? with
  | none =>
    rw [getElem?_completedArgs, hf, Option.map_none, eq_comm, List.getElem?_eq_none_iff, ← hlen]
    exact List.getElem?_eq_none_iff.1 hf
  | some f =>
    have hi : i < args.length := hlen ▸ (List.getElem?_eq_some_iff.1 hf).1
    have ha : args[i]? = some args[i] := List.getElem?_eq_getElem hi
    have hbound := (Registry.get?_bindingsOfView g hdistinct htargs).1 i f _ hf ha
    by_cases hexposed : f ∈ (TypeExpr.app g patterns none).exposed
    · rw [if_pos hexposed] at hbound
      rw [getElem?_completedArgs, hf, Option.map_some, hbound, Option.getD_some, ha]
    · rw [if_neg hexposed] at hbound
      exact (hkeep i f hf hbound).symm

/-- If a type agrees that differs only in determined arguments, so do the completed arguments. -/
theorem agrees_of_variesAsDetermined (h : R.registry.SupertypesFit)
    (hne : R.registry.formals c ≠ []) (hdistinct : (R.registry.formals c).Nodup) {τ : Substitution}
    (hτ : Answers (fun n => R.registry.determined n c (g, targs)) τ) {current : List TypeExpr}
    {r s : TypeExpr} (hr : r.use? = some (c, completedArgs τ (R.registry.formals c) current))
    (ht : (TypeExpr.app g targs owner).isConcrete = true)
    (hvaries : R.registry.VariesAsDetermined (g, targs) r s)
    (hagrees : Answers (fun n => R.registry.assignable? n s (.app g targs owner)) true) :
    Answers (fun n => R.registry.assignable? n r (.app g targs owner)) true := by
  obtain ⟨c', args', args, hr', hs, hlen, hkeep⟩ := hvaries
  obtain ⟨rfl, rfl⟩ := Prod.mk.inj (Option.some.inj (hr.symm.trans hr'))
  rw [length_completedArgs] at hlen
  obtain ⟨n, v, hv, -⟩ := (Registry.answers_assignable_app_iff hs ht).1 hagrees
  obtain ⟨hbelow, -⟩ := Registry.liesBelow_of_classView h.nominal hv
  obtain ⟨rounds, patterns, hown⟩ :=
    Registry.exists_args_of_liesBelow hbelow (TypeExpr.vars (R.registry.formals c))
  rw [Registry.answers_assignable_iff_own h hdistinct (length_completedArgs ..).symm hown hr ht]
  rw [Registry.answers_assignable_iff_own h hdistinct hlen.symm hown hs ht] at hagrees
  refine hagrees.imp_right fun htargs => ?_
  by_cases hpatterns : patterns = []
  · rw [← htargs, hpatterns]
    rfl
  have hdetermined : Answers (fun n => R.registry.determined n c (g, targs))
      (bindingsOfView (R.registry.formals c) targs (some (.app g patterns none))) :=
    Registry.answers_determined hne hown hpatterns targs
  obtain rfl := hτ.unique hdetermined
  -- what is not bound is not determined, so there the two types have the same arguments
  have hundetermined : ∀ (i : Nat) f, (R.registry.formals c)[i]? = some f →
      (bindingsOfView (R.registry.formals c) targs (some (.app g patterns none))).get? f = none →
      args[i]? = (completedArgs (bindingsOfView (R.registry.formals c) targs
        (some (.app g patterns none))) (R.registry.formals c) current)[i]? := by
    intro i f hf hnone
    refine hkeep i fun f' hf' hdetermines => ?_
    obtain ⟨τ, hτ', hbound⟩ := hdetermines
    obtain rfl := Option.some.inj (hf.symm.trans hf')
    exact hbound (hτ'.unique hτ ▸ hnone)
  rw [completedArgs_eq hdistinct hlen.symm htargs hundetermined]
  exact htargs

/-- **Instances of the view.** Where the view over the own formals shows all formals that it speaks
of, the completed arguments agree with exactly those supertypes that are instances of this view. -/
theorem agrees_iff_instance (h : R.registry.SupertypesFit) (hne : R.registry.formals c ≠ [])
    (hdistinct : (R.registry.formals c).Nodup) {rounds : Nat} {patterns : List TypeExpr}
    (hown : R.registry.classView rounds g (c, TypeExpr.vars (R.registry.formals c)) =
      .found (g, patterns)) (hpatterns : patterns ≠ [])
    (hshown : ∀ p ∈ patterns, ∀ v ∈ p.occurrences,
      v ∈ R.registry.formals c ∧ ∃ q ∈ patterns, v ∈ q.exposed)
    {τ : Substitution} (hτ : Answers (fun n => R.registry.determined n c (g, targs)) τ)
    {current : List TypeExpr} {r : TypeExpr}
    (hr : r.use? = some (c, completedArgs τ (R.registry.formals c) current))
    (ht : (TypeExpr.app g targs owner).isConcrete = true) :
    Answers (fun n => R.registry.assignable? n r (.app g targs owner)) true ↔
      ∃ σ, patterns.map (TypeExpr.substitute σ) = targs := by
  rw [Registry.answers_assignable_iff_own h hdistinct (length_completedArgs ..).symm hown hr ht,
    or_iff_right hpatterns]
  refine ⟨fun htargs => ⟨_, htargs⟩, ?_⟩
  rintro ⟨σ, rfl⟩
  obtain rfl := hτ.unique (Registry.answers_determined hne hown hpatterns _)
  refine List.map_congr_left fun p hp => ?_
  refine (congrArg _ (TypeExpr.substitute_empty p).symm).trans
    (TypeExpr.substitute_substitute fun v hv => ?_)
  -- every variable of the view is a formal, and bound to what the instance has for it
  obtain ⟨hformal, hexposed⟩ := hshown p hp v hv
  obtain ⟨i, hi⟩ := List.mem_iff_getElem?.1 hformal
  rw [TypeExpr.substitute_empty]
  refine TypeExpr.substitute_var_of_get? (Substitution.get?_ofFormals_of_nodup hdistinct hi ?_)
  rw [getElem?_completedArgs, hi, Option.map_some,
    get?_matchAllFormals_substitute hformal hexposed, Option.getD_some]

/-! ### When the result agrees -/

theorem reparameterize_of_use? {source : TypeExpr} {u : Use} (hs : source.use? = some u)
    (superType : TypeExpr) :
    R.reparameterize source superType = R.reparameterizeUse source u.1 superType := by
  cases source with
  | raw c => exact Option.some.inj hs ▸ rfl
  | app c args owner => exact Option.some.inj hs ▸ rfl
  | _ => cases hs

section Results

variable {source : TypeExpr} {u : Use} (hs : source.use? = some u) {d : ClassDef}
  (hd : R.registry.class? u.1 = some d)

include hs hd

/-- What becomes of a use of a defined class, given a concrete supertype with arguments. -/
theorem run_reparameterize (n : Nat) :
    ((R.withBudget n).reparameterize source (.app g targs owner)).run =
      if d.isGeneric then
        if R.registry.isSubclass u.1 g then
          (R.registry.determined n u.1 (g, targs)).map fun τ =>
            .ok (.app u.1 (completedArgs τ d.typeParams source.args) source.owner?)
        else some (.error (.failed ⟨source, .notASupertype⟩))
      else some (.ok source) := by
  rw [reparameterize_of_use? hs]
  exact run_reparameterizeUse hd n source targs owner

/-- The answer with some budget is the answer. -/
theorem answers_reparameterize {n : Nat} {r : Except Refusal TypeExpr}
    (h : ((R.withBudget n).reparameterize source (.app g targs owner)).run = some r) :
    Answers (fun n => ((R.withBudget n).reparameterize source (.app g targs owner)).run) r := by
  refine Comparison.answers_of_refines h fun n => ?_
  simp only [run_reparameterize hs hd]
  split
  · split
    · exact Comparison.refines.map _ (Registry.determined_refines n u.1 (g, targs))
    · exact Comparison.refines.refl _
  · exact Comparison.refines.refl _

/-- **What is refused:** a generic class that is no subclass of the class of the supertype. -/
theorem reparameterize_refused_iff :
    Answers (fun n => ((R.withBudget n).reparameterize source (.app g targs owner)).run)
        (.error (.failed ⟨source, .notASupertype⟩)) ↔
      d.isGeneric = true ∧ R.registry.isSubclass u.1 g = false := by
  constructor
  · intro h
    obtain ⟨n, hn⟩ := h.exists_eq
    rw [run_reparameterize hs hd] at hn
    split at hn
    · rename_i hgeneric
      split at hn
      · obtain ⟨τ, -, hτ⟩ := Option.map_eq_some_iff.1 hn
        cases hτ
      · rename_i hsub
        exact ⟨hgeneric, Bool.eq_false_iff.2 hsub⟩
    · cases hn
  · rintro ⟨hgeneric, hsub⟩
    refine answers_reparameterize hs hd (n := 0) ?_
    rw [run_reparameterize hs hd, if_pos hgeneric, if_neg (Bool.eq_false_iff.1 hsub)]

/-- **What a result is:** the source itself, of a class without formals, or a class with the
completed arguments. -/
theorem eq_or_completed_of_reparameterize {r : TypeExpr}
    (h : Answers (fun n => ((R.withBudget n).reparameterize source (.app g targs owner)).run)
      (.ok r)) :
    (d.typeParams = [] ∧ r = source) ∨
      d.typeParams ≠ [] ∧ ∃ τ, Answers (fun n => R.registry.determined n u.1 (g, targs)) τ ∧
        r = .app u.1 (completedArgs τ d.typeParams source.args) source.owner? := by
  obtain ⟨n, hn⟩ := h.exists_eq
  rw [run_reparameterize hs hd] at hn
  split at hn
  · rename_i hgeneric
    refine .inr ⟨by simpa [ClassDef.isGeneric] using hgeneric, ?_⟩
    split at hn
    · obtain ⟨τ, hτ, hok⟩ := Option.map_eq_some_iff.1 hn
      exact ⟨τ, Comparison.answers_of_refines (n := n) hτ fun n =>
        Registry.determined_refines n u.1 (g, targs), (Except.ok.inj hok).symm⟩
    · cases hn
  · rename_i hplain
    exact .inl ⟨by simpa [ClassDef.isGeneric] using hplain,
      (Except.ok.inj (Option.some.inj hn)).symm⟩

end Results

/-- **When the result agrees with the supertype.** What is refused is a generic class that is no
subclass of the class of the supertype, and nothing else. A result is assignable to the supertype
exactly if some type is that has the same arguments except where the supertype determines them. -/
theorem reparameterize_agrees_iff (R : Resolver) {source : TypeExpr} {u : Use}
    (hs : source.use? = some u) {d : ClassDef} (hd : R.registry.class? u.1 = some d)
    (ht : (TypeExpr.app g targs owner).isConcrete = true) :
    (Answers (fun n => ((R.withBudget n).reparameterize source (.app g targs owner)).run)
        (.error (.failed ⟨source, .notASupertype⟩)) ↔
      d.isGeneric = true ∧ R.registry.isSubclass u.1 g = false) ∧
    (R.registry.SupertypesFit → d.typeParams.Nodup → ∀ r,
      Answers (fun n => ((R.withBudget n).reparameterize source (.app g targs owner)).run) (.ok r) →
        (Answers (fun n => R.registry.assignable? n r (.app g targs owner)) true ↔
          ∃ s, R.registry.VariesAsDetermined (g, targs) r s ∧
            Answers (fun n => R.registry.assignable? n s (.app g targs owner)) true)) := by
  refine ⟨reparameterize_refused_iff hs hd, fun hfit hdistinct r hr => ?_⟩
  have hformals : R.registry.formals u.1 = d.typeParams := Registry.formals_of_class? hd
  rcases eq_or_completed_of_reparameterize hs hd hr with ⟨hnil, rfl⟩ | ⟨hne, τ, hτ, rfl⟩
  · refine ⟨fun h => ⟨_, Registry.variesAsDetermined_self hs _, h⟩, ?_⟩
    rintro ⟨s, hvaries, hagrees⟩
    have hsame := Registry.use?_eq_of_variesAsDetermined hs (hformals.trans hnil) hvaries
    rw [Registry.answers_assignable_app_iff hsame ht] at hagrees
    exact (Registry.answers_assignable_app_iff hs ht).2 hagrees
  · rw [← hformals] at hdistinct hne ⊢
    refine ⟨fun h => ⟨_, Registry.variesAsDetermined_self rfl _, h⟩, ?_⟩
    rintro ⟨s, hvaries, hagrees⟩
    exact agrees_of_variesAsDetermined hfit hne hdistinct hτ rfl ht hvaries hagrees

end Resolver

/-! ### Twins -/

/-- The classes `String`, `Integer`, `List<E>`, `Map<K, V>`, `HashMap<A, B>` below `Map<A, B>` and
`Twin<T>` below `Map<T, T>`. -/
def Registry.twins : Registry where
  classes := #[some { name := objectName },
    some (classDef "String" [] (.raw ⟨0⟩) []),
    some (classDef "Integer" [] (.raw ⟨0⟩) []),
    some (interfaceDef "List" [⟨0⟩] []),
    some (interfaceDef "Map" [⟨1⟩, ⟨2⟩] []),
    some (classDef "HashMap" [⟨3⟩, ⟨4⟩] (.raw ⟨0⟩) [.ofClass ⟨4⟩ [.var ⟨3⟩, .var ⟨4⟩]]),
    some (classDef "Twin" [⟨5⟩] (.raw ⟨0⟩) [.ofClass ⟨4⟩ [.var ⟨5⟩, .var ⟨5⟩]])]
  params := #[⟨"E", .ofClass ⟨3⟩, [.raw ⟨0⟩]⟩, ⟨"K", .ofClass ⟨4⟩, [.raw ⟨0⟩]⟩,
    ⟨"V", .ofClass ⟨4⟩, [.raw ⟨0⟩]⟩, ⟨"A", .ofClass ⟨5⟩, [.raw ⟨0⟩]⟩,
    ⟨"B", .ofClass ⟨5⟩, [.raw ⟨0⟩]⟩, ⟨"T", .ofClass ⟨6⟩, [.raw ⟨0⟩]⟩]
  names := [("Twin", ⟨6⟩), ("HashMap", ⟨5⟩), ("Map", ⟨4⟩), ("List", ⟨3⟩), ("Integer", ⟨2⟩),
    ("String", ⟨1⟩), (objectName, ⟨0⟩)]
  object := ⟨0⟩

namespace Resolver

/-- From `Map<String, Integer>`, `HashMap` gets arguments with which it is such a map. From
`List<Integer>` it gets none: it is refused. -/
theorem reparameterize_agrees_iff_hashMap :
    let R : Resolver := { registry := Registry.twins }
    let map : TypeExpr := .app ⟨4⟩ [.raw ⟨1⟩, .raw ⟨2⟩] none
    let list : TypeExpr := .app ⟨3⟩ [.raw ⟨2⟩] none
    let hashMap : TypeExpr := .app ⟨5⟩ [.raw ⟨1⟩, .raw ⟨2⟩] none
    (map.isConcrete = true ∧ R.registry.SupertypesFit ∧ (R.registry.formals ⟨5⟩).Nodup) ∧
    Answers (fun n => ((R.withBudget n).reparameterize (.raw ⟨5⟩) map).run) (.ok hashMap) ∧
    Answers (fun n => R.registry.assignable? n hashMap map) true ∧
    Answers (fun n => ((R.withBudget n).reparameterize (.raw ⟨5⟩) list).run)
      (.error (.failed ⟨.raw ⟨5⟩, .notASupertype⟩)) := by
  intro R map list hashMap
  have huse : (TypeExpr.raw ⟨5⟩).use? = some (⟨5⟩, []) := rfl
  have hmap : map.isConcrete = true := by decide
  have hlist : list.isConcrete = true := by decide
  have hfit : R.registry.SupertypesFit := by decide +kernel
  have hdistinct : (R.registry.formals ⟨5⟩).Nodup := by decide +kernel
  obtain ⟨d, hd⟩ : ∃ d, R.registry.class? ⟨5⟩ = some d :=
    Option.isSome_iff_exists.1 (by decide +kernel)
  have hgeneric : d.isGeneric = true := by
    rw [ClassDef.isGeneric, ← Registry.formals_of_class? hd]
    decide +kernel
  have hunrelated : R.registry.isSubclass ⟨5⟩ ⟨3⟩ = false := by decide +kernel
  have hresult : Answers (fun n => ((R.withBudget n).reparameterize (.raw ⟨5⟩) map).run)
      (.ok hashMap) := answers_reparameterize huse hd (n := 4) (by decide +kernel)
  have hassign : Answers (fun n => R.registry.assignable? n hashMap map) true :=
    Registry.answers_assignable? (n := 4) (by decide +kernel)
  have hvaries : R.registry.VariesAsDetermined (⟨4⟩, map.args) hashMap hashMap :=
    Registry.variesAsDetermined_self (v := (⟨5⟩, hashMap.args)) rfl _
  have hagrees := (reparameterize_agrees_iff R huse hd hmap).2 hfit
    (Registry.formals_of_class? hd ▸ hdistinct) hashMap hresult
  have hrefused := (reparameterize_agrees_iff R huse hd hlist).1
  exact ⟨⟨hmap, hfit, hdistinct⟩, hresult, hagrees.2 ⟨hashMap, hvaries, hassign⟩,
    hrefused.2 ⟨hgeneric, hunrelated⟩⟩

/-- From `Map<String, Integer>`, which is no map of twins, `Twin` gets the first argument and
becomes `Twin<String>`. And `String` is given back for `List<Integer>`, of which it is no subclass.
Neither result is assignable to its supertype. -/
theorem reparameterize_disagrees_twin :
    let R : Resolver := { registry := Registry.twins }
    let map : TypeExpr := .app ⟨4⟩ [.raw ⟨1⟩, .raw ⟨2⟩] none
    let list : TypeExpr := .app ⟨3⟩ [.raw ⟨2⟩] none
    let twin : TypeExpr := .app ⟨6⟩ [.raw ⟨1⟩] none
    (R.registry.SupertypesFit ∧ map.isConcrete = true ∧ list.isConcrete = true ∧
      (R.registry.formals ⟨4⟩).length = map.args.length ∧
      (R.registry.formals ⟨3⟩).length = list.args.length) ∧
    (Answers (fun n => ((R.withBudget n).reparameterize (.raw ⟨6⟩) map).run) (.ok twin) ∧
      Answers (fun n => R.registry.assignable? n twin map) false) ∧
    R.registry.isSubclass ⟨1⟩ ⟨3⟩ = false ∧
    Answers (fun n => ((R.withBudget n).reparameterize (.raw ⟨1⟩) list).run) (.ok (.raw ⟨1⟩)) ∧
    Answers (fun n => R.registry.assignable? n (.raw ⟨1⟩) list) false := by
  intro R map list twin
  have huse : (TypeExpr.raw ⟨6⟩).use? = some (⟨6⟩, []) := rfl
  have huse' : (TypeExpr.raw ⟨1⟩).use? = some (⟨1⟩, []) := rfl
  obtain ⟨d, hd⟩ : ∃ d, R.registry.class? ⟨6⟩ = some d :=
    Option.isSome_iff_exists.1 (by decide +kernel)
  obtain ⟨e, he⟩ : ∃ e, R.registry.class? ⟨1⟩ = some e :=
    Option.isSome_iff_exists.1 (by decide +kernel)
  have hfit : R.registry.SupertypesFit := by decide +kernel
  have htwin : Answers (fun n => ((R.withBudget n).reparameterize (.raw ⟨6⟩) map).run)
      (.ok twin) := answers_reparameterize huse hd (n := 4) (by decide +kernel)
  have htwinMap : Answers (fun n => R.registry.assignable? n twin map) false :=
    Registry.answers_assignable? (n := 5) (by decide +kernel)
  have hunrelated : R.registry.isSubclass ⟨1⟩ ⟨3⟩ = false := by decide +kernel
  have hstring : Answers (fun n => ((R.withBudget n).reparameterize (.raw ⟨1⟩) list).run)
      (.ok (.raw ⟨1⟩)) := answers_reparameterize huse' he (n := 4) (by decide +kernel)
  have hstringList : Answers (fun n => R.registry.assignable? n (.raw ⟨1⟩) list) false :=
    Registry.answers_assignable? (n := 5) (by decide +kernel)
  exact ⟨⟨hfit, by decide, by decide, by decide +kernel, by decide +kernel⟩, ⟨htwin, htwinMap⟩,
    hunrelated, hstring, hstringList⟩

end Resolver

end Generics
