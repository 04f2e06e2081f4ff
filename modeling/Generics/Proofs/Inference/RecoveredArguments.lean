import Generics.Proofs.Inference.OwnFormals
import Generics.Resolution.Reparameterize

/-!
# Arguments recovered from a supertype

`ArrayList<String>` seen as a list is `List<String>`. From the class `ArrayList` and the type
`List<String>` the argument `String` is recovered: the view of `ArrayList<E>` as a list is `List<E>`,
and matching the one against the other binds `E`. An argument is recovered in this way if its formal
is exposed in the view over the own formals, that is, stands there outside wildcards and owners. All
occurrences of a formal in that view have become the same argument, so matching finds nothing that
contradicts itself, however often formals are repeated and in whatever order they come.

What cannot be recovered is left as a formal. A second attempt with the same supertype binds the same
formals to the same arguments, and so changes nothing.

## Main definitions

* `recoveredArgs` — the arguments that are exposed, and the formals for the others

## Main results

* `Registry.exists_classView_of_own`, `Registry.exists_patterns_of_view` — a view with arguments is an
  instance of the view over the own formals
* `Registry.get?_determined` — what is bound: the exposed formals, to the arguments
* `Resolver.getElem?_completedArgs`, `Resolver.completedArgs_recoveredArgs`
* `Resolver.reparameterize_view`
-/

namespace Generics

/-- The arguments whose formals are exposed in the view `own`, with the other formals left as they
are. -/
def recoveredArgs (own : TypeExpr) (formals : List VarId) (args : List TypeExpr) :
    List TypeExpr :=
  List.zipWith (fun f a => if f ∈ own.exposed then a else .var f) formals args

namespace Registry

variable {reg : Registry} {c g : ClassId} {args : List TypeExpr}

/-! ### The view over the own formals -/

/-- The view of an application is the view over the own formals, with the arguments put in. -/
theorem exists_classView_of_own (h : reg.SupertypesFit) (hdistinct : (reg.formals c).Nodup)
    (hlen : (reg.formals c).length = args.length) {rounds : Nat} {patterns : List TypeExpr}
    (hown : reg.classView rounds g (c, TypeExpr.vars (reg.formals c)) = .found (g, patterns)) :
    ∃ n, reg.classView n g (c, args) =
      .found (g, patterns.map (TypeExpr.substitute (.ofFormals (reg.formals c) args))) := by
  have hview := classView_substitute h (fits_vars reg c) hown (.ofFormals (reg.formals c) args)
  rw [Use.substitute, TypeExpr.map_vars_substitute hdistinct hlen] at hview
  obtain ⟨n, w, hw, htype⟩ := exists_found_of_answers hview
  have huse := congrArg TypeExpr.use? htype
  rw [Use.use?_toType, Use.use?_toType] at huse
  exact ⟨n, hw.trans (congrArg _ (Option.some.inj huse).symm)⟩

/-- **A view with arguments is an instance of the view over the own formals,** with the arguments put
in for the formals. -/
theorem exists_patterns_of_view (h : reg.SupertypesFit) (hdistinct : (reg.formals c).Nodup)
    (hlen : (reg.formals c).length = args.length) {n : Nat} {owner owner' : Option TypeExpr}
    {e : ClassId} {targs : List TypeExpr}
    (hview : reg.view n (.app c args owner) g = some (some (.app e targs owner'))) :
    e = g ∧ owner' = none ∧ reg.LiesBelow c g ∧ ∃ rounds patterns,
      reg.classView rounds g (c, TypeExpr.vars (reg.formals c)) = .found (g, patterns) ∧
        patterns ≠ [] ∧
        patterns.map (TypeExpr.substitute (.ofFormals (reg.formals c) args)) = targs := by
  have hanswer : Answers (fun n => answer (reg.classView n g (c, args)))
      (some (.app e targs owner')) :=
    Comparison.answers_of_refines hview fun n => classView_refines n g (c, args)
  obtain ⟨k, w, hw, -⟩ := exists_found_of_answers hanswer
  obtain ⟨hbelow, -⟩ := liesBelow_of_classView h.nominal hw
  obtain ⟨rounds, patterns, hown⟩ :=
    exists_args_of_liesBelow hbelow (TypeExpr.vars (reg.formals c))
  obtain ⟨m, hinstance⟩ := exists_classView_of_own h hdistinct hlen hown
  have htype := Option.some.inj (answer_classView_unique (congrArg answer hinstance) hview)
  cases patterns with
  | nil => cases htype
  | cons p ps =>
    obtain ⟨rfl, rfl, rfl⟩ := TypeExpr.app.inj htype
    exact ⟨rfl, rfl, hbelow, rounds, p :: ps, hown, List.cons_ne_nil p ps, rfl⟩

/-! ### What is bound -/

/-- **The exposed formals are bound to the arguments,** and nothing else is bound. -/
theorem get?_bindingsOfView (g : ClassId) {formals : List VarId} (hdistinct : formals.Nodup)
    {patterns targs : List TypeExpr}
    (htargs : patterns.map (TypeExpr.substitute (.ofFormals formals args)) = targs) :
    (∀ (i : Nat) f a, formals[i]? = some f → args[i]? = some a →
      (Resolver.bindingsOfView formals targs (some (.app g patterns none))).get? f =
        if f ∈ (TypeExpr.app g patterns none).exposed then some a else none) ∧
    ∀ v, v ∉ formals →
      (Resolver.bindingsOfView formals targs (some (.app g patterns none))).get? v = none := by
  subst htargs
  rw [Resolver.bindingsOfView]
  have hnone : ∀ v, (v ∈ formals → v ∉ (TypeExpr.app g patterns none).exposed) →
      (Substitution.empty.bindAllIfAbsent (matchAllFormals formals patterns
        (patterns.map (TypeExpr.substitute (.ofFormals formals args))))).get? v = none := by
    intro v hv
    rw [Substitution.get?_bindAllIfAbsent, Substitution.get?_empty, Option.none_or,
      List.lookup_eq_none_iff]
    rintro ⟨w, t⟩ hmem
    obtain ⟨p, hp, hwt⟩ := mem_matchAllFormals_substitute_iff.1 hmem
    obtain ⟨hw, hexposed, -⟩ := mem_matchFormals_substitute_iff.1 hwt
    have hne : v ≠ w := by
      rintro rfl
      exact hv hw (TypeExpr.mem_exposed_app.2 ⟨p, hp, hexposed⟩)
    exact bne_iff_ne.2 hne
  refine ⟨fun i f a hf ha => ?_, fun v hv => hnone v fun hmem => absurd hmem hv⟩
  split
  · rename_i hexposed
    rw [get?_matchAllFormals_substitute (List.mem_of_getElem? hf)
        (TypeExpr.mem_exposed_app.1 hexposed),
      TypeExpr.substitute_var_of_get? (Substitution.get?_ofFormals_of_nodup hdistinct hf ha)]
  · rename_i hhidden
    exact hnone f fun _ => hhidden

end Registry

namespace Resolver

variable {R : Resolver}

/-! ### The completed arguments -/

/-- The argument for a formal: what is bound, else the current argument, else the formal itself. -/
theorem getElem?_completedArgs (σ : Substitution) (vs : List VarId) (current : List TypeExpr)
    (i : Nat) :
    (completedArgs σ vs current)[i]? =
      vs[i]?.map fun v => (σ.get? v).getD (current[i]?.getD (.var v)) := by
  induction vs generalizing current i with
  | nil => rfl
  | cons v vs ih =>
    cases i with
    | zero => cases current <;> rfl
    | succ i =>
      rw [completedArgs, List.getElem?_cons_succ, ih, List.getElem?_cons_succ]
      cases current <;> rfl

/-- Where the exposed formals are bound to the arguments, the completed arguments are the recovered
ones, whether there are no arguments yet or those that have been recovered before. -/
theorem completedArgs_recoveredArgs {own : TypeExpr} {formals : List VarId} {args : List TypeExpr}
    {τ : Substitution} (hlen : formals.length = args.length)
    (hτ : ∀ (i : Nat) f a, formals[i]? = some f → args[i]? = some a →
      τ.get? f = if f ∈ own.exposed then some a else none)
    {current : List TypeExpr} (hcurrent : current = [] ∨ current = recoveredArgs own formals args) :
    completedArgs τ formals current = recoveredArgs own formals args := by
  have hrecovered : ∀ (i : Nat) f a, formals[i]? = some f → args[i]? = some a →
      (recoveredArgs own formals args)[i]? = some (if f ∈ own.exposed then a else .var f) := by
    intro i f a hf ha
    rw [recoveredArgs, List.getElem?_zipWith, hf, ha]
  refine List.ext_getElem? fun i => ?_
  rw [getElem?_completedArgs]
  cases hf : formals[i]? with
  | none => rw [recoveredArgs, List.getElem?_zipWith, hf, Option.map_none]
  | some f =>
    have hi : i < args.length := hlen ▸ (List.getElem?_eq_some_iff.1 hf).1
    have ha : args[i]? = some args[i] := List.getElem?_eq_getElem hi
    rw [Option.map_some, hrecovered i f _ hf ha, hτ i f _ hf ha]
    by_cases hexposed : f ∈ own.exposed
    · rw [if_pos hexposed, if_pos hexposed, Option.getD_some]
    · rw [if_neg hexposed, if_neg hexposed, Option.getD_none]
      rcases hcurrent with rfl | rfl
      · rfl
      · rw [hrecovered i f _ hf ha, if_neg hexposed, Option.getD_some]

/-- What becomes of a use of a defined class, given a supertype with arguments: a class without
formals stays, a class that is no subclass is refused, and any other gets the completed arguments.
-/
theorem run_reparameterizeUse {c e : ClassId} {d : ClassDef} (hd : R.registry.class? c = some d)
    (n : Nat) (source : TypeExpr) (targs : List TypeExpr) (owner : Option TypeExpr) :
    ((R.withBudget n).reparameterizeUse source c (.app e targs owner)).run =
      if d.isGeneric then
        if R.registry.isSubclass c e then
          (R.registry.determined n c (e, targs)).map fun τ =>
            .ok (.app c (completedArgs τ d.typeParams source.args) source.owner?)
        else some (.error (.failed ⟨source, .notASupertype⟩))
      else some (.ok source) := by
  have hd' : (R.withBudget n).registry.class? c = some d := hd
  simp only [reparameterizeUse, hd']
  split
  · change (if R.registry.isSubclass c e = true then _ else _ : ExceptT _ _ _).run = _
    split
    · show ((liftM (R.registry.determined n c (e, targs)) : ExceptT Refusal Option _) >>= _).run = _
      rw [ExceptT.run_bind, ExceptT.run_liftM]
      cases R.registry.determined n c (e, targs) <;> rfl
    · rfl
  · rfl

/-- A generic class below the supertype gets the completed arguments. -/
theorem answers_reparameterizeUse {c e : ClassId} {d : ClassDef} (hd : R.registry.class? c = some d)
    (hgeneric : d.isGeneric = true) (hsub : R.registry.isSubclass c e = true)
    {targs : List TypeExpr} {τ : Substitution}
    (hτ : Answers (fun n => R.registry.determined n c (e, targs)) τ) (source : TypeExpr)
    (owner : Option TypeExpr) :
    Answers (fun n => ((R.withBudget n).reparameterizeUse source c (.app e targs owner)).run)
      (.ok (.app c (completedArgs τ d.typeParams source.args) source.owner?)) := by
  simp only [run_reparameterizeUse hd, if_pos hgeneric, if_pos hsub]
  exact hτ.map _

/-- **Matching inverts a supertype view.** Let a generic class with distinct formals, applied to as
many arguments, have a view with arguments. Then this view, as a supertype of the class, determines
exactly the formals that are exposed in the view over the own formals, and binds them to the
arguments. Given the arguments of the supertype, the raw class becomes the class applied to the
recovered arguments, and that type stays as it is if it is given them again. -/
theorem reparameterize_view (R : Resolver) (h : R.registry.SupertypesFit) {c g : ClassId}
    {d : ClassDef} (hd : R.registry.class? c = some d) (hgeneric : d.isGeneric = true)
    (hdistinct : d.typeParams.Nodup) {args : List TypeExpr}
    (hlen : args.length = d.typeParams.length) {n : Nat} {owner owner' : Option TypeExpr}
    {e : ClassId} {targs : List TypeExpr}
    (hview : R.registry.view n (.app c args owner) g = some (some (.app e targs owner'))) :
    ∃ own τ,
      Answers (fun n => R.registry.view n (.ofClass c (TypeExpr.vars d.typeParams)) g) (some own) ∧
      Answers (fun n => R.registry.determined n c (e, targs)) τ ∧
      (∀ (i : Nat) f a, d.typeParams[i]? = some f → args[i]? = some a →
        τ.get? f = if f ∈ own.exposed then some a else none) ∧
      (∀ v, v ∉ d.typeParams → τ.get? v = none) ∧
      ∀ source, source = .raw c ∨
          source = .app c (recoveredArgs own d.typeParams args) none →
        Answers (fun n => ((R.withBudget n).reparameterize source (.app e targs owner')).run)
          (.ok (.app c (recoveredArgs own d.typeParams args) none)) := by
  have hformals : R.registry.formals c = d.typeParams := Registry.formals_of_class? hd
  have hne : d.typeParams ≠ [] := by simpa [ClassDef.isGeneric] using hgeneric
  rw [← hformals] at hdistinct hlen hne ⊢
  obtain ⟨rfl, rfl, hbelow, rounds, patterns, hown, hpatterns, htargs⟩ :=
    Registry.exists_patterns_of_view h hdistinct hlen.symm hview
  have hτ := Registry.get?_bindingsOfView e hdistinct htargs
  have hdetermined : Answers (fun n => R.registry.determined n c (e, targs))
      (bindingsOfView (R.registry.formals c) targs (some (.app e patterns none))) :=
    Registry.answers_determined hne hown hpatterns targs
  have hcompleted : ∀ current, current = [] ∨
      current = recoveredArgs (.app e patterns none) (R.registry.formals c) args →
      completedArgs (bindingsOfView (R.registry.formals c) targs (some (.app e patterns none)))
        (R.registry.formals c) current =
          recoveredArgs (.app e patterns none) (R.registry.formals c) args :=
    fun current => completedArgs_recoveredArgs hlen.symm hτ.1
  refine ⟨.app e patterns none, _, ?view, hdetermined, hτ.1, hτ.2, fun source hsource => ?_⟩
  case view =>
    rw [← Use.toType_of_ne_nil hpatterns]
    exact Registry.answers_view (Use.use?_toType _) hown
  have hanswers := answers_reparameterizeUse hd hgeneric
    (Registry.isSubclass_iff.2 (.inl hbelow)) hdetermined source none
  rw [← hformals] at hanswers
  rcases hsource with rfl | rfl
  · simp only [TypeExpr.args, hcompleted [] (.inl rfl)] at hanswers
    exact hanswers
  · simp only [TypeExpr.args, hcompleted _ (.inr rfl)] at hanswers
    exact hanswers

end Resolver

/-- The standard registry with a class `Journal<K, V, W>` below `Map<V, HashMap<K[], ? extends W>>`. -/
def Registry.withJournal : Registry :=
  let (journal, reg) := standard.intern "Journal"
  let (k, reg) := reg.addTypeParam "K" (.ofClass journal) []
  let (v, reg) := reg.addTypeParam "V" (.ofClass journal) []
  let (w, reg) := reg.addTypeParam "W" (.ofClass journal) []
  reg.define journal (classDef "Journal" [k, v, w] (.raw ⟨0⟩)
    [.ofClass ⟨18⟩ [.var v, .ofClass ⟨19⟩ [.array (.var k), .extending (.var w)]]])

namespace Resolver

/-- `Journal<Integer, String, Boolean>` is a map from strings to hash maps. From that map `Integer` and
`String` are recovered for `K` and `V`; `W` stands below a wildcard, and `Boolean` is lost. -/
theorem reparameterize_view_journal :
    let R : Resolver := { registry := Registry.withJournal }
    let args : List TypeExpr := [.raw ⟨8⟩, .raw ⟨10⟩, .raw ⟨5⟩]
    let map : TypeExpr := .app ⟨18⟩ [.raw ⟨10⟩,
      .app ⟨19⟩ [.array (.raw ⟨8⟩), .extending (.raw ⟨5⟩)] none] none
    let recovered : TypeExpr := .app ⟨21⟩ [.raw ⟨8⟩, .raw ⟨10⟩, .var ⟨16⟩] none
    R.registry.SupertypesFit ∧ (R.registry.formals ⟨21⟩).Nodup ∧
      R.registry.view 3 (.app ⟨21⟩ args none) ⟨18⟩ = some (some map) ∧
      (∃ τ, Answers (fun n => R.registry.determined n ⟨21⟩ (⟨18⟩, map.args)) τ ∧
        τ.get? ⟨14⟩ = some (.raw ⟨8⟩) ∧ τ.get? ⟨15⟩ = some (.raw ⟨10⟩) ∧ τ.get? ⟨16⟩ = none) ∧
      Answers (fun n => ((R.withBudget n).reparameterize (.raw ⟨21⟩) map).run) (.ok recovered) ∧
      Answers (fun n => ((R.withBudget n).reparameterize recovered map).run) (.ok recovered) := by
  intro R args map recovered
  have hfit : R.registry.SupertypesFit := by decide +kernel
  obtain ⟨d, hd⟩ : ∃ d, R.registry.class? ⟨21⟩ = some d :=
    Option.isSome_iff_exists.1 (by decide +kernel)
  have hformals : d.typeParams = [⟨14⟩, ⟨15⟩, ⟨16⟩] := by
    rw [← Registry.formals_of_class? hd]
    decide +kernel
  have hgeneric : d.isGeneric = true := by rw [ClassDef.isGeneric, hformals]; rfl
  have hdistinct : d.typeParams.Nodup := by rw [hformals]; decide
  have hlen : args.length = d.typeParams.length := by rw [hformals]; rfl
  have hview : R.registry.view 3 (.app ⟨21⟩ args none) ⟨18⟩ = some (some map) := by decide +kernel
  obtain ⟨own, τ, hown, hτ, hbound, -, hanswers⟩ :=
    reparameterize_view R hfit hd hgeneric hdistinct hlen hview
  -- the view over the own formals shows `K` and `V`
  have hpatterns : own = .app ⟨18⟩ [.var ⟨15⟩,
      .app ⟨19⟩ [.array (.var ⟨14⟩), .extending (.var ⟨16⟩)] none] none := by
    refine Option.some.inj (hown.unique ?_)
    rw [hformals]
    exact Comparison.answers_of_refines (n := 3) (by decide +kernel)
      fun n => Registry.view_refines n _ _
  have hrecovered : .app ⟨21⟩ (recoveredArgs own d.typeParams args) none = recovered := by
    rw [hformals, hpatterns]
    decide
  rw [hformals, hpatterns] at hbound
  rw [hrecovered] at hanswers
  refine ⟨hfit, ?_, hview, ⟨τ, hτ, ?_, ?_, ?_⟩, hanswers _ (.inl rfl), hanswers _ (.inr rfl)⟩
  · rw [Registry.formals_of_class? hd]
    exact hdistinct
  · rw [hbound 0 _ _ rfl rfl]
    decide
  · rw [hbound 1 _ _ rfl rfl]
    decide
  · rw [hbound 2 _ _ rfl rfl]
    decide

end Resolver

end Generics
