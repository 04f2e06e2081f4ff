import Generics.Proofs.Assignability.Questions
import Generics.Proofs.Hierarchy.ViewSubstitution
import Generics.Proofs.Inference.Matching
import Generics.Proofs.Resolution.ConcreteSources
import Generics.Registry.Standard

/-!
# A class applied to its own formals

`ArrayList<E>` against `List<String>`: the target determines `E` if the view of `ArrayList<E>` as a
list shows it. Here a class is applied to its own formals, each at its own position, except where an
argument is concrete already. If such an application is assignable to a target without variables
once types are put in for the formals, those are the types that the target determines.

## Main definitions

* `Registry.OwnFormals` — the application and what has to be known of the class

## Main results

* `Registry.eq_of_argumentsFit` — arguments fit concrete ones only if they are the same
* `Registry.args_eq_of_assignable` — the view of a source that is assignable has the arguments of
  the target
* `Registry.answers_determined` — what a supertype determines, from the view over the own formals
* `Registry.OwnFormals.exists_context` — the formals are bound to what was put in
-/

namespace Generics

theorem TypeExpr.map_vars_substitute {formals : List VarId} {args : List TypeExpr}
    (hn : formals.Nodup) (hlen : formals.length = args.length) :
    (vars formals).map (substitute (.ofFormals formals args)) = args := by
  refine List.ext_getElem? fun i => ?_
  rw [vars, List.map_map, List.getElem?_map]
  cases hf : formals[i]? with
  | none =>
    rw [List.getElem?_eq_none_iff, hlen] at hf
    exact (List.getElem?_eq_none hf).symm
  | some f =>
    have hi : i < args.length := hlen ▸ (List.getElem?_eq_some_iff.1 hf).1
    have ha : args[i]? = some args[i] := List.getElem?_eq_getElem hi
    rw [ha]
    exact congrArg some
      (substitute_var_of_get? (Substitution.get?_ofFormals_of_nodup hn hf ha))

namespace Registry

variable {reg : Registry}

/-! ### Views of what is assignable -/

/-- An argument that fits a concrete one is the same. -/
theorem eq_of_argumentFits {assign : TypeExpr → TypeExpr → Option Bool} {arg target : TypeExpr}
    (ht : target.isConcrete = true) (h : reg.argumentFits assign arg target = some true) :
    arg = target := by
  by_cases heq : arg = target
  · exact heq
  · cases target with
    | wildcard us ls => cases ht
    | var v => cases ht
    | _ => simp [argumentFits, heq] at h

theorem eq_of_argumentsFit {assign : TypeExpr → TypeExpr → Option Bool}
    {args targets : List TypeExpr} (ht : ∀ t ∈ targets, t.isConcrete = true)
    (h : reg.argumentsFit assign args targets = some true) : args = targets := by
  rw [argumentsFit] at h
  split at h
  · rename_i hlen
    refine List.ext_getElem hlen fun i hi hi' => ?_
    have hmem : (args[i], targets[i]) ∈ args.zip targets := by
      refine List.mem_of_getElem? (i := i) ?_
      rw [List.getElem?_zip_eq_some]
      exact ⟨List.getElem?_eq_getElem hi, List.getElem?_eq_getElem hi'⟩
    have hfits : reg.argumentFits assign args[i] targets[i] = some true :=
      allM_eq_true_iff.1 h _ hmem
    exact eq_of_argumentFits (ht _ (List.getElem_mem hi')) hfits
  · cases h

/-- Arguments fit themselves. -/
theorem argumentsFit_self (assign : TypeExpr → TypeExpr → Option Bool) (args : List TypeExpr) :
    reg.argumentsFit assign args args = some true := by
  rw [argumentsFit, if_pos rfl, allM_eq_true_iff]
  intro e he
  obtain ⟨i, hi⟩ := List.mem_iff_getElem?.1 he
  obtain ⟨hleft, hright⟩ := List.getElem?_zip_eq_some.1 hi
  exact if_pos (Option.some.inj (hleft.symm.trans hright))

/-- **What is assignable has the arguments of the target.** If a use with arguments put in is
assignable to a concrete target, then the view of the use, with the same arguments put in, has the
arguments of the target, or it has none at all. -/
theorem args_eq_of_assignable (h : reg.SupertypesFit) {c d : ClassId} {args : List TypeExpr}
    (hu : reg.Fits (c, args)) {rounds : Nat} {patterns : List TypeExpr}
    (hview : reg.classView rounds d (c, args) = .found (d, patterns)) (hne : patterns ≠ [])
    {σ : Substitution} {owner owner' : Option TypeExpr} {targets : List TypeExpr}
    (ht : ∀ t ∈ targets, t.isConcrete = true) {n : Nat}
    (hassign : reg.assignable? n (.app c (args.map (TypeExpr.substitute σ)) owner)
      (.app d targets owner') = some true) :
    patterns.map (TypeExpr.substitute σ) = targets := by
  by_cases heq : TypeExpr.app c (args.map (TypeExpr.substitute σ)) owner = .app d targets owner'
  · -- the source is the target, and its view is itself
    obtain ⟨rfl, rfl, -⟩ := TypeExpr.app.inj heq
    cases rounds with
    | zero => cases hview
    | succ k =>
      rw [classView_self] at hview
      obtain rfl : args = patterns := (Prod.mk.inj (Search.Outcome.found.inj hview)).2
      rfl
  · cases n with
    | zero => cases hassign
    | succ k =>
      have hstep : reg.assignableStep (reg.assignableFrom k) k []
          (.app c (args.map (TypeExpr.substitute σ)) owner) (.app d targets owner') = some true :=
        hassign
      rw [assignableStep_of_use? rfl heq] at hstep
      obtain ⟨r, hr, hfits⟩ := Option.bind_eq_some_iff.1 hstep
      have hanswer : Answers (fun n => answer (reg.classView n d
          (c, args.map (TypeExpr.substitute σ)))) r :=
        Comparison.answers_of_refines hr fun n => classView_refines n d _
      have hsub : Answers (fun n => answer (reg.classView n d
          (c, args.map (TypeExpr.substitute σ)))) (some (Use.substitute σ (d, patterns)).toType) :=
        classView_substitute h hu hview σ
      obtain rfl := hanswer.unique hsub
      have htype : (Use.substitute σ (d, patterns)).toType =
          .app d (patterns.map (TypeExpr.substitute σ)) none :=
        Use.toType_of_ne_nil (by simpa using hne)
      rw [htype] at hfits
      exact eq_of_argumentsFit ht hfits

/-! ### What a supertype determines -/

theorem fits_vars (reg : Registry) (c : ClassId) :
    reg.Fits (c, TypeExpr.vars (reg.formals c)) := by
  intro d hd
  refine .inr ?_
  rw [formals_of_class? hd, TypeExpr.vars, List.length_map]

/-- A class determines what matching the arguments of its view, over its own formals, against those
of the target gives. -/
theorem answers_determined {c d : ClassId} (hformals : reg.formals c ≠ []) {rounds : Nat}
    {patterns : List TypeExpr}
    (hview : reg.classView rounds d (c, TypeExpr.vars (reg.formals c)) = .found (d, patterns))
    (hpatterns : patterns ≠ []) (targets : List TypeExpr) :
    Answers (fun n => reg.determined n c (d, targets))
      (Substitution.empty.bindAllIfAbsent (matchAllFormals (reg.formals c) patterns targets)) := by
  have hfound : Answers (fun n => answer (reg.classView n d (c, TypeExpr.vars (reg.formals c))))
      (some (.app d patterns none)) := by
    refine Comparison.answers_of_refines (n := rounds) ?_ fun n => classView_refines n d _
    rw [hview, answer, Use.toType_of_ne_nil hpatterns]
  simp only [Resolver.determined_of_formals_ne_nil _ hformals]
  exact hfound.map _

/-! ### Own formals -/

/-- A class is applied to its own formals, each at its own position, and to concrete types; what the
bounds of these formals speak of is among the arguments, and the view as the class `d` shows them.
-/
structure OwnFormals (reg : Registry) (c : ClassId) (args : List TypeExpr) (d : ClassId) : Prop
    where
  /-- There is an argument for every formal, -/
  arity : (reg.formals c).length = args.length
  /-- the formals are distinct -/
  distinct : (reg.formals c).Nodup
  /-- and declared, -/
  known : Resolver.FormalsKnown reg (reg.formals c)
  /-- and every argument is concrete or the formal itself. -/
  own : ∀ (i : Nat) f a, (reg.formals c)[i]? = some f → args[i]? = some a →
    a.isConcrete = true ∨ a = .var f
  /-- The bounds of a formal among the arguments speak of such formals only. -/
  bounds : ∀ f, .var f ∈ args → ∀ b ∈ reg.bounds f, ∀ w ∈ b.occurrences, .var w ∈ args
  /-- All of them can be read off the view. -/
  shown : ∃ rounds patterns,
    reg.classView rounds d (c, TypeExpr.vars (reg.formals c)) = .found (d, patterns) ∧
      ∀ f, .var f ∈ args → ∃ p ∈ patterns, f ∈ p.exposed

/-- A hash map from strings, as a map, shows the formal for its values. -/
theorem ownFormals_hashMap : standard.OwnFormals ⟨19⟩ [.raw ⟨10⟩, .var ⟨11⟩] ⟨18⟩ := by
  have hformals : standard.formals ⟨19⟩ = [⟨10⟩, ⟨11⟩] := by decide +kernel
  have hbounds : standard.bounds ⟨11⟩ = [.raw ⟨0⟩] := by decide +kernel
  have honly : ∀ v, .var v ∈ [TypeExpr.raw ⟨10⟩, .var ⟨11⟩] → v = ⟨11⟩ := by
    intro v hv
    simpa using hv
  refine ⟨by rw [hformals]; rfl, by rw [hformals]; decide, ?known, ?own, ?bounds, ?shown⟩
  case known =>
    rw [hformals]
    decide +kernel
  case own =>
    intro i f a hf ha
    rw [hformals] at hf
    match i with
    | 0 =>
      obtain rfl := Option.some.inj ha
      exact .inl rfl
    | 1 =>
      obtain rfl := Option.some.inj hf
      obtain rfl := Option.some.inj ha
      exact .inr rfl
    | i + 2 => cases hf
  case bounds =>
    intro f hf b hb w hw
    rw [honly f hf, hbounds, List.mem_singleton] at hb
    subst hb
    cases hw
  case shown =>
    refine ⟨5, [.var ⟨10⟩, .var ⟨11⟩], by decide +kernel, fun f hf => ?_⟩
    rw [honly f hf]
    exact ⟨.var ⟨11⟩, by decide, List.mem_cons_self⟩

namespace OwnFormals

variable {c d : ClassId} {args : List TypeExpr} (h : reg.OwnFormals c args d)

include h

/-- Every argument is concrete, or it is the formal at its position. -/
theorem concrete_or_formal {i : Nat} {a : TypeExpr} (ha : args[i]? = some a) :
    a.isConcrete = true ∨ ∃ f, (reg.formals c)[i]? = some f ∧ a = .var f := by
  have hlt : i < (reg.formals c).length := h.arity ▸ (List.getElem?_eq_some_iff.1 ha).1
  have hf : (reg.formals c)[i]? = some (reg.formals c)[i] := List.getElem?_eq_getElem hlt
  exact (h.own i _ a hf ha).imp_right fun hv => ⟨_, hf, hv⟩

/-- A formal among the arguments stands at its own position. -/
theorem position {f : VarId} (hf : .var f ∈ args) :
    ∃ i : Nat, (reg.formals c)[i]? = some f ∧ args[i]? = some (.var f) := by
  obtain ⟨i, hi⟩ := List.mem_iff_getElem?.1 hf
  rcases h.concrete_or_formal hi with hc | ⟨g, hg, hv⟩
  · cases hc
  · exact ⟨i, TypeExpr.var.inj hv ▸ hg, hi⟩

/-- The variables of the arguments are formals among them. -/
theorem var_mem_of_mem_occurrences {a : TypeExpr} (ha : a ∈ args) {v : VarId}
    (hv : v ∈ a.occurrences) : .var v ∈ args := by
  obtain ⟨i, hi⟩ := List.mem_iff_getElem?.1 ha
  rcases h.concrete_or_formal hi with hc | ⟨f, -, rfl⟩
  · exact absurd hv (TypeExpr.hasVars_eq_false_iff.1 (TypeExpr.hasVars_of_isConcrete hc) v)
  · rw [TypeExpr.occurrences_var, List.mem_singleton] at hv
    exact hv ▸ ha

/-- Below a concrete owner these are all the variables. -/
theorem mem_freeVars_iff {owner : Option TypeExpr} (howner : ∀ o ∈ owner, o.isConcrete = true)
    {v : VarId} : v ∈ (TypeExpr.app c args owner).freeVars ↔ .var v ∈ args := by
  rw [TypeExpr.mem_freeVars, TypeExpr.mem_occurrences_app]
  constructor
  · rintro (⟨a, ha, hv⟩ | ⟨o, ho, hv⟩)
    · exact h.var_mem_of_mem_occurrences ha hv
    · have hnone := TypeExpr.hasVars_eq_false_iff.1 (TypeExpr.hasVars_of_isConcrete (howner o ho))
      exact absurd hv (hnone v)
  · exact fun hv => .inl ⟨.var v, hv, List.mem_cons_self⟩

/-- Bound to arguments that a substitution makes, a formal is bound to what the substitution makes
of it. -/
theorem get?_ofFormals {m : Substitution} {f : VarId} (hf : .var f ∈ args) :
    (Substitution.ofFormals (reg.formals c) (args.map (TypeExpr.substitute m))).get? f =
      some ((TypeExpr.var f).substitute m) := by
  obtain ⟨i, hi, ha⟩ := h.position hf
  exact Substitution.get?_ofFormals_of_nodup h.distinct hi (by rw [List.getElem?_map, ha]; rfl)

/-- The same if only the arguments before a position are there, for the formals before it. -/
theorem get?_ofFormals_take {m : Substitution} {f : VarId} (hf : .var f ∈ args) (k : Nat) :
    (Substitution.ofFormals (reg.formals c) ((args.map (TypeExpr.substitute m)).take k)).get? f =
        some ((TypeExpr.var f).substitute m) ∨
      (Substitution.ofFormals (reg.formals c) ((args.map (TypeExpr.substitute m)).take k)).get? f =
        none := by
  obtain ⟨i, hi, ha⟩ := h.position hf
  by_cases hik : i < k
  · refine .inl (Substitution.get?_ofFormals_of_nodup h.distinct hi ?_)
    rw [List.getElem?_take, if_pos hik, List.getElem?_map, ha]
    rfl
  · refine .inr (Substitution.get?_ofFormals_of_length_le h.distinct hi ?_)
    rw [List.length_take]
    omega

/-- **The target determines the formals.** If the application with types put in is assignable to a
concrete target, the context of the target binds the formals among the arguments to these types. -/
theorem exists_context (hfit : reg.SupertypesFit) {m : Substitution} (owner : Option TypeExpr)
    {made owner' : Option TypeExpr} {targets : List TypeExpr}
    (ht : ∀ t ∈ targets, t.isConcrete = true) {f : VarId} (hf : .var f ∈ args) {n : Nat}
    (hassign : reg.assignable? n (.app c (args.map (TypeExpr.substitute m)) made)
      (.app d targets owner') = some true) :
    ∃ σ, Answers (fun n => reg.context n (.app c args owner) (.app d targets owner')) σ ∧
      ∀ w, .var w ∈ args → σ.get? w = some ((TypeExpr.var w).substitute m) := by
  obtain ⟨rounds, patterns, hview, hshown⟩ := h.shown
  have hpatterns : patterns ≠ [] := by
    obtain ⟨p, hp, -⟩ := hshown f hf
    exact List.ne_nil_of_mem hp
  have hformals : reg.formals c ≠ [] := by
    obtain ⟨i, hi, -⟩ := h.position hf
    exact List.ne_nil_of_mem (List.mem_of_getElem? hi)
  -- the application is an instance of the class applied to all its formals
  let θ := Substitution.ofFormals (reg.formals c) (args.map (TypeExpr.substitute m))
  have hall : (TypeExpr.vars (reg.formals c)).map (TypeExpr.substitute θ) =
      args.map (TypeExpr.substitute m) :=
    TypeExpr.map_vars_substitute h.distinct (by rw [List.length_map, h.arity])
  have htargets : patterns.map (TypeExpr.substitute θ) = targets := by
    rw [← hall] at hassign
    exact args_eq_of_assignable hfit (fits_vars reg c) hview hpatterns ht hassign
  let τ := Substitution.empty.bindAllIfAbsent (matchAllFormals (reg.formals c) patterns targets)
  refine ⟨(reg.impliedBindings (.app d targets owner')).extend τ, ?_, fun w hw => ?_⟩
  · exact (answers_determined hformals hview hpatterns targets).map _
  · obtain ⟨i, hi, -⟩ := h.position hw
    have hbound : τ.get? w = some ((TypeExpr.var w).substitute θ) := by
      show (Substitution.empty.bindAllIfAbsent (matchAllFormals _ patterns targets)).get? w = _
      rw [← htargets]
      exact get?_matchAllFormals_substitute (List.mem_of_getElem? hi) (hshown w hw)
    rw [Substitution.get?_extend, hbound, Option.some_or,
      TypeExpr.substitute_var_of_get? (h.get?_ofFormals hw)]

end OwnFormals

end Registry

end Generics
