import Generics.Proofs.Rebinding.Parts
import Generics.Proofs.Registry.Declarations
import Generics.Registry.Standard

/-!
# There and back again

A type that is carried over to another registry and back comes back as it was, if in both registries
a class is known by its name and a type parameter by its name and its declaration. The way there
looks a class up by its name, and the way back finds the class that had the name in the first place.
The variable that is found by name at the corresponding declaration must itself say that it is
declared there; then the way back leads to the declaration that it came from.

For types without variables only the names of classes matter, and so these types cannot be confused:
different ones are carried over to different ones.

## Main results

* `Registry.rebindClass_rebindClass`, `Registry.rebindVar_rebindVar`
* `Registry.rebind_of_rebind` — if all variables come back
* `Registry.rebind_injective_of_isConcrete`
* `Registry.rebind_rebind`
-/

namespace Generics

namespace Registry

variable {A B : Registry}

/-! ### Classes -/

/-- A class is found again by its name. -/
theorem rebindClass_rebindClass (hA : A.NamesFaithful) (hB : B.NamesFaithful) {c c' : ClassId}
    (h : A.rebindClass B c = .ok c') : B.rebindClass A c' = .ok c := by
  obtain ⟨d, hd, hc'⟩ := rebindClass_eq_ok_iff.1 h
  obtain ⟨d', hd', hname⟩ := (hB d.name c').1 hc'
  refine rebindClass_eq_ok_iff.2 ⟨d', hd', ?_⟩
  rw [hname]
  exact hA.lookup?_name hd

/-! ### Type variables -/

theorem rebindVar_eq_ok_iff {v w : VarId} :
    A.rebindVar B v = .ok w ↔ ∃ p c, A.typeParam? v = some p ∧
      A.rebindClass B p.owner.classId = .ok c ∧
        B.varNamed p.name (B.paramsAt p.owner c) = some w := by
  rw [rebindVar]
  cases A.typeParam? v with
  | none => simp
  | some p =>
    cases hc : A.rebindClass B p.owner.classId with
    | error e => simp [hc]
    | ok c => cases hw : B.varNamed p.name (B.paramsAt p.owner c) <;> simp [hc, hw]

/-- A variable is found again by its name and its declaration. -/
theorem rebindVar_rebindVar (hA : A.NamesFaithful) (hB : B.NamesFaithful) (hA' : A.WellDeclared)
    (hB' : B.WellDeclared) {v w : VarId} (hv : A.Listed v) (h : A.rebindVar B v = .ok w) :
    B.rebindVar A w = .ok v := by
  obtain ⟨p, c, hp, hc, hw⟩ := rebindVar_eq_ok_iff.1 h
  obtain ⟨q, hq, hname, vs, hvs, hwvs⟩ := of_varNamed_paramsAt hw
  have howner : q.owner = p.owner.inClass c := hB'.owner_eq _ hvs w hwvs q hq
  have hback : B.rebindClass A q.owner.classId = .ok p.owner.classId := by
    rw [howner, VarOwner.classId_inClass]
    exact rebindClass_rebindClass hA hB hc
  have hparams : A.paramsAt q.owner p.owner.classId = A.paramsAt p.owner p.owner.classId := by
    simp only [paramsAt, howner, ClassDef.paramsOf_inClass]
  obtain ⟨p', hp', e, he, hep, hve⟩ := hv
  obtain rfl : p = p' := Option.some.inj (hp.symm.trans hp')
  refine rebindVar_eq_ok_iff.2 ⟨q, p.owner.classId, hq, hback, ?_⟩
  rw [hname, hparams]
  exact hA'.varNamed_paramsAt hp he hep hve

/-! ### Types -/

/-- If every variable comes back, so does the type. -/
theorem rebind_of_rebind (hA : A.NamesFaithful) (hB : B.NamesFaithful) {t u : TypeExpr}
    (hvars : ∀ v ∈ t.occurrences, ∀ w, A.rebindVar B v = .ok w → B.rebindVar A w = .ok v)
    (h : A.rebind B t = .ok u) : B.rebind A u = .ok t := by
  induction t generalizing u with
  | raw c =>
    obtain ⟨c', hc, rfl⟩ := rebind_raw_eq_ok_iff.1 h
    exact rebind_raw_eq_ok_iff.2 ⟨c, rebindClass_rebindClass hA hB hc, rfl⟩
  | app c args owner ihArgs ihOwner =>
    obtain ⟨c', args', owner', hc, hargs, howner, rfl⟩ := rebind_app_eq_ok_iff.1 h
    refine rebind_app_eq_ok_iff.2 ⟨c, args, owner, rebindClass_rebindClass hA hB hc,
      map_eq_map_ok_of_inverse (fun a ha b hb => ihArgs a ha (fun v hv => ?_) hb) hargs,
      option_map_eq_map_ok_of_inverse (fun o ho b hb => ihOwner o ho (fun v hv => ?_) hb) howner,
      rfl⟩
    · exact hvars v (TypeExpr.mem_occurrences_app.2 (.inl ⟨a, ha, hv⟩))
    · exact hvars v (TypeExpr.mem_occurrences_app.2 (.inr ⟨o, ho, hv⟩))
  | wildcard uppers lowers ihUppers ihLowers =>
    obtain ⟨uppers', lowers', huppers, hlowers, rfl⟩ := rebind_wildcard_eq_ok_iff.1 h
    refine rebind_wildcard_eq_ok_iff.2 ⟨uppers, lowers,
      map_eq_map_ok_of_inverse (fun a ha b hb => ihUppers a ha (fun v hv => ?_) hb) huppers,
      map_eq_map_ok_of_inverse (fun a ha b hb => ihLowers a ha (fun v hv => ?_) hb) hlowers, rfl⟩
    · exact hvars v (TypeExpr.mem_occurrences_wildcard.2 (.inl ⟨a, ha, hv⟩))
    · exact hvars v (TypeExpr.mem_occurrences_wildcard.2 (.inr ⟨a, ha, hv⟩))
  | var v =>
    obtain ⟨w, hw, rfl⟩ := rebind_var_eq_ok_iff.1 h
    exact rebind_var_eq_ok_iff.2 ⟨v, hvars v List.mem_cons_self w hw, rfl⟩
  | array elem ih =>
    obtain ⟨e, he, rfl⟩ := rebind_array_eq_ok_iff.1 h
    exact rebind_array_eq_ok_iff.2 ⟨elem, ih hvars he, rfl⟩

/-- Different concrete types are carried over to different types. -/
theorem rebind_injective_of_isConcrete (hA : A.NamesFaithful) (hB : B.NamesFaithful)
    {s t u : TypeExpr} (hs : s.isConcrete = true) (ht : t.isConcrete = true)
    (hsu : A.rebind B s = .ok u) (htu : A.rebind B t = .ok u) : s = t := by
  have hback : ∀ {x : TypeExpr}, x.isConcrete = true → A.rebind B x = .ok u →
      B.rebind A u = .ok x := by
    intro x hx hxu
    have hnone := TypeExpr.hasVars_eq_false_iff.1 (TypeExpr.hasVars_of_isConcrete hx)
    exact rebind_of_rebind hA hB (fun v hv => absurd hv (hnone v)) hxu
  exact Except.ok.inj ((hback hs hsu).symm.trans (hback ht htu))

/-- **A type that is carried over and back comes back as it was,** if each of its variables is
listed where it is declared. -/
theorem rebind_rebind (hA : A.NamesFaithful) (hB : B.NamesFaithful) (hA' : A.WellDeclared)
    (hB' : B.WellDeclared) {t u : TypeExpr} (ht : ∀ v ∈ t.occurrences, A.Listed v)
    (h : A.rebind B t = .ok u) : B.rebind A u = .ok t :=
  rebind_of_rebind hA hB
    (fun v hv _ hw => rebindVar_rebindVar hA hB hA' hB' (ht v hv) hw) h

/-! ### Two workshops -/

/-- `Box<T extends Object>` with a constructor `<S> Box(S)` besides the one without parameters, and
two methods `swap`, one of them `<U> U swap(Box<T>)`. -/
def workshop : Registry where
  classes := #[some { name := objectName },
    some (classDef "String" [] (.raw ⟨0⟩) []),
    some { classDef "Box" [⟨0⟩] (.raw ⟨0⟩) [] with
      constructors := [{}, { typeParams := [⟨2⟩], params := [.var ⟨2⟩] }]
      methods := [
        { name := "swap" },
        { name := "swap", typeParams := [⟨1⟩], params := [.ofClass ⟨2⟩ [.var ⟨0⟩]],
          returnType := some (.var ⟨1⟩) }] }]
  params := #[⟨"T", .ofClass ⟨2⟩, [.raw ⟨0⟩]⟩, ⟨"U", .ofMethod ⟨2⟩ "swap" 1, [.raw ⟨0⟩]⟩,
    ⟨"S", .ofConstructor ⟨2⟩ 1, [.raw ⟨0⟩]⟩]
  names := [("Box", ⟨2⟩), ("String", ⟨1⟩), (objectName, ⟨0⟩)]
  object := ⟨0⟩

/-- The same classes and type parameters, met in another order, and without `String`. -/
def otherWorkshop : Registry where
  classes := #[some { name := objectName },
    some { classDef "Box" [⟨1⟩] (.raw ⟨0⟩) [] with
      constructors := [{}, { typeParams := [⟨0⟩], params := [.var ⟨0⟩] }]
      methods := [
        { name := "swap", typeParams := [⟨2⟩], params := [.ofClass ⟨1⟩ [.var ⟨1⟩]],
          returnType := some (.var ⟨2⟩) }] }]
  params := #[⟨"S", .ofConstructor ⟨1⟩ 1, [.raw ⟨0⟩]⟩, ⟨"T", .ofClass ⟨1⟩, [.raw ⟨0⟩]⟩,
    ⟨"U", .ofMethod ⟨1⟩ "swap" 1, [.raw ⟨0⟩]⟩]
  names := [("Box", ⟨1⟩), (objectName, ⟨0⟩)]
  object := ⟨0⟩

theorem namesFaithful_workshop : workshop.NamesFaithful := by decide +kernel

theorem namesFaithful_otherWorkshop : otherWorkshop.NamesFaithful := by decide +kernel

/-- The array type `Box<T>.Box<? super S & U>[]`, of which nothing keeps its number, is carried over
and back. -/
theorem rebind_rebind_workshop :
    let t : TypeExpr := .array
      (.app ⟨2⟩ [.wildcard [] [.var ⟨2⟩, .var ⟨1⟩]] (some (.app ⟨2⟩ [.var ⟨0⟩] none)))
    let u : TypeExpr := .array
      (.app ⟨1⟩ [.wildcard [] [.var ⟨0⟩, .var ⟨2⟩]] (some (.app ⟨1⟩ [.var ⟨1⟩] none)))
    workshop.rebind otherWorkshop t = .ok u ∧ otherWorkshop.rebind workshop u = .ok t := by
  intro t u
  have hthere : workshop.rebind otherWorkshop t = .ok u := by decide +kernel
  have hlisted : ∀ v ∈ t.occurrences, workshop.Listed v := by decide +kernel
  exact ⟨hthere, rebind_rebind namesFaithful_workshop namesFaithful_otherWorkshop
    (by decide +kernel) (by decide +kernel) hlisted hthere⟩

end Registry

end Generics
