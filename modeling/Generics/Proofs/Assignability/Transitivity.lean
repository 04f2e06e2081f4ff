import Generics.Proofs.Assignability.MoreBudget
import Generics.Proofs.Hierarchy.Coherent
import Generics.Proofs.Inference.OwnFormals

/-!
# Assignability of concrete class types is transitive, up to unchecked steps

A use of a class is assignable to a concrete use of a class above it if its view has the arguments of
the target, or has none. In a coherent hierarchy the view of a view is the view, so two steps make
one. The exception is a step in which the view has lost its arguments: it is accepted whatever
arguments the target has, and what lies above the target then says nothing about the source.

## Main definitions

* `Registry.reader` — a hierarchy in which a raw use is accepted unchecked

## Main results

* `Registry.answers_assignable_iff` — assignability of uses of classes is a matter of views
* `Registry.assignable_trans` — two steps make one
* `Registry.not_assignable_trans_reader` — but not if the first one is unchecked
-/

namespace Generics

namespace Registry

variable {reg : Registry}

/-- A view fits concrete arguments if it has these or none. -/
theorem viewFits_toType_iff {assign : TypeExpr → TypeExpr → Option Bool} {v : Use}
    {targets : List TypeExpr} (ht : ∀ t ∈ targets, t.isConcrete = true) :
    reg.viewFits assign targets (some v.toType) = some true ↔ v.2 = [] ∨ v.2 = targets := by
  obtain ⟨c, args⟩ := v
  cases args with
  | nil => exact iff_of_true rfl (.inl rfl)
  | cons a as =>
    have happ : reg.viewFits assign targets (some (Use.toType (c, a :: as))) =
        reg.argumentsFit assign (a :: as) targets := rfl
    rw [happ]
    constructor
    · exact fun h => .inr (eq_of_argumentsFit ht h)
    · rintro (h | rfl)
      · cases h
      · exact argumentsFit_self _ _

/-- **Between uses of classes the view decides:** the target is raw, or the view has its arguments, or
it has none. -/
theorem answers_assignable_iff {s t : TypeExpr} {u w : Use} (hs : s.use? = some u)
    (ht : t.use? = some w) (hc : t.isConcrete = true) :
    Answers (fun n => reg.assignable? n s t) true ↔
      s = t ∨ ∃ n v, reg.classView n w.1 u = .found v ∧
        (t = .raw w.1 ∨ v.2 = [] ∨ v.2 = w.2) := by
  by_cases heq : s = t
  · refine iff_of_true ?_ (.inl heq)
    rw [heq]
    exact answers_assignable? (assignable?_self reg 0 t)
  have hstep : ∀ n, reg.assignable? (n + 1) s t =
      reg.assignableStep (reg.assignableFrom n) n [] s t := fun _ => rfl
  have hfrom : (∃ n, reg.assignable? (n + 1) s t = some true) ↔
      Answers (fun n => reg.assignable? n s t) true :=
    ⟨fun ⟨n, hn⟩ => answers_assignable? hn, fun ⟨N, hN⟩ => ⟨N, hN (N + 1) (Nat.le_succ N)⟩⟩
  rw [← hfrom, or_iff_right heq]
  refine exists_congr fun n => ?_
  rw [hstep]
  cases t with
  | raw c =>
    obtain rfl := Option.some.inj ht
    rw [assignableStep_raw_of_use? hs heq]
    cases reg.classView n c u <;> simp [answer]
  | app c targets owner =>
    obtain rfl := Option.some.inj ht
    have hconcrete := (TypeExpr.isConcrete_app_iff.1 hc).1
    rw [assignableStep_of_use? hs heq]
    cases reg.classView n c u with
    | found v =>
      show reg.viewFits _ targets (some v.toType) = some true ↔ _
      rw [viewFits_toType_iff hconcrete]
      simp
    | absent => simp [answer, viewFits]
    | unfinished => simp [answer]
  | _ => cases ht

/-- **Assignability is transitive,** unless the source is accepted unchecked: seen as the class in the
middle, which is generic, it is raw, while seen as the class of the target it has arguments. -/
theorem assignable_trans (hA : reg.Acyclic) (hS : reg.SupertypesClosed) (hC : reg.Coherent)
    {a b c : TypeExpr} {u v w : Use} (ha : a.use? = some u) (hb : b.use? = some v)
    (hc : c.use? = some w) (hu : u.2 = [] ∨ reg.Saturated u) (hv : reg.Saturated v)
    (hbc : b.isConcrete = true) (hcc : c.isConcrete = true)
    (hraw : Answers (reg.view · a v.1) (some (.raw v.1)) →
      reg.formals v.1 = [] ∨ c = .raw w.1 ∨ Answers (reg.view · a w.1) (some (.raw w.1)))
    (hleft : Answers (fun n => reg.assignable? n a b) true)
    (hright : Answers (fun n => reg.assignable? n b c) true) :
    Answers (fun n => reg.assignable? n a c) true := by
  rw [answers_assignable_iff ha hb hbc] at hleft
  rcases hleft with rfl | ⟨n, x, hx, hxb⟩
  · exact hright
  rw [answers_assignable_iff hb hc hcc] at hright
  rw [answers_assignable_iff ha hc hcc]
  rcases hright with rfl | ⟨m, y, hy, hyc⟩
  · obtain rfl : v = w := Option.some.inj (hb.symm.trans hc)
    exact .inr ⟨n, x, hx, hxb⟩
  -- the source has a view as the class of the target, and where it has arguments they are to be those
  obtain ⟨hbelow, hxv⟩ := liesBelow_of_classView hS.nominal hx
  obtain ⟨hbelow', hyw⟩ := liesBelow_of_classView hS.nominal hy
  obtain ⟨k, z, hz⟩ := classView_of_liesBelow (hbelow.trans hbelow') u.2
  have hzw : z.1 = w.1 := (liesBelow_of_classView hS.nominal hz).2
  refine .inr ⟨k, z, hz, ?_⟩
  by_cases hnil : z.2 = []
  · exact .inr (.inl hnil)
  by_cases hplain : c = .raw w.1
  · exact .inl hplain
  have hux := reaches_of_classView hx
  have hsame : x = v := by
    refine Prod.ext hxv ?_
    have hformals : reg.formals v.1 = [] → x.2 = v.2 := by
      intro hformals
      have hvnil : v.2 = [] := by
        rw [Saturated, hformals] at hv
        exact List.length_eq_zero_iff.1 hv.symm
      rw [hvnil]
      exact args_eq_nil_of_reaches hS hu hux (hxv ▸ hformals)
    rcases hxb with hbraw | hxnil | hxargs
    · rw [hbraw] at hb
      have hvnil : [] = v.2 := congrArg Prod.snd (Option.some.inj hb)
      rw [Saturated, ← hvnil] at hv
      exact hformals (List.length_eq_zero_iff.1 hv)
    · refine hformals ((hraw ?_).resolve_right ?_)
      · have hview := answers_view ha hx
        rwa [show x.toType = .raw v.1 by rw [Use.toType, hxnil, hxv]; rfl] at hview
      · rintro (h | h)
        · exact hplain h
        · have htype := (answers_view ha hz).unique h
          rw [Option.some.injEq] at htype
          exact hnil (by rw [← TypeExpr.args_ofClass z.1 z.2]; exact congrArg _ htype)
    · exact hxargs
  subst hsame
  have hzy : z = y := hC.eq_of_reaches_of_reaches hS hA hu hv hux (reaches_of_classView hy)
    (reaches_of_classView hz) (hzw.trans hyw.symm) hnil
  rw [← hzy] at hyc
  exact hyc

/-! ### An unchecked step -/

/-- `Source<T>`, `Stream<U> extends Source<U>`, `Lines implements Source<String>` and
`Reader<X> extends Lines implements Stream<String>`. -/
def reader : Registry where
  classes := #[some { name := objectName },
    some (classDef "String" [] (.raw ⟨0⟩) []),
    some (classDef "Integer" [] (.raw ⟨0⟩) []),
    some (interfaceDef "Source" [⟨0⟩] []),
    some (interfaceDef "Stream" [⟨1⟩] [.ofClass ⟨3⟩ [.var ⟨1⟩]]),
    some (classDef "Lines" [] (.raw ⟨0⟩) [.ofClass ⟨3⟩ [.raw ⟨1⟩]]),
    some (classDef "Reader" [⟨2⟩] (.raw ⟨5⟩) [.ofClass ⟨4⟩ [.raw ⟨1⟩]])]
  params := #[⟨"T", .ofClass ⟨3⟩, [.raw ⟨0⟩]⟩, ⟨"U", .ofClass ⟨4⟩, [.raw ⟨0⟩]⟩,
    ⟨"X", .ofClass ⟨6⟩, [.raw ⟨0⟩]⟩]
  names := [("Reader", ⟨6⟩), ("Lines", ⟨5⟩), ("Stream", ⟨4⟩), ("Source", ⟨3⟩), ("Integer", ⟨2⟩),
    ("String", ⟨1⟩), (objectName, ⟨0⟩)]
  object := ⟨0⟩

theorem acyclic_reader : reader.Acyclic := by decide +kernel

theorem supertypesClosed_reader : reader.SupertypesClosed := by decide +kernel

theorem coherent_reader : reader.Coherent :=
  coherent_of_forall_aboveOwn 5 (by decide +kernel)

/-- A `Reader<Integer>` is a stream of strings, which is a source of strings, and so it is one. -/
theorem assignable_trans_reader :
    Answers (fun n => reader.assignable? n (.app ⟨6⟩ [.raw ⟨2⟩] none) (.app ⟨3⟩ [.raw ⟨1⟩] none))
      true := by
  have hfound : reader.classView 3 ⟨4⟩ (⟨6⟩, [.raw ⟨2⟩]) = .found (⟨4⟩, [.raw ⟨1⟩]) := by
    decide +kernel
  have hview : Answers (reader.view · (.app ⟨6⟩ [.raw ⟨2⟩] none) ⟨4⟩)
      (some (.app ⟨4⟩ [.raw ⟨1⟩] none)) := answers_view rfl hfound
  refine assignable_trans acyclic_reader supertypesClosed_reader coherent_reader
    (b := .app ⟨4⟩ [.raw ⟨1⟩] none) rfl rfl rfl (.inr rfl) rfl rfl rfl (fun h => ?_)
    (answers_assignable? (n := 5) (by decide +kernel))
    (answers_assignable? (n := 5) (by decide +kernel))
  cases hview.unique h

/-- A raw `Reader` is accepted as a stream of integers, unchecked, and a stream of integers is a
source of integers. But a raw `Reader` is a source of strings, as any `Lines` are. -/
theorem not_assignable_trans_reader :
    (reader.Acyclic ∧ reader.SupertypesClosed ∧ reader.Coherent ∧
      reader.Saturated (⟨4⟩, [.raw ⟨2⟩]) ∧ reader.Saturated (⟨3⟩, [.raw ⟨2⟩])) ∧
    Answers (fun n => reader.assignable? n (.raw ⟨6⟩) (.app ⟨4⟩ [.raw ⟨2⟩] none)) true ∧
    Answers (fun n => reader.assignable? n (.app ⟨4⟩ [.raw ⟨2⟩] none) (.app ⟨3⟩ [.raw ⟨2⟩] none))
      true ∧
    Answers (fun n => reader.assignable? n (.raw ⟨6⟩) (.app ⟨3⟩ [.raw ⟨2⟩] none)) false :=
  ⟨⟨acyclic_reader, supertypesClosed_reader, coherent_reader, rfl, rfl⟩,
    answers_assignable? (n := 5) (by decide +kernel),
    answers_assignable? (n := 5) (by decide +kernel),
    answers_assignable? (n := 5) (by decide +kernel)⟩

end Registry

end Generics
