import Generics.Proofs.Assignability.Questions
import Generics.Proofs.Hierarchy.Acyclic
import Generics.Proofs.Registry.Bounded
import Generics.Proofs.TypeExpr.Depths
import Generics.Registry.Standard

/-!
# When assignability is always decided

On an acyclic hierarchy every walk to a view ends, so a question about assignability can only go on
for ever by asking further questions for ever. Following the bounds of a source variable uses up the
variable. Otherwise, as long as the sides stay, the target gets smaller, or it stays and the source
gets nearer to it. What is left are the turns at lower bounds: a turn takes a lower bound off the
target and puts it, as a source, in front of an argument of the old source. If the target has no
lower bound, there are no turns. If no declared supertype has one, a view has no more lower bounds
than the use it is a view of, and every turn takes one off both sides together.

With lower bounds in the target and in a declared supertype a question can come back to itself, on
an acyclic hierarchy too: `C`, which extends `N<N<? super C>>`, is assignable to `N<? super C>` if
and only if it is.

## Main definitions

* `Registry.SupertypesLowerFree` — no declared supertype has a lower bound
* `Registry.unseen` — how many variables have not been followed
* `Registry.detour` — a registry on which a question comes back to itself

## Main results

* `Registry.acc_of_potential` — no infinite chain of questions, from a bound on the turns
* `Registry.halts_assignable` — assignability is decided
* `Registry.undecided_detour` — and where it is not
-/

namespace Generics

namespace Registry

variable {reg : Registry}

/-! ### Without turns the questions get smaller -/

/-- The variables of the registry that are not among `seen`. -/
def unseen (reg : Registry) (seen : List VarId) : List Nat :=
  (List.range reg.params.size).filter fun i => VarId.mk i ∉ seen

/-- Only a declared variable has bounds. -/
theorem lt_size_of_mem_bounds {v : VarId} {b : TypeExpr} (hb : b ∈ reg.bounds v) :
    v.idx < reg.params.size := by
  cases hp : reg.typeParam? v with
  | none => simp [bounds, hp] at hb
  | some p => exact (Array.getElem?_eq_some_iff.1 hp).1

/-- Following a variable that has bounds leaves fewer to follow. -/
theorem length_unseen_cons_lt {seen : List VarId} {v : VarId} {b : TypeExpr} (hv : v ∉ seen)
    (hb : b ∈ reg.bounds v) : (reg.unseen (v :: seen)).length < (reg.unseen seen).length := by
  have hknown : v.idx < reg.params.size := lt_size_of_mem_bounds hb
  have hsplit : reg.unseen (v :: seen) =
      (reg.unseen seen).filter fun i => decide (VarId.mk i ≠ v) := by
    rw [unseen, unseen, List.filter_filter]
    refine List.filter_congr fun i _ => ?_
    rw [Bool.eq_iff_iff]
    simp [not_or]
  have hmem : v.idx ∈ reg.unseen seen :=
    List.mem_filter.2 ⟨List.mem_range.2 hknown, decide_eq_true hv⟩
  rw [hsplit, List.length_filter_lt_length_iff_exists]
  exact ⟨v.idx, hmem, by simp⟩

theorem Compares.height_lt {q : Question} {arg : TypeExpr} {us ls : List TypeExpr}
    (h : reg.Compares q arg us ls) {u : TypeExpr} (hu : u ∈ us) : u.height < q.target.height := by
  cases h with
  | whole => exact TypeExpr.height_lt_wildcard (.inl hu)
  | argument hs hview hmem =>
    have hinner : u.height < (TypeExpr.wildcard us ls).height :=
      TypeExpr.height_lt_wildcard (.inl hu)
    exact Nat.lt_trans hinner (TypeExpr.height_lt_app (List.of_mem_zip hmem).2)

/-- Upper bounds and arguments of the source lead to questions about a smaller target; bounds of a
variable use up the variable, and other upper bounds make the source smaller. -/
theorem Descends.smaller {q r : Question} (h : reg.Descends q r) :
    (reg.unseen r.seen).length < (reg.unseen q.seen).length ∨
      r.seen = q.seen ∧ (r.target.height < q.target.height ∨
        r.target = q.target ∧ r.source.height < q.source.height) := by
  cases h with
  | upper hc hu ha => exact .inr ⟨rfl, .inl (hc.height_lt hu)⟩
  | bound hv hb => exact .inl (length_unseen_cons_lt hv hb)
  | @sourceUpper seen us ls t b hb =>
    refine .inr ⟨rfl, .inr ⟨rfl, ?_⟩⟩
    show b.height < (TypeExpr.wildcard us ls).height
    rcases mem_orObject hb with rfl | hmem
    · exact Nat.succ_pos _
    · exact TypeExpr.height_lt_wildcard (.inl hmem)
  | component => exact .inr ⟨rfl, .inl (TypeExpr.height_lt_array _)⟩

/-- A turn follows no variable. -/
theorem Turns.seen_eq {q r : Question} (h : reg.Turns q r) : r.seen = q.seen := by
  cases h
  rfl

/-- **No infinite chain of questions,** if there is a number for every question that does not grow
unless a variable is used up, and that every turn makes smaller. -/
theorem acc_of_potential {I : Question → Prop} {P : Question → Nat}
    (hdescend : ∀ q r, I q → reg.Descends q r → I r ∧ (r.seen = q.seen → P r ≤ P q))
    (hturn : ∀ q r, I q → reg.Turns q r → I r ∧ P r < P q) {q : Question} (hq : I q) :
    Acc (fun r q => reg.Asks q r) q := by
  have hwf := InvImage.wf
    (fun q : Question => ((reg.unseen q.seen).length, P q, q.target.height, q.source.height))
    (Prod.lex Nat.lt_wfRel (Prod.lex Nat.lt_wfRel (Prod.lex Nat.lt_wfRel Nat.lt_wfRel))).wf
  induction q using hwf.induction with
  | h q ih =>
    refine .intro q fun r hr => ?_
    rcases hr with hr | hr
    · obtain ⟨hI, hP⟩ := hdescend q r hq hr
      refine ih r ?_ hI
      rcases hr.smaller with hseen | ⟨hseen, hrest⟩
      · exact .left _ _ hseen
      · show Prod.Lex _ _ ((reg.unseen r.seen).length, _) _
        rw [hseen]
        refine .right _ ?_
        rcases Nat.lt_or_eq_of_le (hP hseen) with hlt | heq
        · exact .left _ _ hlt
        · show Prod.Lex _ _ (P r, _) _
          rw [heq]
          refine .right _ ?_
          rcases hrest with htarget | ⟨htarget, hsource⟩
          · exact .left _ _ htarget
          · show Prod.Lex _ _ (r.target.height, _) _
            rw [htarget]
            exact .right _ hsource
    · obtain ⟨hI, hP⟩ := hturn q r hq hr
      refine ih r ?_ hI
      show Prod.Lex _ _ ((reg.unseen r.seen).length, _) _
      rw [hr.seen_eq]
      exact .right _ (.left _ _ hP)

/-! ### A bound on the turns -/

/-- No declared supertype has a wildcard with a lower bound outside owners. -/
def SupertypesLowerFree (reg : Registry) : Prop :=
  ∀ c d, reg.class? c = some d → ∀ t ∈ d.declaredSupertypes, t.lowerDepth = 0

instance (reg : Registry) : Decidable reg.SupertypesLowerFree :=
  decidable_of_iff (∀ c ∈ reg.tableIds, ∀ d ∈ reg.class? c, ∀ t ∈ d.declaredSupertypes,
      t.lowerDepth = 0)
    ⟨fun h c d hd => h c (mem_tableIds_of_class? hd) d hd, fun h c _ d hd => h c d hd⟩

theorem Compares.lowerDepth_le {q : Question} {arg : TypeExpr} {us ls : List TypeExpr}
    (h : reg.Compares q arg us ls) :
    (TypeExpr.wildcard us ls).lowerDepth ≤ q.target.lowerDepth := by
  cases h with
  | whole => exact Nat.le_refl _
  | argument hs hview hmem =>
    exact TypeExpr.lowerDepth_app_le_iff.1 (Nat.le_refl _) _ (List.of_mem_zip hmem).2

theorem Compares.lowerDepth_upper_le {q : Question} {arg : TypeExpr} {us ls : List TypeExpr}
    (h : reg.Compares q arg us ls) {u : TypeExpr} (hu : u ∈ us) :
    u.lowerDepth ≤ q.target.lowerDepth :=
  (TypeExpr.lowerDepth_wildcard_le_iff.1 h.lowerDepth_le).1 u hu

theorem Compares.lowerDepth_lower_lt {q : Question} {arg : TypeExpr} {us ls : List TypeExpr}
    (h : reg.Compares q arg us ls) {l : TypeExpr} (hl : l ∈ ls) :
    l.lowerDepth < q.target.lowerDepth :=
  (TypeExpr.lowerDepth_wildcard_le_iff.1 h.lowerDepth_le).2 l hl

/-- A target without lower bounds is never turned, and its parts have none either. -/
theorem acc_of_target {q : Question} (hq : q.target.lowerDepth = 0) :
    Acc (fun r q => reg.Asks q r) q := by
  refine acc_of_potential (I := fun q => q.target.lowerDepth = 0) (P := fun _ => 0) ?_ ?_ hq
  · intro q r hzero h
    refine ⟨?_, fun _ => Nat.le_refl 0⟩
    cases h with
    | upper hc hu ha => exact Nat.le_zero.1 (hzero ▸ hc.lowerDepth_upper_le hu)
    | bound hv hb => exact hzero
    | sourceUpper hb => exact hzero
    | component => exact hzero
  · intro q r hzero h
    cases h with
    | lower hc hl ha =>
      have hlt := hc.lowerDepth_lower_lt hl
      omega

/-- The arguments of a use have no more lower bounds than the use. -/
theorem lowerDepth_le_of_use? {t : TypeExpr} {u : Use} (ht : t.use? = some u) :
    ∀ a ∈ u.2, a.lowerDepth ≤ t.lowerDepth := by
  intro a ha
  cases t with
  | raw c =>
    obtain rfl := Option.some.inj ht
    exact absurd ha List.not_mem_nil
  | app c args owner =>
    obtain rfl := Option.some.inj ht
    exact TypeExpr.lowerDepth_app_le_iff.1 (Nat.le_refl _) a ha
  | wildcard us ls => cases ht
  | var v => cases ht
  | array elem => cases ht

/-- Going up to a supertype brings in no lower bounds. -/
theorem SupertypesLowerFree.of_superUses (hL : reg.SupertypesLowerFree) {u w : Use} {k : Nat}
    (hu : ∀ a ∈ u.2, a.lowerDepth ≤ k) (h : w ∈ reg.superUses u) :
    ∀ a ∈ w.2, a.lowerDepth ≤ k := by
  obtain ⟨t, ht, ⟨-, -, hnil⟩ | ⟨-, hw⟩⟩ := superUses_cases h
  · rw [hnil]
    exact fun a ha => absurd ha List.not_mem_nil
  · have hfree : t.lowerDepth = 0 := by
      obtain ⟨d', hd', hdecl | rfl⟩ := exists_declared_of_mem_supertypes ht
      · exact hL u.1 d' hd' t hdecl
      · rfl
    intro a ha
    exact Nat.le_trans (lowerDepth_le_of_use? hw a ha)
      (TypeExpr.lowerDepth_substitute_ofFormals_le hfree hu)

/-- A view has no more lower bounds than the use it is a view of. -/
theorem SupertypesLowerFree.of_classView (hL : reg.SupertypesLowerFree) {rounds : Nat} {c : ClassId}
    {u w : Use} (h : reg.classView rounds c u = .found w) {k : Nat}
    (hu : ∀ a ∈ u.2, a.lowerDepth ≤ k) : ∀ a ∈ w.2, a.lowerDepth ≤ k := by
  obtain ⟨-, b, hb, hreach⟩ := Search.reaches_of_find h
  obtain rfl := List.mem_singleton.1 hb
  clear h
  induction hreach with
  | refl => exact hu
  | tail _ hstep ih => exact hL.of_superUses ih hstep

theorem Compares.lowerDepth_arg_le (hL : reg.SupertypesLowerFree) {q : Question} {arg : TypeExpr}
    {us ls : List TypeExpr} (h : reg.Compares q arg us ls) :
    arg.lowerDepth ≤ q.source.lowerDepth := by
  cases h with
  | whole => exact Nat.le_refl _
  | @argument seen s u w c rounds targets owner arg us ls hs hview hmem =>
    exact hL.of_classView hview (lowerDepth_le_of_use? hs) arg (List.of_mem_zip hmem).1

theorem lowerDepth_orObject_le {us ls : List TypeExpr} {b : TypeExpr} (h : b ∈ reg.orObject us) :
    b.lowerDepth ≤ (TypeExpr.wildcard us ls).lowerDepth := by
  rcases mem_orObject h with rfl | hmem
  · exact Nat.zero_le _
  · exact (TypeExpr.lowerDepth_wildcard_le_iff.1 (Nat.le_refl _)).1 b hmem

/-- What an argument is compared by has no more lower bounds than the argument. -/
theorem lowerDepth_argumentBounds_le {arg a : TypeExpr}
    (h : a ∈ (reg.argumentBounds arg).1 ∨ a ∈ (reg.argumentBounds arg).2) :
    a.lowerDepth ≤ arg.lowerDepth := by
  cases arg with
  | wildcard us ls =>
    rcases h with h | h
    · exact lowerDepth_orObject_le h
    · exact Nat.le_of_lt ((TypeExpr.lowerDepth_wildcard_le_iff.1 (Nat.le_refl _)).2 a h)
  | _ =>
    rcases h with h | h
    · exact Nat.le_of_eq (congrArg _ (List.mem_singleton.1 h))
    · exact Nat.le_of_eq (congrArg _ (List.mem_singleton.1 h))

/-- If no supertype has lower bounds, a turn takes one off both sides together. -/
theorem acc_of_supertypes (hL : reg.SupertypesLowerFree) (q : Question) :
    Acc (fun r q => reg.Asks q r) q := by
  refine acc_of_potential (I := fun _ => True)
    (P := fun q => q.source.lowerDepth + q.target.lowerDepth) ?_ ?_ trivial
  · intro q r _ h
    refine ⟨trivial, fun hseen => ?_⟩
    cases h with
    | upper hc hu ha =>
      have hsource :=
        Nat.le_trans (lowerDepth_argumentBounds_le (.inl ha)) (hc.lowerDepth_arg_le hL)
      exact Nat.add_le_add hsource (hc.lowerDepth_upper_le hu)
    | bound hv hb => exact absurd hseen (List.cons_ne_self _ _)
    | sourceUpper hb => exact Nat.add_le_add_right (lowerDepth_orObject_le hb) _
    | component => exact Nat.le_refl _
  · intro q r _ h
    refine ⟨trivial, ?_⟩
    cases h with
    | lower hc hl ha =>
      have hsource :=
        Nat.le_trans (lowerDepth_argumentBounds_le (.inr ha)) (hc.lowerDepth_arg_le hL)
      have htarget := hc.lowerDepth_lower_lt hl
      -- the lower bound is the new source, so the two sides have changed places
      exact Nat.lt_of_lt_of_eq (Nat.add_lt_add_of_lt_of_le htarget hsource) (Nat.add_comm _ _)

/-! ### Deciding assignability -/

/-- **Assignability is decided** on every acyclic hierarchy of classes if lower bounds occur on one
side only: not in the target, or in no declared supertype. -/
theorem halts_assignable (hA : reg.Acyclic) (hN : reg.SupertypesNominal) {source target : TypeExpr}
    (h : target.lowerDepth = 0 ∨ reg.SupertypesLowerFree) :
    Halts fun n => reg.assignable? n source target := by
  refine halts_of_acc (fun c u => hA.not_endless hN c u) (q := ⟨[], source, target⟩) ?_
  rcases h with h | h
  · exact acc_of_target h
  · exact acc_of_supertypes h _

/-- On the standard registry, whether the variable of `sort` is assignable to
`Comparable<? super T>`, which is its own bound. -/
theorem halts_assignable_standard :
    standard.Acyclic ∧ standard.SupertypesNominal ∧ standard.SupertypesLowerFree ∧
      Halts fun n => standard.assignable? n (.var ⟨12⟩)
        (.app ⟨4⟩ [.superOf (.var ⟨12⟩)] none) := by
  have hA : standard.Acyclic := by decide +kernel
  have hN : standard.SupertypesNominal := by decide +kernel
  have hL : standard.SupertypesLowerFree := by decide +kernel
  exact ⟨hA, hN, hL, halts_assignable hA hN (.inr hL)⟩

/-! ### A question that comes back to itself

`C` has many supertypes `Y<_>`, each of these many `Z<_, _>`, and each of those extends
`N<N<? super C>>`. The detour over `Y` and `Z` makes every walk to the view long, and nothing else.
-/

/-- The use of `N` with everything above `C`. -/
def aboveC : TypeExpr := .app ⟨1⟩ [.superOf (.raw ⟨4⟩)] none

/-- The class `Z<A, B>`. -/
def zDef : ClassDef :=
  { name := "Z", typeParams := [⟨1⟩, ⟨2⟩], superclass := some (.app ⟨1⟩ [aboveC] none) }

/-- The class `Y<X>`, with the given number of supertypes. -/
def yDef (width : Nat) : ClassDef :=
  { name := "Y", typeParams := [⟨3⟩],
    interfaces := (List.range width).map fun i => .app ⟨2⟩ [.var ⟨3⟩, .raw ⟨10 + i⟩] none }

/-- The class `C`, with the given number of supertypes. -/
def cDef (width : Nat) : ClassDef :=
  { name := "C", interfaces := (List.range width).map fun i => .app ⟨3⟩ [.raw ⟨10 + i⟩] none }

/-- The names and the type parameters of the four classes. -/
def detourNames : Registry :=
  (((((((initial.intern "N").2.intern "Z").2.intern "Y").2.intern "C").2.addTypeParam "T"
    (.ofClass ⟨1⟩) []).2.addTypeParam "A" (.ofClass ⟨2⟩) []).2.addTypeParam "B"
      (.ofClass ⟨2⟩) []).2.addTypeParam "X" (.ofClass ⟨3⟩) [] |>.2

/-- The registry of `N<T>`, `Z<A, B>`, `Y<X>` and `C`. -/
def detour (width : Nat) : Registry :=
  (((detourNames.define ⟨1⟩ { name := "N", typeParams := [⟨0⟩] }).define ⟨2⟩ zDef).define ⟨3⟩
    (yDef width)).define ⟨4⟩ (cDef width)

section Detour

variable (width : Nat)

theorem built_detour : (detour width).Built :=
  .define _ _ (.define _ _ (.define _ _ (.define _ _ (.addTypeParam _ _ _ (.addTypeParam _ _ _
    (.addTypeParam _ _ _ (.addTypeParam _ _ _ (.intern _ (.intern _ (.intern _ (.intern _
      .initial)))))))))))

/-- What lies directly above the four classes; all others have no supertypes. -/
theorem supertypes_detour (c : ClassId) : (detour width).supertypes c =
    if c = ⟨4⟩ then (cDef width).interfaces else if c = ⟨3⟩ then (yDef width).interfaces
    else if c = ⟨2⟩ then [.app ⟨1⟩ [aboveC] none] else [] := by
  have hclass : (detour width).class? c = if c = ⟨4⟩ then some (cDef width)
      else if c = ⟨3⟩ then some (yDef width) else if c = ⟨2⟩ then some zDef
      else if c = ⟨1⟩ then some { name := "N", typeParams := [⟨0⟩] } else initial.class? c := by
    simp only [detour, detourNames, class?_define, class?_addTypeParam, class?_intern]
  have hinitial : ∀ d, initial.class? c = some d → d = { name := objectName } := by
    intro d hd
    have hlt : c.idx < 1 := lt_size_of_class? hd
    obtain rfl : c = ⟨0⟩ := ClassId.idx_injective (by show c.idx = 0; omega)
    exact (Option.some.inj hd).symm
  rw [supertypes, hclass]
  by_cases h4 : c = ⟨4⟩
  · rw [if_pos h4, if_pos h4]
    rfl
  by_cases h3 : c = ⟨3⟩
  · rw [if_neg h4, if_neg h4, if_pos h3, if_pos h3]
    rfl
  by_cases h2 : c = ⟨2⟩
  · rw [if_neg h4, if_neg h4, if_neg h3, if_neg h3, if_pos h2, if_pos h2]
    rfl
  rw [if_neg h4, if_neg h4, if_neg h3, if_neg h3, if_neg h2, if_neg h2]
  by_cases h1 : c = ⟨1⟩
  · rw [if_pos h1]
    rfl
  · rw [if_neg h1]
    cases hd : initial.class? c with
    | none => rfl
    | some d =>
      obtain rfl := hinitial d hd
      rfl

theorem mem_supertypes_detour {c : ClassId} {t : TypeExpr}
    (h : t ∈ (detour width).supertypes c) :
    (c = ⟨4⟩ ∧ ∃ i, t = .app ⟨3⟩ [.raw ⟨10 + i⟩] none) ∨
      (c = ⟨3⟩ ∧ ∃ i, t = .app ⟨2⟩ [.var ⟨3⟩, .raw ⟨10 + i⟩] none) ∨
      (c = ⟨2⟩ ∧ t = .app ⟨1⟩ [aboveC] none) := by
  rw [supertypes_detour] at h
  split at h
  · rename_i hc
    obtain ⟨i, -, rfl⟩ := List.mem_map.1 h
    exact .inl ⟨hc, i, rfl⟩
  · split at h
    · rename_i hc
      obtain ⟨i, -, rfl⟩ := List.mem_map.1 h
      exact .inr (.inl ⟨hc, i, rfl⟩)
    · split at h
      · rename_i hc
        exact .inr (.inr ⟨hc, List.mem_singleton.1 h⟩)
      · cases h

theorem acyclic_detour : (detour width).Acyclic := by
  refine acyclic_of_lt fun c d hd => ?_
  obtain ⟨t, ht, hd⟩ := List.mem_filterMap.1 hd
  rcases mem_supertypes_detour width ht with ⟨rfl, i, rfl⟩ | ⟨rfl, i, rfl⟩ | ⟨rfl, rfl⟩
  · obtain rfl := Option.some.inj hd
    show 3 < 4
    omega
  · obtain rfl := Option.some.inj hd
    show 2 < 3
    omega
  · obtain rfl := Option.some.inj hd
    show 1 < 2
    omega

theorem supertypesNominal_detour : (detour width).SupertypesNominal := by
  intro c d hd t ht
  have hmem : t ∈ (detour width).supertypes c := by
    rw [supertypes, hd]
    show t ∈ ite _ _ _
    split
    · exact List.mem_append_left _ ht
    · exact ht
  rcases mem_supertypes_detour width hmem with ⟨-, i, rfl⟩ | ⟨-, i, rfl⟩ | ⟨-, rfl⟩ <;> rfl

/-- What the walk from `C` meets: `C` itself, and uses with arguments, that of `N` always the same.
-/
def OnDetour (u : Use) : Prop := u = (⟨4⟩, []) ∨ u.2 ≠ [] ∧ (u.1 = ⟨1⟩ → u = (⟨1⟩, [aboveC]))

theorem OnDetour.step {u w : Use} (hu : OnDetour u) (h : w ∈ (detour width).superUses u) :
    OnDetour w := by
  obtain ⟨t, ht, ⟨⟨hnil, hgeneric⟩, -⟩ | ⟨-, hw⟩⟩ := superUses_cases h
  · -- of the uses on the way only `C` is raw, and it has no type parameters
    rcases hu with rfl | ⟨hne, -⟩
    · have hC : (detour width).class? ⟨4⟩ = some (cDef width) := by
        rw [detour, class?_define, if_pos rfl]
      rw [formals_of_class? hC] at hgeneric
      exact absurd rfl hgeneric
    · exact absurd hnil hne
  · rcases mem_supertypes_detour width ht with ⟨-, i, rfl⟩ | ⟨-, i, rfl⟩ | ⟨-, rfl⟩
    · rw [TypeExpr.substitute_app] at hw
      obtain rfl := Option.some.inj hw
      refine .inr ⟨List.cons_ne_nil _ _, fun he => ?_⟩
      cases he
    · rw [TypeExpr.substitute_app] at hw
      obtain rfl := Option.some.inj hw
      refine .inr ⟨List.cons_ne_nil _ _, fun he => ?_⟩
      cases he
    · have hsame : aboveC.substitute (.ofFormals ((detour width).formals u.1) u.2) = aboveC :=
        TypeExpr.substitute_of_not_hasVars _ rfl
      rw [TypeExpr.substitute_app, List.map_singleton, hsame] at hw
      obtain rfl := Option.some.inj hw
      exact .inr ⟨List.cons_ne_nil _ _, fun _ => rfl⟩

/-- If the walk from `C` to `N` ends, it ends with `N<N<? super C>>`. -/
theorem classView_detour {width : Nat} (hwidth : 0 < width) (rounds : Nat) :
    (detour width).classView rounds ⟨1⟩ (⟨4⟩, []) = .unfinished ∨
      (detour width).classView rounds ⟨1⟩ (⟨4⟩, []) = .found (⟨1⟩, [aboveC]) := by
  have hC : ⟨3⟩ ∈ (detour width).superclasses ⟨4⟩ := by
    refine List.mem_filterMap.2 ⟨.app ⟨3⟩ [.raw ⟨10⟩] none, ?_, rfl⟩
    exact List.mem_map.2 ⟨0, List.mem_range.2 hwidth, rfl⟩
  have hY : ⟨2⟩ ∈ (detour width).superclasses ⟨3⟩ := by
    refine List.mem_filterMap.2 ⟨.app ⟨2⟩ [.var ⟨3⟩, .raw ⟨10⟩] none, ?_, rfl⟩
    exact List.mem_map.2 ⟨0, List.mem_range.2 hwidth, rfl⟩
  have hZ : ⟨1⟩ ∈ (detour width).superclasses ⟨2⟩ := List.mem_cons_self
  have hbelow : (detour width).LiesBelow ⟨4⟩ ⟨1⟩ := .head hC (.head hY (.single hZ))
  cases hview : (detour width).classView rounds ⟨1⟩ (⟨4⟩, []) with
  | unfinished => exact .inl rfl
  | absent => exact absurd hview (classView_ne_absent hbelow [] rounds)
  | found w =>
    obtain ⟨hw, b, hb, hreach⟩ := Search.reaches_of_find hview
    obtain rfl := List.mem_singleton.1 hb
    have hon : OnDetour w := by
      clear hw hview
      induction hreach with
      | refl => exact .inl rfl
      | tail _ hstep ih => exact ih.step width hstep
    have hN : w.1 = ⟨1⟩ := by simpa using hw
    rcases hon with rfl | ⟨-, hon⟩
    · cases hN
    · exact .inr (congrArg _ (hon hN))

/-- `C` is assignable to `N<? super C>` if it is, and there is no other reason. -/
theorem assignable?_detour {width : Nat} (hwidth : 0 < width) (n : Nat) :
    (detour width).assignable? n (.raw ⟨4⟩) aboveC = none := by
  induction n with
  | zero => rfl
  | succ n ih =>
    show (detour width).assignableStep ((detour width).assignableFrom n) n [] (.raw ⟨4⟩) aboveC =
      none
    have hne : TypeExpr.raw ⟨4⟩ ≠ .app ⟨1⟩ [.superOf (.raw ⟨4⟩)] none := fun he => nomatch he
    have hagain : (detour width).assignableFrom n [] (.raw ⟨4⟩) aboveC = none := ih
    rw [aboveC, assignableStep_of_use? (u := (⟨4⟩, [])) rfl hne]
    rcases classView_detour hwidth n with hview | hview
    · rw [hview]
      rfl
    · have hcontained : (detour width).contained ((detour width).assignableFrom n []) aboveC []
          [.raw ⟨4⟩] = none := by
        rw [contained]
        show ([TypeExpr.raw ⟨4⟩].allM fun l => [aboveC].anyM fun a =>
          (detour width).assignableFrom n [] l a).bind _ = none
        rw [List.allM_cons, List.anyM_cons, hagain]
        rfl
      have hfits : (detour width).argumentFits ((detour width).assignableFrom n []) aboveC
          (.superOf (.raw ⟨4⟩)) = none := hcontained
      rw [hview]
      show (detour width).argumentsFit _ [aboveC] [.superOf (.raw ⟨4⟩)] = none
      have hlength : [aboveC].length = [TypeExpr.superOf (.raw ⟨4⟩)].length := rfl
      rw [argumentsFit, if_pos hlength, List.zip_cons_cons, List.allM_cons, hfits]
      rfl

end Detour

/-- **A question that is never answered.** The hierarchy is acyclic and made of classes only, and
yet no budget decides whether `C` is assignable to `N<? super C>`. -/
theorem undecided_detour :
    (detour 400).Built ∧ (detour 400).Acyclic ∧ (detour 400).SupertypesNominal ∧
      ∀ n, (detour 400).assignable? n (.raw ⟨4⟩) (.app ⟨1⟩ [.superOf (.raw ⟨4⟩)] none) = none :=
  ⟨built_detour 400, acyclic_detour 400, supertypesNominal_detour 400,
    assignable?_detour (by omega)⟩

end Registry

end Generics
