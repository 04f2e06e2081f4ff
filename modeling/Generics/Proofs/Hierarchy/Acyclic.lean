import Generics.Proofs.Hierarchy.ViewWalk

/-!
# Acyclic class hierarchies

Where no class lies strictly below itself, every walk upwards comes to an end: not only the walk
over classes, which ends on every registry, but also the one that carries arguments along, however
much these grow on the way. Only finitely many classes lead anywhere, so a class has more of them
above it than any of its superclasses has, and this number bounds the walk.

## Main definitions

* `Search.Shallow` — all paths from a node are short
* `Registry.Acyclic`

## Main results

* `Search.find_of_shallow` — a search among shallow nodes is finished
* `Registry.acyclic_of_lt` — a hierarchy where supertypes have smaller numbers
* `Registry.Acyclic.wellFounded`, `Registry.Acyclic.not_endless`
* `Registry.Acyclic.exists_answers_view` — the view of a use exists for the classes that it leads to
-/

namespace Generics

namespace Search

variable {α κ : Type} [DecidableEq κ] {next : α → List α}

/-- Every path from the node has at most the given number of nodes. -/
def Shallow (next : α → List α) : Nat → α → Prop
  | 0, _ => False
  | n + 1, a => ∀ b ∈ next a, Shallow next n b

theorem Shallow.mono {n m : Nat} (hnm : n ≤ m) {a : α} (h : Shallow next n a) :
    Shallow next m a := by
  induction n generalizing m a with
  | zero => exact h.elim
  | succ n ih =>
    obtain ⟨k, rfl⟩ : ∃ k, m = k + 1 := ⟨m - 1, by omega⟩
    intro b hb
    exact ih (by omega) (h b hb)

/-- Where there is no infinite path, every path is short: a node has only finitely many successors.
-/
theorem exists_shallow_of_acc {a : α} (h : Acc (fun b a => b ∈ next a) a) :
    ∃ n, Shallow next n a := by
  induction h with
  | intro a _ ih =>
    have hcommon : ∀ bs : List α, (∀ b ∈ bs, ∃ n, Shallow next n b) →
        ∃ n, ∀ b ∈ bs, Shallow next n b := by
      intro bs hbs
      induction bs with
      | nil => exact ⟨0, fun b hb => absurd hb List.not_mem_nil⟩
      | cons b bs ih =>
        obtain ⟨n, hn⟩ := hbs b List.mem_cons_self
        obtain ⟨m, hm⟩ := ih fun c hc => hbs c (List.mem_cons_of_mem _ hc)
        refine ⟨max n m, fun c hc => ?_⟩
        rcases List.mem_cons.1 hc with rfl | hc
        · exact hn.mono (by omega)
        · exact (hm c hc).mono (by omega)
    obtain ⟨n, hn⟩ := hcommon (next a) ih
    exact ⟨n + 1, hn⟩

/-- A search among shallow nodes is finished after one round for each level and one more. -/
theorem find_of_shallow {key : α → κ} {p : α → Bool} {n : Nat} {seen : List κ} {layer : List α}
    (h : ∀ a ∈ layer, Shallow next n a) : find next key p (n + 1) seen layer ≠ .unfinished := by
  induction n generalizing seen layer with
  | zero =>
    have hnil : layer = [] := List.eq_nil_iff_forall_not_mem.2 fun a ha => h a ha
    subst hnil
    intro he
    cases he
  | succ n ih =>
    rw [find]
    cases (fresh key seen layer).find? p with
    | some a =>
      intro he
      cases he
    | none =>
      show (if (fresh key seen layer).isEmpty then Outcome.absent else _) ≠ Outcome.unfinished
      split
      · intro he
        cases he
      · refine ih fun b hb => ?_
        obtain ⟨a, ha, hab⟩ := List.mem_flatMap.1 hb
        exact h a (mem_fresh ha).1 b hab

end Search

namespace Registry

variable {reg : Registry}

/-- No class lies strictly below itself. -/
def Acyclic (reg : Registry) : Prop := ∀ c d, d ∈ reg.superclasses c → ¬ reg.LiesBelow d c

/-- A hierarchy in which every class has a larger number than its superclasses is acyclic. -/
theorem acyclic_of_lt (h : ∀ c, ∀ d ∈ reg.superclasses c, d.idx < c.idx) : reg.Acyclic := by
  have hle : ∀ {c d}, reg.LiesBelow c d → d.idx ≤ c.idx := by
    intro c d hcd
    induction hcd with
    | refl => exact Nat.le_refl _
    | tail _ hstep ih => exact Nat.le_trans (Nat.le_of_lt (h _ _ hstep)) ih
  intro c d hd hdc
  have hlt : d.idx < c.idx := h c d hd
  have hge : c.idx ≤ d.idx := hle hdc
  omega

/-- How many classes of the table a class leads to. -/
def height (reg : Registry) (c : ClassId) : Nat :=
  (reg.tableIds.filter fun d => (reg.ancestors c).contains d).length

/-- A superclass leads to fewer classes. -/
theorem Acyclic.height_lt (hA : reg.Acyclic) {c d : ClassId} (h : d ∈ reg.superclasses c) :
    reg.height d < reg.height c :=
  Search.spread_lt (fun _ => mem_tableIds_of_superclasses_ne_nil) reg.length_tableIds_lt_rounds h
    (hA c d h)

/-- There is no infinite way up. -/
theorem Acyclic.wellFounded (hA : reg.Acyclic) :
    WellFounded fun d c => d ∈ reg.superclasses c :=
  Subrelation.wf (fun h => hA.height_lt h) (measure reg.height).wf

/-- **Every walk to a view comes to an end,** whatever the arguments are. -/
theorem Acyclic.not_endless (hA : reg.Acyclic) (hN : reg.SupertypesNominal) (target : ClassId)
    (u : Use) : ¬ reg.Endless target u := by
  have hwf : WellFounded fun w u : Use => w ∈ reg.superUses u :=
    Subrelation.wf (fun h => mem_superclasses_of_mem_superUses hN h)
      (InvImage.wf Prod.fst hA.wellFounded)
  obtain ⟨n, hn⟩ := Search.exists_shallow_of_acc (hwf.apply u)
  intro hend
  refine Search.find_of_shallow (fun w hw => ?_) (hend (n + 1))
  rw [List.mem_singleton.1 hw]
  exact hn

/-- **On an acyclic hierarchy a use has a view as the classes that its class leads to,** and is
known to have none as any other class. -/
theorem Acyclic.exists_answers_view (hA : reg.Acyclic) (hN : reg.SupertypesNominal)
    {s : TypeExpr} {u : Use} (hs : s.use? = some u) (t : ClassId) :
    ∃ r, Answers (reg.view · s t) r ∧ (r.isSome = true ↔ reg.LiesBelow u.1 t) := by
  obtain ⟨r, hr⟩ := exists_answers_of_not_endless (hA.not_endless hN t u)
  have hview : Answers (reg.view · s t) r := by
    simp only [view_of_use? hs]
    exact hr
  refine ⟨r, hview, ?_⟩
  cases r with
  | none => exact iff_of_false Bool.false_ne_true (not_liesBelow_of_answers hr)
  | some v =>
    obtain ⟨rounds, w, hw, -⟩ := exists_found_of_answers hr
    exact iff_of_true rfl (liesBelow_of_classView hN hw).1

/-! ### Deciding it -/

theorem mem_tableIds_of_class? {c : ClassId} {d : ClassDef} (h : reg.class? c = some d) :
    c ∈ reg.tableIds :=
  List.mem_map.2 ⟨c.idx, List.mem_range.2 (lt_size_of_class? h), rfl⟩

instance (reg : Registry) : Decidable reg.SupertypesNominal :=
  decidable_of_iff (∀ c ∈ reg.tableIds, ∀ d ∈ reg.class? c, ∀ t ∈ d.declaredSupertypes,
      t.classId?.isSome = true)
    ⟨fun h c d hd => h c (mem_tableIds_of_class? hd) d hd, fun h c _ d hd => h c d hd⟩

instance (reg : Registry) : Decidable reg.Acyclic :=
  decidable_of_iff (∀ c ∈ reg.tableIds, ∀ d ∈ reg.superclasses c, c ∉ reg.ancestors d)
    ⟨fun h c d hd hdc => h c (mem_tableIds_of_superclasses_ne_nil (List.ne_nil_of_mem hd)) d hd
      (mem_ancestors_iff.2 hdc), fun h c _ d hd hdc => h c d hd (mem_ancestors_iff.1 hdc)⟩

end Registry

end Generics
