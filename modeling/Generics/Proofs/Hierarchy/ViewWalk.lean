import Generics.Hierarchy.View
import Generics.Proofs.Hierarchy.Subclassing
import Generics.Proofs.PartialAnswers
import Mathlib.Data.List.Basic

/-!
# Views follow the class hierarchy

The walk to a view carries arguments along, the walk over classes does not. Where every declared
supertype is a use of a class, each step of the first is a step of the second. In the other
direction no condition is needed: whatever the arguments, a class that lies above is found, and
since the walk goes layer by layer it is found after finitely many rounds even where the walk itself
has no end.

## Main definitions

* `Registry.stepTo` — the use that a supertype becomes above a use of its class
* `Registry.Endless` — the walk from a use to a class never ends

## Main results

* `Registry.mem_superUses_iff`, `Registry.superUses_cases` — all that a step up can be
* `Registry.liesBelow_of_classView` — a view exists only above
* `Registry.classView_of_liesBelow` — and there it is found
* `Registry.view_refines` — more rounds never lose a view, for every shape of type
* `Registry.halts_view` — every shape of type has one, or has none, where no walk is endless
-/

namespace Generics

namespace Registry

variable {reg : Registry}

/-! ### Steps with and without arguments -/

/-- What a supertype of its class becomes above a use: the arguments stand for the formals, or the
bare class is left if there are formals and no arguments. -/
def stepTo (reg : Registry) (u : Use) (t : TypeExpr) : Option Use :=
  if u.2 = [] ∧ reg.formals u.1 ≠ [] then t.classId?.map fun c => (c, [])
  else (t.substitute (.ofFormals (reg.formals u.1) u.2)).use?

/-- There is one step for each supertype, except those that become no use of a class. -/
theorem superUses_eq_filterMap (u : Use) :
    reg.superUses u = (reg.supertypes u.1).filterMap (reg.stepTo u) := by
  rw [superUses]
  cases hd : reg.class? u.1 with
  | none =>
    rw [supertypes_of_not_defined hd]
    rfl
  | some d =>
    have hraw : (u.2.isEmpty && d.isGeneric) = true ↔ u.2 = [] ∧ reg.formals u.1 ≠ [] := by
      rw [Bool.and_eq_true, List.isEmpty_iff, formals_of_class? hd, ClassDef.isGeneric,
        Bool.not_eq_true', List.isEmpty_eq_false_iff]
    by_cases h : u.2 = [] ∧ reg.formals u.1 ≠ []
    · simp only [if_pos (hraw.2 h), superclasses, List.map_filterMap]
      exact List.filterMap_congr fun t _ => (if_pos h).symm
    · simp only [if_neg (mt hraw.1 h)]
      refine List.filterMap_congr fun t _ => ?_
      rw [← formals_of_class? hd]
      exact (if_neg h).symm

theorem mem_superUses_iff {u w : Use} :
    w ∈ reg.superUses u ↔ ∃ t ∈ reg.supertypes u.1, reg.stepTo u t = some w := by
  rw [superUses_eq_filterMap, List.mem_filterMap]

/-- **What a step up is:** the bare class of a supertype if there are formals and no arguments, or
else the use that the supertype becomes. -/
theorem superUses_cases {u w : Use} (h : w ∈ reg.superUses u) :
    ∃ t ∈ reg.supertypes u.1,
      (u.2 = [] ∧ reg.formals u.1 ≠ []) ∧ t.classId? = some w.1 ∧ w.2 = [] ∨
      ¬ (u.2 = [] ∧ reg.formals u.1 ≠ []) ∧
        (t.substitute (.ofFormals (reg.formals u.1) u.2)).use? = some w := by
  obtain ⟨t, ht, hw⟩ := mem_superUses_iff.1 h
  refine ⟨t, ht, ?_⟩
  rw [stepTo] at hw
  split at hw
  · rename_i hraw
    obtain ⟨c, hc, rfl⟩ := Option.map_eq_some_iff.1 hw
    exact Or.inl ⟨hraw, hc, rfl⟩
  · rename_i hraw
    exact Or.inr ⟨hraw, hw⟩

/-- The use of a class that a supertype becomes under a substitution is a use of the same class. -/
theorem use?_substitute {t : TypeExpr} {c : ClassId} (h : t.classId? = some c) (σ : Substitution) :
    ∃ args, (t.substitute σ).use? = some (c, args) := by
  cases t with
  | raw d =>
    obtain rfl : d = c := Option.some.inj h
    exact ⟨[], rfl⟩
  | app d args owner =>
    obtain rfl : d = c := Option.some.inj h
    exact ⟨args.map (TypeExpr.substitute σ), by rw [TypeExpr.substitute_app]; rfl⟩
  | _ => cases h

/-- A step of the walk with arguments is a step of the walk over classes. -/
theorem mem_superclasses_of_mem_superUses (hN : reg.SupertypesNominal) {u w : Use}
    (h : w ∈ reg.superUses u) : w.1 ∈ reg.superclasses u.1 := by
  obtain ⟨t, ht, ⟨-, hc, -⟩ | ⟨-, hw⟩⟩ := superUses_cases h
  · exact List.mem_filterMap.2 ⟨t, ht, hc⟩
  · obtain ⟨c, hc⟩ := hN.classId? ht
    obtain ⟨args, hargs⟩ := use?_substitute hc _
    obtain rfl : (c, args) = w := Option.some.inj (hargs.symm.trans hw)
    exact List.mem_filterMap.2 ⟨t, ht, hc⟩

/-- A step of the walk over classes can be taken with any arguments. -/
theorem exists_mem_superUses {c d : ClassId} (h : d ∈ reg.superclasses c) (args : List TypeExpr) :
    ∃ args', (d, args') ∈ reg.superUses (c, args) := by
  obtain ⟨t, ht, hd⟩ := List.mem_filterMap.1 h
  by_cases hraw : args = [] ∧ reg.formals c ≠ []
  · refine ⟨[], mem_superUses_iff.2 ⟨t, ht, ?_⟩⟩
    rw [stepTo, if_pos hraw, hd]
    rfl
  · obtain ⟨args', hargs⟩ := use?_substitute hd (.ofFormals (reg.formals c) args)
    exact ⟨args', mem_superUses_iff.2 ⟨t, ht, (if_neg hraw).trans hargs⟩⟩

theorem liesBelow_of_reaches (hN : reg.SupertypesNominal) {u w : Use}
    (h : Search.Reaches reg.superUses u w) : reg.LiesBelow u.1 w.1 := by
  induction h with
  | refl => exact .refl
  | tail _ hstep ih => exact .tail ih (mem_superclasses_of_mem_superUses hN hstep)

theorem exists_within_superUses {k : Nat} {c d : ClassId}
    (h : Search.Within reg.superclasses k c d) (args : List TypeExpr) :
    ∃ args', Search.Within reg.superUses k (c, args) (d, args') := by
  induction k generalizing c args with
  | zero =>
    obtain rfl : c = d := h
    exact ⟨args, rfl⟩
  | succ k ih =>
    rcases h with rfl | ⟨e, he, hed⟩
    · exact ⟨args, Or.inl rfl⟩
    · obtain ⟨brgs, hb⟩ := exists_mem_superUses he args
      obtain ⟨args', hargs⟩ := ih hed brgs
      exact ⟨args', Or.inr ⟨(e, brgs), hb, hargs⟩⟩

/-! ### Finding a view -/

/-- The view of a use of a class is found by the walk from that use. -/
theorem view_of_use? {s : TypeExpr} {u : Use} (h : s.use? = some u) (rounds : Nat)
    (target : ClassId) :
    reg.view rounds s target = answer (reg.classView rounds target u) := by
  cases s with
  | raw c => exact Option.some.inj h ▸ rfl
  | app c args owner => exact Option.some.inj h ▸ rfl
  | _ => cases h

/-- A use is its own view as its class. -/
theorem classView_self (rounds : Nat) (c : ClassId) (args : List TypeExpr) :
    reg.classView (rounds + 1) c (c, args) = .found (c, args) :=
  Search.find_start (p := fun w : Use => w.1 == c) (beq_self_eq_true c) rounds

/-- The view of a use is reached from it. -/
theorem reaches_of_classView {rounds : Nat} {target : ClassId} {u w : Use}
    (h : reg.classView rounds target u = .found w) : Search.Reaches reg.superUses u w := by
  obtain ⟨-, v, hv, hreach⟩ := Search.reaches_of_find h
  exact List.mem_singleton.1 hv ▸ hreach

/-- A class has a view only of what lies above it. -/
theorem liesBelow_of_classView (hN : reg.SupertypesNominal) {rounds : Nat} {target : ClassId}
    {u w : Use} (h : reg.classView rounds target u = .found w) :
    reg.LiesBelow u.1 target ∧ w.1 = target := by
  have hw : w.1 = target := by simpa using (Search.reaches_of_find h).1
  exact ⟨hw ▸ liesBelow_of_reaches hN (reaches_of_classView h), hw⟩

/-- What lies above a class is found, whatever the arguments. -/
theorem classView_of_liesBelow {c target : ClassId} (h : reg.LiesBelow c target)
    (args : List TypeExpr) :
    ∃ rounds w, reg.classView rounds target (c, args) = .found w := by
  obtain ⟨k, hk⟩ := Search.reaches_iff_within.1 h
  obtain ⟨args', hargs⟩ := exists_within_superUses hk args
  exact Search.exists_find_of_reaches (Search.reaches_iff_within.2 ⟨k, hargs⟩)
    (beq_self_eq_true target)

/-- What is found is a use of the class. -/
theorem exists_args_of_liesBelow {c target : ClassId} (h : reg.LiesBelow c target)
    (args : List TypeExpr) :
    ∃ rounds args', reg.classView rounds target (c, args) = .found (target, args') := by
  obtain ⟨rounds, ⟨d, args'⟩, hw⟩ := classView_of_liesBelow h args
  obtain rfl : d = target := by simpa using (Search.reaches_of_find hw).1
  exact ⟨rounds, args', hw⟩

/-- The walk from a use to a class never ends. -/
def Endless (reg : Registry) (target : ClassId) (u : Use) : Prop :=
  ∀ rounds, reg.classView rounds target u = .unfinished

theorem not_endless_of_liesBelow {c target : ClassId} (h : reg.LiesBelow c target)
    (args : List TypeExpr) : ¬ reg.Endless target (c, args) := by
  intro hend
  obtain ⟨rounds, w, hw⟩ := classView_of_liesBelow h args
  rw [hend rounds] at hw
  cases hw

/-! ### More rounds -/

theorem classView_refines (rounds : Nat) (target : ClassId) (u : Use) :
    Comparison.refines.rel (answer (reg.classView rounds target u))
      (answer (reg.classView (rounds + 1) target u)) := by
  intro r hr
  cases h : reg.classView rounds target u with
  | found w =>
    rw [h] at hr
    rwa [show reg.classView (rounds + 1) target u = .found w from Search.find_succ_found h]
  | absent =>
    rw [h] at hr
    rwa [show reg.classView (rounds + 1) target u = .absent from Search.find_succ_absent h]
  | unfinished =>
    rw [h] at hr
    cases hr

/-- What a walk that ends says about the view. -/
theorem exists_found_of_answers {c : ClassId} {u : Use} {t : TypeExpr}
    (h : Answers (fun n => answer (reg.classView n c u)) (some t)) :
    ∃ rounds w, reg.classView rounds c u = .found w ∧ t = w.toType := by
  obtain ⟨N, hN⟩ := h
  have hans : answer (reg.classView N c u) = some (some t) := hN N (Nat.le_refl N)
  cases hv : reg.classView N c u with
  | found w =>
    rw [hv] at hans
    exact ⟨N, w, hv, (Option.some.inj (Option.some.inj hans)).symm⟩
  | absent =>
    rw [hv] at hans
    cases hans
  | unfinished =>
    rw [hv] at hans
    cases hans

/-- Walks of different lengths that end come to the same answer. -/
theorem answer_classView_unique {n m : Nat} {c : ClassId} {u : Use} {r r' : Option TypeExpr}
    (h : answer (reg.classView n c u) = some r) (h' : answer (reg.classView m c u) = some r') :
    r = r' := by
  have hanswers : Answers (fun n => answer (reg.classView n c u)) r :=
    Comparison.answers_of_refines h fun n => classView_refines n c u
  have hanswers' : Answers (fun n => answer (reg.classView n c u)) r' :=
    Comparison.answers_of_refines h' fun n => classView_refines n c u
  exact hanswers.unique hanswers'

/-- There is one view at most. -/
theorem classView_unique {n m : Nat} {c : ClassId} {u v w : Use}
    (hv : reg.classView n c u = .found v) (hw : reg.classView m c u = .found w) : v = w := by
  have htype : v.toType = w.toType :=
    Option.some.inj (answer_classView_unique (congrArg answer hv) (congrArg answer hw))
  simpa using congrArg TypeExpr.use? htype

/-- Where there is no view, the class does not lie above. -/
theorem not_liesBelow_of_answers {c : ClassId} {u : Use}
    (h : Answers (fun n => answer (reg.classView n c u)) none) : ¬ reg.LiesBelow u.1 c := by
  intro hbelow
  obtain ⟨k, w, hw⟩ := classView_of_liesBelow hbelow u.2
  obtain ⟨n, hn⟩ := h.exists_eq
  cases answer_classView_unique (congrArg answer hw) hn

/-- The walk to a class that lies above never ends without a view. -/
theorem classView_ne_absent {c target : ClassId} (h : reg.LiesBelow c target)
    (args : List TypeExpr) (rounds : Nat) :
    reg.classView rounds target (c, args) ≠ .absent := by
  intro habsent
  have hnone : Answers (fun n => answer (reg.classView n target (c, args))) none :=
    Comparison.answers_of_refines (n := rounds) (congrArg answer habsent)
      fun n => classView_refines n target (c, args)
  exact not_liesBelow_of_answers hnone h

theorem firstView_cons {α : Type} (f : α → Option (Option TypeExpr)) (a : α) (as : List α) :
    firstView f (a :: as) = (f a).bind fun r => if r.isSome then some r else firstView f as := by
  rw [firstView]
  cases f a with
  | none => rfl
  | some r => cases r <;> rfl

theorem firstView_congr {α : Type} {f g : α → Option (Option TypeExpr)} {as : List α}
    (h : ∀ a ∈ as, f a = g a) : firstView f as = firstView g as := by
  induction as with
  | nil => rfl
  | cons a as ih =>
    rw [firstView_cons, firstView_cons, h a List.mem_cons_self,
      ih fun b hb => h b (List.mem_cons_of_mem a hb)]

theorem firstView_rel (C : Comparison) {α : Type} {f g : α → Option (Option TypeExpr)}
    {as : List α} (h : ∀ a ∈ as, C.rel (f a) (g a)) : C.rel (firstView f as) (firstView g as) := by
  induction as with
  | nil => exact C.some none
  | cons a as ih =>
    rw [firstView_cons, firstView_cons]
    refine C.bind (h a List.mem_cons_self) fun r => ?_
    cases r with
    | some t => exact C.some (some t)
    | none => exact ih fun a' ha' => h a' (List.mem_cons_of_mem _ ha')

theorem viewWith_refines {rounds : Nat} {target : ClassId}
    {onVar onVar' : VarId → Option (Option TypeExpr)}
    (h : ∀ v, Comparison.refines.rel (onVar v) (onVar' v)) (t : TypeExpr) :
    Comparison.refines.rel (reg.viewWith rounds target onVar t)
      (reg.viewWith (rounds + 1) target onVar' t) := by
  induction t with
  | raw c => exact classView_refines rounds target (c, [])
  | app c args owner => exact classView_refines rounds target (c, args)
  | wildcard uppers lowers ihUppers _ =>
    cases uppers with
    | nil => exact classView_refines rounds target (reg.object, [])
    | cons u us =>
      simp only [viewWith, viewFirstWith_eq]
      exact firstView_rel _ ihUppers
  | var v => exact h v
  | array elem => exact Comparison.refines.some _

theorem viewFrom_refines {rounds : Nat} {target : ClassId} (n : Nat) (seen : List VarId)
    (t : TypeExpr) :
    Comparison.refines.rel (reg.viewFrom rounds target n seen t)
      (reg.viewFrom (rounds + 1) target n seen t) := by
  induction n generalizing seen t with
  | zero => exact viewWith_refines (fun _ => Comparison.refines.some _) t
  | succ n ih =>
    refine viewWith_refines (fun v => ?_) t
    by_cases hv : v ∈ seen
    · rw [if_pos hv, if_pos hv]
      exact Comparison.refines.some _
    · rw [if_neg hv, if_neg hv]
      exact firstView_rel _ fun b _ => ih (v :: seen) b

/-- More rounds never lose a view. -/
theorem view_refines (rounds : Nat) (t : TypeExpr) (target : ClassId) :
    Comparison.refines.rel (reg.view rounds t target) (reg.view (rounds + 1) t target) :=
  viewFrom_refines _ [] t

/-- A view that is found is the view. -/
theorem answers_view {s : TypeExpr} {u w : Use} (hs : s.use? = some u) {rounds : Nat}
    {target : ClassId} (h : reg.classView rounds target u = .found w) :
    Answers (reg.view · s target) (some w.toType) := by
  refine Comparison.answers_of_refines (n := rounds) ?_ fun n => view_refines n s target
  rw [view_of_use? hs, h]
  rfl

/-- A walk that is not endless comes to one answer. -/
theorem exists_answers_of_not_endless {target : ClassId} {u : Use}
    (h : ¬ reg.Endless target u) :
    ∃ r, Answers (fun rounds => answer (reg.classView rounds target u)) r := by
  obtain ⟨rounds, hrounds⟩ := Classical.not_forall.1 h
  cases hv : reg.classView rounds target u with
  | found w =>
    exact ⟨_, Comparison.answers_of_refines (n := rounds) (by simp only [hv]; rfl)
      fun n => classView_refines n target u⟩
  | absent =>
    exact ⟨_, Comparison.answers_of_refines (n := rounds) (by simp only [hv]; rfl)
      fun n => classView_refines n target u⟩
  | unfinished => exact absurd hv hrounds

theorem halts_firstView {α : Type} {f : Nat → α → Option (Option TypeExpr)} {as : List α}
    (h : ∀ a ∈ as, Halts fun n => f n a) : Halts fun n => firstView (f n) as := by
  induction as with
  | nil => exact Halts.some none
  | cons a as ih =>
    simp only [firstView_cons]
    refine Halts.bind (h a List.mem_cons_self) fun r _ => ?_
    cases r with
    | some t => exact Halts.some (some t)
    | none => exact ih fun a' ha' => h a' (List.mem_cons_of_mem _ ha')

theorem halts_viewWith (hend : ∀ c u, ¬ reg.Endless c u) {target : ClassId}
    {onVar : Nat → VarId → Option (Option TypeExpr)} (h : ∀ v, Halts fun n => onVar n v)
    (t : TypeExpr) : Halts fun n => reg.viewWith n target (onVar n) t := by
  induction t with
  | raw c => exact exists_answers_of_not_endless (hend target (c, []))
  | app c args owner => exact exists_answers_of_not_endless (hend target (c, args))
  | wildcard uppers lowers ihUppers _ =>
    cases uppers with
    | nil => exact exists_answers_of_not_endless (hend target (reg.object, []))
    | cons u us =>
      simp only [viewWith, viewFirstWith_eq]
      exact halts_firstView ihUppers
  | var v => exact h v
  | array elem => exact Halts.some _

/-- The view of a type of any shape is found or known not to exist, if no walk is endless. -/
theorem halts_view (hend : ∀ c u, ¬ reg.Endless c u) (t : TypeExpr) (target : ClassId) :
    Halts fun n => reg.view n t target := by
  suffices hfrom : ∀ k seen t, Halts fun n => reg.viewFrom n target k seen t from hfrom _ [] t
  intro k
  induction k with
  | zero => exact fun seen t => halts_viewWith hend (fun _ => Halts.some none) t
  | succ k ih =>
    refine fun seen t => halts_viewWith hend (fun v => ?_) t
    exact Halts.ite (fun _ => Halts.some none) fun _ => halts_firstView fun b _ => ih (v :: seen) b

end Registry

end Generics
