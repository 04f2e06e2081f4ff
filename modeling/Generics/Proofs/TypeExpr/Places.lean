import Generics.Proofs.Substitution.Ground

/-!
# Where variables and applications stand

Resolution follows the nesting of an expression: each step to an argument, an owner or a component
goes one level deeper. Here every variable is listed with the level it stands on, and every
application of a class with its arguments.

## Main definitions

* `TypeExpr.sites` — the variables with their levels; `TypeExpr.SitesBelow`
* `TypeExpr.applications` — the applications of classes
* `TypeExpr.fill` — every variable replaced by a type that may depend on the level

## Main results

* `TypeExpr.mem_occurrences_iff_site` — the variables that stand somewhere are those that occur
* `TypeExpr.mem_sites_substitute` — a substitution puts what it brings in below where it is put
* `TypeExpr.fill_eq_substitute`, `TypeExpr.exists_substitute_of_fill` — when filling the sites is a
  substitution
-/

namespace Generics

namespace TypeExpr

/-! ### Variables -/

/-- The same places seen from one level further out. -/
def deeper (sites : List (VarId × Nat)) : List (VarId × Nat) := sites.map fun e => (e.1, e.2 + 1)

/-- The variables on their levels, counted from the outside. -/
def sites : TypeExpr → List (VarId × Nat) :=
  interpret {
    raw := fun _ => []
    app := fun _ args owner => deeper (args.flatten ++ owner.getD [])
    wildcard := fun us ls => deeper (us.flatten ++ ls.flatten)
    var := fun v => [(v, 0)]
    array := deeper }

theorem mem_deeper {sites : List (VarId × Nat)} {v : VarId} {k : Nat} :
    (v, k) ∈ deeper sites ↔ ∃ j, k = j + 1 ∧ (v, j) ∈ sites := by
  rw [deeper, List.mem_map]
  constructor
  · rintro ⟨e, he, h⟩
    obtain ⟨rfl, rfl⟩ := Prod.mk.inj h
    exact ⟨e.2, rfl, he⟩
  · rintro ⟨j, rfl, h⟩
    exact ⟨(v, j), h, rfl⟩

@[simp] theorem sites_raw (c : ClassId) : sites (.raw c) = [] := rfl

@[simp] theorem sites_var (v : VarId) : sites (.var v) = [(v, 0)] := rfl

theorem mem_sites_array {v : VarId} {k : Nat} {elem : TypeExpr} :
    (v, k) ∈ (array elem).sites ↔ ∃ j, k = j + 1 ∧ (v, j) ∈ elem.sites := mem_deeper

theorem mem_sites_app {v : VarId} {k : Nat} {c : ClassId} {args : List TypeExpr}
    {owner : Option TypeExpr} :
    (v, k) ∈ (app c args owner).sites ↔
      ∃ j, k = j + 1 ∧ ((∃ a ∈ args, (v, j) ∈ a.sites) ∨ ∃ o ∈ owner, (v, j) ∈ o.sites) := by
  have happ : (app c args owner).sites =
      deeper (args.flatMap sites ++ (owner.map sites).getD []) := by
    rw [sites, interpret_app, List.flatMap]
  rw [happ, mem_deeper]
  refine exists_congr fun j => and_congr_right fun _ => ?_
  rw [List.mem_append, List.mem_flatMap]
  cases owner <;> simp

theorem mem_sites_wildcard {v : VarId} {k : Nat} {us ls : List TypeExpr} :
    (v, k) ∈ (wildcard us ls).sites ↔
      ∃ j, k = j + 1 ∧ ((∃ u ∈ us, (v, j) ∈ u.sites) ∨ ∃ l ∈ ls, (v, j) ∈ l.sites) := by
  have hwildcard : (wildcard us ls).sites = deeper (us.flatMap sites ++ ls.flatMap sites) := by
    rw [sites, interpret_wildcard, List.flatMap, List.flatMap]
  rw [hwildcard, mem_deeper]
  refine exists_congr fun j => and_congr_right fun _ => ?_
  rw [List.mem_append, List.mem_flatMap, List.mem_flatMap]

/-- A variable occurs exactly if it stands on some level. -/
theorem mem_occurrences_iff_site {t : TypeExpr} {v : VarId} :
    v ∈ t.occurrences ↔ ∃ k, (v, k) ∈ t.sites := by
  induction t with
  | raw c => simp
  | app c args owner ihArgs ihOwner =>
    rw [mem_occurrences_app]
    constructor
    · rintro (⟨a, ha, hv⟩ | ⟨o, ho, hv⟩)
      · obtain ⟨k, hk⟩ := (ihArgs a ha).1 hv
        exact ⟨k + 1, mem_sites_app.2 ⟨k, rfl, Or.inl ⟨a, ha, hk⟩⟩⟩
      · obtain ⟨k, hk⟩ := (ihOwner o ho).1 hv
        exact ⟨k + 1, mem_sites_app.2 ⟨k, rfl, Or.inr ⟨o, ho, hk⟩⟩⟩
    · rintro ⟨k, hk⟩
      obtain ⟨j, -, ⟨a, ha, hj⟩ | ⟨o, ho, hj⟩⟩ := mem_sites_app.1 hk
      · exact Or.inl ⟨a, ha, (ihArgs a ha).2 ⟨j, hj⟩⟩
      · exact Or.inr ⟨o, ho, (ihOwner o ho).2 ⟨j, hj⟩⟩
  | wildcard us ls ihUppers ihLowers =>
    rw [mem_occurrences_wildcard]
    constructor
    · rintro (⟨u, hu, hv⟩ | ⟨l, hl, hv⟩)
      · obtain ⟨k, hk⟩ := (ihUppers u hu).1 hv
        exact ⟨k + 1, mem_sites_wildcard.2 ⟨k, rfl, Or.inl ⟨u, hu, hk⟩⟩⟩
      · obtain ⟨k, hk⟩ := (ihLowers l hl).1 hv
        exact ⟨k + 1, mem_sites_wildcard.2 ⟨k, rfl, Or.inr ⟨l, hl, hk⟩⟩⟩
    · rintro ⟨k, hk⟩
      obtain ⟨j, -, ⟨u, hu, hj⟩ | ⟨l, hl, hj⟩⟩ := mem_sites_wildcard.1 hk
      · exact Or.inl ⟨u, hu, (ihUppers u hu).2 ⟨j, hj⟩⟩
      · exact Or.inr ⟨l, hl, (ihLowers l hl).2 ⟨j, hj⟩⟩
  | var v => simp
  | array elem ih =>
    rw [occurrences_array, ih]
    constructor
    · rintro ⟨k, hk⟩
      exact ⟨k + 1, mem_sites_array.2 ⟨k, rfl, hk⟩⟩
    · rintro ⟨k, hk⟩
      obtain ⟨j, -, hj⟩ := mem_sites_array.1 hk
      exact ⟨j, hj⟩

/-- Only a variable by itself stands on the outermost level. -/
theorem eq_var_of_mem_sites_zero {t : TypeExpr} {v : VarId} (h : (v, 0) ∈ t.sites) :
    t = .var v := by
  cases t with
  | raw c => simp at h
  | app c args owner =>
    obtain ⟨j, hj, -⟩ := mem_sites_app.1 h
    cases hj
  | wildcard us ls =>
    obtain ⟨j, hj, -⟩ := mem_sites_wildcard.1 h
    cases hj
  | var w =>
    obtain ⟨rfl, -⟩ := Prod.mk.inj (List.mem_singleton.1 h)
    rfl
  | array elem =>
    obtain ⟨j, hj, -⟩ := mem_sites_array.1 h
    cases hj

/-- What stands in the type that a variable is replaced by stands so much deeper in the result. -/
theorem mem_sites_substitute {σ : Substitution} {t u : TypeExpr} {v w : VarId} {k j : Nat}
    (hv : (v, k) ∈ t.sites) (hu : σ.get? v = some u) (hw : (w, j) ∈ u.sites) :
    (w, k + j) ∈ (t.substitute σ).sites := by
  induction t generalizing k with
  | raw c => simp at hv
  | app c args owner ihArgs ihOwner =>
    obtain ⟨i, rfl, hi⟩ := mem_sites_app.1 hv
    rw [substitute_app, Nat.add_right_comm, mem_sites_app]
    refine ⟨i + j, rfl, ?_⟩
    rcases hi with ⟨a, ha, hi⟩ | ⟨o, ho, hi⟩
    · exact Or.inl ⟨_, List.mem_map_of_mem ha, ihArgs a ha hi⟩
    · exact Or.inr ⟨_, Option.map_eq_some_iff.2 ⟨o, ho, rfl⟩, ihOwner o ho hi⟩
  | wildcard us ls ihUppers ihLowers =>
    obtain ⟨i, rfl, hi⟩ := mem_sites_wildcard.1 hv
    rw [substitute_wildcard, Nat.add_right_comm, mem_sites_wildcard]
    refine ⟨i + j, rfl, ?_⟩
    rcases hi with ⟨b, hb, hi⟩ | ⟨b, hb, hi⟩
    · exact Or.inl ⟨_, List.mem_map_of_mem hb, ihUppers b hb hi⟩
    · exact Or.inr ⟨_, List.mem_map_of_mem hb, ihLowers b hb hi⟩
  | var x =>
    obtain ⟨rfl, rfl⟩ := Prod.mk.inj (List.mem_singleton.1 hv)
    rwa [substitute_var_of_get? hu, Nat.zero_add]
  | array elem ih =>
    obtain ⟨i, rfl, hi⟩ := mem_sites_array.1 hv
    rw [substitute_array, Nat.add_right_comm, mem_sites_array]
    exact ⟨i + j, rfl, ih hi⟩

/-- Every variable stands on a level below `n`. -/
def SitesBelow (t : TypeExpr) (n : Nat) : Prop := ∀ e ∈ t.sites, e.2 < n

section SitesBelow

variable {n : Nat} {c : ClassId} {args : List TypeExpr} {owner : Option TypeExpr}

theorem SitesBelow.of_arg (h : (app c args owner).SitesBelow (n + 1)) {a : TypeExpr}
    (ha : a ∈ args) : a.SitesBelow n := fun e he =>
  Nat.lt_of_succ_lt_succ (h (e.1, e.2 + 1) (mem_sites_app.2 ⟨_, rfl, Or.inl ⟨a, ha, he⟩⟩))

theorem SitesBelow.of_owner (h : (app c args owner).SitesBelow (n + 1)) {o : TypeExpr}
    (ho : o ∈ owner) : o.SitesBelow n := fun e he =>
  Nat.lt_of_succ_lt_succ (h (e.1, e.2 + 1) (mem_sites_app.2 ⟨_, rfl, Or.inr ⟨o, ho, he⟩⟩))

theorem SitesBelow.of_array {elem : TypeExpr} (h : (array elem).SitesBelow (n + 1)) :
    elem.SitesBelow n := fun e he =>
  Nat.lt_of_succ_lt_succ (h (e.1, e.2 + 1) (mem_sites_array.2 ⟨_, rfl, he⟩))

/-- Where no level is left for a variable there is none. -/
theorem SitesBelow.isConcrete {t : TypeExpr} (h : t.SitesBelow 0) (hw : t.hasWildcards = false) :
    t.isConcrete = true := by
  rw [isConcrete_iff_of_not_hasWildcards hw, hasVars_eq_false_iff]
  intro v hv
  obtain ⟨k, hk⟩ := mem_occurrences_iff_site.1 hv
  exact Nat.not_lt_zero _ (h _ hk)

end SitesBelow

/-! ### Filling the sites -/

/-- The expression, nested at a level, with every variable replaced by what `f` has for it on the
level where it stands. -/
def fill (f : VarId → Nat → TypeExpr) : TypeExpr → Nat → TypeExpr :=
  interpret {
    raw := fun c _ => .raw c
    app := fun c args owner k =>
      .app c (args.map fun a => a (k + 1)) (owner.map fun o => o (k + 1))
    wildcard := fun us ls k => .wildcard (us.map fun u => u (k + 1)) (ls.map fun l => l (k + 1))
    var := f
    array := fun elem k => .array (elem (k + 1)) }

section Fill

variable (f : VarId → Nat → TypeExpr)

@[simp] theorem fill_raw (c : ClassId) (k : Nat) : fill f (.raw c) k = .raw c := rfl

@[simp] theorem fill_app (c : ClassId) (args : List TypeExpr) (owner : Option TypeExpr) (k : Nat) :
    fill f (.app c args owner) k =
      .app c (args.map fun a => fill f a (k + 1)) (owner.map fun o => fill f o (k + 1)) := by
  simp only [fill, interpret_app, List.map_map, Option.map_map, Function.comp_def]

@[simp] theorem fill_wildcard (us ls : List TypeExpr) (k : Nat) :
    fill f (.wildcard us ls) k =
      .wildcard (us.map fun u => fill f u (k + 1)) (ls.map fun l => fill f l (k + 1)) := by
  simp only [fill, interpret_wildcard, List.map_map, Function.comp_def]

@[simp] theorem fill_var (v : VarId) (k : Nat) : fill f (.var v) k = f v k := rfl

@[simp] theorem fill_array (elem : TypeExpr) (k : Nat) :
    fill f (.array elem) k = .array (fill f elem (k + 1)) := rfl

variable {f}

/-- If what stands at the sites does not depend on the level, filling them is a substitution. -/
theorem fill_eq_substitute {τ : Substitution} {t : TypeExpr} {k : Nat}
    (h : ∀ e ∈ t.sites, f e.1 (k + e.2) = (TypeExpr.var e.1).substitute τ) :
    fill f t k = t.substitute τ := by
  induction t generalizing k with
  | raw c => rfl
  | app c args owner ihArgs ihOwner =>
    have hinner : ∀ v j, ((∃ a ∈ args, (v, j) ∈ a.sites) ∨ ∃ o ∈ owner, (v, j) ∈ o.sites) →
        f v (k + 1 + j) = (TypeExpr.var v).substitute τ := by
      intro v j hj
      rw [Nat.add_assoc, Nat.add_comm 1 j]
      exact h (v, j + 1) (mem_sites_app.2 ⟨j, rfl, hj⟩)
    have hargs : (args.map fun a => fill f a (k + 1)) = args.map (substitute τ) :=
      List.map_congr_left fun a ha =>
        ihArgs a ha fun e he => hinner e.1 e.2 (Or.inl ⟨a, ha, he⟩)
    have howner : (owner.map fun o => fill f o (k + 1)) = owner.map (substitute τ) := by
      cases owner with
      | none => rfl
      | some o =>
        exact congrArg some (ihOwner o rfl fun e he => hinner e.1 e.2 (Or.inr ⟨o, rfl, he⟩))
    rw [fill_app, substitute_app, hargs, howner]
  | wildcard us ls ihUppers ihLowers =>
    have hinner : ∀ v j, ((∃ u ∈ us, (v, j) ∈ u.sites) ∨ ∃ l ∈ ls, (v, j) ∈ l.sites) →
        f v (k + 1 + j) = (TypeExpr.var v).substitute τ := by
      intro v j hj
      rw [Nat.add_assoc, Nat.add_comm 1 j]
      exact h (v, j + 1) (mem_sites_wildcard.2 ⟨j, rfl, hj⟩)
    have huppers : (us.map fun u => fill f u (k + 1)) = us.map (substitute τ) :=
      List.map_congr_left fun u hu =>
        ihUppers u hu fun e he => hinner e.1 e.2 (Or.inl ⟨u, hu, he⟩)
    have hlowers : (ls.map fun l => fill f l (k + 1)) = ls.map (substitute τ) :=
      List.map_congr_left fun l hl =>
        ihLowers l hl fun e he => hinner e.1 e.2 (Or.inr ⟨l, hl, he⟩)
    rw [fill_wildcard, substitute_wildcard, huppers, hlowers]
  | var v => exact h (v, 0) List.mem_cons_self
  | array elem ih =>
    refine congrArg array (ih fun e he => ?_)
    rw [Nat.add_assoc, Nat.add_comm 1 e.2]
    exact h (e.1, e.2 + 1) (mem_sites_array.2 ⟨e.2, rfl, he⟩)

/-- If one variable is filled alike on all the levels where it stands, filling is a substitution. -/
theorem exists_substitute_of_fill {t : TypeExpr} {k : Nat}
    (h : ∀ v i j, (v, i) ∈ t.sites → (v, j) ∈ t.sites → f v (k + i) = f v (k + j)) :
    ∃ τ, fill f t k = t.substitute τ := by
  refine ⟨.ofList (t.sites.map fun e => (e.1, f e.1 (k + e.2))), fill_eq_substitute fun e he => ?_⟩
  have hmem : ∀ u, (t.sites.map fun e => (e.1, f e.1 (k + e.2))).reverse.lookup e.1 = some u →
      f e.1 (k + e.2) = u := by
    intro u hu
    rw [List.lookup_eq_some_iff] at hu
    obtain ⟨before, after, hlist, -⟩ := hu
    have hin : (e.1, u) ∈ t.sites.map fun e => (e.1, f e.1 (k + e.2)) := by
      rw [← List.mem_reverse, hlist]
      exact List.mem_append_right _ List.mem_cons_self
    obtain ⟨d, hd, hpair⟩ := List.mem_map.1 hin
    obtain ⟨hv, rfl⟩ := Prod.mk.inj hpair
    rw [hv]
    exact h e.1 e.2 d.2 he (hv ▸ hd)
  rw [substitute_var, Substitution.get?_ofList]
  cases hl : (t.sites.map fun e => (e.1, f e.1 (k + e.2))).reverse.lookup e.1 with
  | none =>
    rw [List.lookup_eq_none_iff] at hl
    have hself := hl _ (List.mem_reverse.2 (List.mem_map_of_mem he))
    simp at hself
  | some u => exact hmem u hl

end Fill

/-! ### Applications -/

mutual

/-- Every application of a class to arguments in the expression, bounds of wildcards included. -/
def applications : TypeExpr → List (ClassId × List TypeExpr)
  | .raw _ => []
  | .app c args owner => (c, args) :: (applicationsAll args ++ applicationsOwner owner)
  | .wildcard us ls => applicationsAll us ++ applicationsAll ls
  | .var _ => []
  | .array elem => applications elem

/-- The applications in the members of a list. -/
def applicationsAll : List TypeExpr → List (ClassId × List TypeExpr)
  | [] => []
  | t :: ts => applications t ++ applicationsAll ts

/-- The applications in an owner. -/
def applicationsOwner : Option TypeExpr → List (ClassId × List TypeExpr)
  | none => []
  | some t => applications t

end

theorem mem_applicationsAll {u : ClassId × List TypeExpr} {ts : List TypeExpr} :
    u ∈ applicationsAll ts ↔ ∃ t ∈ ts, u ∈ t.applications := by
  induction ts with
  | nil => simp [applicationsAll]
  | cons t ts ih => simp [applicationsAll, ih]

theorem mem_applications_array {u : ClassId × List TypeExpr} {elem : TypeExpr} :
    u ∈ (array elem).applications ↔ u ∈ elem.applications := by rw [applications]

theorem mem_applications_app {u : ClassId × List TypeExpr} {c : ClassId} {args : List TypeExpr}
    {owner : Option TypeExpr} :
    u ∈ (app c args owner).applications ↔
      u = (c, args) ∨ (∃ a ∈ args, u ∈ a.applications) ∨ ∃ o ∈ owner, u ∈ o.applications := by
  rw [applications, List.mem_cons, List.mem_append, mem_applicationsAll]
  cases owner <;> simp [applicationsOwner]

theorem mem_applications_wildcard {u : ClassId × List TypeExpr} {us ls : List TypeExpr} :
    u ∈ (wildcard us ls).applications ↔
      (∃ t ∈ us, u ∈ t.applications) ∨ ∃ t ∈ ls, u ∈ t.applications := by
  rw [applications, List.mem_append, mem_applicationsAll, mem_applicationsAll]

theorem forall_mem_applications_app {P : ClassId × List TypeExpr → Prop} {c : ClassId}
    {args : List TypeExpr} {owner : Option TypeExpr} :
    (∀ e ∈ (app c args owner).applications, P e) ↔
      P (c, args) ∧ (∀ a ∈ args, ∀ e ∈ a.applications, P e) ∧
        ∀ o ∈ owner, ∀ e ∈ o.applications, P e := by
  constructor
  · intro h
    exact ⟨h (c, args) (mem_applications_app.2 (.inl rfl)),
      fun a ha e he => h e (mem_applications_app.2 (.inr (.inl ⟨a, ha, he⟩))),
      fun o ho e he => h e (mem_applications_app.2 (.inr (.inr ⟨o, ho, he⟩)))⟩
  · rintro ⟨hself, hargs, howner⟩ e he
    rcases mem_applications_app.1 he with rfl | ⟨a, ha, he⟩ | ⟨o, ho, he⟩
    · exact hself
    · exact hargs a ha e he
    · exact howner o ho e he

theorem forall_mem_applications_wildcard {P : ClassId × List TypeExpr → Prop}
    {us ls : List TypeExpr} :
    (∀ e ∈ (wildcard us ls).applications, P e) ↔
      (∀ u ∈ us, ∀ e ∈ u.applications, P e) ∧ ∀ l ∈ ls, ∀ e ∈ l.applications, P e := by
  constructor
  · intro h
    exact ⟨fun u hu e he => h e (mem_applications_wildcard.2 (.inl ⟨u, hu, he⟩)),
      fun l hl e he => h e (mem_applications_wildcard.2 (.inr ⟨l, hl, he⟩))⟩
  · rintro ⟨hus, hls⟩ e he
    rcases mem_applications_wildcard.1 he with ⟨u, hu, he⟩ | ⟨l, hl, he⟩
    · exact hus u hu e he
    · exact hls l hl e he

/-- The arguments that a concrete type has anywhere are concrete. -/
theorem isConcrete_of_mem_applications {t : TypeExpr} (ht : t.isConcrete = true)
    {u : ClassId × List TypeExpr} (hu : u ∈ t.applications) {a : TypeExpr} (ha : a ∈ u.2) :
    a.isConcrete = true := by
  induction t with
  | raw c => simp [applications] at hu
  | app c args owner ihArgs ihOwner =>
    obtain ⟨hargs, howner⟩ := isConcrete_app_iff.1 ht
    rcases mem_applications_app.1 hu with rfl | ⟨b, hb, hu⟩ | ⟨o, ho, hu⟩
    · exact hargs a ha
    · exact ihArgs b hb (hargs b hb) hu
    · exact ihOwner o ho (howner o ho) hu
  | wildcard us ls => cases ht
  | var v => cases ht
  | array elem ih => exact ih ht hu

end TypeExpr

end Generics
