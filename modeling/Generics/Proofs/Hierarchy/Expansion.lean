import Generics.Proofs.Hierarchy.EndlessWalks
import Generics.Proofs.Hierarchy.ViewSubstitution
import Generics.Proofs.TypeExpr.Places
import Mathlib.Data.Set.Finite.List

/-!
# Arguments that grow on the way up

A class passes its arguments on to its supertypes, some as they are and some inside of others. On a
cyclic hierarchy an argument may come back to where it was, and if it has been put into something on
the way it has grown. Whether that can happen is read off the declarations, by following single
positions: the formal at a position of a class goes to those positions of a supertype where it
occurs in the argument, and it arrives there some levels deep.

If no position leads back to itself with a level gained, then from every use only finitely many uses
are met. A position then has fewer positions to lead to each time something is put around what it
passes on, and where nothing is put around it, nothing new comes about. If some position does lead
back to itself with a level gained, it gains one on every round, and infinitely many uses are met.

## Main definitions

* `TypeExpr.instances` — what becomes of an expression over a set of values
* `Registry.flows` — where the formal at a position goes, and how deep
* `Registry.Expansive` — some position leads back to itself with a level gained
* `Registry.Carries` — a use has a variable on a level at a position

## Main results

* `Registry.finite_above` — without expansion a use leads to finitely many uses
* `Registry.exists_infinite_above` — with expansion some use leads to infinitely many
* `Registry.forall_halts_view_iff_not_expansive` — views and expansion
* `Registry.Acyclic.not_expansive`
-/

namespace Generics

/-- A position among the arguments of a class. -/
abbrev Slot : Type := ClassId × Nat

/-- An expression that uses a class stands for the use with its arguments. -/
theorem TypeExpr.use?_of_classId? {t : TypeExpr} {c : ClassId} (h : t.classId? = some c) :
    t.use? = some (c, t.args) := by
  cases t with
  | raw d => exact Option.some.inj h ▸ rfl
  | app d args owner => exact Option.some.inj h ▸ rfl
  | _ => cases h

/-- Lists of bounded length over finitely many values are finitely many. -/
theorem finite_lists {α : Type} {S : Set α} (hS : S.Finite) (n : Nat) :
    {l : List α | l.length ≤ n ∧ ∀ a ∈ l, a ∈ S}.Finite := by
  have : Finite S := hS
  refine ((List.finite_length_le S n).image (List.map Subtype.val)).subset ?_
  rintro l ⟨hlen, hmem⟩
  exact ⟨l.attachWith (· ∈ S) hmem, by simpa using hlen, List.attachWith_map_subtype_val hmem⟩

/-- What becomes of the expression if some of its variables are bound to members of the set. -/
def TypeExpr.instances (S : Set TypeExpr) (t : TypeExpr) : Set TypeExpr :=
  {a | ∃ σ : Substitution, (∀ v ∈ t.occurrences, ∀ b, σ.get? v = some b → b ∈ S) ∧
    a = t.substitute σ}

/-- **An expression has finitely many instances** over finitely many values for its variables. -/
theorem TypeExpr.finite_instances {S : Set TypeExpr} (hS : S.Finite) (t : TypeExpr) :
    (t.instances S).Finite := by
  have hvars : {b | ∃ v ∈ t.freeVars, b = TypeExpr.var v}.Finite :=
    (t.freeVars.finite_toSet.image TypeExpr.var).subset fun b ⟨v, hv, hb⟩ => ⟨v, hv, hb.symm⟩
  -- an instance is known by what it has for each variable
  refine ((finite_lists (hS.union hvars) t.freeVars.length).image fun args =>
    t.substitute (.ofFormals t.freeVars args)).subset ?_
  rintro a ⟨σ, hσ, rfl⟩
  refine ⟨t.freeVars.map fun v => (var v).substitute σ, ⟨by simp, fun b hb => ?_⟩, ?_⟩
  · obtain ⟨v, hv, rfl⟩ := List.mem_map.1 hb
    rw [substitute_var]
    cases hget : σ.get? v with
    | none => exact Or.inr ⟨v, hv, rfl⟩
    | some b => exact Or.inl (hσ v (mem_freeVars.1 hv) b hget)
  · have hsame : (t.substitute σ).substitute .empty = t.substitute
        (.ofFormals t.freeVars (t.freeVars.map fun v => (var v).substitute σ)) := by
      refine substitute_substitute fun v hv => ?_
      obtain ⟨i, hi⟩ := List.mem_iff_getElem?.1 (mem_freeVars.2 hv)
      rw [substitute_empty, substitute_var_of_get? (Substitution.get?_ofFormals_of_nodup
        t.nodup_freeVars hi (by rw [List.getElem?_map, hi]; rfl))]
    rw [substitute_empty] at hsame
    exact hsame.symm

namespace Registry

variable {reg : Registry}

/-- Where the formal at a position goes in the supertypes of its class: the positions of arguments
in which it occurs, each with the level on which it occurs there. -/
def flows (reg : Registry) (p : Slot) : List (Slot × Nat) :=
  (reg.formals p.1)[p.2]?.toList.flatMap fun v =>
    (reg.supertypes p.1).flatMap fun t =>
      t.classId?.toList.flatMap fun c =>
        t.args.zipIdx.flatMap fun e =>
          (e.1.sites.filter fun s => s.1 == v).map fun s => ((c, e.2), s.2)

/-- The positions that a position passes its argument on to, inside something or not. -/
def passes (reg : Registry) (p : Slot) : List Slot := (reg.flows p).map Prod.fst

/-- Some position leads back to itself, and on the way at least one level is gained. -/
def Expansive (reg : Registry) : Prop :=
  ∃ p q k, (q, k + 1) ∈ reg.flows p ∧ Search.Reaches reg.passes q p

theorem mem_flows {p q : Slot} {k : Nat} :
    (q, k) ∈ reg.flows p ↔
      ∃ v, (reg.formals p.1)[p.2]? = some v ∧ ∃ t ∈ reg.supertypes p.1, t.classId? = some q.1 ∧
        ∃ a, t.args[q.2]? = some a ∧ (v, k) ∈ a.sites := by
  obtain ⟨d, j⟩ := q
  simp only [flows, List.mem_flatMap, Option.mem_toList, List.mem_map, List.mem_filter,
    beq_iff_eq, Prod.mk.injEq]
  constructor
  · rintro ⟨v, hv, t, ht, c, hc, ⟨a, i⟩, ha, ⟨w, l⟩, ⟨hs, rfl⟩, ⟨rfl, rfl⟩, rfl⟩
    exact ⟨w, hv, t, ht, hc, a, List.mem_zipIdx_iff_getElem?.1 ha, hs⟩
  · rintro ⟨v, hv, t, ht, hc, a, ha, hs⟩
    exact ⟨v, hv, t, ht, d, hc, (a, j), List.mem_zipIdx_iff_getElem?.2 ha, (v, k), ⟨hs, rfl⟩,
      ⟨rfl, rfl⟩, rfl⟩

theorem mem_passes_of_mem_flows {p q : Slot} {k : Nat} (h : (q, k) ∈ reg.flows p) :
    q ∈ reg.passes p := List.mem_map_of_mem h

theorem exists_flow_of_mem_passes {p q : Slot} (h : q ∈ reg.passes p) :
    ∃ k, (q, k) ∈ reg.flows p := by
  obtain ⟨⟨_, k⟩, hk, rfl⟩ := List.mem_map.1 h
  exact ⟨k, hk⟩

/-- A position passes its argument on to positions of a superclass. -/
theorem mem_superclasses_of_mem_passes {p q : Slot} (h : q ∈ reg.passes p) :
    q.1 ∈ reg.superclasses p.1 := by
  obtain ⟨k, hk⟩ := exists_flow_of_mem_passes h
  obtain ⟨v, -, t, ht, hc, -⟩ := mem_flows.1 hk
  exact List.mem_filterMap.2 ⟨t, ht, hc⟩

theorem liesBelow_of_reaches_passes {p q : Slot} (h : Search.Reaches reg.passes p q) :
    reg.LiesBelow p.1 q.1 := by
  induction h with
  | refl => exact .refl
  | tail _ hstep ih => exact .tail ih (mem_superclasses_of_mem_passes hstep)

/-- Where no class lies below itself, nothing comes back. -/
theorem Acyclic.not_expansive (hA : reg.Acyclic) : ¬ reg.Expansive := by
  rintro ⟨p, q, k, hq, hback⟩
  exact hA p.1 q.1 (mem_superclasses_of_mem_passes (mem_passes_of_mem_flows hq))
    (liesBelow_of_reaches_passes hback)

/-! ### Positions with a formal -/

/-- The positions of all formals. -/
def slots (reg : Registry) : List Slot :=
  reg.tableIds.flatMap fun c => (List.range (reg.formals c).length).map fun i => (c, i)

theorem mem_slots_of_passes_ne_nil {p : Slot} (h : reg.passes p ≠ []) : p ∈ reg.slots := by
  obtain ⟨q, hq⟩ := List.exists_mem_of_ne_nil _ h
  obtain ⟨k, hk⟩ := exists_flow_of_mem_passes hq
  obtain ⟨v, hv, -⟩ := mem_flows.1 hk
  have hclass : p.1 ∈ reg.tableIds :=
    mem_tableIds_of_superclasses_ne_nil (List.ne_nil_of_mem (mem_superclasses_of_mem_passes hq))
  exact List.mem_flatMap.2 ⟨p.1, hclass, List.mem_map.2
    ⟨p.2, List.mem_range.2 (List.getElem?_eq_some_iff.1 hv).1, rfl⟩⟩

/-- How many positions a position leads to. -/
def spread (reg : Registry) (p : Slot) : Nat :=
  Search.spread reg.passes (reg.slots.length + 1) reg.slots p

theorem spread_le_of_mem_flows {p q : Slot} {k : Nat} (h : (q, k) ∈ reg.flows p) :
    reg.spread q ≤ reg.spread p :=
  Search.spread_le (fun _ => mem_slots_of_passes_ne_nil) (Nat.lt_succ_self _)
    (.single (mem_passes_of_mem_flows h))

/-- Without expansion, a position to which something is passed on inside of something else leads to
fewer positions. -/
theorem spread_lt_of_mem_flows (hE : ¬ reg.Expansive) {p q : Slot} {k : Nat}
    (h : (q, k + 1) ∈ reg.flows p) : reg.spread q < reg.spread p :=
  Search.spread_lt (fun _ => mem_slots_of_passes_ne_nil) (Nat.lt_succ_self _)
    (mem_passes_of_mem_flows h) fun hback => hE ⟨p, q, k, h, hback⟩

theorem spread_le_length (p : Slot) : reg.spread p ≤ reg.slots.length := List.length_filter_le _ _

instance (reg : Registry) : Decidable reg.Expansive :=
  decidable_of_iff (∃ p ∈ reg.slots, ∃ e ∈ reg.flows p, 0 < e.2 ∧
      p ∈ Search.walk reg.passes id (reg.slots.length + 1) [] [e.1]) (by
    have hreach : ∀ p q, p ∈ Search.walk reg.passes id (reg.slots.length + 1) [] [q] ↔
        Search.Reaches reg.passes q p := fun p q =>
      Search.mem_walk_iff_reaches (fun _ => mem_slots_of_passes_ne_nil) (Nat.lt_succ_self _)
    constructor
    · rintro ⟨p, -, ⟨q, k⟩, hk, hpos, hback⟩
      obtain ⟨j, rfl⟩ : ∃ j, k = j + 1 := ⟨k - 1, by omega⟩
      exact ⟨p, q, j, hk, (hreach p q).1 hback⟩
    · rintro ⟨p, q, k, hk, hback⟩
      have hp : p ∈ reg.slots :=
        mem_slots_of_passes_ne_nil (List.ne_nil_of_mem (mem_passes_of_mem_flows hk))
      exact ⟨p, hp, (q, k + 1), hk, Nat.succ_pos k, (hreach p q).2 hback⟩)

/-! ### Without expansion -/

/-- A step up is a step to a supertype, and it passes on either nothing or what the arguments of the
supertype become. -/
theorem exists_supertype_of_mem_superUses (hN : reg.SupertypesNominal) {u w : Use}
    (h : w ∈ reg.superUses u) :
    ∃ t ∈ reg.supertypes u.1, t.classId? = some w.1 ∧
      (w.2 = [] ∨
        w.2 = t.args.map (TypeExpr.substitute (.ofFormals (reg.formals u.1) u.2))) := by
  obtain ⟨t, ht, ⟨-, hc, hnil⟩ | ⟨-, hw⟩⟩ := superUses_cases h
  · exact ⟨t, ht, hc, Or.inl hnil⟩
  · obtain ⟨c, hc⟩ := hN.classId? ht
    rw [TypeExpr.use?_substitute (Option.isSome_iff_exists.2 ⟨c, hc⟩),
      TypeExpr.use?_of_classId? hc] at hw
    obtain rfl := Option.some.inj hw
    exact ⟨t, ht, hc, Or.inr rfl⟩

/-- What stands in the uses that `u` leads to, at positions that lead to no fewer positions than
the given number. -/
def contents (reg : Registry) (u : Use) (n : Nat) : Set TypeExpr :=
  {a | ∃ w ∈ reg.above u, ∃ i : Nat, w.2[i]? = some a ∧ n ≤ reg.spread (w.1, i)}

/-- What arrives at a position is what stood at another position, which leads to no fewer ones, or
an instance of a declared argument, for values that stood at positions that lead to more. -/
theorem mem_contents_step (hN : reg.SupertypesNominal) (hE : ¬ reg.Expansive) {u w w' : Use}
    (hw : w ∈ reg.above u) (hstep : w' ∈ reg.superUses w) {i n : Nat} {a : TypeExpr}
    (ha : w'.2[i]? = some a) (hn : n ≤ reg.spread (w'.1, i)) :
    (∃ j : Nat, w.2[j]? = some a ∧ n ≤ reg.spread (w.1, j)) ∨
      ∃ c ∈ reg.tableIds, ∃ t ∈ reg.supertypes c, ∃ b ∈ t.args,
        a ∈ b.instances (reg.contents u (n + 1)) := by
  obtain ⟨t, ht, hc, hargs⟩ := exists_supertype_of_mem_superUses hN hstep
  rcases hargs with hnil | hmap
  · rw [hnil] at ha
    cases ha
  rw [hmap, List.getElem?_map] at ha
  obtain ⟨b, hb, rfl⟩ := Option.map_eq_some_iff.1 ha
  have hflow : ∀ {v x k}, (v, k) ∈ b.sites →
      (Substitution.ofFormals (reg.formals w.1) w.2).get? v = some x →
      ∃ j : Nat, w.2[j]? = some x ∧ ((w'.1, i), k) ∈ reg.flows (w.1, j) := by
    intro v x k hv hx
    obtain ⟨j, hj, hxj⟩ := Substitution.exists_position_of_get?_ofFormals hx
    exact ⟨j, hxj, mem_flows.2 ⟨v, hj, t, ht, hc, b, hb, hv⟩⟩
  by_cases hcopy : ∃ v x, b = .var v ∧
      (Substitution.ofFormals (reg.formals w.1) w.2).get? v = some x
  · obtain ⟨v, x, rfl, hx⟩ := hcopy
    obtain ⟨j, hj, hedge⟩ := hflow (List.mem_singleton.2 rfl) hx
    rw [TypeExpr.substitute_var_of_get? hx]
    exact Or.inl ⟨j, hj, Nat.le_trans hn (spread_le_of_mem_flows hedge)⟩
  · obtain ⟨d, hd⟩ := exists_class?_of_mem_supertypes ht
    refine Or.inr ⟨w.1, mem_tableIds_of_class? hd, t, ht, b, List.mem_of_getElem? hb, _,
      fun v hv x hx => ?_, rfl⟩
    obtain ⟨k, hk⟩ := TypeExpr.mem_occurrences_iff_site.1 hv
    obtain ⟨j, hj, hedge⟩ := hflow hk hx
    cases k with
    | zero => exact absurd ⟨v, x, TypeExpr.eq_var_of_mem_sites_zero hk, hx⟩ hcopy
    | succ k => exact ⟨w, hw, j, hj, Nat.lt_of_le_of_lt hn (spread_lt_of_mem_flows hE hedge)⟩

/-- **Finitely many values stand at the positions.** The induction goes down from the positions that
lead to the most: there nothing but instances over the positions before can turn up. -/
theorem finite_contents (hN : reg.SupertypesNominal) (hE : ¬ reg.Expansive) (u : Use) (k n : Nat)
    (hn : reg.slots.length < n + k) : (reg.contents u n).Finite := by
  induction k generalizing n with
  | zero =>
    refine Set.finite_empty.subset ?_
    rintro a ⟨w, -, i, -, hle⟩
    have hlength := reg.spread_le_length (w.1, i)
    omega
  | succ k ih =>
    have hmore : (reg.contents u (n + 1)).Finite := ih (n + 1) (by omega)
    have hinstances : (⋃ c ∈ {c | c ∈ reg.tableIds}, ⋃ t ∈ {t | t ∈ reg.supertypes c},
        ⋃ b ∈ {b | b ∈ t.args}, b.instances (reg.contents u (n + 1))).Finite :=
      (List.finite_toSet _).biUnion fun c _ => (List.finite_toSet _).biUnion fun t _ =>
        (List.finite_toSet _).biUnion fun b _ => TypeExpr.finite_instances hmore b
    refine (u.2.finite_toSet.union hinstances).subset ?_
    rintro a ⟨w, hw, i, ha, hle⟩
    induction hw generalizing i with
    | refl => exact Or.inl (List.mem_of_getElem? ha)
    | tail hw hstep ihPath =>
      rcases mem_contents_step hN hE hw hstep ha hle with
        ⟨j, hj, hlej⟩ | ⟨c, hc, t, ht, b, hb, hinstance⟩
      · exact ihPath j hj hlej
      · refine Or.inr ?_
        simp only [Set.mem_iUnion]
        exact ⟨c, hc, t, ht, b, hb, hinstance⟩

/-- **Without expansion a use leads to finitely many uses.** -/
theorem finite_above (hN : reg.SupertypesNominal) (hE : ¬ reg.Expansive) (u : Use) :
    (reg.above u).Finite := by
  have hcontents : (reg.contents u 0).Finite :=
    finite_contents hN hE u (reg.slots.length + 1) 0 (by omega)
  have hsteps : (⋃ c ∈ {c | c ∈ reg.tableIds}, ⋃ t ∈ {t | t ∈ reg.supertypes c},
      {d | d ∈ reg.superclasses c} ×ˢ
        {l : List TypeExpr | l.length ≤ t.args.length ∧ ∀ a ∈ l, a ∈ reg.contents u 0}).Finite :=
    (List.finite_toSet _).biUnion fun c _ => (List.finite_toSet _).biUnion fun t _ =>
      (List.finite_toSet _).prod (finite_lists hcontents _)
  refine (hsteps.insert u).subset fun w hw => ?_
  rcases Relation.ReflTransGen.cases_tail hw with rfl | ⟨v, -, hstep⟩
  · exact Set.mem_insert _ _
  · obtain ⟨t, ht, hc, hargs⟩ := exists_supertype_of_mem_superUses hN hstep
    obtain ⟨d, hd⟩ := exists_class?_of_mem_supertypes ht
    refine Set.mem_insert_of_mem _ ?_
    simp only [Set.mem_iUnion]
    refine ⟨v.1, mem_tableIds_of_class? hd, t, ht, List.mem_filterMap.2 ⟨t, ht, hc⟩, ?_,
      fun a ha => ?_⟩
    · rcases hargs with hnil | hmap
      · rw [hnil]
        exact Nat.zero_le _
      · rw [hmap, List.length_map]
    · obtain ⟨i, hi⟩ := List.mem_iff_getElem?.1 ha
      exact ⟨w, hw, i, hi, Nat.zero_le _⟩

/-! ### With expansion -/

/-- The use is one of the class, and at the position the variable stands on the level. -/
def Carries (u : Use) (p : Slot) (v : VarId) (n : Nat) : Prop :=
  u.1 = p.1 ∧ ∃ a, u.2[p.2]? = some a ∧ (v, n) ∈ a.sites

variable (hdistinct : ∀ c, (reg.formals c).Nodup)

include hdistinct

/-- Where an argument is passed on, a use above has what is in it, as many levels deeper as it is
passed on inside of something. -/
theorem Carries.step {u : Use} {p q : Slot} {v : VarId} {n k : Nat} (h : Carries u p v n)
    (hq : (q, k) ∈ reg.flows p) : ∃ w ∈ reg.superUses u, Carries w q v (k + n) := by
  obtain ⟨hclass, a, ha, hv⟩ := h
  obtain ⟨x, hx, t, ht, hc, b, hb, hxb⟩ := mem_flows.1 hq
  rw [← hclass] at hx ht
  have hne : u.2 ≠ [] := List.ne_nil_of_mem (List.mem_of_getElem? ha)
  have hstep : (q.1, t.args.map (TypeExpr.substitute (.ofFormals (reg.formals u.1) u.2))) ∈
      reg.superUses u := by
    refine mem_superUses_iff.2 ⟨t, ht, ?_⟩
    rw [stepTo, if_neg fun hraw => hne hraw.1,
      TypeExpr.use?_substitute (Option.isSome_iff_exists.2 ⟨_, hc⟩), TypeExpr.use?_of_classId? hc]
    rfl
  refine ⟨_, hstep, rfl, b.substitute (.ofFormals (reg.formals u.1) u.2), ?_, ?_⟩
  · rw [List.getElem?_map, hb]
    rfl
  · exact TypeExpr.mem_sites_substitute hxb
      (Substitution.get?_ofFormals_of_nodup (hdistinct u.1) hx ha) hv

/-- On a longer way nothing comes out of what it is in. -/
theorem Carries.along {u : Use} {p q : Slot} {v : VarId} {n : Nat} (h : Carries u p v n)
    (hpq : Search.Reaches reg.passes p q) :
    ∃ w ∈ reg.above u, ∃ m, n ≤ m ∧ Carries w q v m := by
  induction hpq with
  | refl => exact ⟨u, .refl, n, Nat.le_refl n, h⟩
  | tail _ hstep ih =>
    obtain ⟨w, hw, m, hnm, hm⟩ := ih
    obtain ⟨k, hk⟩ := exists_flow_of_mem_passes hstep
    obtain ⟨w', hw', hm'⟩ := hm.step hdistinct hk
    exact ⟨w', .tail hw hw', k + m, by omega, hm'⟩

/-- Going round a circle again and again takes a variable to any depth, if one round takes it
deeper. -/
theorem Carries.rounds {u : Use} {p q : Slot} {v : VarId} {n k : Nat} (h : Carries u p v n)
    (hq : (q, k + 1) ∈ reg.flows p) (hback : Search.Reaches reg.passes q p) (d : Nat) :
    ∃ w ∈ reg.above u, ∃ m, d ≤ m ∧ Carries w p v m := by
  induction d with
  | zero => exact ⟨u, .refl, n, Nat.zero_le n, h⟩
  | succ d ih =>
    obtain ⟨w, hw, m, hdm, hm⟩ := ih
    obtain ⟨w', hw', hm'⟩ := hm.step hdistinct hq
    obtain ⟨w'', hw'', m', hmm', hm''⟩ := hm'.along hdistinct hback
    exact ⟨w'', (Relation.ReflTransGen.tail hw hw').trans hw'', m', by omega, hm''⟩

/-- **With expansion some use leads to infinitely many.** -/
theorem exists_infinite_above (hE : reg.Expansive) : ∃ u, (reg.above u).Infinite := by
  obtain ⟨p, q, k, hq, hback⟩ := hE
  obtain ⟨v, hv, -⟩ := mem_flows.1 hq
  obtain ⟨u, hstart⟩ : ∃ u, Carries u p v 0 := by
    refine ⟨(p.1, TypeExpr.vars (reg.formals p.1)), rfl, .var v, ?_, List.mem_singleton.2 rfl⟩
    rw [TypeExpr.vars, List.getElem?_map, hv]
    rfl
  refine ⟨u, fun hfinite => ?_⟩
  -- finitely many uses have finitely many levels
  have hlevels : (⋃ w ∈ reg.above u, {n | n ∈ w.2.flatMap fun a => a.sites.map Prod.snd}).Finite :=
    hfinite.biUnion fun w _ => List.finite_toSet _
  obtain ⟨n, hn⟩ := hlevels.bddAbove
  obtain ⟨w, hw, m, hnm, -, a, ha, hm⟩ := hstart.rounds hdistinct hq hback (n + 1)
  have hle : m ≤ n := hn (Set.mem_biUnion hw (List.mem_flatMap.2
    ⟨a, List.mem_of_getElem? ha, List.mem_map_of_mem hm⟩))
  omega

/-- **All views are found or known not to exist exactly if nothing expands.** Where something does,
there is a use from which the walk to a class that is nowhere above it has no end. -/
theorem forall_halts_view_iff_not_expansive (hN : reg.SupertypesNominal) :
    (∀ t target, Halts fun n => reg.view n t target) ↔ ¬ reg.Expansive := by
  rw [forall_halts_view_iff]
  constructor
  · intro h hE
    obtain ⟨u, hinfinite⟩ := exists_infinite_above hdistinct hE
    have : Infinite ClassId := Infinite.of_injective ClassId.mk fun _ _ => ClassId.mk.inj
    obtain ⟨target, htarget⟩ := Infinite.exists_notMem_finset (reg.ancestors u.1).toFinset
    rcases not_endless_iff.1 (h target u) with ⟨w, hw, rfl⟩ | hfinite
    · exact htarget (List.mem_toFinset.2 (mem_ancestors_iff.2 (liesBelow_of_reaches hN hw)))
    · exact hinfinite hfinite
  · exact fun hE target u => not_endless_iff.2 (Or.inr (finite_above hN hE u))

end Registry

end Generics
