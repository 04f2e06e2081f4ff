import Generics.Proofs.Hierarchy.Reachability
import Mathlib.Data.List.Basic
import Mathlib.Data.List.Find
import Mathlib.Data.List.Forall2

/-!
# A search without bookkeeping

The layered search leaves out nodes whose key it has met before. This changes which nodes are looked
at, but not which one is found: what is left out has no part in the answer, since an earlier node
with its key had the same keys above it. The sweep is the search without that bookkeeping. It is no
way to search a cyclic graph, but it is easy to move along a map between two graphs, even where the
map takes different nodes to one.

## Main definitions

* `Search.sweep` — the first node with a property, layer by layer, with nothing left out
* `Search.KeyDecides` — the key of a node decides its property and the keys above it

## Main results

* `Search.sweep_of_find` — what is found is what the sweep comes to first
* `Search.sweep_map`, `Search.sweep_rel` — a map, or a relation, between graphs that respects steps
  and the property
* `Search.find_map_of_find` — so the map takes what is found to what is found
* `Search.find_of_find?_walk`, `Search.find?_append_flatMap_walk` — what a walk meets first, and what
  comes first above the nodes that it meets
-/

namespace Generics

namespace Search

variable {α : Type} {next : α → List α} {p : α → Bool}

/-- The first node with property `p`, layer by layer, among so many layers. -/
def sweep (next : α → List α) (p : α → Bool) : Nat → List α → Option α
  | 0, _ => none
  | n + 1, layer =>
    match layer.find? p with
    | some a => some a
    | none => sweep next p n (layer.flatMap next)

theorem sweep_succ {n : Nat} {layer : List α} {a : α} (h : sweep next p n layer = some a) :
    sweep next p (n + 1) layer = some a := by
  induction n generalizing layer with
  | zero => cases h
  | succ n ih =>
    rw [sweep] at h ⊢
    cases hp : layer.find? p with
    | some b => simpa only [hp] using h
    | none =>
      simp only [hp] at h ⊢
      exact ih h

theorem sweep_of_le {n m : Nat} (hnm : n ≤ m) {layer : List α} {a : α}
    (h : sweep next p n layer = some a) : sweep next p m layer = some a := by
  induction hnm with
  | refl => exact h
  | step _ ih => exact sweep_succ ih

/-- Whatever the number of layers, the sweep comes to one node. -/
theorem sweep_unique {n m : Nat} {layer : List α} {a b : α} (ha : sweep next p n layer = some a)
    (hb : sweep next p m layer = some b) : a = b := by
  have hleft : sweep next p (max n m) layer = some a := sweep_of_le (by omega) ha
  have hright : sweep next p (max n m) layer = some b := sweep_of_le (by omega) hb
  exact Option.some.inj (hleft.symm.trans hright)

/-! ### What is left out -/

section Fresh

variable {κ : Type} [DecidableEq κ] {key : α → κ}

/-- Nodes with the same key have the same keys above them and both have the property or not. -/
structure KeyDecides (next : α → List α) (key : α → κ) (p : α → Bool) : Prop where
  /-- The same keys lie above them, -/
  next : ∀ a b, key a = key b → (next a).map key = (next b).map key
  /-- and the property is one of the key. -/
  prop : ∀ a b, key a = key b → p a = p b

/-- Nodes kept apart by themselves. -/
theorem keyDecides_id (next : α → List α) (p : α → Bool) : KeyDecides next id p :=
  ⟨fun _ _ h => congrArg (fun a => (next a).map id) h, fun _ _ h => congrArg p h⟩

theorem fresh_cons (seen : List κ) (a : α) (as : List α) :
    fresh key seen (a :: as) =
      if key a ∈ seen then fresh key seen as else a :: fresh key (key a :: seen) as := rfl

theorem fresh_congr {seen seen' : List κ} {layer : List α} (h : ∀ k, k ∈ seen ↔ k ∈ seen') :
    fresh key seen layer = fresh key seen' layer := by
  induction layer generalizing seen seen' with
  | nil => rfl
  | cons a as ih =>
    have hcons : ∀ k, k ∈ key a :: seen ↔ k ∈ key a :: seen' := fun k => by
      rw [List.mem_cons, List.mem_cons, h k]
    rw [fresh_cons, fresh_cons]
    by_cases ha : key a ∈ seen
    · rw [if_pos ha, if_pos ((h _).1 ha)]
      exact ih h
    · rw [if_neg ha, if_neg fun ha' => ha ((h _).2 ha')]
      exact congrArg (a :: ·) (ih hcons)

theorem fresh_append (seen : List κ) (as bs : List α) :
    fresh key seen (as ++ bs) = fresh key seen as ++ fresh key (as.map key ++ seen) bs := by
  induction as generalizing seen with
  | nil => rfl
  | cons a as ih =>
    rw [List.cons_append, fresh_cons, fresh_cons, List.map_cons]
    by_cases ha : key a ∈ seen
    · have hsame : fresh key (key a :: as.map key ++ seen) bs =
          fresh key (as.map key ++ seen) bs := by
        refine fresh_congr fun k => ?_
        rw [List.cons_append, List.mem_cons, List.mem_append]
        constructor
        · rintro (rfl | hk)
          · exact Or.inr ha
          · exact hk
        · exact Or.inr
      rw [if_pos ha, if_pos ha, ih, hsame]
    · have hsame : fresh key (as.map key ++ key a :: seen) bs =
          fresh key (key a :: as.map key ++ seen) bs := by
        refine fresh_congr fun k => ?_
        rw [List.cons_append, List.mem_append, List.mem_cons, List.mem_cons, List.mem_append]
        exact or_left_comm
      rw [if_neg ha, if_neg ha, List.cons_append, ih]
      exact congrArg (a :: ·) (congrArg _ hsame)

theorem fresh_of_subset {seen : List κ} {layer : List α} (h : ∀ a ∈ layer, key a ∈ seen) :
    fresh key seen layer = [] :=
  List.eq_nil_iff_forall_not_mem.2 fun a ha => (mem_fresh ha).2 (h a (mem_fresh ha).1)

/-- The first node with the property is not left out, if no node met before has the property. -/
theorem find?_fresh (hk : KeyDecides next key p) {seen : List κ} {layer : List α}
    (h : ∀ a, key a ∈ seen → p a = false) : (fresh key seen layer).find? p = layer.find? p := by
  induction layer generalizing seen with
  | nil => rfl
  | cons a as ih =>
    rw [fresh_cons, List.find?_cons]
    by_cases ha : key a ∈ seen
    · rw [if_pos ha, h a ha]
      exact ih h
    · rw [if_neg ha, List.find?_cons]
      cases hp : p a with
      | true => rfl
      | false =>
        refine ih fun b hb => ?_
        rcases List.mem_cons.1 hb with hb | hb
        · exact (hk.prop b a hb).trans hp
        · exact h b hb

/-- After a round in which no node has the property, none of those met has it. -/
theorem forall_seen_of_find?_fresh (hk : KeyDecides next key p) {seen : List κ} {layer : List α}
    (h : ∀ a, key a ∈ seen → p a = false) (hp : (fresh key seen layer).find? p = none) (a : α)
    (ha : key a ∈ (fresh key seen layer).map key ++ seen) : p a = false := by
  rcases List.mem_append.1 ha with ha | ha
  · obtain ⟨b, hb, hba⟩ := List.mem_map.1 ha
    exact (hk.prop a b hba.symm).trans (Bool.eq_false_iff.2 (List.find?_eq_none.1 hp b hb))
  · exact h a ha

/-- Nodes that are left out of a layer are not missed in the next one, if what lies above the nodes
met before has been met. -/
theorem fresh_flatMap_fresh (hk : KeyDecides next key p) {seen met : List κ} {layer : List α}
    (h : ∀ a, key a ∈ seen → ∀ b ∈ next a, key b ∈ met) :
    fresh key met ((fresh key seen layer).flatMap next) = fresh key met (layer.flatMap next) := by
  induction layer generalizing seen met with
  | nil => rfl
  | cons a as ih =>
    rw [fresh_cons, List.flatMap_cons, fresh_append]
    by_cases ha : key a ∈ seen
    · have hnone : fresh key met (next a) = [] := fresh_of_subset (h a ha)
      have hsame : fresh key ((next a).map key ++ met) (as.flatMap next) =
          fresh key met (as.flatMap next) := by
        refine fresh_congr fun k => ?_
        rw [List.mem_append, List.mem_map]
        constructor
        · rintro (⟨b, hb, rfl⟩ | hmem)
          · exact h a ha b hb
          · exact hmem
        · exact Or.inr
      rw [if_pos ha, hnone, hsame]
      exact ih h
    · rw [if_neg ha, List.flatMap_cons, fresh_append]
      refine congrArg _ (ih fun b hb c hc => List.mem_append.2 ?_)
      rcases List.mem_cons.1 hb with hb | hb
      · -- what lies above `b` has the keys of what lies above `a`
        exact Or.inl (hk.next b a hb ▸ List.mem_map_of_mem hc)
      · exact Or.inr (h b hb c hc)

/-- **Nothing that matters is left out:** what the search finds, the sweep comes to first. -/
theorem sweep_of_find (hk : KeyDecides next key p) {n : Nat} {a b : α}
    (h : find next key p n [] [a] = .found b) : sweep next p n [a] = some b := by
  suffices hgen : ∀ n (seen : List κ) (layer all : List α),
      fresh key seen layer = fresh key seen all →
      (∀ c, key c ∈ seen → ∀ d ∈ next c, key d ∈ seen ∨ key d ∈ layer.map key) →
      (∀ c, key c ∈ seen → p c = false) →
      find next key p n seen layer = .found b → sweep next p n all = some b from
    hgen n [] [a] [a] rfl (fun c hc => absurd hc List.not_mem_nil)
      (fun c hc => absurd hc List.not_mem_nil) h
  intro n
  induction n with
  | zero => exact fun _ _ _ _ _ _ h => nomatch h
  | succ n ih =>
    intro seen layer all hsame hfrontier hseen h
    rw [find] at h
    rw [sweep, ← find?_fresh hk hseen, ← hsame]
    -- after the round all keys above what was met before have been met
    have hmet : ∀ c, key c ∈ seen → ∀ d ∈ next c,
        key d ∈ (fresh key seen layer).map key ++ seen := by
      intro c hc d hd
      rcases hfrontier c hc d hd with hd | hd
      · exact List.mem_append_right _ hd
      · obtain ⟨e, he, hed⟩ := List.mem_map.1 hd
        rw [List.mem_append, ← hed]
        exact (key_mem_of_mem he).symm
    cases hp : (fresh key seen layer).find? p with
    | some c =>
      simp only [hp, Outcome.found.injEq] at h
      rw [h]
    | none =>
      simp only [hp] at h
      split at h
      · cases h
      · refine ih _ _ _ ?_ ?_ (forall_seen_of_find?_fresh hk hseen hp) h
        · rw [hsame] at hmet ⊢
          exact fresh_flatMap_fresh hk hmet
        · intro c hc d hd
          rcases List.mem_append.1 hc with hc | hc
          · obtain ⟨e, he, hec⟩ := List.mem_map.1 hc
            obtain ⟨f, hf, hfd⟩ := List.mem_map.1 (hk.next c e hec.symm ▸ List.mem_map_of_mem hd)
            exact Or.inr (List.mem_map.2 ⟨f, List.mem_flatMap.2 ⟨e, he, hf⟩, hfd⟩)
          · exact Or.inl (hmet c hc d hd)

/-! ### Walks -/

/-- The first node with the property that a walk meets is the one that the search finds. -/
theorem find_of_find?_walk {n : Nat} {seen : List κ} {layer : List α} {b : α}
    (h : (walk next key n seen layer).find? p = some b) :
    find next key p n seen layer = .found b := by
  induction n generalizing seen layer with
  | zero => cases h
  | succ n ih =>
    rw [walk_succ, List.find?_append] at h
    rw [find]
    cases hp : (fresh key seen layer).find? p with
    | some c =>
      rw [hp, Option.some_or] at h
      rw [Option.some.inj h]
    | none =>
      rw [hp, Option.none_or] at h
      have hne : (fresh key seen layer).isEmpty = false := by
        refine Bool.eq_false_iff.2 fun he => ?_
        rw [List.isEmpty_iff.1 he] at h
        cases n <;> cases h
      simp only [hne, Bool.false_eq_true, if_false]
      exact ih h

/-- A walk leaves out nothing that comes first: among all that lies directly above what it meets, the
first node with the property is the first one that it meets. -/
theorem find?_append_flatMap_walk (hk : KeyDecides next key p) {n : Nat} {seen : List κ}
    {layer : List α} {b : α} (hseen : ∀ a, key a ∈ seen → p a = false)
    (h : (walk next key n seen layer).find? p = some b) :
    (layer ++ (walk next key n seen layer).flatMap next).find? p = some b := by
  induction n generalizing seen layer with
  | zero => cases h
  | succ n ih =>
    rw [walk_succ] at h ⊢
    rw [List.find?_append] at h
    rw [List.find?_append, List.flatMap_append, ← find?_fresh hk hseen]
    cases hp : (fresh key seen layer).find? p with
    | some c => rwa [hp] at h
    | none =>
      rw [hp, Option.none_or] at h
      rw [Option.none_or]
      exact ih (forall_seen_of_find?_fresh hk hseen hp) h

theorem map_key_fresh (seen : List κ) (layer : List α) :
    (fresh key seen layer).map key = fresh id seen (layer.map key) := by
  induction layer generalizing seen with
  | nil => rfl
  | cons a as ih =>
    rw [fresh_cons, List.map_cons, fresh_cons, id_eq]
    by_cases ha : key a ∈ seen
    · rw [if_pos ha, if_pos ha]
      exact ih seen
    · rw [if_neg ha, if_neg ha, List.map_cons]
      exact congrArg (key a :: ·) (ih (key a :: seen))

/-- A walk over nodes is a walk over keys. -/
theorem map_key_walk {next' : κ → List κ} (h : ∀ a, (next a).map key = next' (key a)) (n : Nat)
    (seen : List κ) (layer : List α) :
    (walk next key n seen layer).map key = walk next' id n seen (layer.map key) := by
  induction n generalizing seen layer with
  | zero => rfl
  | succ n ih =>
    have hlayer : ((fresh key seen layer).flatMap next).map key =
        ((fresh key seen layer).map key).flatMap next' := by
      rw [List.map_flatMap, List.flatMap_map]
      exact List.flatMap_congr fun a _ => h a
    rw [walk_succ, walk_succ, List.map_append, ih, hlayer, map_key_fresh, List.map_id]

end Fresh

/-! ### Along a map -/

section Map

variable {β : Type} {next' : β → List β} {p' : β → Bool} {f : α → β} {I : α → Prop}

/-- A map that respects steps and the property takes a sweep to a sweep. -/
theorem sweep_map (hstep : ∀ a, I a → ∀ b ∈ next a, I b)
    (hnext : ∀ a, I a → next' (f a) = (next a).map f) (hp : ∀ a, I a → p' (f a) = p a) (n : Nat)
    {layer : List α} (hI : ∀ a ∈ layer, I a) :
    sweep next' p' n (layer.map f) = (sweep next p n layer).map f := by
  induction n generalizing layer with
  | zero => rfl
  | succ n ih =>
    have hfind : (layer.map f).find? p' = (layer.find? p).map f := by
      rw [List.find?_map]
      refine congrArg _ (List.find?_congr fun a ha => ?_)
      exact hp a (hI a ha)
    have hlayer : (layer.map f).flatMap next' = (layer.flatMap next).map f := by
      rw [List.flatMap_map, List.map_flatMap]
      exact List.flatMap_congr fun a ha => hnext a (hI a ha)
    rw [sweep, sweep, hfind]
    cases layer.find? p with
    | some a => rfl
    | none =>
      show sweep next' p' n ((layer.map f).flatMap next') = _
      rw [hlayer]
      refine ih fun b hb => ?_
      obtain ⟨a, ha, hab⟩ := List.mem_flatMap.1 hb
      exact hstep a (hI a ha) b hab

/-- **What is found is taken to what is found,** if anything is. -/
theorem find_map_of_find [DecidableEq α] [DecidableEq β] {n m : Nat} {a b : α} {c : β}
    (h : find next id p n [] [a] = .found b) (h' : find next' id p' m [] [f a] = .found c)
    (ha : I a) (hstep : ∀ a, I a → ∀ b ∈ next a, I b)
    (hnext : ∀ a, I a → next' (f a) = (next a).map f) (hp : ∀ a, I a → p' (f a) = p a) :
    c = f b := by
  have hI : ∀ d ∈ [a], I d := fun d hd => (List.mem_singleton.1 hd) ▸ ha
  have hmap : sweep next' p' n ([a].map f) = (sweep next p n [a]).map f :=
    sweep_map hstep hnext hp n hI
  rw [sweep_of_find (keyDecides_id next p) h] at hmap
  exact sweep_unique (sweep_of_find (keyDecides_id next' p') h') hmap

/-- Layers of related nodes are swept to related nodes. -/
theorem sweep_rel {r : α → β → Prop}
    (hstep : ∀ a b, r a b → List.Forall₂ r (next a) (next' b)) (hp : ∀ a b, r a b → p a = p' b)
    (n : Nat) {layer : List α} {layer' : List β} (h : List.Forall₂ r layer layer') :
    Option.Rel r (sweep next p n layer) (sweep next' p' n layer') := by
  induction n generalizing layer layer' with
  | zero => exact .none
  | succ n ih =>
    have hfind : Option.Rel r (layer.find? p) (layer'.find? p') := by
      induction h with
      | nil => exact .none
      | cons hab _ ih =>
        rw [List.find?_cons, List.find?_cons, ← hp _ _ hab]
        split
        · exact .some hab
        · exact ih
    rw [sweep, sweep]
    generalize layer.find? p = first, layer'.find? p' = first' at hfind
    cases hfind with
    | some hab => exact .some hab
    | none => exact ih (List.rel_flatMap h fun a b hab => hstep a b hab)

end Map

end Search

end Generics
