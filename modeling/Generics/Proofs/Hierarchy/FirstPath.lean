import Generics.Proofs.Hierarchy.Sweep
import Mathlib.Data.List.Shortlex

/-!
# The path to what is found

In a graph where the choices at each node are numbered, a path from a node is a list of numbers. The
layered search comes to the nodes of a layer in the lexicographic order of the paths that lead to
them, so what it finds lies at the end of the first path to a node with the property: no path is
shorter, and none of the same length comes earlier. Nodes that the search leaves out do not matter,
since the sweep finds the same node without leaving out any.

A choice may lead nowhere. It keeps its number all the same, so that a path counts the choices as
they are given and not only those that lead on.

## Main definitions

* `Search.follow` — the node that a path leads to
* `Search.paths` — all paths of a length with the nodes they lead to, in order
* `Search.IsFirstPath` — no path to a node with the property comes before

## Main results

* `Search.reaches_iff_follow` — what can be reached is what a path leads to
* `Search.isFirstPath_of_sweep` — what comes first lies at the end of the first path
* `Search.exists_find_iff_isFirstPath` — so does what is found, and the first path is found
-/

namespace Generics

namespace Search

variable {α : Type} {choices : α → List (Option α)}

/-- The nodes that the choices of a node lead to. -/
def options (choices : α → List (Option α)) (a : α) : List α := (choices a).filterMap id

/-- The node that a path leads to: each number stands for the choice to be taken. -/
def follow (choices : α → List (Option α)) : List Nat → α → Option α
  | [], a => some a
  | i :: path, a => (choices a)[i]?.join.bind (follow choices path)

theorem mem_options {a b : α} :
    b ∈ options choices a ↔ ∃ i : Nat, (choices a)[i]?.join = some b := by
  rw [options, List.mem_filterMap]
  constructor
  · rintro ⟨o, ho, rfl⟩
    obtain ⟨i, hi⟩ := List.mem_iff_getElem?.1 ho
    exact ⟨i, by rw [hi]; rfl⟩
  · rintro ⟨i, hi⟩
    exact ⟨some b, List.mem_of_getElem? (Option.join_eq_some_iff.1 hi), rfl⟩

theorem follow_cons_eq_some_iff {i : Nat} {path : List Nat} {a c : α} :
    follow choices (i :: path) a = some c ↔
      ∃ b, (choices a)[i]?.join = some b ∧ follow choices path b = some c :=
  Option.bind_eq_some_iff

/-- A path leads to what lies within its length. -/
theorem within_of_follow {path : List Nat} {a b : α} (h : follow choices path a = some b) :
    Within (options choices) path.length a b := by
  induction path generalizing a with
  | nil => exact Option.some.inj h
  | cons i path ih =>
    obtain ⟨c, hc, hcb⟩ := follow_cons_eq_some_iff.1 h
    exact Or.inr ⟨c, mem_options.2 ⟨i, hc⟩, ih hcb⟩

/-- What can be reached is what a path leads to. -/
theorem reaches_iff_follow {a b : α} :
    Reaches (options choices) a b ↔ ∃ path, follow choices path a = some b := by
  constructor
  · intro h
    induction h using Relation.ReflTransGen.head_induction_on with
    | refl => exact ⟨[], rfl⟩
    | head hac _ ih =>
      obtain ⟨i, hi⟩ := mem_options.1 hac
      obtain ⟨path, hpath⟩ := ih
      exact ⟨i :: path, follow_cons_eq_some_iff.2 ⟨_, hi, hpath⟩⟩
  · rintro ⟨path, h⟩
    exact reaches_iff_within.2 ⟨path.length, within_of_follow h⟩

/-! ### All paths in order -/

/-- The paths of the given length with the nodes they lead to, in lexicographic order. -/
def paths (choices : α → List (Option α)) : Nat → α → List (List Nat × α)
  | 0, a => [([], a)]
  | k + 1, a => (choices a).zipIdx.flatMap fun e =>
      e.1.toList.flatMap fun b => (paths choices k b).map fun f => (e.2 :: f.1, f.2)

theorem mem_paths {k : Nat} {a b : α} {path : List Nat} :
    (path, b) ∈ paths choices k a ↔ path.length = k ∧ follow choices path a = some b := by
  induction k generalizing a path with
  | zero =>
    rw [paths, List.mem_singleton, Prod.mk.injEq, List.length_eq_zero_iff]
    refine and_congr_right fun hpath => ?_
    rw [hpath, follow, Option.some.injEq, eq_comm]
  | succ k ih =>
    rw [paths, List.mem_flatMap]
    constructor
    · rintro ⟨⟨o, i⟩, hoi, h⟩
      obtain ⟨c, hc, h⟩ := List.mem_flatMap.1 h
      obtain ⟨f, hf, he⟩ := List.mem_map.1 h
      obtain ⟨rfl, rfl⟩ := Prod.mk.inj he
      obtain rfl : o = some c := Option.mem_toList.1 hc
      obtain ⟨hlen, hfollow⟩ := ih.1 hf
      have hi : (choices a)[i]? = some (some c) := List.mem_zipIdx_iff_getElem?.1 hoi
      exact ⟨congrArg (· + 1) hlen,
        follow_cons_eq_some_iff.2 ⟨c, by rw [hi]; rfl, hfollow⟩⟩
    · rintro ⟨hlen, hfollow⟩
      cases path with
      | nil => cases hlen
      | cons i path =>
        obtain ⟨c, hi, hfollow⟩ := follow_cons_eq_some_iff.1 hfollow
        refine ⟨(some c, i), List.mem_zipIdx_iff_getElem?.2 (Option.join_eq_some_iff.1 hi), ?_⟩
        have hmem : (path, b) ∈ paths choices k c := ih.2 ⟨Nat.succ.inj hlen, hfollow⟩
        exact List.mem_flatMap.2 ⟨c, List.mem_singleton_self c, List.mem_map_of_mem hmem⟩

/-- The paths of one length are listed in lexicographic order. -/
theorem pairwise_paths (k : Nat) (a : α) :
    (paths choices k a).Pairwise fun e f => List.Lex (· < ·) e.1 f.1 := by
  induction k generalizing a with
  | zero => exact List.pairwise_singleton _ _
  | succ k ih =>
    have hnumbers : (choices a).zipIdx.Pairwise fun e f => e.2 < f.2 := by
      rw [← List.pairwise_map, List.zipIdx_map_snd]
      exact List.pairwise_lt_range'
    rw [paths, List.pairwise_flatMap]
    refine ⟨fun e _ => ?_, hnumbers.imp fun {e f} hlt x hx y hy => ?_⟩
    · -- after the same choice the rest of the path decides
      cases e.1 with
      | none => exact .nil
      | some b =>
        rw [Option.toList_some, List.flatMap_singleton, List.pairwise_map]
        exact (ih b).imp .cons
    · obtain ⟨b, -, hx⟩ := List.mem_flatMap.1 hx
      obtain ⟨c, -, hy⟩ := List.mem_flatMap.1 hy
      obtain ⟨x, -, rfl⟩ := List.mem_map.1 hx
      obtain ⟨y, -, rfl⟩ := List.mem_map.1 hy
      exact .rel hlt

/-- The ends of the paths of a length are the nodes of a layer. -/
theorem map_snd_paths_succ (k : Nat) (a : α) :
    (paths choices (k + 1) a).map Prod.snd =
      (options choices a).flatMap fun b => (paths choices k b).map Prod.snd := by
  have hchoice : ∀ o : Option α, ∀ i : Nat,
      (o.toList.flatMap fun b => (paths choices k b).map fun f => (i :: f.1, f.2)).map Prod.snd =
        o.toList.flatMap fun b => (paths choices k b).map Prod.snd := by
    intro o i
    cases o with
    | none => rfl
    | some b => simp [List.map_map, Function.comp_def]
  have hoptions : options choices a = ((choices a).zipIdx.map Prod.fst).flatMap Option.toList := by
    rw [List.zipIdx_map_fst, options, List.filterMap_eq_flatMap_toList]
    rfl
  rw [paths, List.map_flatMap, hoptions, List.flatMap_map, List.flatMap_assoc]
  exact List.flatMap_congr fun e _ => hchoice e.1 e.2

/-! ### The first path -/

variable {p : α → Bool}

/-- The path leads to a node with the property, and all others that do are longer, or are as long
and come later. -/
structure IsFirstPath (choices : α → List (Option α)) (p : α → Bool) (a : α) (path : List Nat)
    (b : α) : Prop where
  /-- The path leads to the node, -/
  follow : follow choices path a = some b
  /-- the node has the property, -/
  prop : p b = true
  /-- and no other path to such a node comes first. -/
  first : ∀ path' b', Search.follow choices path' a = some b' → p b' = true →
    path' = path ∨ List.Shortlex (· < ·) path path'

/-- There is one first path. -/
theorem IsFirstPath.unique {a b c : α} {path path' : List Nat}
    (h : IsFirstPath choices p a path b) (h' : IsFirstPath choices p a path' c) : b = c := by
  have hsame : path' = path := by
    rcases h.first path' c h'.follow h'.prop with he | hlt
    · exact he
    · rcases h'.first path b h.follow h.prop with he | hgt
      · exact he.symm
      · exact absurd hgt (Std.Asymm.asymm _ _ hlt)
  have hb : Search.follow choices path a = some b := h.follow
  rw [← hsame, h'.follow] at hb
  exact (Option.some.inj hb).symm

/-- A sweep comes to the first node with the property in the first layer that has one. -/
theorem exists_layer_of_sweep {n : Nat} {layer : List α} {b : α}
    (h : sweep (options choices) p n layer = some b) :
    ∃ k, (layer.flatMap fun a => (paths choices k a).map Prod.snd).find? p = some b ∧
      ∀ j < k, ∀ a ∈ layer, ∀ e ∈ paths choices j a, p e.2 = false := by
  induction n generalizing layer with
  | zero => cases h
  | succ n ih =>
    rw [sweep] at h
    cases hp : layer.find? p with
    | some c =>
      simp only [hp, Option.some.injEq] at h
      subst h
      exact ⟨0, by simpa [paths] using hp, fun j hj => absurd hj (Nat.not_lt_zero j)⟩
    | none =>
      simp only [hp] at h
      obtain ⟨k, hfound, hbefore⟩ := ih h
      refine ⟨k + 1, ?_, fun j hj a ha e he => ?_⟩
      · rw [← hfound, List.flatMap_assoc]
        exact congrArg _ (List.flatMap_congr fun a _ => map_snd_paths_succ k a)
      · cases j with
        | zero =>
          obtain rfl := List.mem_singleton.1 he
          exact Bool.eq_false_iff.2 (List.find?_eq_none.1 hp a ha)
        | succ j =>
          have hend : e.2 ∈ (paths choices (j + 1) a).map Prod.snd := List.mem_map_of_mem he
          rw [map_snd_paths_succ] at hend
          obtain ⟨c, hc, hend⟩ := List.mem_flatMap.1 hend
          obtain ⟨f, hf, hfe⟩ := List.mem_map.1 hend
          exact hfe ▸ hbefore j (Nat.lt_of_succ_lt_succ hj) c
            (List.mem_flatMap.2 ⟨a, ha, hc⟩) f hf

/-- **What comes first in a sweep lies at the end of the first path.** -/
theorem isFirstPath_of_sweep {n : Nat} {a b : α}
    (h : sweep (options choices) p n [a] = some b) :
    ∃ path, IsFirstPath choices p a path b := by
  obtain ⟨k, hfound, hbefore⟩ := exists_layer_of_sweep h
  rw [List.flatMap_singleton, List.find?_map] at hfound
  obtain ⟨⟨path, c⟩, hfirst, rfl⟩ := Option.map_eq_some_iff.1 hfound
  obtain ⟨hprop, before, after, hsplit, hnot⟩ := List.find?_eq_some_iff_append.1 hfirst
  have hmem : (path, c) ∈ paths choices k a := List.mem_of_find?_eq_some hfirst
  obtain ⟨hlen, hfollow⟩ := mem_paths.1 hmem
  refine ⟨path, hfollow, hprop, fun path' b' hfollow' hprop' => ?_⟩
  rcases Nat.lt_trichotomy path'.length k with hlt | heq | hgt
  · -- no shorter path leads to a node with the property
    have hfalse := hbefore _ hlt a (List.mem_singleton_self a) _ (mem_paths.2 ⟨rfl, hfollow'⟩)
    rw [hfalse] at hprop'
    cases hprop'
  · -- among those of the same length the list is in order
    have hmem' : (path', b') ∈ paths choices k a := mem_paths.2 ⟨heq, hfollow'⟩
    have hsorted : (paths choices k a).Pairwise fun e f => List.Lex (· < ·) e.1 f.1 :=
      pairwise_paths k a
    rw [hsplit] at hmem' hsorted
    rcases List.mem_append.1 hmem' with hmem' | hmem'
    · have hfalse := hnot _ hmem'
      simp only [Function.comp_apply, hprop', Bool.not_true, Bool.false_eq_true] at hfalse
    · rcases List.mem_cons.1 hmem' with he | hmem'
      · exact .inl (congrArg Prod.fst he)
      · have hlex := (List.pairwise_cons.1 (List.pairwise_append.1 hsorted).2.1).1 _ hmem'
        exact .inr (.of_lex (hlen.trans heq.symm) hlex)
  · exact .inr (.of_length_lt (hlen ▸ hgt))

/-- **What is found lies at the end of the first path,** and where a path to a node with the
property exists, the first one is found. -/
theorem exists_find_iff_isFirstPath [DecidableEq α] {a b : α} :
    (∃ n, find (options choices) id p n [] [a] = .found b) ↔
      ∃ path, IsFirstPath choices p a path b := by
  constructor
  · rintro ⟨n, h⟩
    exact isFirstPath_of_sweep (sweep_of_find (keyDecides_id _ _) h)
  · rintro ⟨path, h⟩
    obtain ⟨n, c, hc⟩ := exists_find_of_reaches (reaches_iff_follow.2 ⟨path, h.follow⟩) h.prop
    obtain ⟨path', h'⟩ := isFirstPath_of_sweep (sweep_of_find (keyDecides_id _ _) hc)
    obtain rfl := h.unique h'
    exact ⟨n, hc⟩

end Search

end Generics
