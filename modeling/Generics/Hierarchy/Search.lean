/-!
# Searching a graph layer by layer

Breadth-first search over an implicit graph: `next` lists the successors of a node. Nodes with the
same `key` count as one, and the first that turns up is the one that is kept. A layer is handled as
a whole, so the visiting order is that of a queue, and the number of rounds is the number of edges on
the longest path that is looked at.

## Main definitions

* `Search.fresh`: the members of a layer that are new.
* `Search.walk`: every node met in a number of rounds, in visiting order.
* `Search.find`: the first node with a property, with three possible answers.

## Main results

* `mem_fresh` and `key_mem_of_mem`: what is fresh comes from the layer, and no key of it is lost.
* `walk_succ`: a walk is its first layer and the walk from there.
-/

namespace Generics

namespace Search

variable {α κ : Type} [DecidableEq κ]

/-- The members of a layer whose key is new, each key once. -/
def fresh (key : α → κ) : List κ → List α → List α
  | _, [] => []
  | seen, a :: as =>
    if key a ∈ seen then fresh key seen as else a :: fresh key (key a :: seen) as

/-- The nodes met in at most the given number of rounds, in visiting order. -/
def walk (next : α → List α) (key : α → κ) : Nat → List κ → List α → List α
  | 0, _, _ => []
  | n + 1, seen, layer =>
    match fresh key seen layer with
    | [] => []
    | new => new ++ walk next key n (new.map key ++ seen) (new.flatMap next)

/-- The answers of a search. -/
inductive Outcome (α : Type) where
  /-- The first node with the property. -/
  | found (a : α)
  /-- All reachable nodes have been met, and none has the property. -/
  | absent
  /-- The rounds were used up before the graph was. -/
  | unfinished
deriving DecidableEq, Repr

/-- The first node with property `p` in visiting order. -/
def find (next : α → List α) (key : α → κ) (p : α → Bool) : Nat → List κ → List α → Outcome α
  | 0, _, _ => .unfinished
  | n + 1, seen, layer =>
    let new := fresh key seen layer
    match new.find? p with
    | some a => .found a
    | none =>
      if new.isEmpty then .absent
      else find next key p n (new.map key ++ seen) (new.flatMap next)

theorem mem_fresh {key : α → κ} {seen : List κ} {layer : List α} {a : α}
    (h : a ∈ fresh key seen layer) : a ∈ layer ∧ key a ∉ seen := by
  induction layer generalizing seen with
  | nil => simp [fresh] at h
  | cons b bs ih =>
    unfold fresh at h
    split at h
    · exact (ih h).imp (List.mem_cons_of_mem _) id
    · rename_i hb
      rcases List.mem_cons.1 h with rfl | h
      · exact ⟨List.mem_cons_self, hb⟩
      · obtain ⟨ha, hs⟩ := ih h
        exact ⟨List.mem_cons_of_mem _ ha, fun hm => hs (List.mem_cons_of_mem _ hm)⟩

/-- No key of a layer is lost: it is old, or a fresh member has it. -/
theorem key_mem_of_mem {key : α → κ} {seen : List κ} {layer : List α} {a : α} (h : a ∈ layer) :
    key a ∈ seen ∨ key a ∈ (fresh key seen layer).map key := by
  induction layer generalizing seen with
  | nil => simp at h
  | cons b bs ih =>
    unfold fresh
    split
    · rename_i hb
      rcases List.mem_cons.1 h with rfl | h
      · exact Or.inl hb
      · exact ih h
    · rcases List.mem_cons.1 h with rfl | h
      · exact Or.inr (by simp)
      · rcases @ih (key b :: seen) h with hs | hs
        · rcases List.mem_cons.1 hs with he | hs
          · exact Or.inr (by simp [he])
          · exact Or.inl hs
        · exact Or.inr (by simp only [List.map_cons, List.mem_cons]; exact Or.inr hs)

theorem walk_succ (next : α → List α) (key : α → κ) (n : Nat) (seen : List κ) (layer : List α) :
    walk next key (n + 1) seen layer =
      fresh key seen layer ++
        walk next key n ((fresh key seen layer).map key ++ seen)
          ((fresh key seen layer).flatMap next) := by
  rw [walk]
  split
  · rename_i h
    simp only [h, List.map_nil, List.nil_append, List.flatMap_nil]
    cases n <;> simp [walk, fresh]
  · rfl

end Search

end Generics
