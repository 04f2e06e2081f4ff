import Generics.Ordered
import Generics.Proofs.Hierarchy.Reachability
import Mathlib.Data.List.Basic
import Mathlib.Data.List.Find
import Mathlib.Logic.Function.Basic

/-!
# Loops, searches, sorting and failing along a map

A loop over the images of the members of a list does what the loop over the members does, if the test
gives the same answer for a member and its image. The same holds of a search among images, where
nodes are kept apart by their keys, so that different keys must have different images, and of
sorting. A computation that may fail is mapped in its results and in its errors.

## Main definitions

* `mapAttempt` — a computation that may fail or have no answer, along maps

## Main results

* `all_map_eq`, `any_map_eq`, `find?_map_eq` — plain loops
* `allM_map_eq`, `anyM_map_eq`, `findM?_map_eq` — loops whose tests may have no answer
* `Search.walk_map`, `Search.find_map`, `Search.reaches_map_iff`
* `Ordered.sort_map`
* `mapAttempt_bind`, `mapAttempt_liftM_bind`, `mapM_map_eq` — computations in parts
-/

namespace Generics

section Loops

variable {α β : Type} {f : α → β} {as : List α}

theorem all_map_eq {p : α → Bool} {q : β → Bool} (h : ∀ a ∈ as, q (f a) = p a) :
    (as.map f).all q = as.all p := by
  rw [List.all_map, Bool.eq_iff_iff, List.all_eq_true, List.all_eq_true]
  exact forall₂_congr fun a ha => by rw [Function.comp_apply, h a ha]

theorem any_map_eq {p : α → Bool} {q : β → Bool} (h : ∀ a ∈ as, q (f a) = p a) :
    (as.map f).any q = as.any p := by
  rw [List.any_map, Bool.eq_iff_iff, List.any_eq_true, List.any_eq_true]
  exact exists_congr fun a => and_congr_right fun ha => by rw [Function.comp_apply, h a ha]

theorem find?_map_eq {p : α → Bool} {q : β → Bool} (h : ∀ a ∈ as, q (f a) = p a) :
    (as.map f).find? q = (as.find? p).map f := by
  rw [List.find?_map]
  exact congrArg _ (List.find?_congr h)

theorem option_map_eq_self {g : α → α} {o : Option α} (h : ∀ a ∈ o, g a = a) : o.map g = o :=
  (Option.map_congr h).trans Option.map_id_apply

/-- A map changes nothing in a list exactly if it changes no member. -/
theorem map_eq_self_iff {g : α → α} : as.map g = as ↔ ∀ a ∈ as, g a = a := by
  constructor
  · intro h
    exact List.map_inj_left.1 (h.trans (List.map_id as).symm)
  · intro h
    exact (List.map_congr_left h).trans (List.map_id as)

theorem allM_map_eq {p : α → Option Bool} {q : β → Option Bool} (h : ∀ a ∈ as, q (f a) = p a) :
    (as.map f).allM q = as.allM p := by
  induction as with
  | nil => rfl
  | cons a as ih =>
    rw [List.map_cons, List.allM_cons, List.allM_cons, h a List.mem_cons_self,
      ih fun b hb => h b (List.mem_cons_of_mem _ hb)]

theorem anyM_map_eq {p : α → Option Bool} {q : β → Option Bool} (h : ∀ a ∈ as, q (f a) = p a) :
    (as.map f).anyM q = as.anyM p := by
  induction as with
  | nil => rfl
  | cons a as ih =>
    rw [List.map_cons, List.anyM_cons, List.anyM_cons, h a List.mem_cons_self,
      ih fun b hb => h b (List.mem_cons_of_mem _ hb)]

theorem findM?_map_eq {p : α → Option Bool} {q : β → Option Bool}
    (h : ∀ a ∈ as, q (f a) = p a) :
    (as.map f).findM? q = (as.findM? p).map (Option.map f) := by
  induction as with
  | nil => rfl
  | cons a as ih =>
    have hrest := ih fun b hb => h b (List.mem_cons_of_mem _ hb)
    have hfirst := h a List.mem_cons_self
    show (q (f a)).bind _ = ((p a).bind _).map _
    rw [hfirst]
    cases p a with
    | none => rfl
    | some b =>
      cases b with
      | true => rfl
      | false => exact hrest

theorem flatMap_map_eq {γ δ : Type} {next : α → List γ} {next' : β → List δ} {g : γ → δ}
    (h : ∀ a, next' (f a) = (next a).map g) (as : List α) :
    (as.map f).flatMap next' = (as.flatMap next).map g := by
  rw [List.flatMap_map, List.map_flatMap]
  exact List.flatMap_congr fun a _ => h a

/-- Looking up among entries with other keys. -/
theorem lookup_map_of_injective {γ δ : Type} [BEq α] [LawfulBEq α] [BEq β] [LawfulBEq β]
    (hf : Function.Injective f) (g : γ → δ) (a : α) (es : List (α × γ)) :
    (es.map fun e => (f e.1, g e.2)).lookup (f a) = (es.lookup a).map g := by
  induction es with
  | nil => rfl
  | cons e es ih =>
    obtain ⟨b, t⟩ := e
    by_cases hab : a = b
    · subst hab
      rw [List.map_cons, List.lookup_cons_self, List.lookup_cons_self]
      rfl
    · have hne : (a == b) = false := beq_eq_false_iff_ne.2 hab
      have hne' : (f a == f b) = false := beq_eq_false_iff_ne.2 fun h => hab (hf h)
      rw [List.map_cons, List.lookup_cons, List.lookup_cons, hne, hne']
      exact ih

end Loops

/-! ### Searches -/

namespace Search

variable {α β κ μ : Type} {key : α → κ} {key' : β → μ} {next : α → List α} {next' : β → List β}
  {f : α → β} {g : κ → μ}

/-- What a search comes to, along a map. -/
def Outcome.map (f : α → β) : Outcome α → Outcome β
  | .found a => .found (f a)
  | .absent => .absent
  | .unfinished => .unfinished

theorem map_key_map (hkey : ∀ a, key' (f a) = g (key a)) (layer : List α) :
    (layer.map f).map key' = (layer.map key).map g := by
  rw [List.map_map, List.map_map]
  exact List.map_congr_left fun a _ => hkey a

section

variable [DecidableEq κ] [DecidableEq μ] (hg : Function.Injective g)
  (hkey : ∀ a, key' (f a) = g (key a))

include hg hkey

theorem fresh_map (seen : List κ) (layer : List α) :
    fresh key' (seen.map g) (layer.map f) = (fresh key seen layer).map f := by
  induction layer generalizing seen with
  | nil => rfl
  | cons a as ih =>
    rw [List.map_cons, fresh, fresh, hkey]
    by_cases ha : key a ∈ seen
    · rw [if_pos ha, if_pos (List.mem_map_of_mem ha)]
      exact ih seen
    · rw [if_neg ha, if_neg fun h => ha ((List.mem_map_of_injective hg).1 h), List.map_cons,
        ← ih (key a :: seen), List.map_cons]

variable (hnext : ∀ a, next' (f a) = (next a).map f)

include hnext

/-- A walk among images. -/
theorem walk_map (n : Nat) (seen : List κ) (layer : List α) :
    walk next' key' n (seen.map g) (layer.map f) = (walk next key n seen layer).map f := by
  induction n generalizing seen layer with
  | zero => rfl
  | succ n ih =>
    rw [walk_succ, walk_succ, fresh_map hg hkey, map_key_map hkey,
      flatMap_map_eq hnext, ← List.map_append, ih, List.map_append]

/-- A search among images. -/
theorem find_map {p : α → Bool} {q : β → Bool} (hp : ∀ a, q (f a) = p a) (n : Nat) (seen : List κ)
    (layer : List α) :
    find next' key' q n (seen.map g) (layer.map f) =
      (find next key p n seen layer).map f := by
  induction n generalizing seen layer with
  | zero => rfl
  | succ n ih =>
    rw [find, find, fresh_map hg hkey, find?_map_eq fun a _ => hp a]
    cases (fresh key seen layer).find? p with
    | some a => rfl
    | none =>
      simp only [Option.map_none, List.isEmpty_map]
      by_cases hempty : (fresh key seen layer).isEmpty = true
      · rw [if_pos hempty, if_pos hempty]
        rfl
      · rw [if_neg hempty, if_neg hempty, map_key_map hkey, flatMap_map_eq hnext,
          ← List.map_append, ih]

end

/-- Images are reached from images as the nodes are from each other. -/
theorem reaches_map_iff (hf : Function.Injective f) (hnext : ∀ a, next' (f a) = (next a).map f)
    {a b : α} : Reaches next' (f a) (f b) ↔ Reaches next a b := by
  constructor
  · intro h
    suffices hgen : ∀ c, Reaches next' (f a) c → ∃ b, c = f b ∧ Reaches next a b by
      obtain ⟨b', hb', hreach⟩ := hgen _ h
      exact hf hb' ▸ hreach
    intro c hc
    induction hc with
    | refl => exact ⟨a, rfl, .refl⟩
    | tail _ hstep ih =>
      obtain ⟨b', rfl, hb'⟩ := ih
      rw [hnext] at hstep
      obtain ⟨d, hd, rfl⟩ := List.mem_map.1 hstep
      exact ⟨d, rfl, .tail hb' hd⟩
  · intro h
    induction h with
    | refl => exact .refl
    | tail _ hstep ih => exact .tail ih (hnext _ ▸ List.mem_map_of_mem hstep)

end Search

/-! ### Sorting -/

namespace Ordered

variable {α β : Type} {f : α → β} {le : α → α → Bool} {le' : β → β → Bool}

/-- Sorting images. -/
theorem sort_map (h : ∀ a b, le' (f a) (f b) = le a b) (as : List α) :
    sort le' (as.map f) = (sort le as).map f := by
  have hinsert : ∀ a (bs : List α), insert le' (f a) (bs.map f) = (insert le a bs).map f := by
    intro a bs
    induction bs with
    | nil => rfl
    | cons b bs ih =>
      rw [List.map_cons, insert, insert, h]
      split
      · rfl
      · rw [ih, List.map_cons]
  induction as with
  | nil => rfl
  | cons a as ih => rw [List.map_cons, sort, sort, ih, hinsert]

end Ordered

/-! ### Results and failures -/

section Results

variable {ε ε' α β γ δ : Type} {f : ε → ε'} {g : α → β} {k : γ → δ}

/-- A result or an error, along maps. -/
def mapResult (f : ε → ε') (g : α → β) : Except ε α → Except ε' β
  | .error e => .error (f e)
  | .ok a => .ok (g a)

/-- A computation that may fail or have no answer, along maps of errors and results. -/
def mapAttempt (f : ε → ε') (g : α → β) (x : ExceptT ε Option α) : ExceptT ε' Option β :=
  ExceptT.mk (x.run.map (mapResult f g))

@[simp] theorem mapAttempt_pure (a : α) : mapAttempt f g (pure a) = pure (g a) := rfl

/-- A computation in two parts. -/
theorem mapAttempt_bind (x : ExceptT ε Option α) {next : α → ExceptT ε Option γ}
    {next' : β → ExceptT ε' Option δ} (h : ∀ a, next' (g a) = mapAttempt f k (next a)) :
    mapAttempt f g x >>= next' = mapAttempt f k (x >>= next) := by
  refine ExceptT.ext ?_
  show (x.run.map (mapResult f g)).bind _ = (x.run.bind _).map (mapResult f k)
  cases x.run with
  | none => rfl
  | some r =>
    cases r with
    | error e => rfl
    | ok a => exact congrArg ExceptT.run (h a)

/-- A question that is asked on the way. -/
theorem mapAttempt_liftM_bind (x : Option α) {next : α → ExceptT ε Option γ}
    {next' : β → ExceptT ε' Option δ} (h : ∀ a, next' (g a) = mapAttempt f k (next a)) :
    (liftM (x.map g) : ExceptT ε' Option β) >>= next' =
      mapAttempt f k ((liftM x : ExceptT ε Option α) >>= next) := by
  have hlift : (liftM (x.map g) : ExceptT ε' Option β) =
      mapAttempt f g (liftM x : ExceptT ε Option α) := by
    cases x <;> rfl
  rw [hlift]
  exact mapAttempt_bind _ h

/-- A question whose answer stays as it is. -/
theorem mapAttempt_ask (x : Option α) {next : α → ExceptT ε Option γ}
    {next' : α → ExceptT ε' Option δ} (h : ∀ a, next' a = mapAttempt f k (next a)) :
    (liftM x : ExceptT ε' Option α) >>= next' =
      mapAttempt f k ((liftM x : ExceptT ε Option α) >>= next) := by
  have hmap := mapAttempt_liftM_bind (g := id) x h
  rwa [Option.map_id, id_eq] at hmap

theorem mapM_map_eq {as : List γ} {next : γ → ExceptT ε Option α} {next' : δ → ExceptT ε' Option β}
    (h : ∀ a ∈ as, next' (k a) = mapAttempt f g (next a)) :
    (as.map k).mapM next' = mapAttempt f (List.map g) (as.mapM next) := by
  induction as with
  | nil => rfl
  | cons a as ih =>
    rw [List.map_cons, List.mapM_cons, List.mapM_cons, h a List.mem_cons_self,
      ih fun b hb => h b (List.mem_cons_of_mem _ hb)]
    exact mapAttempt_bind _ fun b => mapAttempt_bind _ fun bs => rfl

end Results

end Generics
