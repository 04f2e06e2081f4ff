import Generics.Hierarchy.Search
import Mathlib.Logic.Relation

/-!
# What a layered search meets

A search that keeps nodes apart by themselves meets exactly the nodes that can be reached. Both
searches maintain one invariant, `Frontier`: whatever lies directly above a node that has been seen
has been seen too, or is in the layer to come. Soundness needs no invariant and holds for any key.

## Main definitions

* `Search.Reaches` — one node leads to another in any number of steps
* `Search.Within` — it does so in at most a given number of steps
* `Search.Frontier` — the invariant of both searches
* `Search.spread` — how many nodes a node leads to

## Main results

* `Search.reaches_of_mem_walk`, `Search.reaches_of_find` — nothing else is met
* `Search.mem_walk_of_reaches` — enough rounds meet everything
* `Search.find_of_within` — a node with the property at distance `k` ends the search in `k + 1`
  rounds
* `Search.find_of_path` — along a path that never closes the search has no end
* `Search.find_succ_found`, `Search.find_succ_absent` — further rounds do not change an answer
* `Search.walk_succ_of_expandable` — nor do they meet anything once there is nothing left to meet
* `Search.find_ne_unfinished` — how many rounds are enough to come to an answer
* `Search.exists_find_of_reaches`, `Search.prop_eq_false_of_find_absent` — what the answers say
* `Search.spread_lt` — a step that cannot be taken back leads to fewer nodes
-/

namespace Generics

namespace Search

variable {α κ : Type} [DecidableEq κ] {next : α → List α}

/-- `b` can be reached from `a` in any number of steps. -/
def Reaches (next : α → List α) : α → α → Prop := Relation.ReflTransGen fun a b => b ∈ next a

/-- `b` can be reached from `a` in at most the given number of steps. -/
def Within (next : α → List α) : Nat → α → α → Prop
  | 0, a, b => a = b
  | k + 1, a, b => a = b ∨ ∃ c ∈ next a, Within next k c b

theorem reaches_iff_within {a b : α} : Reaches next a b ↔ ∃ k, Within next k a b := by
  constructor
  · intro h
    induction h using Relation.ReflTransGen.head_induction_on with
    | refl => exact ⟨0, rfl⟩
    | head hac _ ih =>
      obtain ⟨k, hk⟩ := ih
      exact ⟨k + 1, Or.inr ⟨_, hac, hk⟩⟩
  · rintro ⟨k, hk⟩
    induction k generalizing a with
    | zero => exact hk ▸ .refl
    | succ k ih =>
      rcases hk with rfl | ⟨c, hac, hcb⟩
      · exact .refl
      · exact .head hac (ih hcb)

/-! ### Soundness -/

theorem reaches_of_mem_flatMap {layer : List α} {a b : α} (h : a ∈ layer.flatMap next)
    (hab : Reaches next a b) : ∃ c ∈ layer, Reaches next c b := by
  obtain ⟨c, hc, hca⟩ := List.mem_flatMap.1 h
  exact ⟨c, hc, .head hca hab⟩

/-- Only nodes that can be reached from the first layer are met. -/
theorem reaches_of_mem_walk {key : α → κ} {n : Nat} {seen : List κ} {layer : List α} {a : α}
    (h : a ∈ walk next key n seen layer) : ∃ b ∈ layer, Reaches next b a := by
  induction n generalizing seen layer with
  | zero => simp [walk] at h
  | succ n ih =>
    rw [walk_succ] at h
    rcases List.mem_append.1 h with h | h
    · exact ⟨a, (mem_fresh h).1, .refl⟩
    · obtain ⟨b, hb, hba⟩ := ih h
      obtain ⟨c, hc, hca⟩ := reaches_of_mem_flatMap hb hba
      exact ⟨c, (mem_fresh hc).1, hca⟩

/-- What is found has the property and can be reached from the first layer. -/
theorem reaches_of_find {key : α → κ} {p : α → Bool} {n : Nat} {seen : List κ} {layer : List α}
    {a : α} (h : find next key p n seen layer = .found a) :
    p a = true ∧ ∃ b ∈ layer, Reaches next b a := by
  induction n generalizing seen layer with
  | zero => cases h
  | succ n ih =>
    rw [find] at h
    cases hp : (fresh key seen layer).find? p with
    | some b =>
      simp only [hp, Outcome.found.injEq] at h
      subst h
      exact ⟨List.find?_some hp, b, (mem_fresh (List.mem_of_find?_eq_some hp)).1, .refl⟩
    | none =>
      simp only [hp] at h
      split at h
      · cases h
      · obtain ⟨hpa, b, hb, hba⟩ := ih h
        obtain ⟨c, hc, hca⟩ := reaches_of_mem_flatMap hb hba
        exact ⟨hpa, c, (mem_fresh hc).1, hca⟩

/-- A search that starts at a node with the property ends there. -/
theorem find_start {key : α → κ} {p : α → Bool} {a : α} (h : p a = true) (n : Nat) :
    find next key p (n + 1) [] [a] = .found a := by
  have hfresh : fresh key [] [a] = [a] := by simp [fresh]
  rw [find, hfresh, List.find?_singleton, h]
  rfl

/-! ### Further rounds -/

section Rounds

variable {key : α → κ} {p : α → Bool} {n : Nat} {seen : List κ} {layer : List α}

theorem find_succ_found {a : α} (h : find next key p n seen layer = .found a) :
    find next key p (n + 1) seen layer = .found a := by
  induction n generalizing seen layer with
  | zero => cases h
  | succ n ih =>
    rw [find] at h ⊢
    cases hp : (fresh key seen layer).find? p with
    | some b => simpa only [hp] using h
    | none =>
      simp only [hp] at h ⊢
      split at h
      · cases h
      · rename_i hne
        rw [if_neg hne]
        exact ih h

theorem find_succ_absent (h : find next key p n seen layer = .absent) :
    find next key p (n + 1) seen layer = .absent := by
  induction n generalizing seen layer with
  | zero => cases h
  | succ n ih =>
    rw [find] at h ⊢
    cases hp : (fresh key seen layer).find? p with
    | some b =>
      simp only [hp] at h
      cases h
    | none =>
      simp only [hp] at h ⊢
      split at h
      · rename_i he
        rw [if_pos he]
      · rename_i hne
        rw [if_neg hne]
        exact ih h

/-- A round that meets a member of a list leaves fewer of its members unseen. -/
theorem length_unseen_lt {keys seen : List κ} {layer : List α} {c : α}
    (hc : c ∈ fresh key seen layer) (hmem : key c ∈ keys) :
    (keys.filter (· ∉ (fresh key seen layer).map key ++ seen)).length <
      (keys.filter (· ∉ seen)).length := by
  have hsplit : keys.filter (· ∉ (fresh key seen layer).map key ++ seen) =
      (keys.filter (· ∉ seen)).filter (· ∉ (fresh key seen layer).map key) := by
    rw [List.filter_filter]
    exact List.filter_congr fun x _ => by simp [not_or]
  have hunseen : key c ∉ seen := (mem_fresh hc).2
  rw [hsplit, List.length_filter_lt_length_iff_exists]
  exact ⟨key c, List.mem_filter.2 ⟨hmem, by simpa using hunseen⟩,
    by simpa using ⟨c, hc, rfl⟩⟩

/-- **Surplus rounds meet nothing more.** If only nodes with a key among `expandable` lead anywhere,
and fewer of these keys than there are rounds have not been seen yet, one round more changes
nothing. -/
theorem walk_succ_of_expandable {expandable : List κ} (hexp : ∀ a, next a ≠ [] → key a ∈ expandable)
    (hn : (expandable.filter (· ∉ seen)).length < n) :
    walk next key (n + 1) seen layer = walk next key n seen layer := by
  induction n generalizing seen layer with
  | zero => omega
  | succ n ih =>
    refine (walk_succ next key (n + 1) seen layer).trans
      (Eq.trans ?_ (walk_succ next key n seen layer).symm)
    rw [List.append_cancel_left_eq]
    by_cases hnew : ∃ c ∈ fresh key seen layer, key c ∈ expandable
    · obtain ⟨c, hc, hce⟩ := hnew
      have hlt := length_unseen_lt hc hce
      exact ih (Nat.lt_of_lt_of_le hlt (Nat.lt_succ_iff.1 hn))
    · -- nothing lies above the fresh nodes, and the walk is over on both sides
      have hnil : (fresh key seen layer).flatMap next = [] := by
        refine List.flatMap_eq_nil_iff.2 fun c hc => ?_
        exact Classical.not_not.1 fun hne => hnew ⟨c, hc, hexp c hne⟩
      have hwalk : ∀ m met, walk next key m met [] = [] := fun m met => by cases m <;> rfl
      rw [hnil, hwalk, hwalk]

/-- A search that has ended stays as it is. -/
theorem find_of_le {m : Nat} (hnm : n ≤ m) (h : find next key p n seen layer ≠ .unfinished) :
    find next key p m seen layer = find next key p n seen layer := by
  induction hnm with
  | refl => rfl
  | step _ ih =>
    cases hn : find next key p n seen layer with
    | found a => exact find_succ_found (ih.trans hn)
    | absent => exact find_succ_absent (ih.trans hn)
    | unfinished => exact absurd hn h

/-- **A search with enough rounds ends.** Only nodes with a key among `expandable` have to lead
anywhere, of those that can be reached, and two more rounds are needed than such keys are left. -/
theorem find_ne_unfinished {expandable : List κ}
    (hexp : ∀ b ∈ layer, ∀ a, Reaches next b a → next a ≠ [] → key a ∈ expandable)
    (hn : (expandable.filter (· ∉ seen)).length + 1 < n) :
    find next key p n seen layer ≠ .unfinished := by
  induction n generalizing seen layer with
  | zero => omega
  | succ n ih =>
    rw [find]
    cases (fresh key seen layer).find? p with
    | some a =>
      intro he
      cases he
    | none =>
      show (if (fresh key seen layer).isEmpty then Outcome.absent else _) ≠ Outcome.unfinished
      split
      · intro he
        cases he
      · by_cases hnew : ∃ c ∈ fresh key seen layer, key c ∈ expandable
        · obtain ⟨c, hc, hce⟩ := hnew
          have hlt := length_unseen_lt hc hce
          refine ih (fun b hb a hba => ?_) (by omega)
          obtain ⟨d, hd, hda⟩ := reaches_of_mem_flatMap hb hba
          exact hexp d (mem_fresh hd).1 a hda
        · -- nothing lies above the fresh nodes, and the next round sees that
          have hnil : (fresh key seen layer).flatMap next = [] := by
            refine List.flatMap_eq_nil_iff.2 fun c hc => ?_
            refine Classical.not_not.1 fun hne => hnew ⟨c, hc, ?_⟩
            exact hexp c (mem_fresh hc).1 c .refl hne
          obtain ⟨k, rfl⟩ : ∃ k, n = k + 1 := ⟨n - 1, by omega⟩
          rw [hnil]
          intro he
          cases he

end Rounds

/-! ### Completeness

From here on nodes are kept apart by themselves. -/

/-- What lies directly above a seen node has been seen or is in the layer. -/
def Frontier (next : α → List α) (seen layer : List α) : Prop :=
  ∀ a ∈ seen, ∀ b ∈ next a, b ∈ seen ∨ b ∈ layer

theorem frontier_nil (next : α → List α) (layer : List α) : Frontier next [] layer :=
  fun _ ha => absurd ha List.not_mem_nil

/-- With an empty layer to come, what has been seen is closed. -/
theorem Frontier.mem_of_reaches {seen : List α} (h : Frontier next seen []) {a b : α}
    (ha : a ∈ seen) (hab : Reaches next a b) : b ∈ seen := by
  induction hab with
  | refl => exact ha
  | tail _ hbc ih => exact (h _ ih _ hbc).resolve_right List.not_mem_nil

variable [DecidableEq α]

/-- A layer of copies of one unseen node has that node fresh, once. -/
theorem fresh_of_forall_eq {seen layer : List α} {a : α} (hne : layer ≠ [])
    (h : ∀ b ∈ layer, b = a) (ha : a ∉ seen) : fresh id seen layer = [a] := by
  have hrest : ∀ {bs : List α}, (∀ b ∈ bs, b = a) → fresh id (a :: seen) bs = [] := by
    intro bs hbs
    induction bs with
    | nil => rfl
    | cons b bs ih =>
      rw [fresh, if_pos (by simp [hbs b List.mem_cons_self])]
      exact ih fun c hc => hbs c (List.mem_cons_of_mem _ hc)
  cases layer with
  | nil => exact absurd rfl hne
  | cons b bs =>
    obtain rfl := h b List.mem_cons_self
    rw [fresh, if_neg (by simpa using ha), id_eq,
      hrest fun c hc => h c (List.mem_cons_of_mem _ hc)]

/-- **A path that never closes is searched for ever,** if each of its nodes leads to the next one
only and none has the property. -/
theorem find_of_path {p : α → Bool} {f : Nat → α} (hinj : ∀ i j, f i = f j → i = j)
    (hstep : ∀ i, next (f i) ≠ [] ∧ ∀ b ∈ next (f i), b = f (i + 1))
    (hp : ∀ i, p (f i) = false) (n : Nat) :
    find next id p n [] [f 0] = .unfinished := by
  suffices hgen : ∀ n i (seen layer : List α), layer ≠ [] → (∀ b ∈ layer, b = f i) →
      (∀ b ∈ seen, ∃ j < i, b = f j) → find next id p n seen layer = .unfinished from
    hgen n 0 [] [f 0] (List.cons_ne_nil _ _) (fun b hb => List.mem_singleton.1 hb)
      fun b hb => absurd hb List.not_mem_nil
  intro n
  induction n with
  | zero => intros; rfl
  | succ n ih =>
    intro i seen layer hne hlayer hseen
    have hfresh : fresh id seen layer = [f i] := by
      refine fresh_of_forall_eq hne hlayer fun hmem => ?_
      obtain ⟨j, hj, he⟩ := hseen _ hmem
      exact Nat.ne_of_lt hj (hinj i j he).symm
    rw [find, hfresh, List.find?_singleton, hp i]
    refine ih (i + 1) _ _ ?_ ?_ ?_
    · simpa using (hstep i).1
    · simpa using (hstep i).2
    · intro b hb
      rcases List.mem_append.1 hb with hb | hb
      · exact ⟨i, Nat.lt_succ_self i, by simpa using hb⟩
      · obtain ⟨j, hj, rfl⟩ := hseen b hb
        exact ⟨j, Nat.lt_succ_of_lt hj, rfl⟩

/-- A search that can only stay where it is ends in the second round. -/
theorem find_of_loop {p : α → Bool} {a : α} (hstep : ∀ b ∈ next a, b = a) (hp : p a = false) :
    find next id p 2 [] [a] = .absent := by
  have hfresh : fresh id [] [a] = [a] :=
    fresh_of_forall_eq (List.cons_ne_nil _ _) (fun b hb => List.mem_singleton.1 hb)
      List.not_mem_nil
  have hnone : fresh id [a] (next a) = [] := by
    refine List.eq_nil_iff_forall_not_mem.2 fun b hb => (mem_fresh hb).2 ?_
    exact List.mem_singleton.2 (hstep b (mem_fresh hb).1)
  rw [find, hfresh, List.find?_singleton, hp]
  have hlast : find next id p 1 [a] (next a) = .absent := by
    rw [find, hnone]
    rfl
  simpa using hlast

/-- A member of the layer has been seen or is fresh. -/
theorem mem_seen_or_fresh {seen layer : List α} {a : α} (h : a ∈ layer) :
    a ∈ seen ∨ a ∈ fresh id seen layer := by
  have hkey : id a ∈ seen ∨ id a ∈ (fresh id seen layer).map id := key_mem_of_mem h
  rwa [List.map_id] at hkey

/-- After a round everything that was seen or in the layer has been seen. -/
theorem mem_seen_after {seen layer : List α} {a : α} (h : a ∈ seen ∨ a ∈ layer) :
    a ∈ (fresh id seen layer).map id ++ seen := by
  rw [List.map_id, List.mem_append]
  rcases h with h | h
  · exact Or.inr h
  · exact (mem_seen_or_fresh h).symm

/-- One round keeps the invariant. -/
theorem Frontier.step {seen layer : List α} (h : Frontier next seen layer) :
    Frontier next ((fresh id seen layer).map id ++ seen)
      ((fresh id seen layer).flatMap next) := by
  intro a ha b hb
  rw [List.map_id] at ha
  rcases List.mem_append.1 ha with ha | ha
  · exact Or.inr (List.mem_flatMap.2 ⟨a, ha, hb⟩)
  · exact Or.inl (mem_seen_after (h a ha b hb))

/-- **Enough rounds meet everything.** If only members of `expandable` lead anywhere, and fewer of
them than there are rounds have not been seen yet, every node that can be reached has been seen or
is met. -/
theorem mem_walk_of_reaches {expandable : List α} (hexp : ∀ a, next a ≠ [] → a ∈ expandable)
    {n : Nat} {seen layer : List α} (hf : Frontier next seen layer)
    (hn : (expandable.filter (· ∉ seen)).length < n) {a b : α} (ha : a ∈ seen ∨ a ∈ layer)
    (hab : Reaches next a b) : b ∈ seen ∨ b ∈ walk next id n seen layer := by
  induction n generalizing seen layer a with
  | zero => omega
  | succ n ih =>
    have hstart := mem_seen_after ha
    have hsplit : b ∈ (fresh id seen layer).map id ++ seen →
        b ∈ seen ∨ b ∈ walk next id (n + 1) seen layer := by
      intro hb
      rw [List.map_id] at hb
      rw [walk_succ]
      exact (List.mem_append.1 hb).symm.imp_right (List.mem_append_left _)
    by_cases hnew : ∃ c ∈ fresh id seen layer, c ∈ expandable
    · -- a fresh expandable node uses up one of those counted
      obtain ⟨c, hc, hce⟩ := hnew
      have hlt := length_unseen_lt hc hce
      rcases ih hf.step (by omega) (Or.inl hstart) hab with hb | hb
      · exact hsplit hb
      · exact Or.inr (by rw [walk_succ]; exact List.mem_append_right _ hb)
    · -- otherwise nothing lies above the fresh nodes, and all is seen after this round
      have hnil : (fresh id seen layer).flatMap next = [] := by
        refine List.flatMap_eq_nil_iff.2 fun c hc => ?_
        exact Classical.not_not.1 fun hne => hnew ⟨c, hc, hexp c hne⟩
      have hclosed := hf.step
      rw [hnil] at hclosed
      exact hsplit (hclosed.mem_of_reaches hstart hab)

/-- **The search ends at a distance.** If a node with the property is at most `k` steps away, then
`k + 1` rounds find one. -/
theorem find_of_within {p : α → Bool} {k : Nat} {seen layer : List α}
    (hf : Frontier next seen layer) (hseen : ∀ a ∈ seen, p a = false) {a b : α}
    (ha : a ∈ seen ∨ a ∈ layer) (hab : Within next k a b) (hb : p b = true) :
    ∃ c, find next id p (k + 1) seen layer = .found c := by
  induction k generalizing seen layer a with
  | zero =>
    obtain rfl : a = b := hab
    have hfresh : a ∈ fresh id seen layer := by
      rcases ha with ha | ha
      · rw [hseen a ha] at hb
        cases hb
      · exact (mem_seen_or_fresh ha).resolve_left fun hs => by rw [hseen a hs] at hb; cases hb
    obtain ⟨c, hc⟩ := Option.isSome_iff_exists.1 (List.find?_isSome.2 ⟨a, hfresh, hb⟩)
    exact ⟨c, by rw [find]; simp only [hc]⟩
  | succ k ih =>
    rw [find]
    cases hp : (fresh id seen layer).find? p with
    | some c => exact ⟨c, rfl⟩
    | none =>
      have hseen' : ∀ c ∈ (fresh id seen layer).map id ++ seen, p c = false := by
        intro c hc
        rw [List.map_id] at hc
        rcases List.mem_append.1 hc with hc | hc
        · exact Bool.eq_false_iff.2 (List.find?_eq_none.1 hp c hc)
        · exact hseen c hc
      have hstart := mem_seen_after ha
      have hempty : (fresh id seen layer).isEmpty = false := by
        -- with nothing fresh the seen nodes are closed, and `b` would be one of them
        refine Bool.eq_false_iff.2 fun he => ?_
        have hnil : fresh id seen layer = [] := List.isEmpty_iff.1 he
        have hclosed := hf.step
        rw [hnil] at hclosed
        rw [hnil] at hstart
        have hbs := hclosed.mem_of_reaches hstart (reaches_iff_within.2 ⟨k + 1, hab⟩)
        rw [hseen b hbs] at hb
        cases hb
      simp only [hempty, Bool.false_eq_true, if_false]
      rcases hab with rfl | ⟨c, hac, hcb⟩
      · rw [hseen' a hstart] at hb
        cases hb
      · exact ih hf.step hseen' (hf.step a hstart c hac) hcb

/-- If a node with the property can be reached, some number of rounds finds one. -/
theorem exists_find_of_reaches {p : α → Bool} {a b : α} (hab : Reaches next a b) (hb : p b = true) :
    ∃ n c, find next id p n [] [a] = .found c := by
  obtain ⟨k, hk⟩ := reaches_iff_within.1 hab
  obtain ⟨c, hc⟩ := find_of_within (frontier_nil next [a]) (fun _ ha => absurd ha List.not_mem_nil)
    (Or.inr List.mem_cons_self) hk hb
  exact ⟨k + 1, c, hc⟩

/-- Where nothing is found, nothing with the property can be reached. -/
theorem prop_eq_false_of_find_absent {p : α → Bool} {n : Nat} {a b : α}
    (h : find next id p n [] [a] = .absent) (hab : Reaches next a b) : p b = false := by
  refine Bool.eq_false_iff.2 fun hb => ?_
  obtain ⟨m, c, hc⟩ := exists_find_of_reaches hab hb
  have hfound : find next id p (max n m) [] [a] = .found c := by
    rw [find_of_le (Nat.le_max_right n m) (by rw [hc]; exact nofun), hc]
  have habsent : find next id p (max n m) [] [a] = .absent := by
    rw [find_of_le (Nat.le_max_left n m) (by rw [h]; exact nofun), h]
  rw [hfound] at habsent
  cases habsent

/-! ### Counting what can be reached

Only the given nodes lead anywhere, and there are more rounds than nodes. -/

section Counting

variable {nodes : List α} {rounds : Nat}

/-- A walk from a node meets exactly the nodes that can be reached. -/
theorem mem_walk_iff_reaches (hnodes : ∀ a, next a ≠ [] → a ∈ nodes) (hn : nodes.length < rounds)
    {a b : α} : b ∈ walk next id rounds [] [a] ↔ Reaches next a b := by
  constructor
  · intro h
    obtain ⟨c, hc, hreach⟩ := reaches_of_mem_walk h
    exact List.mem_singleton.1 hc ▸ hreach
  · intro h
    have hrounds : (nodes.filter (· ∉ [])).length < rounds :=
      Nat.lt_of_le_of_lt (List.length_filter_le _ _) hn
    exact (mem_walk_of_reaches hnodes (frontier_nil _ _) hrounds (Or.inr List.mem_cons_self)
      h).resolve_left List.not_mem_nil

/-- How many of the nodes a node leads to. -/
def spread (next : α → List α) (rounds : Nat) (nodes : List α) (a : α) : Nat :=
  (nodes.filter fun b => (walk next id rounds [] [a]).contains b).length

/-- What can be reached from further up is part of what can be reached. -/
theorem filter_reached (hnodes : ∀ a, next a ≠ [] → a ∈ nodes) (hn : nodes.length < rounds)
    {a b : α} (hab : Reaches next a b) :
    (nodes.filter fun c => (walk next id rounds [] [b]).contains c) =
      (nodes.filter fun c => (walk next id rounds [] [a]).contains c).filter fun c =>
        (walk next id rounds [] [b]).contains c := by
  rw [List.filter_filter]
  refine List.filter_congr fun c _ => ?_
  rw [Bool.eq_iff_iff, Bool.and_eq_true, List.contains_iff_mem, List.contains_iff_mem,
    mem_walk_iff_reaches hnodes hn, mem_walk_iff_reaches hnodes hn]
  exact ⟨fun hc => ⟨hc, hab.trans hc⟩, And.left⟩

theorem spread_le (hnodes : ∀ a, next a ≠ [] → a ∈ nodes) (hn : nodes.length < rounds) {a b : α}
    (hab : Reaches next a b) : spread next rounds nodes b ≤ spread next rounds nodes a := by
  rw [spread, filter_reached hnodes hn hab]
  exact List.length_filter_le _ _

/-- A step that cannot be taken back leaves a node behind. -/
theorem spread_lt (hnodes : ∀ a, next a ≠ [] → a ∈ nodes) (hn : nodes.length < rounds) {a b : α}
    (hab : b ∈ next a) (hba : ¬ Reaches next b a) :
    spread next rounds nodes b < spread next rounds nodes a := by
  rw [spread, filter_reached hnodes hn (.single hab), spread,
    List.length_filter_lt_length_iff_exists]
  refine ⟨a, List.mem_filter.2 ⟨hnodes a (List.ne_nil_of_mem hab), ?_⟩, ?_⟩
  · exact List.contains_iff_mem.2 ((mem_walk_iff_reaches hnodes hn).2 .refl)
  · rwa [List.contains_iff_mem, mem_walk_iff_reaches hnodes hn]

end Counting

end Search

end Generics
