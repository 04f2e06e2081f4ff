import Generics.Proofs.Assignability.Termination
import Generics.Proofs.Renumbering.Inference

/-!
# Implied bindings come to an end

What a type implies is collected on two kinds of walks: upwards through the hierarchy, with
arguments that may grow with every step, and through the bounds of variables, which may lead in a
circle. The definitions take numbers of rounds that are enough, and go on with nothing where these
are used up. To see that this never happens the same walks are made with an answer that is missing
as soon as a number of rounds is used up. The walk upwards meets every class once, so every round
but the last two takes a class off those that lead anywhere. Following a variable that has bounds
uses up the variable, and variables that have been met stay met.

## Main definitions

* `Search.walkWithin` — a walk that has no answer if it is cut off
* `Registry.impliedWithin` — implied bindings, without an answer if a walk is cut off

## Main results

* `Search.walkWithin_eq_some`, `Registry.impliedFromWithin_eq_some` — how many rounds are enough
* `Registry.answers_impliedWithin` — on every registry
-/

namespace Generics

namespace Search

variable {α κ : Type} [DecidableEq κ]

/-- The nodes that are met in visiting order; there is no answer if the rounds are used up before it
is clear that these are all. -/
def walkWithin (next : α → List α) (key : α → κ) : Nat → List κ → List α → Option (List α)
  | 0, _, _ => none
  | n + 1, seen, layer =>
    match fresh key seen layer with
    | [] => some []
    | new => (walkWithin next key n (new.map key ++ seen) (new.flatMap next)).map (new ++ ·)

variable {next : α → List α} {key : α → κ}

/-- **A walk is not cut off** if it has two rounds more than keys are left that lead anywhere. -/
theorem walkWithin_eq_some {expandable : List κ} (hexp : ∀ a, next a ≠ [] → key a ∈ expandable)
    {n m : Nat} {seen : List κ} {layer : List α}
    (hn : (expandable.filter (· ∉ seen)).length + 1 < n)
    (hm : (expandable.filter (· ∉ seen)).length < m) :
    walkWithin next key n seen layer = some (walk next key m seen layer) := by
  induction n generalizing m seen layer with
  | zero => omega
  | succ n ih =>
    obtain ⟨m, rfl⟩ : ∃ k, m = k + 1 := ⟨m - 1, by omega⟩
    rw [walk_succ, walkWithin]
    split
    · rename_i hnil
      rw [hnil]
      cases m <;> rfl
    · by_cases hnew : ∃ c ∈ fresh key seen layer, key c ∈ expandable
      · obtain ⟨c, hc, hce⟩ := hnew
        have hlt := length_unseen_lt hc hce
        rw [ih (by omega) (by omega : _ < m), Option.map_some]
      · -- Nothing lies above the fresh nodes, and one round is enough to see it.
        have hnil : (fresh key seen layer).flatMap next = [] := by
          refine List.flatMap_eq_nil_iff.2 fun c hc => ?_
          exact Classical.not_not.1 fun hne => hnew ⟨c, hc, hexp c hne⟩
        obtain ⟨k, rfl⟩ : ∃ k, n = k + 1 := ⟨n - 1, by omega⟩
        rw [hnil]
        cases m <;> rfl

end Search

namespace Registry

/-! ### Walks that may be cut off -/

/-- What the classes above a use bind, if they are met in the given number of rounds. -/
def inheritedWithin (reg : Registry) (rounds : Nat) (u : Use) : Option Bindings :=
  (Search.walkWithin reg.inheritedUses Prod.fst rounds [] [u]).map fun ws =>
    ws.flatMap fun w => (reg.inheritedUses w).flatMap reg.useBindings

mutual

/-- The bindings of an expression and the variables met, if no walk is cut off. -/
def impliedWithinWith (reg : Registry) (rounds : Nat)
    (onVar : VarId → List VarId → Option (Bindings × List VarId)) :
    TypeExpr → List VarId → Option (Bindings × List VarId)
  | .raw c, seen => (reg.inheritedWithin rounds (c, [])).map fun above => (above, seen)
  | .app c args owner, seen =>
    (impliedOwnerWithin reg rounds onVar owner seen).bind fun enclosing =>
      (reg.inheritedWithin rounds (c, args)).map fun above =>
        (reg.useBindings (c, args) ++ enclosing.1 ++ above, enclosing.2)
  | .wildcard us _, seen => impliedAllWithin reg rounds onVar us seen
  | .var v, seen => onVar v seen
  | .array elem, seen => impliedWithinWith reg rounds onVar elem seen

/-- The same for the members of a list, from left to right. -/
def impliedAllWithin (reg : Registry) (rounds : Nat)
    (onVar : VarId → List VarId → Option (Bindings × List VarId)) :
    List TypeExpr → List VarId → Option (Bindings × List VarId)
  | [], seen => some ([], seen)
  | t :: ts, seen =>
    (impliedWithinWith reg rounds onVar t seen).bind fun first =>
      (impliedAllWithin reg rounds onVar ts first.2).map fun others =>
        (first.1 ++ others.1, others.2)

/-- The same for an owner. -/
def impliedOwnerWithin (reg : Registry) (rounds : Nat)
    (onVar : VarId → List VarId → Option (Bindings × List VarId)) :
    Option TypeExpr → List VarId → Option (Bindings × List VarId)
  | none, seen => some ([], seen)
  | some t, seen => impliedWithinWith reg rounds onVar t seen

end

/-- The bindings of an expression and the variables met, if variables need not be followed more than
the given number of times in a row. -/
def impliedFromWithin (reg : Registry) (rounds : Nat) :
    Nat → TypeExpr → List VarId → Option (Bindings × List VarId)
  | 0 => reg.impliedWithinWith rounds fun _ _ => none
  | n + 1 => reg.impliedWithinWith rounds fun v seen =>
    if v ∈ seen then some ([], seen)
    else (reg.bounds v).foldlM
      (fun acc b => (reg.impliedFromWithin rounds n b acc.2).map fun more =>
        (acc.1 ++ more.1, more.2))
      ([], v :: seen)

/-- The bindings that an expression implies, if the given number of rounds is enough for all walks.
-/
def impliedWithin (reg : Registry) (rounds : Nat) (t : TypeExpr) : Option Substitution :=
  (reg.impliedFromWithin rounds rounds t []).map fun r =>
    Substitution.empty.bindAllIfAbsent r.1

variable {reg : Registry}

/-! ### They are not -/

/-- The walk through the classes above a use comes to an end on every registry. -/
theorem inheritedWithin_eq_some {n : Nat} (hn : reg.classes.size + 1 < n) (u : Use) :
    reg.inheritedWithin n u = some (reg.inherited u) := by
  have hle : (reg.tableIds.filter (· ∉ ([] : List ClassId))).length ≤ reg.classes.size := by
    refine Nat.le_trans (List.length_filter_le _ _) ?_
    rw [tableIds, List.length_map, List.length_range]
  have hwalk : Search.walkWithin reg.inheritedUses Prod.fst n [] [u] = some (reg.lineage u) :=
    Search.walkWithin_eq_some (fun _ => inheritedUses_ne_nil) (by omega)
      (by rw [rounds]; omega)
  rw [inheritedWithin, hwalk]
  rfl

theorem length_unseen_nil_le (reg : Registry) : (reg.unseen []).length ≤ reg.params.size :=
  Nat.le_trans (List.length_filter_le _ _) (Nat.le_of_eq List.length_range)

theorem length_unseen_le {seen seen' : List VarId} (h : seen ⊆ seen') :
    (reg.unseen seen').length ≤ (reg.unseen seen).length := by
  refine (List.monotone_filter_right _ fun i hi => ?_).length_le
  exact decide_eq_true fun hmem => of_decide_eq_true hi (h hmem)

section Following

variable {rounds : Nat} {onVar : VarId → List VarId → Bindings × List VarId}
  {onVarWithin : VarId → List VarId → Option (Bindings × List VarId)} {known : List VarId}

/-- No walk of an expression is cut off if none is where a variable is followed. The variables met
before stay among those that have been met. -/
theorem impliedWithinWith_eq_some (hrounds : reg.classes.size + 1 < rounds)
    (hvar : ∀ v seen, known ⊆ seen →
      onVarWithin v seen = some (onVar v seen) ∧ seen ⊆ (onVar v seen).2)
    (t : TypeExpr) {seen : List VarId} (hseen : known ⊆ seen) :
    reg.impliedWithinWith rounds onVarWithin t seen = some (reg.impliedWith onVar t seen) ∧
      seen ⊆ (reg.impliedWith onVar t seen).2 := by
  induction t generalizing seen with
  | raw c =>
    rw [impliedWithinWith, inheritedWithin_eq_some hrounds, impliedWith]
    exact ⟨rfl, List.Subset.refl _⟩
  | app c args owner _ ihOwner =>
    have howner : reg.impliedOwnerWithin rounds onVarWithin owner seen =
          some (reg.impliedOwnerWith onVar owner seen) ∧
        seen ⊆ (reg.impliedOwnerWith onVar owner seen).2 := by
      cases owner with
      | none => exact ⟨rfl, List.Subset.refl _⟩
      | some o => exact ihOwner o rfl hseen
    rw [impliedWithinWith, howner.1, inheritedWithin_eq_some hrounds, impliedWith]
    exact ⟨rfl, howner.2⟩
  | wildcard us ls ihUppers _ =>
    rw [impliedWithinWith, impliedWith]
    induction us generalizing seen with
    | nil => exact ⟨rfl, List.Subset.refl _⟩
    | cons u us ih =>
      obtain ⟨hfirst, hfirstSeen⟩ := ihUppers u List.mem_cons_self hseen
      obtain ⟨hothers, hothersSeen⟩ := ih
        (fun b hb _ h => ihUppers b (List.mem_cons_of_mem _ hb) h)
        (List.Subset.trans hseen hfirstSeen)
      rw [impliedAllWithin, hfirst, Option.bind_some, hothers, impliedAllWith]
      exact ⟨rfl, List.Subset.trans hfirstSeen hothersSeen⟩
  | var v =>
    rw [impliedWithinWith, impliedWith]
    exact hvar v seen hseen
  | array elem ih =>
    rw [impliedWithinWith, impliedWith]
    exact ih hseen

end Following

/-- **Variables are not followed for ever:** it is enough that they may be followed more often than
there are variables left. -/
theorem impliedFromWithin_eq_some {rounds : Nat} (hrounds : reg.classes.size + 1 < rounds)
    {n m : Nat} {seen : List VarId} (hn : (reg.unseen seen).length < n)
    (hm : (reg.unseen seen).length < m) (t : TypeExpr) :
    reg.impliedFromWithin rounds n t seen = some (reg.impliedFrom m t seen) ∧
      seen ⊆ (reg.impliedFrom m t seen).2 := by
  induction n generalizing m seen t with
  | zero => omega
  | succ n ih =>
    obtain ⟨m, rfl⟩ : ∃ k, m = k + 1 := ⟨m - 1, by omega⟩
    refine impliedWithinWith_eq_some hrounds (fun v met hmet => ?_) t (List.Subset.refl seen)
    dsimp only
    by_cases hv : v ∈ met
    · rw [if_pos hv, if_pos hv]
      exact ⟨rfl, List.Subset.refl _⟩
    · rw [if_neg hv, if_neg hv]
      -- The bounds are gone through with more and more variables met, `v` among them.
      have hbound : ∀ acc : Bindings × List VarId, v :: met ⊆ acc.2 → ∀ b ∈ reg.bounds v,
          (reg.impliedFromWithin rounds n b acc.2).map (fun more =>
              (acc.1 ++ more.1, more.2)) =
            some (acc.1 ++ (reg.impliedFrom m b acc.2).1, (reg.impliedFrom m b acc.2).2) ∧
          v :: met ⊆ (reg.impliedFrom m b acc.2).2 := by
        intro acc hacc b hb
        have hleft : (reg.unseen acc.2).length < (reg.unseen seen).length := calc
          (reg.unseen acc.2).length ≤ (reg.unseen (v :: met)).length := length_unseen_le hacc
          _ < (reg.unseen met).length := length_unseen_cons_lt hv hb
          _ ≤ (reg.unseen seen).length := length_unseen_le hmet
        have hn : (reg.unseen acc.2).length < n := by omega
        have hm : (reg.unseen acc.2).length < m := by omega
        obtain ⟨hfirst, hkept⟩ := ih hn hm b
        rw [hfirst]
        exact ⟨rfl, List.Subset.trans hacc hkept⟩
      obtain ⟨hfold, hmets⟩ :=
        foldlM_eq_some (I := fun acc => v :: met ⊆ acc.2) (b := ([], v :: met)) hbound
          (List.Subset.refl _)
      exact ⟨hfold, fun w hw => hmets (List.mem_cons_of_mem _ hw)⟩

/-- **The bindings that a type implies are collected in finitely many rounds,** on every registry.
-/
theorem answers_impliedWithin (reg : Registry) (t : TypeExpr) :
    Answers (reg.impliedWithin · t) (reg.impliedBindings t) := by
  have hle := reg.length_unseen_nil_le
  refine ⟨reg.classes.size + reg.params.size + 2, fun n hn => ?_⟩
  have hrounds : reg.classes.size + 1 < n := by omega
  have hn : (reg.unseen []).length < n := by omega
  have hm : (reg.unseen []).length < reg.params.size + 1 := by omega
  have hfollowed := (impliedFromWithin_eq_some hrounds hn hm t).1
  show (reg.impliedFromWithin n n t []).map _ = some (reg.impliedBindings t)
  rw [hfollowed]
  rfl

end Registry

end Generics
