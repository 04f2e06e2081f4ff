import Generics.Proofs.Substitution.Formals
import Generics.Substitution.Apply

/-!
# How deep an expression is nested

Two measures of an expression. The first counts all nesting that assignability can enter, which is
all of it but owners. The second counts lower bounds only: it is zero exactly where no wildcard has
one.

## Main definitions

* `TypeExpr.height` — nesting of arguments, bounds and components
* `TypeExpr.lowerDepth` — nesting of lower bounds

## Main results

* `TypeExpr.height_lt_app`, `height_lt_wildcard`, `height_lt_array` — a part is less deep
* `TypeExpr.lowerDepth_app_le_iff`, `lowerDepth_wildcard_le_iff` — part by part
* `TypeExpr.lowerDepth_substitute_le` — a substitution into an expression without lower bounds
-/

namespace Generics

namespace TypeExpr

/-- The largest of some numbers, zero if there are none. -/
def deepest (ns : List Nat) : Nat := ns.foldr max 0

theorem deepest_le_iff {ns : List Nat} {k : Nat} : deepest ns ≤ k ↔ ∀ n ∈ ns, n ≤ k := by
  induction ns with
  | nil => simp [deepest]
  | cons n ns ih =>
    rw [List.forall_mem_cons, ← ih]
    exact Nat.max_le

theorem le_deepest {ns : List Nat} {n : Nat} (h : n ∈ ns) : n ≤ deepest ns :=
  deepest_le_iff.1 (Nat.le_refl _) n h

/-! ### All nesting -/

/-- The nesting of arguments, bounds and components. -/
def height : TypeExpr → Nat :=
  interpret {
    raw := fun _ => 0
    app := fun _ args _ => deepest args + 1
    wildcard := fun us ls => deepest (us ++ ls) + 1
    var := fun _ => 0
    array := fun elem => elem + 1 }

theorem height_lt_app {c : ClassId} {args : List TypeExpr} {owner : Option TypeExpr} {a : TypeExpr}
    (h : a ∈ args) : a.height < (app c args owner).height := by
  have happ : (app c args owner).height = deepest (args.map height) + 1 := interpret_app ..
  have hle : a.height ≤ deepest (args.map height) := le_deepest (List.mem_map_of_mem h)
  omega

theorem height_lt_wildcard {us ls : List TypeExpr} {b : TypeExpr} (h : b ∈ us ∨ b ∈ ls) :
    b.height < (wildcard us ls).height := by
  have hwild : (wildcard us ls).height = deepest (us.map height ++ ls.map height) + 1 :=
    interpret_wildcard ..
  have hle : b.height ≤ deepest (us.map height ++ ls.map height) := by
    refine le_deepest (List.mem_append.2 ?_)
    exact h.imp List.mem_map_of_mem List.mem_map_of_mem
  omega

theorem height_lt_array (elem : TypeExpr) : elem.height < (array elem).height :=
  Nat.lt_succ_self _

/-! ### Lower bounds -/

/-- How many lower bounds are nested in each other, outside owners. -/
def lowerDepth : TypeExpr → Nat :=
  interpret {
    raw := fun _ => 0
    app := fun _ args _ => deepest args
    wildcard := fun us ls => deepest (us ++ ls.map (· + 1))
    var := fun _ => 0
    array := id }

variable {k : Nat}

theorem lowerDepth_app_le_iff {c : ClassId} {args : List TypeExpr} {owner : Option TypeExpr} :
    (app c args owner).lowerDepth ≤ k ↔ ∀ a ∈ args, a.lowerDepth ≤ k := by
  have happ : (app c args owner).lowerDepth = deepest (args.map lowerDepth) := interpret_app ..
  rw [happ, deepest_le_iff, List.forall_mem_map]

theorem lowerDepth_wildcard_le_iff {us ls : List TypeExpr} :
    (wildcard us ls).lowerDepth ≤ k ↔
      (∀ u ∈ us, u.lowerDepth ≤ k) ∧ ∀ l ∈ ls, l.lowerDepth < k := by
  have hwild : (wildcard us ls).lowerDepth =
      deepest (us.map lowerDepth ++ (ls.map lowerDepth).map (· + 1)) := interpret_wildcard ..
  rw [hwild, deepest_le_iff, List.forall_mem_append, List.forall_mem_map, List.forall_mem_map,
    List.forall_mem_map]
  rfl

/-- Where no lower bound is, a substitution brings in only what it binds. -/
theorem lowerDepth_substitute_le {t : TypeExpr} {σ : Substitution} (ht : t.lowerDepth = 0)
    (h : ∀ v u, σ.get? v = some u → u.lowerDepth ≤ k) : (t.substitute σ).lowerDepth ≤ k := by
  induction t with
  | raw c => exact Nat.zero_le k
  | app c args owner ihArgs _ =>
    have hargs := lowerDepth_app_le_iff.1 (Nat.le_of_eq ht)
    rw [substitute_app, lowerDepth_app_le_iff, List.forall_mem_map]
    intro a ha
    exact ihArgs a ha (Nat.le_zero.1 (hargs a ha))
  | wildcard us ls ihUppers _ =>
    obtain ⟨huppers, hlowers⟩ := lowerDepth_wildcard_le_iff.1 (Nat.le_of_eq ht)
    rw [substitute_wildcard, lowerDepth_wildcard_le_iff, List.forall_mem_map, List.forall_mem_map]
    constructor
    · intro u hu
      exact ihUppers u hu (Nat.le_zero.1 (huppers u hu))
    · intro l hl
      exact absurd (hlowers l hl) (Nat.not_lt_zero _)
  | var v =>
    rw [substitute_var]
    cases hv : σ.get? v with
    | none => exact Nat.zero_le k
    | some u => exact h v u hv
  | array elem ih => exact ih ht

/-- The same for a class whose formals are bound to arguments. -/
theorem lowerDepth_substitute_ofFormals_le {t : TypeExpr} {formals : List VarId}
    {args : List TypeExpr} (ht : t.lowerDepth = 0) (h : ∀ a ∈ args, a.lowerDepth ≤ k) :
    (t.substitute (.ofFormals formals args)).lowerDepth ≤ k :=
  lowerDepth_substitute_le ht fun _ u hu => h u (Substitution.mem_of_get?_ofFormals hu)

end TypeExpr

end Generics
