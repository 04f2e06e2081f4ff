import Generics.Proofs.Assignability.ErasureGate
import Generics.Proofs.Resolution.Concrete

/-!
# A positive answer has a witness

The question whether a source can become a target resolves the source round after round, every time
in the bindings that the target gives the type reached so far, and one level deeper each time. It
says yes for one reason only: the rounds come to a concrete type that is assignable to the target,
and no type on the way was turned down by its erasure. The rounds end with a type that is resolved
to itself, or where the depth is used up.

## Main definitions

* `Resolver.PassesErased` — the erasure of one type may be stored in a slot of that of another
* `Resolver.Narrowing` — the types that a source goes through on its way to a target

## Main results

* `Resolver.canBecomeAt_iff_narrowing` — from any depth on
* `Resolver.canBecome_iff_narrowing`
-/

namespace Generics

namespace Resolver

variable {R : Resolver} {target : TypeExpr}

/-- Both types have an erasure, and that of `source` may be stored in a slot of that of `target`. -/
def PassesErased (R : Resolver) (source target : TypeExpr) : Prop :=
  ∃ e f, R.registry.erasure source = some e ∧ R.registry.erasure target = some f ∧
    R.registry.isRawAssignable f e = true

/-- A source is resolved, in the bindings that the target gives it, to `result`. -/
def NarrowsTo (R : Resolver) (target : TypeExpr) (depth : Nat) (source result : TypeExpr) : Prop :=
  ∃ σ, R.context source target = some σ ∧ (R.instantiate source σ depth).Yields result

/-- The types `chain 0` to `chain length` lead to the target: each is resolved to the next one, and
the last is concrete and assignable. The first is resolved at `depth`, each further one a level
deeper. -/
structure Narrowing (R : Resolver) (target : TypeExpr) (depth : Nat) (chain : Nat → TypeExpr)
    (length : Nat) : Prop where
  /-- There are no more rounds than there are levels. -/
  length_le : length ≤ R.levels depth
  /-- Every type on the way passes by its erasure. -/
  erased : ∀ i ≤ length, R.PassesErased (chain i) target
  /-- Every type but the last is resolved to the next one, -/
  narrows : ∀ i < length, R.NarrowsTo target (depth + i) (chain i) (chain (i + 1))
  /-- which is another one. -/
  changes : ∀ i < length, chain (i + 1) ≠ chain i
  /-- The last type is concrete -/
  concrete : (chain length).isConcrete = true
  /-- and assignable to the target. -/
  assignable : R.isAssignable (chain length) target = some true
  /-- If levels are left after the last round, there are bindings for one more. -/
  settles : length < R.levels depth → (R.context (chain length) target).isSome = true

/-! ### One round -/

/-- With levels left, the answer is yes for a source that is settled as it is, and for one that is
resolved to another type for which the answer is yes one level below. -/
theorem canBecomeAt_succ_eq_true_iff {n : Nat} {source : TypeExpr} :
    R.canBecomeAt (n + 1) source target = some true ↔
      R.gate source target = true ∧ ∃ σ t, R.context source target = some σ ∧
        (R.instantiateAt (n + 1) source σ).Yields t ∧
        (if t = source then R.settled source target else R.canBecomeAt n t target) = some true := by
  rw [canBecomeAt_succ, canBecomeStep]
  by_cases hgate : R.gate source target = true
  · rw [if_pos hgate, Option.bind_eq_bind, Option.bind_eq_some_iff]
    simp only [hgate, true_and]
    refine exists_congr fun σ => ?_
    rw [Option.bind_eq_bind, Option.bind_eq_some_iff]
    constructor
    · rintro ⟨hσ, r, hr, h⟩
      cases r with
      | error e => cases h
      | ok t => exact ⟨t, hσ, hr, h⟩
    · rintro ⟨t, hσ, ht, h⟩
      exact ⟨hσ, .ok t, ht, h⟩
  · simp [hgate]

theorem settled_eq_true_iff {source : TypeExpr} :
    R.settled source target = some true ↔
      source.isConcrete = true ∧ R.isAssignable source target = some true := by
  rw [settled]
  split <;> simp_all

theorem passesErased_iff_gate {source : TypeExpr} :
    R.PassesErased source target ↔ R.gate source target = true := gate_iff.symm

theorem levels_succ {depth n : Nat} (h : R.levels depth = n + 1) : R.levels (depth + 1) = n := by
  unfold levels at h ⊢
  omega

/-! ### Narrowings, round by round -/

namespace Narrowing

variable {depth length : Nat} {chain : Nat → TypeExpr} {source : TypeExpr}

/-- No round at all: the source is concrete and assignable as it is. -/
theorem zero_iff :
    R.Narrowing target depth chain 0 ↔ R.gate (chain 0) target = true ∧
      R.settled (chain 0) target = some true ∧
      (0 < R.levels depth → (R.context (chain 0) target).isSome = true) := by
  rw [settled_eq_true_iff, ← passesErased_iff_gate]
  constructor
  · exact fun h => ⟨h.erased 0 (Nat.le_refl 0), ⟨h.concrete, h.assignable⟩, h.settles⟩
  · rintro ⟨herased, ⟨hconcrete, hassign⟩, hsettles⟩
    refine ⟨Nat.zero_le _, fun i hi => ?_, fun i hi => absurd hi (Nat.not_lt_zero i),
      fun i hi => absurd hi (Nat.not_lt_zero i), hconcrete, hassign, hsettles⟩
    rwa [Nat.le_zero.1 hi]

/-- A first round, and what is left a level deeper. -/
theorem succ_iff {n : Nat} (hn : R.levels depth = n + 1) :
    R.Narrowing target depth chain (length + 1) ↔ R.gate (chain 0) target = true ∧
      R.NarrowsTo target depth (chain 0) (chain 1) ∧ chain 1 ≠ chain 0 ∧
      R.Narrowing target (depth + 1) (fun i => chain (i + 1)) length := by
  have hlevels : R.levels (depth + 1) = n := levels_succ hn
  have hdepth : ∀ i, depth + 1 + i = depth + (i + 1) := fun i => by omega
  rw [← passesErased_iff_gate]
  constructor
  · intro h
    refine ⟨h.erased 0 (Nat.zero_le _), h.narrows 0 (Nat.succ_pos _), h.changes 0 (Nat.succ_pos _),
      ?_, fun i hi => h.erased (i + 1) (Nat.succ_le_succ hi), fun i hi => ?_,
      fun i hi => h.changes (i + 1) (Nat.succ_lt_succ hi), h.concrete, h.assignable,
      fun hlt => h.settles ?_⟩
    · have hle := h.length_le
      omega
    · rw [hdepth]
      exact h.narrows (i + 1) (Nat.succ_lt_succ hi)
    · omega
  · rintro ⟨herased, hnarrows, hchanges, h⟩
    refine ⟨?_, fun i hi => ?_, fun i hi => ?_, fun i hi => ?_, h.concrete, h.assignable,
      fun hlt => h.settles ?_⟩
    · have hle := h.length_le
      omega
    · cases i with
      | zero => exact herased
      | succ i => exact h.erased i (Nat.le_of_succ_le_succ hi)
    · cases i with
      | zero => exact hnarrows
      | succ i =>
        rw [← hdepth]
        exact h.narrows i (Nat.lt_of_succ_lt_succ hi)
    · cases i with
      | zero => exact hchanges
      | succ i => exact h.changes i (Nat.lt_of_succ_lt_succ hi)
    · omega

end Narrowing

/-! ### All rounds -/

/-- **Yes means that there is a narrowing,** at every depth. -/
theorem canBecomeAt_iff_narrowing {depth : Nat} {source : TypeExpr} :
    R.canBecomeAt (R.levels depth) source target = some true ↔
      ∃ chain length, chain 0 = source ∧ R.Narrowing target depth chain length := by
  -- a round goes one level deeper, so the induction is on the levels that are left
  generalize hn : R.levels depth = n
  induction n generalizing depth source with
  | zero =>
    rw [canBecomeAt_zero]
    constructor
    · intro h
      split at h
      · rename_i hgate
        exact ⟨fun _ => source, 0, rfl, Narrowing.zero_iff.2 ⟨hgate, h, fun hlt => by omega⟩⟩
      · cases h
    · rintro ⟨chain, length, rfl, h⟩
      obtain rfl : length = 0 := by
        have hle := h.length_le
        omega
      obtain ⟨hgate, hsettled, -⟩ := Narrowing.zero_iff.1 h
      rw [if_pos hgate, hsettled]
  | succ n ih =>
    have hnext : ∀ t, R.canBecomeAt n t target = some true ↔
        ∃ chain length, chain 0 = t ∧ R.Narrowing target (depth + 1) chain length :=
      fun t => ih (levels_succ hn)
    rw [canBecomeAt_succ_eq_true_iff]
    constructor
    · rintro ⟨hgate, σ, t, hσ, ht, h⟩
      split at h
      · -- the source is resolved to itself
        exact ⟨fun _ => source, 0, rfl,
          Narrowing.zero_iff.2 ⟨hgate, h, fun _ => Option.isSome_iff_exists.2 ⟨σ, hσ⟩⟩⟩
      · rename_i hne
        obtain ⟨chain, length, rfl, hchain⟩ := (hnext t).1 h
        refine ⟨fun i => Nat.casesOn i source chain, length + 1, rfl,
          (Narrowing.succ_iff hn).2 ⟨hgate, ⟨σ, hσ, ?_⟩, hne, hchain⟩⟩
        rw [instantiate, hn]
        exact ht
    · rintro ⟨chain, length, rfl, h⟩
      cases length with
      | zero =>
        obtain ⟨hgate, hsettled, hcontext⟩ := Narrowing.zero_iff.1 h
        obtain ⟨σ, hσ⟩ := Option.isSome_iff_exists.1 (hcontext (by omega))
        refine ⟨hgate, σ, chain 0, hσ, ?_, by rwa [if_pos rfl]⟩
        rw [instantiateAt_of_isConcrete (settled_eq_true_iff.1 hsettled).1]
        exact Attempt.yields_pure.2 rfl
      | succ length =>
        obtain ⟨hgate, ⟨σ, hσ, ht⟩, hne, hrest⟩ := (Narrowing.succ_iff hn).1 h
        rw [instantiate, hn] at ht
        refine ⟨hgate, σ, chain 1, hσ, ht, ?_⟩
        rw [if_neg hne]
        exact (hnext _).2 ⟨_, length, rfl, hrest⟩

/-- **A positive answer has a concrete witness.** A source can become a target exactly if resolving
it in the bindings that the target gives, at most once per level and each time to another type,
comes to a concrete type that is assignable to the target, with every type on the way passing by its
erasure. -/
theorem canBecome_iff_narrowing (R : Resolver) (source target : TypeExpr) :
    R.canBecome source target = some true ↔
      ∃ chain length, chain 0 = source ∧ length ≤ R.maxDepth + 1 ∧
        R.Narrowing target 0 chain length := by
  rw [canBecome, canBecomeAt_iff_narrowing]
  refine exists₂_congr fun chain length => and_congr_right fun _ => ?_
  exact ⟨fun h => ⟨h.length_le, h⟩, And.right⟩

end Resolver

end Generics
