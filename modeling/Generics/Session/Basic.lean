import Generics.Rebinding
import Generics.Resolution.Instantiate
import Generics.Session.Pool

/-!
# Sessions

A session owns a registry, the limits of resolution, and a pool of concrete types of that registry.
Replacing the registry carries the pool over by name and reports what could not be carried over.

## Main definitions

* `Session`, with `start`, `record`, `candidatesFor`, `reset` and `clear`.
* `ResetReport`.

## Main results

* `generation_reset`: every reset starts a new generation.
* `record_eq_self`: what is not concrete, or of no defined class, leaves the session as it is.
-/

namespace Generics

/-- A registry in use, with the types recorded for it. -/
structure Session where
  /-- The current registry. -/
  registry : Registry
  /-- The depth to which types are resolved. -/
  maxDepth : Nat := defaultMaxDepth
  /-- Steps that may be spent on one question about supertypes. -/
  budget : Nat := defaultBudget
  /-- The types recorded. -/
  pool : Pool := .empty
  /-- The number of times that the registry was replaced. -/
  generation : Nat := 0

/-- What a reset did to the pool. -/
structure ResetReport where
  /-- The generation before. -/
  previousGeneration : Nat
  /-- The generation after. -/
  generation : Nat
  /-- The number of types in the pool afterwards. -/
  retained : Nat
  /-- The types that could not be carried over, as they were written before. -/
  dropped : List String
deriving DecidableEq, Repr

namespace Session

/-- A fresh session. -/
def start (registry : Registry) (maxDepth : Nat) : Session := { registry, maxDepth }

/-- The resolver over the current registry. -/
def resolver (s : Session) : Resolver :=
  { registry := s.registry, maxDepth := s.maxDepth, budget := s.budget }

/-- Only a concrete use of a defined class may be recorded. -/
def isRecordable (s : Session) (t : TypeExpr) : Bool :=
  t.classId?.any s.registry.isDefined && t.isConcrete

/-- Record a type if it may be; the answer says whether the pool has grown. -/
def record (s : Session) (t : TypeExpr) : Bool × Session :=
  if s.isRecordable t then
    let (isNew, pool) := s.pool.record t
    (isNew, { s with pool })
  else (false, s)

/-- Record a type without asking whether it may be. -/
def recordUnchecked (s : Session) (t : TypeExpr) : Bool × Session :=
  let (isNew, pool) := s.pool.record t
  (isNew, { s with pool })

/-- The recorded types that can be used as `slot`, in the order of recording. -/
def candidatesFor (s : Session) (slot : TypeExpr) : Option (List TypeExpr) :=
  s.pool.entries.filterM fun t => s.resolver.canBecome t slot

/-- Resolve a type over the current registry. -/
def instantiate (s : Session) (t : TypeExpr) (σ : Substitution) : Attempt TypeExpr :=
  s.resolver.instantiate t σ

/-- The types that can be carried over to `registry`, as they are there. -/
def carried (s : Session) (registry : Registry) : List TypeExpr :=
  s.pool.entries.filterMap fun t => (s.registry.rebind registry t).toOption

/-- The types that cannot be carried over. -/
def lost (s : Session) (registry : Registry) : List TypeExpr :=
  s.pool.entries.filter fun t => (s.registry.rebind registry t).toOption.isNone

/-- Replace the registry. Types that cannot be carried over are dropped and reported. -/
def reset (s : Session) (registry : Registry) : ResetReport × Session :=
  let pool := Pool.ofList (s.carried registry)
  let report : ResetReport :=
    { previousGeneration := s.generation
      generation := s.generation + 1
      retained := pool.size
      dropped := (s.lost registry).map s.registry.typeName }
  (report, { s with registry, pool, generation := s.generation + 1 })

/-- Forget the recorded types. -/
def clear (s : Session) : Session := { s with pool := .empty }

/-- Every reset starts a new generation. -/
@[simp] theorem generation_reset (s : Session) (registry : Registry) :
    (s.reset registry).2.generation = s.generation + 1 := rfl

@[simp] theorem registry_reset (s : Session) (registry : Registry) :
    (s.reset registry).2.registry = registry := rfl

/-- What may not be recorded leaves the session as it is. -/
theorem record_eq_self {s : Session} {t : TypeExpr} (h : s.isRecordable t = false) :
    s.record t = (false, s) := by
  simp [record, h]

/-- Carried over and lost types together are all recorded types. -/
theorem length_carried_add_length_lost (s : Session) (registry : Registry) :
    (s.carried registry).length + (s.lost registry).length = s.pool.size := by
  unfold carried lost Pool.size
  generalize s.pool.entries = ts
  induction ts with
  | nil => rfl
  | cons t ts ih =>
    cases h : (s.registry.rebind registry t).toOption <;> simp [h] <;> omega

end Session

end Generics
