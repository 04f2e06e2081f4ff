import Generics.Distinct
import Generics.TypeExpr.Basic

/-!
# Pools of types

Types seen so far, each once, in the order in which they were first recorded.

## Main definitions

* `Pool`, with `record`, `contains` and `ofList`.

## Main results

* `mem_record`: recording adds what is new and nothing else.
-/

namespace Generics

/-- Types in the order of first recording. -/
structure Pool where
  /-- The types. -/
  entries : List TypeExpr
  /-- No type is recorded twice. -/
  nodup : entries.Nodup
deriving DecidableEq

namespace Pool

/-- The pool without types. -/
def empty : Pool := ⟨[], List.nodup_nil⟩

instance : Inhabited Pool := ⟨empty⟩

/-- The type has been recorded. -/
def contains (p : Pool) (t : TypeExpr) : Bool := p.entries.contains t

/-- The number of types. -/
def size (p : Pool) : Nat := p.entries.length

/-- Nothing has been recorded. -/
def isEmpty (p : Pool) : Bool := p.entries.isEmpty

/-- Record a type; the answer says whether it is new. -/
def record (p : Pool) (t : TypeExpr) : Bool × Pool :=
  (!p.contains t, ⟨Distinct.add p.entries t, Distinct.nodup_add p.nodup⟩)

/-- Types recorded one after the other. -/
def ofList (ts : List TypeExpr) : Pool := ⟨Distinct.ofList ts, Distinct.nodup_ofList ts⟩

@[simp] theorem mem_record {p : Pool} {t u : TypeExpr} :
    u ∈ (p.record t).2.entries ↔ u ∈ p.entries ∨ u = t := Distinct.mem_add

@[simp] theorem record_fst (p : Pool) (t : TypeExpr) :
    (p.record t).1 = true ↔ t ∉ p.entries := by
  simp [record, contains]

@[simp] theorem mem_ofList {ts : List TypeExpr} {t : TypeExpr} :
    t ∈ (ofList ts).entries ↔ t ∈ ts := Distinct.mem_ofList

end Pool

end Generics
