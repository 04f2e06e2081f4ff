import Generics.Hierarchy.Supertypes
import Generics.Substitution.Apply

/-!
# Supertype views

A type seen as one of the classes above it: `ArrayList<String>` seen as `List` is `List<String>`, and
a raw `ArrayList` is a raw `List`. The arguments that a class passes upwards may grow with every
step of a cyclic hierarchy, so the walk over classes with their arguments takes a number of rounds
and may end without an answer.

## Main definitions

* `Use`: a class with arguments; `TypeExpr.use?` and `Use.toType`.
* `Registry.superUses`: the uses directly above a use.
* `Registry.classView`: the first use of a class above a use.
* `Registry.view`: the same for every shape of type.

## Main results

* An equation for every shape but the variable.
-/

namespace Generics

/-- A class with the arguments it is used with; none for a raw use. -/
abbrev Use : Type := ClassId × List TypeExpr

/-- The use as a type. -/
def Use.toType (u : Use) : TypeExpr := .ofClass u.1 u.2

/-- The use that an expression stands for; an owner is forgotten. -/
def TypeExpr.use? : TypeExpr → Option Use
  | .raw c => some (c, [])
  | .app c args _ => some (c, args)
  | _ => none

@[simp] theorem Use.use?_toType (u : Use) : u.toType.use? = some u := by
  obtain ⟨c, args⟩ := u
  cases args <;> rfl

theorem Use.toType_of_ne_nil {c : ClassId} {args : List TypeExpr} (h : args ≠ []) :
    Use.toType (c, args) = .app c args none := by
  obtain ⟨a, as, rfl⟩ := List.exists_cons_of_ne_nil h
  rfl

namespace Registry

/-! ### Classes with arguments -/

/-- The uses directly above a use. A raw use of a generic class has no arguments to pass on, so what
lies above it is raw as well. -/
def superUses (reg : Registry) (u : Use) : List Use :=
  match reg.class? u.1 with
  | none => []
  | some d =>
    if u.2.isEmpty && d.isGeneric then (reg.superclasses u.1).map fun c => (c, [])
    else (reg.supertypes u.1).filterMap fun t =>
      (t.substitute (.ofFormals d.typeParams u.2)).use?

/-- The first use of `target` at or above `u`, layer by layer. -/
def classView (reg : Registry) (rounds : Nat) (target : ClassId) (u : Use) :
    Search.Outcome Use :=
  Search.find reg.superUses id (fun w => w.1 == target) rounds [] [u]

/-- A view as an answer: `none` when the rounds were not enough, `some none` when there is no view. -/
def answer : Search.Outcome Use → Option (Option TypeExpr)
  | .found u => some (some u.toType)
  | .absent => some none
  | .unfinished => none

/-- The first view among several, in order; an unfinished search ends the row. -/
def firstView {α : Type} (f : α → Option (Option TypeExpr)) : List α → Option (Option TypeExpr)
  | [] => some none
  | a :: as =>
    match f a with
    | none => none
    | some (some t) => some (some t)
    | some none => firstView f as

/-! ### All shapes -/

mutual

/-- The view of an expression as `target`, with the views of variables given by `onVar`. -/
def viewWith (reg : Registry) (rounds : Nat) (target : ClassId)
    (onVar : VarId → Option (Option TypeExpr)) : TypeExpr → Option (Option TypeExpr)
  | .raw c => answer (reg.classView rounds target (c, []))
  | .app c args _ => answer (reg.classView rounds target (c, args))
  | .wildcard [] _ => answer (reg.classView rounds target (reg.object, []))
  | .wildcard (u :: us) _ => viewFirstWith reg rounds target onVar (u :: us)
  | .var v => onVar v
  | .array _ => some (if reg.isArraySupertype target then some (.raw target) else none)

/-- The first view among the members of a list. -/
def viewFirstWith (reg : Registry) (rounds : Nat) (target : ClassId)
    (onVar : VarId → Option (Option TypeExpr)) : List TypeExpr → Option (Option TypeExpr)
  | [] => some none
  | t :: ts =>
    match viewWith reg rounds target onVar t with
    | none => none
    | some (some u) => some (some u)
    | some none => viewFirstWith reg rounds target onVar ts

end

theorem viewFirstWith_eq (reg : Registry) (rounds : Nat) (target : ClassId)
    (onVar : VarId → Option (Option TypeExpr)) (ts : List TypeExpr) :
    viewFirstWith reg rounds target onVar ts =
      firstView (viewWith reg rounds target onVar) ts := by
  induction ts with
  | nil => rfl
  | cons t ts ih =>
    rw [viewFirstWith, firstView, ih]

/-- The view below the variables `seen`, through at most the given number of further variables. A
variable that comes again has no view on that path. -/
def viewFrom (reg : Registry) (rounds : Nat) (target : ClassId) :
    Nat → List VarId → TypeExpr → Option (Option TypeExpr)
  | 0, _ => reg.viewWith rounds target fun _ => some none
  | n + 1, seen => reg.viewWith rounds target fun v =>
    if v ∈ seen then some none
    else firstView (viewFrom reg rounds target n (v :: seen)) (reg.bounds v)

/-- The expression seen as `target`: for a wildcard or a variable the first view among its bounds, for
an array only what lies above every array. -/
def view (reg : Registry) (rounds : Nat) (t : TypeExpr) (target : ClassId) :
    Option (Option TypeExpr) :=
  reg.viewFrom rounds target (reg.params.size + 1) [] t

@[simp] theorem view_raw (reg : Registry) (rounds : Nat) (c target : ClassId) :
    reg.view rounds (.raw c) target = answer (reg.classView rounds target (c, [])) := rfl

@[simp] theorem view_app (reg : Registry) (rounds : Nat) (c target : ClassId)
    (args : List TypeExpr) (owner : Option TypeExpr) :
    reg.view rounds (.app c args owner) target =
      answer (reg.classView rounds target (c, args)) := rfl

@[simp] theorem view_array (reg : Registry) (rounds : Nat) (elem : TypeExpr) (target : ClassId) :
    reg.view rounds (.array elem) target =
      some (if reg.isArraySupertype target then some (.raw target) else none) := rfl

end Registry

end Generics
