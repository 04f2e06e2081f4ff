import Generics.Hierarchy.View

/-!
# Bindings that a type implies

A type binds the formals of its class to its arguments, the formals of its owner likewise, and the
formals of every class above it to the arguments that are passed up the hierarchy: `IntList`, declared
as a list of integers, binds the element type of lists and of collections to integers. The more
specific type wins where several bind one formal.

## Main definitions

* `Registry.useBindings`: formals and arguments of one use.
* `Registry.inherited`: what the classes above a use bind.
* `Registry.impliedBindings`.

## Main results

* An equation for uses of classes.
-/

namespace Generics

/-- Bindings in the order in which they were met. -/
abbrev Bindings : Type := List (VarId × TypeExpr)

namespace Registry

/-- The formals of a class bound to the arguments of a use, if their numbers agree. -/
def useBindings (reg : Registry) (u : Use) : Bindings :=
  (reg.formalsFor u.1 u.2.length).zip u.2

/-- The uses directly above a use. Where the number of arguments does not fit, the supertypes keep the
formals of the class. -/
def inheritedUses (reg : Registry) (u : Use) : List Use :=
  (reg.supertypes u.1).filterMap fun t => (t.substitute (.ofList (reg.useBindings u))).use?

/-- Every use at or above `u`, each class once. -/
def lineage (reg : Registry) (u : Use) : List Use :=
  Search.walk reg.inheritedUses Prod.fst reg.rounds [] [u]

/-- What the classes above a use bind, nearest first. -/
def inherited (reg : Registry) (u : Use) : Bindings :=
  (reg.lineage u).flatMap fun w => (reg.inheritedUses w).flatMap reg.useBindings

/-! ### All shapes

Each variable is followed once per expression, so the variables met so far are passed along. -/

mutual

/-- The bindings of an expression and the variables met, with variables followed by `onVar`. -/
def impliedWith (reg : Registry) (onVar : VarId → List VarId → Bindings × List VarId) :
    TypeExpr → List VarId → Bindings × List VarId
  | .raw c, seen => (reg.inherited (c, []), seen)
  | .app c args owner, seen =>
    let (enclosing, seen) := impliedOwnerWith reg onVar owner seen
    (reg.useBindings (c, args) ++ enclosing ++ reg.inherited (c, args), seen)
  | .wildcard us _, seen => impliedAllWith reg onVar us seen
  | .var v, seen => onVar v seen
  | .array elem, seen => impliedWith reg onVar elem seen

/-- The bindings of the members of a list, from left to right. -/
def impliedAllWith (reg : Registry) (onVar : VarId → List VarId → Bindings × List VarId) :
    List TypeExpr → List VarId → Bindings × List VarId
  | [], seen => ([], seen)
  | t :: ts, seen =>
    let (first, seen) := impliedWith reg onVar t seen
    let (others, seen) := impliedAllWith reg onVar ts seen
    (first ++ others, seen)

/-- The bindings of an owner. -/
def impliedOwnerWith (reg : Registry) (onVar : VarId → List VarId → Bindings × List VarId) :
    Option TypeExpr → List VarId → Bindings × List VarId
  | none, seen => ([], seen)
  | some t, seen => impliedWith reg onVar t seen

end

/-- The bindings of an expression and the variables met, through at most the given number of nested
variables. A variable implies what its bounds imply, the first time it is met. -/
def impliedFrom (reg : Registry) : Nat → TypeExpr → List VarId → Bindings × List VarId
  | 0 => reg.impliedWith fun _ seen => ([], seen)
  | n + 1 => reg.impliedWith fun v seen =>
    if v ∈ seen then ([], seen)
    else (reg.bounds v).foldl
      (fun acc b =>
        let (more, seen) := reg.impliedFrom n b acc.2
        (acc.1 ++ more, seen))
      ([], v :: seen)

/-- The bindings that an expression implies, earlier ones winning over later ones. -/
def impliedBindings (reg : Registry) (t : TypeExpr) : Substitution :=
  Substitution.empty.bindAllIfAbsent (reg.impliedFrom (reg.params.size + 1) t []).1

/-- A use without owner binds its own formals, then what lies above it. -/
theorem impliedBindings_app (reg : Registry) (c : ClassId) (args : List TypeExpr) :
    reg.impliedBindings (.app c args none) =
      Substitution.empty.bindAllIfAbsent (reg.useBindings (c, args) ++ reg.inherited (c, args)) := by
  simp [impliedBindings, impliedFrom, impliedWith, impliedOwnerWith]

theorem impliedBindings_raw (reg : Registry) (c : ClassId) :
    reg.impliedBindings (.raw c) =
      Substitution.empty.bindAllIfAbsent (reg.inherited (c, [])) := rfl

end Registry

end Generics
