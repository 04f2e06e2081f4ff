import Generics.Distinct
import Generics.TypeExpr.Basic

/-!
# Type variables and wildcards inside an expression

## Main definitions

* `hasVars`, `hasWildcards`, `isOpen` and its negation `isConcrete`.
* `occurrences`: every variable, as often as it is written, from left to right.
* `freeVars`: every variable once, at the place of its first occurrence.

## Main results

* An equation for each test and shape, over the members of the lists themselves.
* `mem_freeVars` and `nodup_freeVars`: dropping repetitions loses no variable.
-/

namespace Generics

namespace TypeExpr

/-! ### Tests -/

/-- Anything in the expression still has to be bound: a variable, or a wildcard with whatever
bounds. -/
def isOpen : TypeExpr → Bool :=
  interpret {
    raw := fun _ => false
    app := fun _ args owner => args.any id || owner.any id
    wildcard := fun _ _ => true
    var := fun _ => true
    array := id }

@[simp] theorem isOpen_raw (c : ClassId) : isOpen (.raw c) = false := rfl

@[simp] theorem isOpen_app (c : ClassId) (args : List TypeExpr) (owner : Option TypeExpr) :
    isOpen (.app c args owner) = (args.any isOpen || owner.any isOpen) := by
  cases owner <;> simp [isOpen, interpret_app]

@[simp] theorem isOpen_wildcard (us ls : List TypeExpr) : isOpen (.wildcard us ls) = true := rfl

@[simp] theorem isOpen_var (v : VarId) : isOpen (.var v) = true := rfl

@[simp] theorem isOpen_array (t : TypeExpr) : isOpen (.array t) = isOpen t := rfl

/-- A variable occurs in the expression, inside the bounds of its wildcards too. -/
def hasVars : TypeExpr → Bool :=
  interpret {
    raw := fun _ => false
    app := fun _ args owner => args.any id || owner.any id
    wildcard := fun us ls => us.any id || ls.any id
    var := fun _ => true
    array := id }

@[simp] theorem hasVars_raw (c : ClassId) : hasVars (.raw c) = false := rfl

@[simp] theorem hasVars_app (c : ClassId) (args : List TypeExpr) (owner : Option TypeExpr) :
    hasVars (.app c args owner) = (args.any hasVars || owner.any hasVars) := by
  cases owner <;> simp [hasVars, interpret_app]

@[simp] theorem hasVars_wildcard (us ls : List TypeExpr) :
    hasVars (.wildcard us ls) = (us.any hasVars || ls.any hasVars) := by
  simp [hasVars, interpret_wildcard]

@[simp] theorem hasVars_var (v : VarId) : hasVars (.var v) = true := rfl

@[simp] theorem hasVars_array (t : TypeExpr) : hasVars (.array t) = hasVars t := rfl

/-- A wildcard occurs in the expression. -/
def hasWildcards : TypeExpr → Bool :=
  interpret {
    raw := fun _ => false
    app := fun _ args owner => args.any id || owner.any id
    wildcard := fun _ _ => true
    var := fun _ => false
    array := id }

@[simp] theorem hasWildcards_raw (c : ClassId) : hasWildcards (.raw c) = false := rfl

@[simp] theorem hasWildcards_app (c : ClassId) (args : List TypeExpr) (owner : Option TypeExpr) :
    hasWildcards (.app c args owner) = (args.any hasWildcards || owner.any hasWildcards) := by
  cases owner <;> simp [hasWildcards, interpret_app]

@[simp] theorem hasWildcards_wildcard (us ls : List TypeExpr) :
    hasWildcards (.wildcard us ls) = true := rfl

@[simp] theorem hasWildcards_var (v : VarId) : hasWildcards (.var v) = false := rfl

@[simp] theorem hasWildcards_array (t : TypeExpr) : hasWildcards (.array t) = hasWildcards t := rfl

/-- Nothing in the expression has to be bound any more. -/
def isConcrete (t : TypeExpr) : Bool := !t.isOpen

@[simp] theorem isConcrete_raw (c : ClassId) : isConcrete (.raw c) = true := rfl

@[simp] theorem isConcrete_app (c : ClassId) (args : List TypeExpr) (owner : Option TypeExpr) :
    isConcrete (.app c args owner) = (args.all isConcrete && owner.all isConcrete) := by
  cases owner <;> simp [isConcrete, List.all_eq_not_any_not]

@[simp] theorem isConcrete_wildcard (us ls : List TypeExpr) :
    isConcrete (.wildcard us ls) = false := rfl

@[simp] theorem isConcrete_var (v : VarId) : isConcrete (.var v) = false := rfl

@[simp] theorem isConcrete_array (t : TypeExpr) : isConcrete (.array t) = isConcrete t := rfl

/-! ### The variables themselves -/

/-- The variables of an expression as often as they are written: arguments before the owner, upper
bounds before lower ones. -/
def occurrences : TypeExpr → List VarId :=
  interpret {
    raw := fun _ => []
    app := fun _ args owner => args.flatten ++ owner.getD []
    wildcard := fun us ls => us.flatten ++ ls.flatten
    var := fun v => [v]
    array := id }

@[simp] theorem occurrences_raw (c : ClassId) : occurrences (.raw c) = [] := rfl

@[simp] theorem occurrences_app (c : ClassId) (args : List TypeExpr) (owner : Option TypeExpr) :
    occurrences (.app c args owner) =
      args.flatMap occurrences ++ (owner.map occurrences).getD [] := by
  simp only [occurrences, interpret_app, List.flatMap]

@[simp] theorem occurrences_wildcard (us ls : List TypeExpr) :
    occurrences (.wildcard us ls) = us.flatMap occurrences ++ ls.flatMap occurrences := by
  simp only [occurrences, interpret_wildcard, List.flatMap]

@[simp] theorem occurrences_var (v : VarId) : occurrences (.var v) = [v] := rfl

@[simp] theorem occurrences_array (t : TypeExpr) : occurrences (.array t) = occurrences t := rfl

/-- Every variable of the expression once, in the order of first occurrences. -/
def freeVars (t : TypeExpr) : List VarId := Distinct.ofList t.occurrences

/-- Dropping repetitions loses no variable. -/
@[simp] theorem mem_freeVars {t : TypeExpr} {v : VarId} : v ∈ t.freeVars ↔ v ∈ t.occurrences := by
  simp [freeVars]

theorem nodup_freeVars (t : TypeExpr) : t.freeVars.Nodup := Distinct.nodup_ofList _

end TypeExpr

end Generics
