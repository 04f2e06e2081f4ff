import Generics.Registry.Basic

/-!
# Type expressions as they are written

The text of a type expression in source syntax, with the names of a registry. A class inside an
owner goes by its simple name; identifiers that the registry does not know show their number.

## Main definitions

* `Registry.className`, `Registry.varName` and `simpleName`.
* `Registry.typeName`.
-/

namespace Generics

/-- The last part of a binary name, after the last `.` or `$`. -/
def simpleName (name : String) : String :=
  String.ofList (name.toList.reverse.takeWhile fun ch => ch != '$' && ch != '.').reverse

namespace Registry

/-- The name of a class, or its number if it is unknown. -/
def className (reg : Registry) (c : ClassId) : String :=
  match reg.class? c with
  | some d => d.name
  | none => s!"<unknown class #{c.idx}>"

/-- The name of a type variable, or its number if it is unknown. -/
def varName (reg : Registry) (v : VarId) : String :=
  match reg.typeParam? v with
  | some p => p.name
  | none => s!"<unknown type variable #{v.idx}>"

/-- The name of a class inside `owner`, which has been written already. -/
def memberName (reg : Registry) (c : ClassId) (owner : Option String) : String :=
  match owner, reg.class? c with
  | some outer, some d => outer ++ "." ++ simpleName d.name
  | _, _ => reg.className c

/-- The bounds of a wildcard; a lower bound hides the upper ones. -/
def writtenBounds (uppers lowers : List String) : String :=
  if !lowers.isEmpty then "? super " ++ " & ".intercalate lowers
  else if !uppers.isEmpty then "? extends " ++ " & ".intercalate uppers
  else "?"

/-- The expression in source syntax. -/
def typeName (reg : Registry) : TypeExpr → String :=
  TypeExpr.interpret {
    raw := reg.className
    app := fun c args owner =>
      reg.memberName c owner ++ "<" ++ ", ".intercalate args ++ ">"
    wildcard := writtenBounds
    var := reg.varName
    array := fun elem => elem ++ "[]" }

@[simp] theorem typeName_raw (reg : Registry) (c : ClassId) :
    reg.typeName (.raw c) = reg.className c := rfl

@[simp] theorem typeName_app (reg : Registry) (c : ClassId) (args : List TypeExpr)
    (owner : Option TypeExpr) :
    reg.typeName (.app c args owner) =
      reg.memberName c (owner.map reg.typeName) ++ "<" ++
        ", ".intercalate (args.map reg.typeName) ++ ">" :=
  TypeExpr.interpret_app _ c args owner

@[simp] theorem typeName_wildcard (reg : Registry) (uppers lowers : List TypeExpr) :
    reg.typeName (.wildcard uppers lowers) =
      writtenBounds (uppers.map reg.typeName) (lowers.map reg.typeName) :=
  TypeExpr.interpret_wildcard _ uppers lowers

@[simp] theorem typeName_var (reg : Registry) (v : VarId) :
    reg.typeName (.var v) = reg.varName v := rfl

@[simp] theorem typeName_array (reg : Registry) (elem : TypeExpr) :
    reg.typeName (.array elem) = reg.typeName elem ++ "[]" := rfl

end Registry

end Generics
