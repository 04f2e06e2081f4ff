import Generics.TypeExpr.Basic

/-!
# Declarations

What a registry knows about a class and about a type parameter. Names are binary names; supertypes,
bounds and signatures are type expressions over the declaring class's own type parameters.

## Main definitions

* `ClassDef`, with `Method` and `Constructor`.
* `TypeParam`, with the declaration that owns it, `VarOwner`.
-/

namespace Generics

/-- Classes proper and interfaces. -/
inductive ClassKind where
  | regular
  | interface
deriving DecidableEq, Repr

/-- The declaration that owns a type parameter. -/
inductive VarOwner where
  /-- A class. -/
  | ofClass (c : ClassId)
  /-- A method of `c`; the name and the number of parameters pick one overload. -/
  | ofMethod (c : ClassId) (name : String) (arity : Nat)
  /-- A constructor of `c`, by position. -/
  | ofConstructor (c : ClassId) (index : Nat)
deriving DecidableEq, Repr

/-- The class to which the owning declaration belongs. -/
def VarOwner.classId : VarOwner → ClassId
  | .ofClass c | .ofMethod c _ _ | .ofConstructor c _ => c

/-- A type parameter. -/
structure TypeParam where
  /-- The name as it is written. -/
  name : String
  /-- Where it is declared. -/
  owner : VarOwner
  /-- The upper bounds. -/
  bounds : List TypeExpr
deriving DecidableEq, Repr

/-- A method signature. -/
structure Method where
  /-- The name as it is written. -/
  name : String
  /-- Type parameters of the method itself. -/
  typeParams : List VarId := []
  /-- Parameter types. -/
  params : List TypeExpr := []
  /-- Return type, `none` for a method that returns nothing. -/
  returnType : Option TypeExpr := none
  /-- The method needs no receiver. -/
  isStatic : Bool := false
deriving DecidableEq, Repr

/-- A constructor signature. -/
structure Constructor where
  /-- Type parameters of the constructor itself. -/
  typeParams : List VarId := []
  /-- Parameter types. -/
  params : List TypeExpr := []
deriving DecidableEq, Repr

/-- A class or an interface. -/
structure ClassDef where
  /-- Binary name. -/
  name : String
  /-- Class proper or interface. -/
  kind : ClassKind := .regular
  /-- The class cannot be constructed itself. -/
  isAbstract : Bool := false
  /-- Formal type parameters. -/
  typeParams : List VarId := []
  /-- Declared superclass. -/
  superclass : Option TypeExpr := none
  /-- Declared superinterfaces. -/
  interfaces : List TypeExpr := []
  /-- Constructors. -/
  constructors : List Constructor := []
  /-- Methods. -/
  methods : List Method := []
deriving DecidableEq, Repr

namespace ClassDef

/-- The class declares type parameters. -/
def isGeneric (d : ClassDef) : Bool := !d.typeParams.isEmpty

/-- The class is an interface. -/
def isInterface (d : ClassDef) : Bool := d.kind == .interface

/-- The supertypes as they are declared: superclass first. -/
def declaredSupertypes (d : ClassDef) : List TypeExpr := d.superclass.toList ++ d.interfaces

end ClassDef

end Generics
