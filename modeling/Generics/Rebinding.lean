import Generics.TypeExpr.Written

/-!
# Moving types between registries

Numbers of classes and variables mean something only to the registry that gave them. A type is carried
over by name: a class is looked up by its binary name, a variable by its own name among the type
parameters of the declaration that corresponds to its owner.

## Main definitions

* `RebindError`.
* `Registry.rebindClass`, `Registry.rebindVar` and `Registry.rebind`.
* `Registry.changeSource`: the same, keeping the type where it cannot be carried over.

## Main results

* An equation for each shape; parts are carried over from left to right and the first error wins.
-/

namespace Generics

/-- Why a type could not be carried over. -/
inductive RebindError where
  /-- The class is not defined where the type comes from. -/
  | unknownClass (c : ClassId)
  /-- The variable is not declared where the type comes from. -/
  | unknownVar (v : VarId)
  /-- No class of that name is defined where the type goes. -/
  | classNotFound (name : String)
  /-- The corresponding declaration has no variable of that name. -/
  | varNotFound (name owner : String)
deriving DecidableEq, Repr

/-- The error in words. -/
def RebindError.message : RebindError → String
  | .unknownClass c => s!"class {c.describe} is not defined in the previous registry"
  | .unknownVar v => s!"type variable {v.describe} is not defined in the previous registry"
  | .classNotFound name => s!"class {name} not found in the new registry"
  | .varNotFound name owner => s!"type variable {name} of {owner} not found in the new registry"

/-- The type parameters of the declaration in `d` that an owner describes: those of the class, of the
first method with the same name and number of parameters, or of the constructor at the same place. -/
def ClassDef.paramsOf (d : ClassDef) : VarOwner → List VarId
  | .ofClass _ => d.typeParams
  | .ofMethod _ name arity =>
    ((d.methods.find? fun m => m.name == name && m.params.length == arity).map
      Method.typeParams).getD []
  | .ofConstructor _ index => (d.constructors[index]?.map Constructor.typeParams).getD []

/-- The results of a list of attempts, or the first error. -/
def collectAll {ε α : Type} : List (Except ε α) → Except ε (List α)
  | [] => .ok []
  | .error e :: _ => .error e
  | .ok a :: rest =>
    match collectAll rest with
    | .error e => .error e
    | .ok as => .ok (a :: as)

/-- The result of an optional attempt. -/
def collectOption {ε α : Type} : Option (Except ε α) → Except ε (Option α)
  | none => .ok none
  | some (.error e) => .error e
  | some (.ok a) => .ok (some a)

namespace Registry

/-- The class of the same name in another registry. -/
def rebindClass (old new : Registry) (c : ClassId) : Except RebindError ClassId :=
  match old.class? c with
  | none => .error (.unknownClass c)
  | some d =>
    match new.lookup? d.name with
    | none => .error (.classNotFound d.name)
    | some e => .ok e

/-- The variable of the given name among `candidates`. -/
def varNamed (reg : Registry) (name : String) (candidates : List VarId) : Option VarId :=
  candidates.find? fun v => (reg.typeParam? v).any fun p => p.name == name

/-- The type parameters of the declaration in class `c` that `owner` describes. -/
def paramsAt (reg : Registry) (owner : VarOwner) (c : ClassId) : List VarId :=
  ((reg.class? c).map fun d => d.paramsOf owner).getD []

/-- The variable of the same name at the corresponding declaration of another registry. -/
def rebindVar (old new : Registry) (v : VarId) : Except RebindError VarId :=
  match old.typeParam? v with
  | none => .error (.unknownVar v)
  | some p =>
    match old.rebindClass new p.owner.classId with
    | .error e => .error e
    | .ok c =>
      match new.varNamed p.name (new.paramsAt p.owner c) with
      | none => .error (.varNotFound p.name (new.className c))
      | some w => .ok w

/-- The same type over another registry. -/
def rebind (old new : Registry) : TypeExpr → Except RebindError TypeExpr :=
  TypeExpr.interpret {
    raw := fun c => do
      let c' ← old.rebindClass new c
      return .raw c'
    app := fun c args owner => do
      let c' ← old.rebindClass new c
      let args' ← collectAll args
      let owner' ← collectOption owner
      return .app c' args' owner'
    wildcard := fun uppers lowers => do
      let uppers' ← collectAll uppers
      let lowers' ← collectAll lowers
      return .wildcard uppers' lowers'
    var := fun v => do
      let v' ← old.rebindVar new v
      return .var v'
    array := fun elem => do
      let elem' ← elem
      return .array elem' }

/-- The same type over another registry with `true`; or `false`, and the type stays as it is. -/
def changeSource (old new : Registry) (t : TypeExpr) : Bool × TypeExpr :=
  match old.rebind new t with
  | .ok u => (true, u)
  | .error _ => (false, t)

@[simp] theorem rebind_raw (old new : Registry) (c : ClassId) :
    old.rebind new (.raw c) = (old.rebindClass new c).map .raw := by
  change (do let c' ← old.rebindClass new c; return TypeExpr.raw c') = _
  cases old.rebindClass new c <;> rfl

@[simp] theorem rebind_var (old new : Registry) (v : VarId) :
    old.rebind new (.var v) = (old.rebindVar new v).map .var := by
  change (do let v' ← old.rebindVar new v; return TypeExpr.var v') = _
  cases old.rebindVar new v <;> rfl

@[simp] theorem rebind_array (old new : Registry) (elem : TypeExpr) :
    old.rebind new (.array elem) = (old.rebind new elem).map .array := by
  change (do let t ← old.rebind new elem; return TypeExpr.array t) = _
  cases old.rebind new elem <;> rfl

/-- Class, then arguments from left to right, then owner. -/
theorem rebind_app (old new : Registry) (c : ClassId) (args : List TypeExpr)
    (owner : Option TypeExpr) :
    old.rebind new (.app c args owner) = (do
      let c' ← old.rebindClass new c
      let args' ← collectAll (args.map (old.rebind new))
      let owner' ← collectOption (owner.map (old.rebind new))
      return .app c' args' owner') :=
  TypeExpr.interpret_app _ c args owner

/-- Upper bounds, then lower bounds. -/
theorem rebind_wildcard (old new : Registry) (uppers lowers : List TypeExpr) :
    old.rebind new (.wildcard uppers lowers) = (do
      let uppers' ← collectAll (uppers.map (old.rebind new))
      let lowers' ← collectAll (lowers.map (old.rebind new))
      return .wildcard uppers' lowers') :=
  TypeExpr.interpret_wildcard _ uppers lowers

end Registry

end Generics
