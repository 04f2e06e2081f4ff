import Generics.Resolution.Basic

/-!
# Arguments from a supertype

Giving a type the arguments that agree with one of its supertypes: `ArrayList` together with
`List<String>` is `ArrayList<String>`.

## Main definitions

* `Refusal`: a failure, or a shape for which the question has no meaning.
* `Resolver.reparameterize`.
-/

namespace Generics

/-- Why a type could not be given the arguments of a supertype. -/
inductive Refusal where
  /-- There is no such type. -/
  | failed (f : Failure)
  /-- The question has no meaning. -/
  | unsupported (e : UnsupportedShape)
deriving DecidableEq, Repr

/-- The refusal in words. -/
def Refusal.message (r : Refusal) (reg : Registry) : String :=
  match r with
  | .failed f => f.message reg
  | .unsupported e => e.message

namespace Resolver

/-- The name of the operation in refusals. -/
def reparameterizeName : String := "with_parameters_from_superclass"

/-- The arguments of a class under what a supertype determines. A formal that the supertype leaves
open keeps its current argument, or stands for itself where there is none. -/
def completedArgs (σ : Substitution) : List VarId → List TypeExpr → List TypeExpr
  | [], _ => []
  | v :: vs, current =>
    (σ.get? v).getD (current.head?.getD (.var v)) :: completedArgs σ vs current.tail

/-- A use of class `c`, with current arguments and owner, brought to agree with `superType`. -/
def reparameterizeUse (R : Resolver) (source : TypeExpr) (c : ClassId) (superType : TypeExpr) :
    ExceptT Refusal Option TypeExpr :=
  match R.registry.class? c with
  | none => throw (.failed ⟨source, .unknownClass⟩)
  | some d =>
    if d.isGeneric then
      match superType with
      | .raw _ => return source
      | .app e args _ =>
        if R.registry.isSubclass c e then do
          let σ ← R.registry.determined R.budget c (e, args)
          return .app c (completedArgs σ d.typeParams source.args) source.owner?
        else throw (.failed ⟨source, .notASupertype⟩)
      | _ => throw (.unsupported ⟨reparameterizeName, superType.shape⟩)
    else return source

/-- `source` with the arguments that agree with `superType`, one of its supertypes. A raw supertype
asks for nothing. -/
def reparameterize (R : Resolver) (source superType : TypeExpr) :
    ExceptT Refusal Option TypeExpr :=
  match source, superType with
  | .var _, _ | .wildcard .., _ => throw (.unsupported ⟨reparameterizeName, source.shape⟩)
  | .array s, .array t => do
    let elem ← R.reparameterize s t
    return .array elem
  | .array _, .raw c =>
    if R.registry.isArraySupertype c then return source
    else throw (.failed ⟨source, .notASupertype⟩)
  | .array _, _ => throw (.failed ⟨source, .notASupertype⟩)
  | .raw c, _ | .app c _ _, _ => R.reparameterizeUse source c superType

@[simp] theorem length_completedArgs (σ : Substitution) (vs : List VarId) (ts : List TypeExpr) :
    (completedArgs σ vs ts).length = vs.length := by
  induction vs generalizing ts with
  | nil => rfl
  | cons v vs ih => simp [completedArgs, ih]

end Resolver

end Generics
