import Generics.Ident

/-!
# Type expressions

A type expression is a use of a class without arguments, a use with arguments and possibly an
enclosing type, a wildcard, a type variable or an array. It is a plain value: nothing here asks a
registry, so unknown identifiers and wrong argument counts are legal.

## Main definitions

* `TypeExpr` and its `Shape`.
* `TypeExpr.Interpretation` and `TypeExpr.interpret`: bottom-up evaluation, the one place where the
  nesting of expressions in lists is unfolded. Most functions on expressions are interpretations.
* Decidable equality.

## Main results

* `TypeExpr.induct`: induction with a hypothesis for every member of every list.
* `interpret_app` and `interpret_wildcard`: interpretation maps over the lists.
-/

namespace Generics

/-- A type expression over a nominal class hierarchy. -/
inductive TypeExpr where
  /-- A class used without type arguments. -/
  | raw (c : ClassId)
  /-- A class applied to arguments, inside the enclosing type `owner` if there is one. -/
  | app (c : ClassId) (args : List TypeExpr) (owner : Option TypeExpr)
  /-- Some unnamed type below all of `uppers` and above all of `lowers`. -/
  | wildcard (uppers lowers : List TypeExpr)
  /-- A type variable. -/
  | var (v : VarId)
  /-- An array with the given component type. -/
  | array (elem : TypeExpr)
deriving Inhabited, Repr

/-- The five forms of a type expression. -/
inductive Shape where
  | rawClass
  | parameterized
  | wildcard
  | typeVariable
  | genericArray
deriving DecidableEq, Repr

/-- The shape in words. -/
def Shape.describe : Shape → String
  | .rawClass => "raw class"
  | .parameterized => "parameterized type"
  | .wildcard => "wildcard type"
  | .typeVariable => "type variable"
  | .genericArray => "generic array"

namespace TypeExpr

/-! ### Induction -/

/-- Induction over type expressions with a hypothesis for each argument, owner and bound. -/
@[elab_as_elim, induction_eliminator]
theorem induct {motive : TypeExpr → Prop}
    (raw : ∀ c, motive (.raw c))
    (app : ∀ c args owner, (∀ a ∈ args, motive a) → (∀ o ∈ owner, motive o) →
      motive (.app c args owner))
    (wildcard : ∀ uppers lowers, (∀ u ∈ uppers, motive u) → (∀ l ∈ lowers, motive l) →
      motive (.wildcard uppers lowers))
    (var : ∀ v, motive (.var v))
    (array : ∀ elem, motive elem → motive (.array elem)) (t : TypeExpr) : motive t := by
  refine @TypeExpr.rec motive (fun ts => ∀ t ∈ ts, motive t) (fun o => ∀ t ∈ o, motive t)
    raw (fun c args owner => app c args owner) (fun uppers lowers => wildcard uppers lowers)
    var (fun elem => array elem) ?_ ?_ ?_ ?_ t
  · simp
  · intro t ts ht hts u hu
    rcases List.mem_cons.1 hu with rfl | hu
    · exact ht
    · exact hts u hu
  · simp
  · intro t ht u hu
    obtain rfl := Option.some.inj hu
    exact ht

/-! ### Bottom-up evaluation -/

/-- A meaning in `β` for each shape, given the meanings of the parts. -/
structure Interpretation (β : Type) where
  /-- Meaning of a class without arguments. -/
  raw : ClassId → β
  /-- Meaning of a class with arguments and perhaps an owner. -/
  app : ClassId → List β → Option β → β
  /-- Meaning of a wildcard, from its upper and its lower bounds. -/
  wildcard : List β → List β → β
  /-- Meaning of a type variable. -/
  var : VarId → β
  /-- Meaning of an array, from its component. -/
  array : β → β

variable {β : Type}

mutual

/-- The meaning of an expression, computed from the leaves up. -/
def interpret (I : Interpretation β) : TypeExpr → β
  | .raw c => I.raw c
  | .app c args owner => I.app c (interpretAll I args) (interpretOwner I owner)
  | .wildcard uppers lowers => I.wildcard (interpretAll I uppers) (interpretAll I lowers)
  | .var v => I.var v
  | .array elem => I.array (interpret I elem)

/-- The meanings of the members of a list. -/
def interpretAll (I : Interpretation β) : List TypeExpr → List β
  | [] => []
  | t :: ts => interpret I t :: interpretAll I ts

/-- The meaning of an owner. -/
def interpretOwner (I : Interpretation β) : Option TypeExpr → Option β
  | none => none
  | some t => some (interpret I t)

end

theorem interpretAll_eq_map (I : Interpretation β) (ts : List TypeExpr) :
    interpretAll I ts = ts.map (interpret I) := by
  induction ts with
  | nil => rfl
  | cons t ts ih => simp [interpretAll, ih]

theorem interpretOwner_eq_map (I : Interpretation β) (o : Option TypeExpr) :
    interpretOwner I o = o.map (interpret I) := by
  cases o <;> rfl

theorem interpret_raw (I : Interpretation β) (c : ClassId) : interpret I (.raw c) = I.raw c := rfl

theorem interpret_app (I : Interpretation β) (c : ClassId) (args : List TypeExpr)
    (owner : Option TypeExpr) :
    interpret I (.app c args owner) =
      I.app c (args.map (interpret I)) (owner.map (interpret I)) := by
  rw [interpret, interpretAll_eq_map, interpretOwner_eq_map]

theorem interpret_wildcard (I : Interpretation β) (uppers lowers : List TypeExpr) :
    interpret I (.wildcard uppers lowers) =
      I.wildcard (uppers.map (interpret I)) (lowers.map (interpret I)) := by
  rw [interpret, interpretAll_eq_map, interpretAll_eq_map]

theorem interpret_var (I : Interpretation β) (v : VarId) : interpret I (.var v) = I.var v := rfl

theorem interpret_array (I : Interpretation β) (elem : TypeExpr) :
    interpret I (.array elem) = I.array (interpret I elem) := rfl

/-! ### Equality -/

mutual

/-- Structural equality, as a test. -/
def same : TypeExpr → TypeExpr → Bool
  | .raw c, .raw d => c == d
  | .app c args owner, .app d brgs pwner => c == d && sameAll args brgs && sameOwner owner pwner
  | .wildcard us ls, .wildcard vs ms => sameAll us vs && sameAll ls ms
  | .var v, .var w => v == w
  | .array s, .array t => same s t
  | _, _ => false

/-- Structural equality of lists. -/
def sameAll : List TypeExpr → List TypeExpr → Bool
  | [], [] => true
  | s :: ss, t :: ts => same s t && sameAll ss ts
  | _, _ => false

/-- Structural equality of owners. -/
def sameOwner : Option TypeExpr → Option TypeExpr → Bool
  | none, none => true
  | some s, some t => same s t
  | _, _ => false

end

theorem sameAll_iff (ss ts : List TypeExpr)
    (h : ∀ s ∈ ss, ∀ t, same s t = true ↔ s = t) : sameAll ss ts = true ↔ ss = ts := by
  induction ss generalizing ts with
  | nil => cases ts <;> simp [sameAll]
  | cons s ss ih =>
    cases ts with
    | nil => simp [sameAll]
    | cons t ts =>
      have hs := h s List.mem_cons_self t
      have hss := ih ts fun u hu => h u (List.mem_cons_of_mem _ hu)
      simp [sameAll, hs, hss]

theorem sameOwner_iff (o p : Option TypeExpr)
    (h : ∀ s ∈ o, ∀ t, same s t = true ↔ s = t) : sameOwner o p = true ↔ o = p := by
  cases o with
  | none => cases p <;> simp [sameOwner]
  | some s => cases p with
    | none => simp [sameOwner]
    | some t => simpa [sameOwner] using h s rfl t

/-- The structural test decides equality. -/
theorem same_iff (s t : TypeExpr) : same s t = true ↔ s = t := by
  induction s generalizing t with
  | raw c => cases t <;> simp [same]
  | app c args owner ihArgs ihOwner =>
    cases t <;> simp [same, sameAll_iff _ _ ihArgs, sameOwner_iff _ _ ihOwner, and_assoc]
  | wildcard us ls ihUppers ihLowers =>
    cases t <;> simp [same, sameAll_iff _ _ ihUppers, sameAll_iff _ _ ihLowers]
  | var v => cases t <;> simp [same]
  | array elem ih => cases t <;> simp [same, ih]

instance : DecidableEq TypeExpr := fun s t => decidable_of_iff _ (same_iff s t)

/-! ### Parts -/

/-- The use of `c` with `args`; without arguments it is raw. -/
def ofClass (c : ClassId) (args : List TypeExpr) : TypeExpr :=
  if args.isEmpty then .raw c else .app c args none

@[simp] theorem ofClass_nil (c : ClassId) : ofClass c [] = .raw c := rfl

@[simp] theorem ofClass_cons (c : ClassId) (a : TypeExpr) (as : List TypeExpr) :
    ofClass c (a :: as) = .app c (a :: as) none := rfl

/-- The form of an expression. -/
def shape : TypeExpr → Shape
  | .raw _ => .rawClass
  | .app .. => .parameterized
  | .wildcard .. => .wildcard
  | .var _ => .typeVariable
  | .array _ => .genericArray

/-- The wildcard without bounds. -/
def anything : TypeExpr := .wildcard [] []

/-- The wildcard with one upper bound. -/
def extending (t : TypeExpr) : TypeExpr := .wildcard [t] []

/-- The wildcard with one lower bound. -/
def superOf (t : TypeExpr) : TypeExpr := .wildcard [] [t]

/-- The class that an expression uses, with or without arguments. -/
def classId? : TypeExpr → Option ClassId
  | .raw c | .app c _ _ => some c
  | _ => none

/-- The type arguments; only a parameterized type has any. -/
def args : TypeExpr → List TypeExpr
  | .app _ args _ => args
  | _ => []

/-- The enclosing type; only a parameterized type can have one. -/
def owner? : TypeExpr → Option TypeExpr
  | .app _ _ owner => owner
  | _ => none

/-- A variable standing for itself, once per formal. -/
def vars (formals : List VarId) : List TypeExpr := formals.map .var

@[simp] theorem classId?_ofClass (c : ClassId) (as : List TypeExpr) :
    (ofClass c as).classId? = some c := by
  cases as <;> rfl

/-- Only raw and parameterized types use a class. -/
theorem classId?_eq_some_iff {t : TypeExpr} {c : ClassId} :
    t.classId? = some c ↔ t = .raw c ∨ ∃ args owner, t = .app c args owner := by
  cases t <;> simp [classId?]

@[simp] theorem args_ofClass (c : ClassId) (as : List TypeExpr) : (ofClass c as).args = as := by
  cases as <;> rfl

end TypeExpr

/-- An operation was asked of a shape for which it has no meaning. -/
structure UnsupportedShape where
  /-- Name of the operation. -/
  operation : String
  /-- The shape that it was given. -/
  shape : Shape
deriving DecidableEq, Repr

/-- The refusal in words. -/
def UnsupportedShape.message (e : UnsupportedShape) : String :=
  "`" ++ e.operation ++ "` is not supported for a " ++ e.shape.describe

/-- The enclosing type of an expression. A type variable has no notion of an owner. -/
def TypeExpr.ownerType (t : TypeExpr) : Except UnsupportedShape (Option TypeExpr) :=
  match t with
  | .var _ => .error ⟨"owner_type", t.shape⟩
  | _ => .ok t.owner?

end Generics
