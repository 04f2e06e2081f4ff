import Generics.Proofs.Rebinding.Parts
import Generics.Proofs.Rebinding.RoundTrip

/-!
# The first name that is not found

An expression mentions classes and type variables, and these are all that another registry is asked
for. The order is not that of the text, which puts an owner first: here the class comes before its
arguments and these before the owner, and upper bounds come before lower ones. Taken in this order
the mentions decide everything. The expression is carried over if each of them is, and otherwise it
fails as the first of them does that is not. The form around the mentions is never looked at and
never changed. So the text stays the same too, as soon as a name leads to a class that has this name:
a class and a variable are only ever replaced by one that is written alike.

## Main definitions

* `TypeExpr.Mention`, `TypeExpr.mentions` — the classes and variables of an expression, in order
* `TypeExpr.outline` — what is left of an expression when all names are taken out
* `failure?`, `Registry.mentionFailure` — the error of an attempt

## Main results

* `Registry.failure?_rebind` — the failure of an expression is the first one of its mentions
* `Registry.outline_of_rebind` — the form is kept
* `Registry.typeName_of_rebind` — the text is kept
* `Registry.rebind_by_mentions`
-/

namespace Generics

/-! ### The error of an attempt -/

section Failure

variable {ε α β : Type}

/-- The error, if there is one. -/
def failure? : Except ε α → Option ε
  | .error e => some e
  | .ok _ => none

theorem failure?_eq_some_iff {x : Except ε α} {e : ε} : failure? x = some e ↔ x = .error e := by
  cases x <;> simp [failure?]

theorem failure?_eq_none_iff {x : Except ε α} : failure? x = none ↔ ∃ a, x = .ok a := by
  cases x <;> simp [failure?]

@[simp] theorem failure?_map (f : α → β) (x : Except ε α) : failure? (x.map f) = failure? x := by
  cases x <;> rfl

/-- Of two attempts in a row the first error counts, if the second does not fail in a way that
depends on the first. -/
theorem failure?_bind {x : Except ε α} {f : α → Except ε β} {o : Option ε}
    (h : ∀ a, failure? (f a) = o) : failure? (x >>= f) = (failure? x).or o := by
  cases x with
  | error e => rfl
  | ok a => exact h a

theorem failure?_collectAll (rs : List (Except ε α)) :
    failure? (collectAll rs) = rs.findSome? failure? := by
  induction rs with
  | nil => rfl
  | cons r rs ih =>
    cases r with
    | error e => rfl
    | ok a =>
      rw [List.findSome?_cons, collectAll, ← ih]
      cases collectAll rs <;> rfl

theorem failure?_collectOption (r : Option (Except ε α)) :
    failure? (collectOption r) = r.toList.findSome? failure? := by
  rcases r with - | (e | a) <;> rfl

end Failure

namespace TypeExpr

/-! ### Mentions -/

/-- A place of an expression at which a name stands. -/
inductive Mention where
  /-- The name of a class. -/
  | ofClass (c : ClassId)
  /-- The name of a type variable. -/
  | ofVar (v : VarId)
deriving DecidableEq, Repr

/-- The classes and variables of an expression: the class, then the arguments from left to right,
then the owner; upper bounds, then lower bounds. -/
def mentions : TypeExpr → List Mention :=
  interpret {
    raw := fun c => [.ofClass c]
    app := fun c args owner => .ofClass c :: (args.flatten ++ owner.toList.flatten)
    wildcard := fun uppers lowers => uppers.flatten ++ lowers.flatten
    var := fun v => [.ofVar v]
    array := id }

@[simp] theorem mentions_raw (c : ClassId) : mentions (.raw c) = [.ofClass c] := rfl

@[simp] theorem mentions_app (c : ClassId) (args : List TypeExpr) (owner : Option TypeExpr) :
    mentions (.app c args owner) =
      .ofClass c :: (args.flatMap mentions ++ owner.toList.flatMap mentions) := by
  rw [mentions, interpret_app]
  cases owner <;> rfl

@[simp] theorem mentions_wildcard (uppers lowers : List TypeExpr) :
    mentions (.wildcard uppers lowers) =
      uppers.flatMap mentions ++ lowers.flatMap mentions := by
  rw [mentions, interpret_wildcard]
  rfl

@[simp] theorem mentions_var (v : VarId) : mentions (.var v) = [.ofVar v] := rfl

@[simp] theorem mentions_array (elem : TypeExpr) : mentions (.array elem) = elem.mentions := rfl

/-! ### Outlines -/

/-- The form of an expression: all classes are the same in it, and all variables. -/
def outline : TypeExpr → TypeExpr :=
  interpret {
    raw := fun _ => .raw ⟨0⟩
    app := fun _ => .app ⟨0⟩
    wildcard := .wildcard
    var := fun _ => .var ⟨0⟩
    array := .array }

@[simp] theorem outline_raw (c : ClassId) : outline (.raw c) = .raw ⟨0⟩ := rfl

@[simp] theorem outline_app (c : ClassId) (args : List TypeExpr) (owner : Option TypeExpr) :
    outline (.app c args owner) = .app ⟨0⟩ (args.map outline) (owner.map outline) :=
  interpret_app _ c args owner

@[simp] theorem outline_wildcard (uppers lowers : List TypeExpr) :
    outline (.wildcard uppers lowers) = .wildcard (uppers.map outline) (lowers.map outline) :=
  interpret_wildcard _ uppers lowers

@[simp] theorem outline_var (v : VarId) : outline (.var v) = .var ⟨0⟩ := rfl

@[simp] theorem outline_array (elem : TypeExpr) : outline (.array elem) = .array elem.outline := rfl

@[simp] theorem shape_outline (t : TypeExpr) : t.outline.shape = t.shape := by
  cases t with
  | raw c => rfl
  | app c args owner => rw [outline_app]; rfl
  | wildcard uppers lowers => rw [outline_wildcard]; rfl
  | var v => rfl
  | array elem => rfl

end TypeExpr

namespace Registry

variable {old new : Registry} {t u : TypeExpr}

/-! ### What fails -/

/-- Why a class or a variable that is mentioned cannot be carried over. -/
def mentionFailure (old new : Registry) : TypeExpr.Mention → Option RebindError
  | .ofClass c => failure? (old.rebindClass new c)
  | .ofVar v => failure? (old.rebindVar new v)

/-- Parts fail as the first of all their mentions does, if each part does so. -/
theorem findSome?_failure?_map {ts : List TypeExpr}
    (h : ∀ t ∈ ts, failure? (old.rebind new t) = t.mentions.findSome? (old.mentionFailure new)) :
    (ts.map (old.rebind new)).findSome? failure? =
      (ts.flatMap TypeExpr.mentions).findSome? (old.mentionFailure new) := by
  induction ts with
  | nil => rfl
  | cons t ts ih =>
    rw [List.map_cons, List.findSome?_cons, List.flatMap_cons, List.findSome?_append,
      h t List.mem_cons_self, ih fun t' ht' => h t' (List.mem_cons_of_mem t ht')]
    cases t.mentions.findSome? (old.mentionFailure new) <;> rfl

/-- **An expression fails as the first of its mentions does.** -/
theorem failure?_rebind (old new : Registry) (t : TypeExpr) :
    failure? (old.rebind new t) = t.mentions.findSome? (old.mentionFailure new) := by
  induction t with
  | raw c =>
    rw [rebind_raw, failure?_map, TypeExpr.mentions_raw, List.findSome?_singleton]
    rfl
  | app c args owner ihArgs ihOwner =>
    have hargs := findSome?_failure?_map ihArgs
    have howner : (owner.toList.map (old.rebind new)).findSome? failure? =
        (owner.toList.flatMap TypeExpr.mentions).findSome? (old.mentionFailure new) :=
      findSome?_failure?_map fun o ho => ihOwner o (Option.mem_toList.1 ho)
    rw [← failure?_collectAll] at hargs
    rw [← Option.toList_map, ← failure?_collectOption] at howner
    rw [rebind_app, TypeExpr.mentions_app, List.findSome?_cons, List.findSome?_append, ← hargs,
      ← howner]
    have hparts : ∀ c' : ClassId, failure? (do
        let args' ← collectAll (args.map (old.rebind new))
        let owner' ← collectOption (owner.map (old.rebind new))
        return TypeExpr.app c' args' owner') =
        (failure? (collectAll (args.map (old.rebind new)))).or
          (failure? (collectOption (owner.map (old.rebind new)))) := fun c' =>
      failure?_bind fun args' => failure?_map (TypeExpr.app c' args') _
    rw [failure?_bind hparts]
    have hclass : old.mentionFailure new (.ofClass c) = failure? (old.rebindClass new c) := rfl
    rw [hclass]
    cases failure? (old.rebindClass new c) <;> rfl
  | wildcard uppers lowers ihUppers ihLowers =>
    have huppers := findSome?_failure?_map ihUppers
    have hlowers := findSome?_failure?_map ihLowers
    rw [← failure?_collectAll] at huppers hlowers
    rw [rebind_wildcard, TypeExpr.mentions_wildcard, List.findSome?_append, ← huppers, ← hlowers]
    exact failure?_bind fun uppers' => failure?_map (TypeExpr.wildcard uppers') _
  | var v =>
    rw [rebind_var, failure?_map, TypeExpr.mentions_var, List.findSome?_singleton]
    rfl
  | array elem ih =>
    rw [rebind_array, failure?_map, ih, TypeExpr.mentions_array]

theorem exists_rebind_eq_ok_iff :
    (∃ u, old.rebind new t = .ok u) ↔ ∀ m ∈ t.mentions, old.mentionFailure new m = none := by
  rw [← failure?_eq_none_iff, failure?_rebind, List.findSome?_eq_none_iff]

theorem rebind_eq_error_iff {e : RebindError} :
    old.rebind new t = .error e ↔ ∃ before m after, t.mentions = before ++ m :: after ∧
      old.mentionFailure new m = some e ∧ ∀ m' ∈ before, old.mentionFailure new m' = none := by
  rw [← failure?_eq_some_iff, failure?_rebind, List.findSome?_eq_some_iff]

/-! ### What is kept -/

/-- **The form is kept.** -/
theorem outline_of_rebind (h : old.rebind new t = .ok u) : u.outline = t.outline := by
  induction t generalizing u with
  | raw c =>
    obtain ⟨c', -, rfl⟩ := rebind_raw_eq_ok_iff.1 h
    rfl
  | app c args owner ihArgs ihOwner =>
    obtain ⟨c', args', owner', -, hargs, howner, rfl⟩ := rebind_app_eq_ok_iff.1 h
    rw [TypeExpr.outline_app, TypeExpr.outline_app,
      map_eq_of_map_ok (fun a ha b hb => ihArgs a ha hb) hargs,
      option_map_eq_of_map_ok (fun o ho b hb => ihOwner o ho hb) howner]
  | wildcard uppers lowers ihUppers ihLowers =>
    obtain ⟨uppers', lowers', huppers, hlowers, rfl⟩ := rebind_wildcard_eq_ok_iff.1 h
    rw [TypeExpr.outline_wildcard, TypeExpr.outline_wildcard,
      map_eq_of_map_ok (fun a ha b hb => ihUppers a ha hb) huppers,
      map_eq_of_map_ok (fun a ha b hb => ihLowers a ha hb) hlowers]
  | var v =>
    obtain ⟨w, -, rfl⟩ := rebind_var_eq_ok_iff.1 h
    rfl
  | array elem ih =>
    obtain ⟨e, he, rfl⟩ := rebind_array_eq_ok_iff.1 h
    rw [TypeExpr.outline_array, TypeExpr.outline_array, ih he]

/-- A class is replaced by one of the same name. -/
theorem exists_class?_of_rebindClass (hnew : new.NamesTruthful) {c c' : ClassId}
    (h : old.rebindClass new c = .ok c') :
    ∃ d d', old.class? c = some d ∧ new.class? c' = some d' ∧ d'.name = d.name := by
  obtain ⟨d, hd, hc'⟩ := rebindClass_eq_ok_iff.1 h
  obtain ⟨d', hd', hname⟩ := hnew d.name c' hc'
  exact ⟨d, d', hd, hd', hname⟩

/-- **The text is kept,** if a name leads to a class of this name. -/
theorem typeName_of_rebind (hnew : new.NamesTruthful) (h : old.rebind new t = .ok u) :
    new.typeName u = old.typeName t := by
  induction t generalizing u with
  | raw c =>
    obtain ⟨c', hc', rfl⟩ := rebind_raw_eq_ok_iff.1 h
    obtain ⟨d, d', hd, hd', hname⟩ := exists_class?_of_rebindClass hnew hc'
    simp only [typeName_raw, className, hd, hd', hname]
  | app c args owner ihArgs ihOwner =>
    obtain ⟨c', args', owner', hc', hargs, howner, rfl⟩ := rebind_app_eq_ok_iff.1 h
    obtain ⟨d, d', hd, hd', hname⟩ := exists_class?_of_rebindClass hnew hc'
    have hmember : ∀ o, new.memberName c' o = old.memberName c o := by
      intro o
      cases o <;> simp only [memberName, className, hd, hd', hname]
    rw [typeName_app, typeName_app, hmember,
      map_eq_of_map_ok (fun a ha b hb => ihArgs a ha hb) hargs,
      option_map_eq_of_map_ok (fun o ho b hb => ihOwner o ho hb) howner]
  | wildcard uppers lowers ihUppers ihLowers =>
    obtain ⟨uppers', lowers', huppers, hlowers, rfl⟩ := rebind_wildcard_eq_ok_iff.1 h
    rw [typeName_wildcard, typeName_wildcard,
      map_eq_of_map_ok (fun a ha b hb => ihUppers a ha hb) huppers,
      map_eq_of_map_ok (fun a ha b hb => ihLowers a ha hb) hlowers]
  | var v =>
    obtain ⟨w, hw, rfl⟩ := rebind_var_eq_ok_iff.1 h
    obtain ⟨p, c, hp, -, hnamed⟩ := rebindVar_eq_ok_iff.1 hw
    obtain ⟨q, hq, hname, -⟩ := of_varNamed_paramsAt hnamed
    simp only [typeName_var, varName, hp, hq, hname]
  | array elem ih =>
    obtain ⟨e, he, rfl⟩ := rebind_array_eq_ok_iff.1 h
    rw [typeName_array, typeName_array, ih he]

/-- **The mentions decide.** An expression is carried over exactly if each class and each variable
that it mentions is, and it fails exactly as the first of them does that is not. Where a name leads
to a class of this name, what is carried over is written as before and has the same form, and it
leaves as much open. -/
theorem rebind_by_mentions (old new : Registry) (t : TypeExpr) :
    ((∃ u, old.rebind new t = .ok u) ↔
      (∀ c, .ofClass c ∈ t.mentions → ∃ c', old.rebindClass new c = .ok c') ∧
        ∀ v, .ofVar v ∈ t.mentions → ∃ w, old.rebindVar new v = .ok w) ∧
    (∀ e, old.rebind new t = .error e ↔ ∃ before m after, t.mentions = before ++ m :: after ∧
      old.mentionFailure new m = some e ∧ ∀ m' ∈ before, old.mentionFailure new m' = none) ∧
    (new.NamesTruthful → ∀ u, old.rebind new t = .ok u →
      new.typeName u = old.typeName t ∧ u.shape = t.shape ∧ u.outline = t.outline ∧
        u.isConcrete = t.isConcrete) := by
  refine ⟨?_, fun e => rebind_eq_error_iff, fun hnew u h => ?_⟩
  · rw [exists_rebind_eq_ok_iff]
    constructor
    · exact fun h => ⟨fun c hc => failure?_eq_none_iff.1 (h _ hc),
        fun v hv => failure?_eq_none_iff.1 (h _ hv)⟩
    · rintro ⟨hclasses, hvars⟩ (c | v) hm
      · exact failure?_eq_none_iff.2 (hclasses c hm)
      · exact failure?_eq_none_iff.2 (hvars v hm)
  · have houtline := outline_of_rebind h
    have hshape : u.shape = t.shape := by
      rw [← TypeExpr.shape_outline u, houtline, TypeExpr.shape_outline]
    exact ⟨typeName_of_rebind hnew h, hshape, houtline, isConcrete_of_rebind h⟩

/-- `Box<? super S & U>.Box<T>[]`, of which nothing keeps its number, is written alike in both
workshops. In `Box<W>.Box<String>` with an unknown variable `W`, the argument `String` comes before
the owner and is what is missed. -/
theorem rebind_by_mentions_workshop :
    let t : TypeExpr := .array
      (.app ⟨2⟩ [.var ⟨0⟩] (some (.app ⟨2⟩ [.wildcard [] [.var ⟨2⟩, .var ⟨1⟩]] none)))
    let u : TypeExpr := .array
      (.app ⟨1⟩ [.var ⟨1⟩] (some (.app ⟨1⟩ [.wildcard [] [.var ⟨0⟩, .var ⟨2⟩]] none)))
    let missing : TypeExpr := .app ⟨2⟩ [.raw ⟨1⟩] (some (.app ⟨2⟩ [.var ⟨7⟩] none))
    otherWorkshop.NamesTruthful ∧ workshop.rebind otherWorkshop t = .ok u ∧
      otherWorkshop.typeName u = workshop.typeName t ∧ u.outline = t.outline ∧
        workshop.rebind otherWorkshop missing = .error (.classNotFound "String") := by
  intro t u missing
  have hnames := namesFaithful_otherWorkshop.namesTruthful
  have hthere : workshop.rebind otherWorkshop t = .ok u := by decide +kernel
  obtain ⟨hname, -, houtline, -⟩ :=
    (rebind_by_mentions workshop otherWorkshop t).2.2 hnames u hthere
  have hmissing := (rebind_by_mentions workshop otherWorkshop missing).2.1
    (.classNotFound "String")
  exact ⟨hnames, hthere, hname, houtline, hmissing.2 ⟨[.ofClass ⟨2⟩], .ofClass ⟨1⟩,
    [.ofClass ⟨2⟩, .ofVar ⟨7⟩], by decide +kernel, by decide +kernel, by decide +kernel⟩⟩

end Registry

end Generics
