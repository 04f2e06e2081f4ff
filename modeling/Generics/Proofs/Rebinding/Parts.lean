import Generics.Proofs.Attempts
import Generics.Proofs.Registry.NameIndex
import Generics.Proofs.Substitution.Ground
import Generics.Rebinding

/-!
# A type is carried over part by part

An expression is carried over to another registry if each of its parts is, and the result is put
together from the results of the parts in the same way. So it has the same form and leaves as much
open, and the classes in it are defined where it goes, whatever the two registries are.

## Main results

* `collectAll_eq_ok_iff`, `collectOption_eq_ok_iff` — attempts in a row all succeed
* `Registry.rebind_app_eq_ok_iff` and its companions, one for each shape
* `Registry.isConcrete_of_rebind`
* `Registry.classId?_of_rebind`
-/

namespace Generics

/-! ### Attempts in a row -/

variable {ε δ α β : Type}

/-- Attempts in a row succeed exactly if each of them does. -/
theorem collectAll_eq_ok_iff {rs : List (Except ε α)} {as : List α} :
    collectAll rs = .ok as ↔ rs = as.map .ok := by
  induction rs generalizing as with
  | nil =>
    rw [collectAll, Except.ok.injEq]
    cases as <;> simp
  | cons r rs ih =>
    cases as with
    | nil =>
      refine iff_of_false (fun h => ?_) (by simp)
      cases r with
      | error e => cases h
      | ok b => cases hrs : collectAll rs <;> simp [collectAll, hrs] at h
    | cons a as =>
      rw [List.map_cons, List.cons.injEq, ← ih]
      cases r with
      | error e => simp [collectAll]
      | ok b => cases hrs : collectAll rs <;> simp [collectAll, hrs]

theorem collectOption_eq_ok_iff {r : Option (Except ε α)} {o : Option α} :
    collectOption r = .ok o ↔ r = o.map .ok := by
  cases r with
  | none => cases o <;> simp [collectOption]
  | some r => cases r <;> cases o <;> simp [collectOption]

/-- What is undone member by member is undone as a whole. -/
theorem map_eq_map_ok_of_inverse {f : α → Except ε β} {g : β → Except δ α} {as : List α}
    {bs : List β} (h : ∀ a ∈ as, ∀ b, f a = .ok b → g b = .ok a) (hf : as.map f = bs.map .ok) :
    bs.map g = as.map .ok := by
  induction as generalizing bs with
  | nil =>
    obtain rfl := List.map_eq_nil_iff.1 hf.symm
    rfl
  | cons a as ih =>
    cases bs with
    | nil => cases hf
    | cons b bs =>
      obtain ⟨hb, hbs⟩ := List.cons.inj hf
      rw [List.map_cons, List.map_cons, h a List.mem_cons_self b hb,
        ih (fun a' ha' => h a' (List.mem_cons_of_mem _ ha')) hbs]

theorem option_map_eq_map_ok_of_inverse {f : α → Except ε β} {g : β → Except δ α} {o : Option α}
    {p : Option β} (h : ∀ a ∈ o, ∀ b, f a = .ok b → g b = .ok a) (hf : o.map f = p.map .ok) :
    p.map g = o.map .ok := by
  cases o with
  | none =>
    obtain rfl := Option.map_eq_none_iff.1 hf.symm
    rfl
  | some a =>
    cases p with
    | none => cases hf
    | some b =>
      have hb : f a = .ok b := Option.some.inj hf
      rw [Option.map_some, Option.map_some, h a rfl b hb]

/-- What every member keeps is kept member by member. -/
theorem map_eq_of_map_ok {γ : Type} {f : α → Except ε β} {p : α → γ} {q : β → γ} {as : List α}
    {bs : List β} (h : ∀ a ∈ as, ∀ b, f a = .ok b → q b = p a) (hf : as.map f = bs.map .ok) :
    bs.map q = as.map p := by
  induction as generalizing bs with
  | nil =>
    obtain rfl := List.map_eq_nil_iff.1 hf.symm
    rfl
  | cons a as ih =>
    cases bs with
    | nil => cases hf
    | cons b bs =>
      obtain ⟨hb, hbs⟩ := List.cons.inj hf
      rw [List.map_cons, List.map_cons, h a List.mem_cons_self b hb,
        ih (fun a' ha' => h a' (List.mem_cons_of_mem _ ha')) hbs]

theorem option_map_eq_of_map_ok {γ : Type} {f : α → Except ε β} {p : α → γ} {q : β → γ}
    {o : Option α} {o' : Option β} (h : ∀ a ∈ o, ∀ b, f a = .ok b → q b = p a)
    (hf : o.map f = o'.map .ok) : o'.map q = o.map p := by
  cases o with
  | none =>
    obtain rfl := Option.map_eq_none_iff.1 hf.symm
    rfl
  | some a =>
    cases o' with
    | none => cases hf
    | some b =>
      have hb : f a = .ok b := Option.some.inj hf
      rw [Option.map_some, Option.map_some, h a rfl b hb]

/-- A test that is kept by every member is kept by all. -/
theorem all_eq_of_map_ok {f : α → Except ε β} {p : α → Bool} {q : β → Bool} {as : List α}
    {bs : List β} (h : ∀ a ∈ as, ∀ b, f a = .ok b → q b = p a) (hf : as.map f = bs.map .ok) :
    bs.all q = as.all p := by
  have hmap : (bs.map q).all id = (as.map p).all id := by rw [map_eq_of_map_ok h hf]
  simpa only [List.all_map, Function.id_comp] using hmap

namespace Registry

variable {old new : Registry} {t u : TypeExpr}

/-! ### Classes -/

theorem rebindClass_eq_ok_iff {c c' : ClassId} :
    old.rebindClass new c = .ok c' ↔ ∃ d, old.class? c = some d ∧ new.lookup? d.name = some c' := by
  rw [rebindClass]
  cases old.class? c with
  | none => simp
  | some d => cases h : new.lookup? d.name <;> simp [h]

/-- A class is carried over to a class that is defined. -/
theorem isDefined_of_rebindClass {c c' : ClassId} (h : old.rebindClass new c = .ok c') :
    new.isDefined c' = true := by
  obtain ⟨d, -, hc'⟩ := rebindClass_eq_ok_iff.1 h
  exact isDefined_of_lookup? hc'

/-! ### Each shape -/

theorem rebind_raw_eq_ok_iff {c : ClassId} :
    old.rebind new (.raw c) = .ok u ↔ ∃ c', old.rebindClass new c = .ok c' ∧ .raw c' = u := by
  rw [rebind_raw, except_map_eq_ok_iff]

theorem rebind_app_eq_ok_iff {c : ClassId} {args : List TypeExpr} {owner : Option TypeExpr} :
    old.rebind new (.app c args owner) = .ok u ↔ ∃ c' args' owner',
      old.rebindClass new c = .ok c' ∧ args.map (old.rebind new) = args'.map .ok ∧
        owner.map (old.rebind new) = owner'.map .ok ∧ .app c' args' owner' = u := by
  simp only [rebind_app, except_bind_eq_ok_iff, collectAll_eq_ok_iff, collectOption_eq_ok_iff,
    pure, Except.pure, Except.ok.injEq]
  constructor
  · rintro ⟨c', hc, args', hargs, owner', howner, rfl⟩
    exact ⟨c', args', owner', hc, hargs, howner, rfl⟩
  · rintro ⟨c', args', owner', hc, hargs, howner, rfl⟩
    exact ⟨c', hc, args', hargs, owner', howner, rfl⟩

theorem rebind_wildcard_eq_ok_iff {uppers lowers : List TypeExpr} :
    old.rebind new (.wildcard uppers lowers) = .ok u ↔ ∃ uppers' lowers',
      uppers.map (old.rebind new) = uppers'.map .ok ∧
        lowers.map (old.rebind new) = lowers'.map .ok ∧ .wildcard uppers' lowers' = u := by
  simp only [rebind_wildcard, except_bind_eq_ok_iff, collectAll_eq_ok_iff, pure, Except.pure,
    Except.ok.injEq]
  constructor
  · rintro ⟨uppers', huppers, lowers', hlowers, rfl⟩
    exact ⟨uppers', lowers', huppers, hlowers, rfl⟩
  · rintro ⟨uppers', lowers', huppers, hlowers, rfl⟩
    exact ⟨uppers', huppers, lowers', hlowers, rfl⟩

theorem rebind_var_eq_ok_iff {v : VarId} :
    old.rebind new (.var v) = .ok u ↔ ∃ w, old.rebindVar new v = .ok w ∧ .var w = u := by
  rw [rebind_var, except_map_eq_ok_iff]

theorem rebind_array_eq_ok_iff {elem : TypeExpr} :
    old.rebind new (.array elem) = .ok u ↔ ∃ e, old.rebind new elem = .ok e ∧ .array e = u := by
  rw [rebind_array, except_map_eq_ok_iff]

/-! ### What is kept -/

/-- What is carried over leaves as much open as before. -/
theorem isConcrete_of_rebind (h : old.rebind new t = .ok u) : u.isConcrete = t.isConcrete := by
  induction t generalizing u with
  | raw c =>
    obtain ⟨c', -, rfl⟩ := rebind_raw_eq_ok_iff.1 h
    rfl
  | app c args owner ihArgs ihOwner =>
    obtain ⟨c', args', owner', -, hargs, howner, rfl⟩ := rebind_app_eq_ok_iff.1 h
    have hall : args'.all TypeExpr.isConcrete = args.all TypeExpr.isConcrete :=
      all_eq_of_map_ok (fun a ha b hb => ihArgs a ha hb) hargs
    have howner' : owner'.all TypeExpr.isConcrete = owner.all TypeExpr.isConcrete := by
      cases owner with
      | none =>
        obtain rfl := Option.map_eq_none_iff.1 howner.symm
        rfl
      | some o =>
        cases owner' with
        | none => cases howner
        | some o' => exact ihOwner o rfl (Option.some.inj howner)
    rw [TypeExpr.isConcrete_app, TypeExpr.isConcrete_app, hall, howner']
  | wildcard uppers lowers =>
    obtain ⟨uppers', lowers', -, -, rfl⟩ := rebind_wildcard_eq_ok_iff.1 h
    rfl
  | var v =>
    obtain ⟨w, -, rfl⟩ := rebind_var_eq_ok_iff.1 h
    rfl
  | array elem ih =>
    obtain ⟨e, he, rfl⟩ := rebind_array_eq_ok_iff.1 h
    rw [TypeExpr.isConcrete_array, TypeExpr.isConcrete_array, ih he]

/-- A use of a class becomes a use of the class that this one is carried over to. -/
theorem classId?_of_rebind {c : ClassId} (h : old.rebind new t = .ok u)
    (hc : t.classId? = some c) : ∃ c', old.rebindClass new c = .ok c' ∧ u.classId? = some c' := by
  rcases TypeExpr.classId?_eq_some_iff.1 hc with rfl | ⟨args, owner, rfl⟩
  · obtain ⟨c', hc', rfl⟩ := rebind_raw_eq_ok_iff.1 h
    exact ⟨c', hc', rfl⟩
  · obtain ⟨c', args', owner', hc', -, -, rfl⟩ := rebind_app_eq_ok_iff.1 h
    exact ⟨c', hc', rfl⟩

end Registry

end Generics
