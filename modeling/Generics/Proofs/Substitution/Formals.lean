import Generics.Substitution.Basic

/-!
# Formals bound to arguments

Formals are bound to arguments position by position, and if a variable stands at several positions
the last one counts. So a position settles what its variable is bound to as soon as no later
position has the same variable.

## Main definitions

* `Substitution.ofFormalsUpTo` — the formals before a position bound to the arguments before it, and
  the one at the position to its own argument

## Main results

* `Substitution.get?_ofFormals` — the last position of a variable settles its binding
* `Substitution.get?_ofFormals_of_nodup` — for distinct formals every position does
* `Substitution.get?_ofFormals_of_absent` — what is no formal is not bound
* `Substitution.get?_ofFormals_of_length_le` — nor is a formal without an argument
* `Substitution.exists_position_of_get?_ofFormals`, `Substitution.get?_ofFormals_ne_none`
* `Substitution.get?_ofFormalsUpTo` — up to and including a position
-/

namespace Generics

namespace Substitution

/-- Formals that do not have the variable leave its binding alone. -/
theorem get?_bindAll_zip_of_absent {formals : List VarId} {args : List TypeExpr} {w : VarId}
    (σ : Substitution) (h : ∀ k < args.length, formals[k]? ≠ some w) :
    (σ.bindAll (formals.zip args)).get? w = σ.get? w := by
  induction formals generalizing σ args with
  | nil => rfl
  | cons f fs ih =>
    cases args with
    | nil => rfl
    | cons a as =>
      have hne : w ≠ f := fun he => h 0 (Nat.succ_pos _) (by simp [he])
      have hrest : ((σ.bind f a).bindAll (fs.zip as)).get? w = (σ.bind f a).get? w :=
        ih (σ.bind f a) fun k hk => h (k + 1) (Nat.succ_lt_succ hk)
      change ((σ.bind f a).bindAll (fs.zip as)).get? w = _
      rw [hrest, get?_bind, if_neg hne]

/-- The last position of a variable settles its binding. -/
theorem get?_bindAll_zip {formals : List VarId} {args : List TypeExpr} {w : VarId} {a : TypeExpr}
    {j : Nat} (σ : Substitution) (hw : formals[j]? = some w) (ha : args[j]? = some a)
    (hlast : ∀ k < args.length, j < k → formals[k]? ≠ some w) :
    (σ.bindAll (formals.zip args)).get? w = some a := by
  induction formals generalizing σ args j with
  | nil => cases hw
  | cons f fs ih =>
    cases args with
    | nil => cases ha
    | cons b bs =>
      change ((σ.bind f b).bindAll (fs.zip bs)).get? w = _
      cases j with
      | zero =>
        obtain rfl := Option.some.inj hw
        obtain rfl := Option.some.inj ha
        rw [get?_bindAll_zip_of_absent _ fun k hk =>
          hlast (k + 1) (Nat.succ_lt_succ hk) (Nat.succ_pos k), get?_bind, if_pos rfl]
      | succ j =>
        exact ih _ hw ha fun k hk hj => hlast (k + 1) (Nat.succ_lt_succ hk) (Nat.succ_lt_succ hj)

theorem get?_ofFormals {formals : List VarId} {args : List TypeExpr} {w : VarId} {a : TypeExpr}
    {j : Nat} (hw : formals[j]? = some w) (ha : args[j]? = some a)
    (hlast : ∀ k < args.length, j < k → formals[k]? ≠ some w) :
    (ofFormals formals args).get? w = some a := get?_bindAll_zip _ hw ha hlast

/-- Distinct formals are bound position by position. -/
theorem get?_ofFormals_of_nodup {formals : List VarId} {args : List TypeExpr} {w : VarId}
    {a : TypeExpr} {j : Nat} (hn : formals.Nodup) (hw : formals[j]? = some w)
    (ha : args[j]? = some a) : (ofFormals formals args).get? w = some a := by
  refine get?_ofFormals hw ha fun k _ hjk hk => ?_
  have hj : j < formals.length := (List.getElem?_eq_some_iff.1 hw).1
  have hsame : j = k := (List.getElem?_inj hj hn).1 (hw.trans hk.symm)
  omega

theorem get?_ofFormals_of_absent {formals : List VarId} {args : List TypeExpr} {w : VarId}
    (h : ∀ k < args.length, formals[k]? ≠ some w) : (ofFormals formals args).get? w = none :=
  get?_bindAll_zip_of_absent _ h

/-- A formal whose position has no argument is not bound, if the formals are distinct. -/
theorem get?_ofFormals_of_length_le {formals : List VarId} {args : List TypeExpr} {w : VarId}
    {j : Nat} (hn : formals.Nodup) (hw : formals[j]? = some w) (hj : args.length ≤ j) :
    (ofFormals formals args).get? w = none := by
  refine get?_ofFormals_of_absent fun k hk hkw => ?_
  have hlt : k < formals.length := (List.getElem?_eq_some_iff.1 hkw).1
  have hsame : k = j := (List.getElem?_inj hlt hn).1 (hkw.trans hw.symm)
  omega

theorem get?_ofFormals_eq_lookup (formals : List VarId) (args : List TypeExpr) (w : VarId) :
    (ofFormals formals args).get? w = (formals.zip args).reverse.lookup w := get?_ofList _ w

/-- A formal is bound to the argument at one of its positions. -/
theorem exists_position_of_get?_ofFormals {formals : List VarId} {args : List TypeExpr} {w : VarId}
    {a : TypeExpr} (h : (ofFormals formals args).get? w = some a) :
    ∃ i : Nat, formals[i]? = some w ∧ args[i]? = some a := by
  rw [get?_ofFormals_eq_lookup, List.lookup_eq_some_iff] at h
  obtain ⟨before, after, he, -⟩ := h
  have hmem : (w, a) ∈ formals.zip args := by
    rw [← List.mem_reverse, he]
    exact List.mem_append_right _ List.mem_cons_self
  obtain ⟨i, hi⟩ := List.mem_iff_getElem?.1 hmem
  exact ⟨i, List.getElem?_zip_eq_some.1 hi⟩

/-- What a formal is bound to is one of the arguments. -/
theorem mem_of_get?_ofFormals {formals : List VarId} {args : List TypeExpr} {w : VarId}
    {a : TypeExpr} (h : (ofFormals formals args).get? w = some a) : a ∈ args := by
  obtain ⟨i, -, hi⟩ := exists_position_of_get?_ofFormals h
  exact List.mem_of_getElem? hi

/-- A formal that has an argument is bound. -/
theorem get?_ofFormals_ne_none {formals : List VarId} {args : List TypeExpr} {w : VarId} {k : Nat}
    (hw : formals[k]? = some w) (hk : k < args.length) :
    (ofFormals formals args).get? w ≠ none := by
  rw [get?_ofFormals_eq_lookup, Ne, List.lookup_eq_none_iff]
  intro h
  have hmem : (w, args[k]) ∈ formals.zip args := List.mem_of_getElem? (i := k) (by
    rw [List.getElem?_zip_eq_some]
    exact ⟨hw, List.getElem?_eq_getElem hk⟩)
  simpa using h _ (List.mem_reverse.2 hmem)

/-! ### Up to a position -/

/-- The formals before position `i` bound to the arguments before it, and the formal at `i` to its
own argument unless it was bound before. -/
def ofFormalsUpTo (formals : List VarId) (args : List TypeExpr) (i : Nat) : Substitution :=
  (ofFormals (formals.drop i) ((args.drop i).take 1)).extend (ofFormals formals (args.take i))

theorem ofFormals_drop {formals : List VarId} {args : List TypeExpr} {i : Nat} {f : VarId}
    {a : TypeExpr} (hf : formals[i]? = some f) (ha : args[i]? = some a) :
    ofFormals (formals.drop i) ((args.drop i).take 1) = empty.bind f a := by
  obtain ⟨hi, hfi⟩ := List.getElem?_eq_some_iff.1 hf
  obtain ⟨hj, haj⟩ := List.getElem?_eq_some_iff.1 ha
  rw [List.drop_eq_getElem_cons hi, List.drop_eq_getElem_cons hj, hfi, haj, List.take_succ_cons,
    List.take_zero, ofFormals, List.zip_cons_cons, List.zip_nil_right]
  rfl

/-- What comes before the position wins over the position itself. -/
theorem get?_ofFormalsUpTo {formals : List VarId} {args : List TypeExpr} {i : Nat} {f w : VarId}
    {a : TypeExpr} (hf : formals[i]? = some f) (ha : args[i]? = some a) :
    (ofFormalsUpTo formals args i).get? w =
      ((ofFormals formals (args.take i)).get? w).or (if w = f then some a else none) := by
  rw [ofFormalsUpTo, get?_extend, ofFormals_drop hf ha, get?_bind]
  rfl

end Substitution

end Generics
