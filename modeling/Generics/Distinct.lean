/-!
# Lists without repetition, in the order of first occurrence

## Main definitions

* `Distinct.add`: put a member at the end unless it is there.
* `Distinct.ofList`: the members of a list, each at the place of its first occurrence.

## Main results

* `mem_add`, `mem_ofList`: nothing is lost and nothing invented.
* `nodup_add`, `nodup_ofList`: nothing is repeated.
* `ofList_eq_self`: where nothing is repeated, nothing changes.
* `ofList_prefix_ofList_append`: what comes later does not disturb what was there.
* `ofList_filterMap_ofList`: repetitions may be dropped before a map that makes more of them.
-/

namespace Generics

namespace Distinct

variable {α : Type} [DecidableEq α]

/-- Put `a` at the end unless it is there already. -/
def add (as : List α) (a : α) : List α := if a ∈ as then as else as ++ [a]

/-- The members of `as`, each at the place of its first occurrence. -/
def ofList (as : List α) : List α := as.foldl add []

@[simp] theorem mem_add {as : List α} {a b : α} : b ∈ add as a ↔ b ∈ as ∨ b = a := by
  unfold add
  split
  · rename_i h
    exact ⟨Or.inl, fun hb => hb.elim id fun e => e ▸ h⟩
  · simp

theorem nodup_add {as : List α} {a : α} (h : as.Nodup) : (add as a).Nodup := by
  unfold add
  split
  · exact h
  · rename_i ha
    rw [List.nodup_append]
    refine ⟨h, by simp, ?_⟩
    rintro b hb c hc rfl
    exact ha (List.mem_singleton.1 hc ▸ hb)

theorem mem_foldl_add {b : α} (as acc : List α) : b ∈ as.foldl add acc ↔ b ∈ acc ∨ b ∈ as := by
  induction as generalizing acc with
  | nil => simp
  | cons a as ih => simp [ih, or_assoc]

theorem nodup_foldl_add (as acc : List α) (h : acc.Nodup) : (as.foldl add acc).Nodup := by
  induction as generalizing acc with
  | nil => exact h
  | cons a as ih => exact ih _ (nodup_add h)

/-- Dropping repetitions loses no member. -/
@[simp] theorem mem_ofList {as : List α} {b : α} : b ∈ ofList as ↔ b ∈ as := by
  simp [ofList, mem_foldl_add]

theorem nodup_ofList (as : List α) : (ofList as).Nodup := nodup_foldl_add _ _ List.nodup_nil

/-! ### Order -/

theorem foldl_add_eq_append {as acc : List α} (h : (acc ++ as).Nodup) :
    as.foldl add acc = acc ++ as := by
  induction as generalizing acc with
  | nil => exact (List.append_nil acc).symm
  | cons a as ih =>
    have ha : a ∉ acc := fun hmem =>
      (List.nodup_append.1 h).2.2 a hmem a List.mem_cons_self rfl
    rw [List.foldl_cons, add, if_neg ha, ih (by simpa using h), List.append_assoc]
    rfl

/-- A list without repetition stays as it is. -/
theorem ofList_eq_self {as : List α} (h : as.Nodup) : ofList as = as :=
  foldl_add_eq_append (show ([] ++ as).Nodup from h)

theorem ofList_append (as bs : List α) : ofList (as ++ bs) = bs.foldl add (ofList as) :=
  List.foldl_append

theorem prefix_foldl_add (as acc : List α) : acc <+: as.foldl add acc := by
  induction as generalizing acc with
  | nil => exact List.prefix_refl acc
  | cons a as ih =>
    refine List.IsPrefix.trans ?_ (ih (add acc a))
    unfold add
    split
    · exact List.prefix_refl acc
    · exact List.prefix_append acc [a]

/-- What comes later does not disturb what was there. -/
theorem ofList_prefix_ofList_append (as bs : List α) : ofList as <+: ofList (as ++ bs) := by
  rw [ofList_append]
  exact prefix_foldl_add bs (ofList as)

theorem ofList_append_cons_of_mem {as bs : List α} {a : α} (h : a ∈ as) :
    ofList (as ++ a :: bs) = ofList (as ++ bs) := by
  rw [ofList_append, ofList_append, List.foldl_cons, add, if_pos (mem_ofList.2 h)]

/-- Repetitions may be dropped before a map that makes more of them. -/
theorem ofList_filterMap_ofList {β : Type} [DecidableEq β] (f : α → Option β) (as : List α) :
    ofList ((ofList as).filterMap f) = ofList (as.filterMap f) := by
  have hacc : ∀ acc, ofList ((as.foldl add acc).filterMap f) =
      ofList (acc.filterMap f ++ as.filterMap f) := by
    induction as with
    | nil => intro acc; rw [List.filterMap_nil, List.append_nil]; rfl
    | cons a as ih =>
      intro acc
      rw [List.foldl_cons, ih, add]
      split
      · -- the image of a repeated member is a repeated image
        rename_i ha
        cases hfa : f a with
        | none => rw [List.filterMap_cons_none hfa]
        | some b =>
          rw [List.filterMap_cons_some hfa,
            ofList_append_cons_of_mem (List.mem_filterMap.2 ⟨a, ha, hfa⟩)]
      · rw [List.filterMap_append, List.append_assoc, ← List.filterMap_append]
        rfl
  exact hacc []

end Distinct

end Generics
