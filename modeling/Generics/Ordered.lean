/-!
# Stable sorting

Sorting by insertion, with the comparison as a test. Members that the test cannot tell apart keep
their order.

## Main definitions

* `Ordered.insert` and `Ordered.sort`.

## Main results

* `sort_perm`: sorting only rearranges.
* `pairwise_sort`: neighbours, and with them all pairs, are in order.
* `pairwise_sort_stable`: besides, equal members stay in the order that they had.
-/

namespace Generics

namespace Ordered

variable {α : Type}

/-- Put `a` before the first member that it does not exceed. -/
def insert (le : α → α → Bool) (a : α) : List α → List α
  | [] => [a]
  | b :: bs => if le a b then a :: b :: bs else b :: insert le a bs

/-- The members in order, equal ones as they came. -/
def sort (le : α → α → Bool) : List α → List α
  | [] => []
  | a :: as => insert le a (sort le as)

theorem insert_perm (le : α → α → Bool) (a : α) (as : List α) : (insert le a as).Perm (a :: as) := by
  induction as with
  | nil => exact .refl _
  | cons b bs ih =>
    unfold insert
    split
    · exact .refl _
    · exact (ih.cons b).trans (.swap a b bs)

/-- Sorting only rearranges. -/
theorem sort_perm (le : α → α → Bool) (as : List α) : (sort le as).Perm as := by
  induction as with
  | nil => exact .refl _
  | cons a as ih => exact (insert_perm le a _).trans (ih.cons a)

@[simp] theorem mem_sort {le : α → α → Bool} {as : List α} {a : α} : a ∈ sort le as ↔ a ∈ as :=
  (sort_perm le as).mem_iff

variable {le : α → α → Bool}

/-- A member that comes before all others of a list goes to its place, and in front of those that
the test cannot tell from it. -/
theorem pairwise_insert (total : ∀ a b, le a b = false → le b a = true)
    (trans : ∀ a b c, le a b = true → le b c = true → le a c = true) {r : α → α → Prop} {a : α}
    {as : List α} (ha : ∀ b ∈ as, r a b)
    (h : as.Pairwise fun a b => le a b = true ∧ (le b a = true → r a b)) :
    (insert le a as).Pairwise fun a b => le a b = true ∧ (le b a = true → r a b) := by
  induction as with
  | nil => simp [insert]
  | cons b bs ih =>
    obtain ⟨hb, hbs⟩ := List.pairwise_cons.1 h
    unfold insert
    split
    · rename_i hab
      refine List.pairwise_cons.2 ⟨fun c hc => ⟨?_, fun _ => ha c hc⟩, h⟩
      rcases List.mem_cons.1 hc with rfl | hc
      · exact hab
      · exact trans a b c hab (hb c hc).1
    · rename_i hab
      have hrest := ih (fun c hc => ha c (List.mem_cons_of_mem b hc)) hbs
      refine List.pairwise_cons.2 ⟨fun c hc => ?_, hrest⟩
      rcases List.mem_cons.1 ((insert_perm le a bs).mem_iff.1 hc) with rfl | hc
      · exact ⟨total _ _ (Bool.eq_false_iff.2 hab), fun h => absurd h hab⟩
      · exact hb c hc

/-- Sorting is stable: what `sort` returns is in order, and members that the comparison cannot tell
apart are related as they were before. -/
theorem pairwise_sort_stable (total : ∀ a b, le a b = false → le b a = true)
    (trans : ∀ a b c, le a b = true → le b c = true → le a c = true) {r : α → α → Prop}
    {as : List α} (h : as.Pairwise r) :
    (sort le as).Pairwise fun a b => le a b = true ∧ (le b a = true → r a b) := by
  induction as with
  | nil => exact .nil
  | cons a as ih =>
    obtain ⟨ha, has⟩ := List.pairwise_cons.1 h
    exact pairwise_insert total trans (fun b hb => ha b (mem_sort.1 hb)) (ih has)

/-- With a total and transitive comparison, what `sort` returns is in order. -/
theorem pairwise_sort (total : ∀ a b, le a b = false → le b a = true)
    (trans : ∀ a b c, le a b = true → le b c = true → le a c = true) (as : List α) :
    (sort le as).Pairwise fun a b => le a b = true := by
  have hall : as.Pairwise fun _ _ => True := List.pairwise_of_forall fun _ _ => trivial
  exact (pairwise_sort_stable total trans hall).imp And.left

end Ordered

end Generics
