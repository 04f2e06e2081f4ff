import Generics.TypeExpr.Basic

/-!
# Substitutions

A substitution binds finitely many type variables to type expressions. Its entries are kept in
ascending order of the variables, so two substitutions with the same bindings are equal. An absent
variable is "not bound yet" and never stands for a default.

## Main definitions

* `Substitution`, with `get?`, `bind`, `bindIfAbsent`, `extend` and `ofList`.

## Main results

* `ext_get?`: a substitution is determined by its bindings.
* `get?_bind`, `get?_bindIfAbsent`, `get?_extend`, `get?_ofList`: what each operation does to the
  bindings.
-/

namespace Generics

/-- Bindings of type variables, in ascending order of the variables. -/
structure Substitution where
  /-- The bindings. -/
  entries : List (VarId × TypeExpr)
  /-- Each variable is bound once, and the order is ascending. -/
  ascending : entries.Pairwise fun a b => a.1.idx < b.1.idx
deriving DecidableEq, Repr

namespace Substitution

/-- The substitution that binds nothing. -/
def empty : Substitution := ⟨[], List.Pairwise.nil⟩

instance : Inhabited Substitution := ⟨empty⟩

/-- What `v` is bound to. -/
def get? (σ : Substitution) (v : VarId) : Option TypeExpr := σ.entries.lookup v

/-- `v` is bound. -/
def contains (σ : Substitution) (v : VarId) : Bool := (σ.get? v).isSome

/-- The number of bindings. -/
def size (σ : Substitution) : Nat := σ.entries.length

/-- Nothing is bound. -/
def isEmpty (σ : Substitution) : Bool := σ.entries.isEmpty

/-- The bindings, ascending. -/
def toList (σ : Substitution) : List (VarId × TypeExpr) := σ.entries

theorem lookup_cons_eq (v w : VarId) (t : TypeExpr) (es : List (VarId × TypeExpr)) :
    ((w, t) :: es).lookup v = if v = w then some t else es.lookup v := by
  by_cases h : v = w
  · simp [h]
  · rw [List.lookup_cons, beq_eq_false_iff_ne.2 h, if_neg h]

/-! ### Adding a binding -/

/-- Put the binding of `v` at its place among ascending bindings. -/
def insertEntry (v : VarId) (t : TypeExpr) : List (VarId × TypeExpr) → List (VarId × TypeExpr)
  | [] => [(v, t)]
  | (w, u) :: es =>
    if v.idx < w.idx then (v, t) :: (w, u) :: es
    else if w.idx < v.idx then (w, u) :: insertEntry v t es
    else (v, t) :: es

theorem mem_insertEntry_fst {v : VarId} {t : TypeExpr} {es : List (VarId × TypeExpr)}
    {e : VarId × TypeExpr} (h : e ∈ insertEntry v t es) : e.1 = v ∨ e ∈ es := by
  induction es with
  | nil => exact Or.inl (by rw [List.mem_singleton.1 h])
  | cons d es ih =>
    obtain ⟨w, u⟩ := d
    unfold insertEntry at h
    split at h
    · rcases List.mem_cons.1 h with rfl | h
      · exact Or.inl rfl
      · exact Or.inr h
    · split at h
      · rcases List.mem_cons.1 h with rfl | h
        · exact Or.inr List.mem_cons_self
        · exact (ih h).imp id (List.mem_cons_of_mem _)
      · rcases List.mem_cons.1 h with rfl | h
        · exact Or.inl rfl
        · exact Or.inr (List.mem_cons_of_mem _ h)

theorem pairwise_insertEntry {v : VarId} {t : TypeExpr} {es : List (VarId × TypeExpr)}
    (h : es.Pairwise fun a b => a.1.idx < b.1.idx) :
    (insertEntry v t es).Pairwise fun a b => a.1.idx < b.1.idx := by
  induction es with
  | nil => simp [insertEntry]
  | cons d es ih =>
    obtain ⟨w, u⟩ := d
    obtain ⟨hd, hes⟩ := List.pairwise_cons.1 h
    unfold insertEntry
    split
    · rename_i hlt
      refine List.pairwise_cons.2 ⟨fun e he => ?_, h⟩
      rcases List.mem_cons.1 he with rfl | he
      · exact hlt
      · exact Nat.lt_trans hlt (hd e he)
    · split
      · rename_i hlt
        refine List.pairwise_cons.2 ⟨fun e he => ?_, ih hes⟩
        rcases mem_insertEntry_fst he with rfl | he
        · exact hlt
        · exact hd e he
      · rename_i h₁ h₂
        have hvw : v = w := VarId.idx_injective (by omega)
        subst hvw
        exact List.pairwise_cons.2 ⟨hd, hes⟩

theorem lookup_insertEntry (v w : VarId) (t : TypeExpr) (es : List (VarId × TypeExpr))
    (h : es.Pairwise fun a b => a.1.idx < b.1.idx) :
    (insertEntry v t es).lookup w = if w = v then some t else es.lookup w := by
  induction es with
  | nil => by_cases hw : w = v <;> simp [insertEntry, lookup_cons_eq, hw]
  | cons d es ih =>
    obtain ⟨x, u⟩ := d
    obtain ⟨-, hes⟩ := List.pairwise_cons.1 h
    unfold insertEntry
    split
    · by_cases hw : w = v <;> simp [lookup_cons_eq, hw]
    · split
      · rename_i hlt
        have hne : v ≠ x := fun e => by subst e; omega
        by_cases hx : w = x
        · subst hx
          simp [hne.symm]
        · simp [lookup_cons_eq, hx, ih hes]
      · rename_i h₁ h₂
        have hvx : v = x := VarId.idx_injective (by omega)
        subst hvx
        by_cases hw : w = v <;> simp [lookup_cons_eq, hw]

/-- Bind `v` to `t`, whatever it was bound to before. -/
def bind (σ : Substitution) (v : VarId) (t : TypeExpr) : Substitution :=
  ⟨insertEntry v t σ.entries, pairwise_insertEntry σ.ascending⟩

/-- Bind `v` to `t` unless it is bound. -/
def bindIfAbsent (σ : Substitution) (v : VarId) (t : TypeExpr) : Substitution :=
  if σ.contains v then σ else σ.bind v t

/-- Add the given bindings one after the other; a later one replaces an earlier one. -/
def bindAll (σ : Substitution) (es : List (VarId × TypeExpr)) : Substitution :=
  es.foldl (fun τ e => τ.bind e.1 e.2) σ

/-- Add the given bindings one after the other, keeping what is bound already. -/
def bindAllIfAbsent (σ : Substitution) (es : List (VarId × TypeExpr)) : Substitution :=
  es.foldl (fun τ e => τ.bindIfAbsent e.1 e.2) σ

/-- Add every binding of `τ`, which wins over `σ`. -/
def extend (σ τ : Substitution) : Substitution := σ.bindAll τ.entries

/-- The substitution with the given bindings; of two for one variable the later counts. -/
def ofList (es : List (VarId × TypeExpr)) : Substitution := empty.bindAll es

/-- The substitution that binds formals to arguments, as far as both lists reach. -/
def ofFormals (formals : List VarId) (args : List TypeExpr) : Substitution :=
  ofList (formals.zip args)

/-! ### Bindings after each operation -/

@[simp] theorem get?_empty (v : VarId) : empty.get? v = none := rfl

@[simp] theorem get?_bind (σ : Substitution) (v w : VarId) (t : TypeExpr) :
    (σ.bind v t).get? w = if w = v then some t else σ.get? w :=
  lookup_insertEntry v w t σ.entries σ.ascending

theorem get?_bindIfAbsent (σ : Substitution) (v w : VarId) (t : TypeExpr) :
    (σ.bindIfAbsent v t).get? w =
      (σ.get? w).or (if w = v then some t else none) := by
  unfold bindIfAbsent contains
  by_cases hw : w = v
  · subst hw
    cases h : σ.get? w <;> simp [h]
  · split <;> cases hσ : σ.get? w <;> simp [hw, hσ]

theorem get?_bindAll (σ : Substitution) (es : List (VarId × TypeExpr)) (v : VarId) :
    (σ.bindAll es).get? v = (es.reverse.lookup v).or (σ.get? v) := by
  induction es generalizing σ with
  | nil => simp [bindAll]
  | cons e es ih =>
    obtain ⟨w, t⟩ := e
    have := ih (σ.bind w t)
    unfold bindAll at this ⊢
    rw [List.foldl_cons, this, List.reverse_cons, List.lookup_append]
    by_cases hv : v = w <;> cases es.reverse.lookup v <;> simp [lookup_cons_eq, hv]

theorem get?_bindAllIfAbsent (σ : Substitution) (es : List (VarId × TypeExpr)) (v : VarId) :
    (σ.bindAllIfAbsent es).get? v = (σ.get? v).or (es.lookup v) := by
  induction es generalizing σ with
  | nil => simp [bindAllIfAbsent]
  | cons e es ih =>
    obtain ⟨w, t⟩ := e
    have := ih (σ.bindIfAbsent w t)
    unfold bindAllIfAbsent at this ⊢
    rw [List.foldl_cons, this, get?_bindIfAbsent]
    by_cases hv : v = w <;> cases σ.get? v <;> simp [lookup_cons_eq, hv]

theorem get?_ofList (es : List (VarId × TypeExpr)) (v : VarId) :
    (ofList es).get? v = es.reverse.lookup v := by
  simp [ofList, get?_bindAll]

/-- Among ascending bindings, reading from either end finds the same. -/
theorem lookup_reverse {es : List (VarId × TypeExpr)}
    (h : es.Pairwise fun a b => a.1.idx < b.1.idx) (v : VarId) :
    es.reverse.lookup v = es.lookup v := by
  induction es with
  | nil => rfl
  | cons e es ih =>
    obtain ⟨w, t⟩ := e
    obtain ⟨hw, hes⟩ := List.pairwise_cons.1 h
    rw [List.reverse_cons, List.lookup_append, ih hes]
    by_cases hv : v = w
    · subst hv
      have : es.lookup v = none := List.lookup_eq_none_iff.2 fun e he => by
        have hlt := hw e he
        simp only [ne_eq, bne_iff_ne]
        rintro rfl
        exact Nat.lt_irrefl _ hlt
      simp [this]
    · simp [lookup_cons_eq, hv]

/-- The second substitution wins. -/
theorem get?_extend (σ τ : Substitution) (v : VarId) :
    (σ.extend τ).get? v = (τ.get? v).or (σ.get? v) := by
  rw [extend, get?_bindAll, lookup_reverse τ.ascending]
  rfl

/-- A substitution is determined by its bindings. -/
theorem ext_get? {σ τ : Substitution} (h : ∀ v, σ.get? v = τ.get? v) : σ = τ := by
  obtain ⟨es, hes⟩ := σ
  obtain ⟨fs, hfs⟩ := τ
  suffices es = fs by subst this; rfl
  change ∀ v, es.lookup v = fs.lookup v at h
  induction es generalizing fs with
  | nil =>
    cases fs with
    | nil => rfl
    | cons f fs =>
      obtain ⟨x, u⟩ := f
      simpa [lookup_cons_eq] using h x
  | cons e es ih =>
    cases fs with
    | nil =>
      obtain ⟨w, t⟩ := e
      simpa [lookup_cons_eq] using h w
    | cons f fs =>
      obtain ⟨w, t⟩ := e
      obtain ⟨x, u⟩ := f
      obtain ⟨hw, hes'⟩ := List.pairwise_cons.1 hes
      obtain ⟨hx, hfs'⟩ := List.pairwise_cons.1 hfs
      have below : ∀ {y : VarId} {ds : List (VarId × TypeExpr)},
          (∀ d ∈ ds, y.idx < d.1.idx) → ∀ z : VarId, z.idx ≤ y.idx → ds.lookup z = none := by
        intro y ds hds z hz
        refine List.lookup_eq_none_iff.2 fun d hd => ?_
        have := hds d hd
        simp only [bne_iff_ne, ne_eq]
        rintro rfl
        omega
      have hwx : w = x := by
        apply VarId.idx_injective
        rcases Nat.lt_trichotomy w.idx x.idx with hlt | heq | hlt
        · have := h w
          have hne : w ≠ x := fun e => by subst e; omega
          simp [lookup_cons_eq, hne, below hx w (Nat.le_of_lt hlt)] at this
        · exact heq
        · have := h x
          have hne : x ≠ w := fun e => by subst e; omega
          simp [lookup_cons_eq, hne, below hw x (Nat.le_of_lt hlt)] at this
      subst hwx
      have htu : t = u := by simpa [lookup_cons_eq] using h w
      subst htu
      congr 1
      refine ih hes' fs hfs' fun v => ?_
      by_cases hv : v = w
      · subst hv
        rw [below hw v (Nat.le_refl _), below hx v (Nat.le_refl _)]
      · simpa [lookup_cons_eq, hv] using h v

theorem isEmpty_iff (σ : Substitution) : σ.isEmpty = true ↔ σ = empty := by
  obtain ⟨es, hes⟩ := σ
  cases es <;> simp [isEmpty, empty]

end Substitution

end Generics
