import Generics.Proofs.Registry.Bounded
import Generics.Proofs.Registry.NameIndex
import Generics.Registry.Standard

/-!
# What the operations keep

A registry grows by interning names, by defining classes and by adding type parameters. A class has
its number before it has a definition, and it may be defined again, so the index of names and the
table of classes are never written in one go. What keeps them inverse to each other is one demand on
the caller: a definition goes to the number that its name has been given. The other operations need
none. They give numbers to new names only, and these come from the end of the table, while all numbers
in use lie inside it.

## Main definitions

* `Registry.Edit` — one operation; `Edit.Allowed` is the demand, and `Edit.classOf` and `Edit.varOf`
  are what the operation names
* `Registry.editAll`, `Registry.Allows` — the operations one after the other
* `Registry.Indexed` — the index of names and the table of classes fit each other

## Main results

* `Registry.Indexed.editAll`, `Registry.Bounded.editAll` — both are kept by every run
* `Registry.interned_editAll` — no run takes a number away from its name
* `Registry.Indexed.namesFaithful` — a name leads to the class that has it
* `Registry.class?_edit`, `Registry.typeParam?_edit` — what an operation leaves alone
* `Registry.nameIndex_editAll`
-/

namespace Generics

namespace Registry

/-- One operation on a registry. -/
inductive Edit where
  /-- The class of that name gets a number, unless it has one. -/
  | intern (name : String)
  /-- The class gets the definition. -/
  | define (c : ClassId) (d : ClassDef)
  /-- The class that the definition names gets it. -/
  | addClass (d : ClassDef)
  /-- There is one more type parameter. -/
  | addTypeParam (name : String) (owner : VarOwner) (bounds : List TypeExpr)
  /-- The type parameter has these bounds from now on. -/
  | setBounds (v : VarId) (bounds : List TypeExpr)
deriving DecidableEq, Repr

/-- The registry after one operation. -/
def edit (reg : Registry) : Edit → Registry
  | .intern name => (reg.intern name).2
  | .define c d => reg.define c d
  | .addClass d => (reg.addClass d).2
  | .addTypeParam name owner bounds => (reg.addTypeParam name owner bounds).2
  | .setBounds v bounds => reg.setBounds v bounds

/-- The registry after operations that follow each other. -/
def editAll (reg : Registry) (es : List Edit) : Registry := es.foldl edit reg

/-- A definition goes to the number that its name has been given. -/
def Edit.Allowed (reg : Registry) : Edit → Prop
  | .define c d => reg.interned d.name = some c
  | _ => True

instance (reg : Registry) : DecidablePred (Edit.Allowed reg)
  | .define c d => inferInstanceAs (Decidable (reg.interned d.name = some c))
  | .intern _ | .addClass _ | .addTypeParam _ _ _ | .setBounds _ _ =>
    inferInstanceAs (Decidable True)

/-- Each operation is allowed when its turn comes. -/
def Allows (reg : Registry) : List Edit → Prop
  | [] => True
  | e :: es => e.Allowed reg ∧ Allows (reg.edit e) es

instance (reg : Registry) (es : List Edit) : Decidable (reg.Allows es) :=
  match es with
  | [] => inferInstanceAs (Decidable True)
  | e :: es =>
    have := instDecidableAllows (reg.edit e) es
    inferInstanceAs (Decidable (e.Allowed reg ∧ (reg.edit e).Allows es))

/-- The class that an operation names. -/
def Edit.classOf (reg : Registry) : Edit → Option ClassId
  | .define c _ => some c
  | .addClass d => some (reg.intern d.name).1
  | .intern _ | .addTypeParam _ _ _ | .setBounds _ _ => none

/-- The type parameter that an operation names; a new one has the next number. -/
def Edit.varOf (reg : Registry) : Edit → Option VarId
  | .addTypeParam _ _ _ => some ⟨reg.params.size⟩
  | .setBounds v _ => some v
  | .intern _ | .define _ _ | .addClass _ => none

variable {reg : Registry}

/-! ### The number of a name -/

theorem intern_of_interned {name : String} {c : ClassId} (h : reg.interned name = some c) :
    reg.intern name = (c, reg) := by
  rw [interned] at h
  rw [intern, h]

theorem intern_of_interned_eq_none {name : String} (h : reg.interned name = none) :
    reg.intern name = (⟨reg.classes.size⟩, { reg with
      classes := reg.classes.push none
      names := (name, ⟨reg.classes.size⟩) :: reg.names }) := by
  rw [interned] at h
  rw [intern, h]

/-- A name has the number that interning returns. -/
theorem interned_intern_self (reg : Registry) (name : String) :
    (reg.intern name).2.interned name = some (reg.intern name).1 := by
  cases h : reg.interned name with
  | some c => rw [intern_of_interned h]; exact h
  | none => rw [intern_of_interned_eq_none h]; exact List.lookup_cons_self

/-- A name that is interned keeps its number, whatever name is interned next. -/
theorem interned_intern {n name : String} {c : ClassId} (h : reg.interned n = some c) :
    (reg.intern name).2.interned n = some c := by
  cases hname : reg.interned name with
  | some d => rw [intern_of_interned hname]; exact h
  | none =>
    have hne : n ≠ name := fun he => by rw [he, hname] at h; exact nomatch h
    rw [intern_of_interned_eq_none hname, interned, List.lookup_cons, beq_false_of_ne hne]
    exact h

/-- A definition that goes to the number of its name changes no number. -/
theorem interned_define {c : ClassId} {d : ClassDef} (hd : reg.interned d.name = some c)
    (n : String) : (reg.define c d).interned n = reg.interned n := by
  rw [interned, define, List.lookup_cons]
  by_cases hn : n = d.name
  · subst hn
    rw [beq_self_eq_true]
    exact hd.symm
  · rw [beq_false_of_ne hn]
    rfl

theorem interned_edit {e : Edit} (he : e.Allowed reg) {n : String} {c : ClassId}
    (h : reg.interned n = some c) : (reg.edit e).interned n = some c := by
  cases e with
  | intern name => exact interned_intern h
  | define c' d => exact (interned_define he n).trans h
  | addClass d =>
    exact (interned_define (interned_intern_self reg d.name) n).trans (interned_intern h)
  | addTypeParam name owner bounds => exact h
  | setBounds v bounds => exact h

/-- **A name keeps its number forever.** -/
theorem interned_editAll {es : List Edit} (hes : reg.Allows es) {n : String} {c : ClassId}
    (h : reg.interned n = some c) : (reg.editAll es).interned n = some c := by
  induction es generalizing reg with
  | nil => exact h
  | cons e es ih => exact ih hes.2 (interned_edit hes.1 h)

/-! ### The index and the table -/

/-- The index of names and the table of classes fit each other: names and numbers in use belong
together one to one, the numbers lie inside the table, and every class is known by its name. -/
structure Indexed (reg : Registry) : Prop where
  /-- The table has a place for every number. -/
  lt_size : ∀ e ∈ reg.names, e.2.idx < reg.classes.size
  /-- One name has one number, and one number one name. -/
  eq_iff : ∀ e ∈ reg.names, ∀ f ∈ reg.names, e.1 = f.1 ↔ e.2 = f.2
  /-- A defined class has the number that its name has been given. -/
  mem_names : ∀ c d, reg.class? c = some d → (d.name, c) ∈ reg.names

theorem indexed_initial : initial.Indexed where
  lt_size := by decide +kernel
  eq_iff := by decide +kernel
  mem_names c d h := by
    have hnames : ∀ e ∈ initial.named, e ∈ initial.names := by decide +kernel
    exact hnames (d.name, c) (mem_named.2 ⟨d, h, rfl⟩)

theorem indexed_standard : standard.Indexed where
  lt_size := by decide +kernel
  eq_iff := by decide +kernel
  mem_names c d h := by
    have hnames : ∀ e ∈ standard.named, e ∈ standard.names := by decide +kernel
    exact hnames (d.name, c) (mem_named.2 ⟨d, h, rfl⟩)

namespace Indexed

variable (h : reg.Indexed)

include h

/-- An entry of the index is what the look-up of its name finds. -/
theorem interned_eq_some_iff {n : String} {c : ClassId} :
    reg.interned n = some c ↔ (n, c) ∈ reg.names := by
  refine ⟨mem_names_of_interned, fun hmem => ?_⟩
  cases hn : reg.interned n with
  | none => exact absurd (List.lookup_eq_none_iff.1 hn (n, c) hmem) (by simp)
  | some d =>
    exact congrArg some ((h.eq_iff (n, d) (mem_names_of_interned hn) (n, c) hmem).1 rfl)

/-- No two names share a number. -/
theorem eq_of_interned {n m : String} {c : ClassId} (hn : reg.interned n = some c)
    (hm : reg.interned m = some c) : n = m :=
  (h.eq_iff (n, c) (mem_names_of_interned hn) (m, c) (mem_names_of_interned hm)).2 rfl

/-- **The index and the table are inverse to each other.** -/
theorem namesFaithful : reg.NamesFaithful := by
  intro name c
  rw [lookup?_eq_some_iff, isDefined_iff]
  constructor
  · rintro ⟨hname, d, hd⟩
    exact ⟨d, hd, h.eq_of_interned (h.interned_eq_some_iff.2 (h.mem_names c d hd)) hname⟩
  · rintro ⟨d, hd, rfl⟩
    exact ⟨h.interned_eq_some_iff.2 (h.mem_names c d hd), d, hd⟩

/-! ### One operation -/

theorem intern (name : String) : (reg.intern name).2.Indexed := by
  cases hname : reg.interned name with
  | some c => rw [intern_of_interned hname]; exact h
  | none =>
    have hclass := class?_intern reg name
    rw [intern_of_interned_eq_none hname] at hclass ⊢
    have hnew : ∀ e ∈ reg.names, name ≠ e.1 := fun e he =>
      bne_iff_ne.1 (List.lookup_eq_none_iff.1 hname e he)
    have hfresh : ∀ e ∈ reg.names, (⟨reg.classes.size⟩ : ClassId) ≠ e.2 := fun e he heq =>
      Nat.ne_of_gt (h.lt_size e he) (congrArg ClassId.idx heq)
    refine ⟨fun e he => ?_, fun e he f hf => ?_, fun c d hd => ?_⟩
    · rw [Array.size_push]
      rcases List.mem_cons.1 he with rfl | he
      · exact Nat.lt_succ_self _
      · exact Nat.lt_succ_of_lt (h.lt_size e he)
    · -- the new entry differs from every old one in the name and in the number
      rcases List.mem_cons.1 he with rfl | he <;> rcases List.mem_cons.1 hf with rfl | hf
      · exact iff_of_true rfl rfl
      · exact iff_of_false (hnew f hf) (hfresh f hf)
      · exact iff_of_false (hnew e he).symm (hfresh e he).symm
      · exact h.eq_iff e he f hf
    · exact List.mem_cons_of_mem _ (h.mem_names c d ((hclass c).symm.trans hd))

theorem define {c : ClassId} {d : ClassDef} (hd : reg.interned d.name = some c) :
    (reg.define c d).Indexed := by
  have hmem : (d.name, c) ∈ reg.names := mem_names_of_interned hd
  have hnames : ∀ e ∈ (reg.define c d).names, e ∈ reg.names := fun e he =>
    (List.mem_cons.1 he).elim (fun heq => heq ▸ hmem) id
  refine ⟨fun e he => ?_, fun e he f hf => h.eq_iff e (hnames e he) f (hnames f hf),
    fun e de hde => ?_⟩
  · have hlt := h.lt_size e (hnames e he)
    rw [Registry.define, Array.size_setIfInBounds, size_grown]
    omega
  · rw [class?_define] at hde
    split at hde
    · rename_i hec
      rw [← Option.some.inj hde, hec]
      exact List.mem_cons_self
    · exact List.mem_cons_of_mem _ (h.mem_names e de hde)

theorem edit {e : Edit} (he : e.Allowed reg) : (reg.edit e).Indexed := by
  cases e with
  | intern name => exact h.intern name
  | define c d => exact h.define he
  | addClass d => exact (h.intern d.name).define (interned_intern_self reg d.name)
  | addTypeParam name owner bounds => exact ⟨h.lt_size, h.eq_iff, h.mem_names⟩
  | setBounds v bounds => exact ⟨h.lt_size, h.eq_iff, h.mem_names⟩

end Indexed

theorem Bounded.edit (h : reg.Bounded) (e : Edit) : (reg.edit e).Bounded := by
  cases e with
  | intern name => exact h.intern name
  | define c d => exact h.define c d
  | addClass d => exact h.addClass d
  | addTypeParam name owner bounds => exact h.addTypeParam name owner bounds
  | setBounds v bounds => exact h.setBounds v bounds

/-- **A class that an operation does not name** stays as it is. -/
theorem class?_edit (reg : Registry) (e : Edit) {c : ClassId} (hc : e.classOf reg ≠ some c) :
    (reg.edit e).class? c = reg.class? c := by
  cases e with
  | intern name => exact class?_intern reg name c
  | define e d =>
    have hne : c ≠ e := fun he => hc (congrArg some he.symm)
    exact (class?_define reg e c d).trans (if_neg hne)
  | addClass d =>
    have hne : c ≠ (reg.intern d.name).1 := fun he => hc (congrArg some he.symm)
    exact ((class?_define _ _ c d).trans (if_neg hne)).trans (class?_intern reg d.name c)
  | addTypeParam name owner bounds => rfl
  | setBounds v bounds => rfl

/-- **A type parameter that an operation does not name** stays as it is. -/
theorem typeParam?_edit (reg : Registry) (e : Edit) {v : VarId} (hv : e.varOf reg ≠ some v) :
    (reg.edit e).typeParam? v = reg.typeParam? v := by
  cases e with
  | intern name => exact typeParam?_intern reg name v
  | define c d => rfl
  | addClass d => exact typeParam?_intern reg d.name v
  | addTypeParam name owner bounds =>
    have hne : v.idx ≠ reg.params.size := fun he =>
      hv (congrArg some (VarId.idx_injective he.symm))
    exact (typeParam?_addTypeParam reg name owner bounds v).trans (if_neg hne)
  | setBounds w bounds =>
    have hne : v ≠ w := fun he => hv (congrArg some he.symm)
    exact (typeParam?_setBounds reg w v bounds).trans (if_neg hne)

/-! ### Operations that follow each other -/

theorem Indexed.editAll (h : reg.Indexed) {es : List Edit} (hes : reg.Allows es) :
    (reg.editAll es).Indexed := by
  induction es generalizing reg with
  | nil => exact h
  | cons e es ih => exact ih (h.edit hes.1) hes.2

theorem Bounded.editAll (h : reg.Bounded) (es : List Edit) : (reg.editAll es).Bounded := by
  induction es generalizing reg with
  | nil => exact h
  | cons e es ih => exact ih (h.edit e)

theorem bounded_standard : standard.Bounded := by
  have hparams : ∀ p ∈ standard.params, p.bounds ≠ [] := by decide +kernel
  intro v p hp
  exact hparams p (Array.mem_of_getElem? hp)

/-- **The index of names and the table of classes stay inverse** to each other, from the initial or
the standard registry on and through all operations, as long as a definition goes to the number of
its name. A name leads to the class that has it; each defined class is listed once, and the names
ascend; a name keeps its number, and shares it with no other; every type parameter has a bound; and
an operation changes only the class and the type parameter that it names. -/
theorem nameIndex_editAll {start : Registry} (hstart : start = initial ∨ start = standard)
    {es : List Edit} (hes : start.Allows es) {reg : Registry} (hreg : reg = start.editAll es) :
    (∀ n c, reg.lookup? n = some c ↔ ∃ d, reg.class? c = some d ∧ d.name = n) ∧
    (∀ c, c ∈ reg.classIds ↔ ∃ d, reg.class? c = some d) ∧
    reg.classIds.Nodup ∧
    (reg.classIds.Pairwise fun c d =>
      ∃ dc ∈ reg.class? c, ∃ dd ∈ reg.class? d, dc.name < dd.name) ∧
    (∀ n, (reg.intern n).2.interned n = some (reg.intern n).1) ∧
    (∀ n c, reg.interned n = some c → ∀ later, reg.Allows later →
      (reg.editAll later).interned n = some c ∧ ((reg.editAll later).intern n).1 = c) ∧
    (∀ n m c, reg.interned n = some c → reg.interned m = some c → n = m) ∧
    (∀ v p, reg.typeParam? v = some p → p.bounds ≠ []) ∧
    ∀ e : Edit,
      (∀ c, e.classOf reg ≠ some c → (reg.edit e).class? c = reg.class? c) ∧
      ∀ v, e.varOf reg ≠ some v → (reg.edit e).typeParam? v = reg.typeParam? v := by
  have hkept : reg.Indexed ∧ reg.Bounded := by
    rw [hreg]
    rcases hstart with rfl | rfl
    · exact ⟨indexed_initial.editAll hes, bounded_initial.editAll es⟩
    · exact ⟨indexed_standard.editAll hes, bounded_standard.editAll es⟩
  obtain ⟨hindex, hbounded⟩ := hkept
  refine ⟨hindex.namesFaithful, fun c => mem_classIds.trans isDefined_iff, nodup_classIds reg,
    hindex.namesFaithful.pairwise_lt_classIds, interned_intern_self reg, ?_,
    fun _ _ _ => hindex.eq_of_interned, hbounded,
    fun e => ⟨fun _ => class?_edit reg e, fun _ => typeParam?_edit reg e⟩⟩
  intro n c hn later hlater
  have hkeeps := interned_editAll hlater hn
  exact ⟨hkeeps, congrArg Prod.fst (intern_of_interned hkeeps)⟩

/-- A generic class is met first in a bound of its own formal, defined, and defined again. -/
def shelfEdits : List Edit :=
  [.intern "demo.Shelf",
    .addTypeParam "S" (.ofClass ⟨21⟩) [.ofClass ⟨21⟩ [.var ⟨14⟩]],
    .addClass { name := "demo.Box" },
    .define ⟨21⟩ { name := "demo.Shelf", typeParams := [⟨14⟩] },
    .setBounds ⟨14⟩ [],
    .define ⟨21⟩ { name := "demo.Shelf", typeParams := [⟨14⟩], isAbstract := true },
    .intern "demo.Shelf"]

theorem nameIndex_shelf :
    standard.Allows shelfEdits ∧
    (standard.editAll shelfEdits).lookup? "demo.Shelf" = some ⟨21⟩ ∧
    (∀ v p, (standard.editAll shelfEdits).typeParam? v = some p → p.bounds ≠ []) ∧
    ∀ later, (standard.editAll shelfEdits).Allows later →
      (((standard.editAll shelfEdits).editAll later).intern "demo.Shelf").1 = ⟨21⟩ := by
  have hes : standard.Allows shelfEdits := by decide +kernel
  have hclass : (standard.editAll shelfEdits).class? ⟨21⟩ =
      some { name := "demo.Shelf", typeParams := [⟨14⟩], isAbstract := true } := by decide +kernel
  have hinterned : (standard.editAll shelfEdits).interned "demo.Shelf" = some ⟨21⟩ := by
    decide +kernel
  obtain ⟨hfound, -, -, -, -, hkeeps, -, hbounds, -⟩ := nameIndex_editAll (.inr rfl) hes rfl
  exact ⟨hes, (hfound "demo.Shelf" ⟨21⟩).2 ⟨_, hclass, rfl⟩, hbounds,
    fun later hlater => (hkeeps "demo.Shelf" ⟨21⟩ hinterned later hlater).2⟩

end Registry

end Generics
