import Generics.Resolution.Basic

/-!
# Computations that may have no answer

A question about supertypes takes a budget and answers `none` when the budget is used up; a
resolution may besides fail. Here two such computations are compared step by step: either the second
answers whatever the first does, or both answer alike as far as both answer at all. The two
comparisons are kept by the same ways of putting computations together, so those are gone through
once.

## Main definitions

* `Answers f a`: with enough budget `f` answers `a`, and goes on doing so; `Halts f`: it answers
  something.
* `Comparison`: a relation between partial answers that sequencing keeps.
* `Comparison.refines` and `Comparison.agrees`.
* `Attempt.Yields`: an attempt that ends with a result.

## Main results

* `Comparison.allM`, `anyM`, `findM?`, `mapM`: the loops over lists keep a comparison.
* `Attempt.yields_bind`, `yields_liftM`, `yields_guard`: how an attempt put together from others
  comes to a result; `run_bind_eq_error_iff`: how it fails.
* `exists_of_anyM_eq_true`, `of_findM?_eq_some`: what the loops that search have found passes.
* `rel_of_findM?_eq_some`: it is the first that passes.
* `Answers.filterM`: the members of a list that pass.
* `Halts.bind`, `Halts.bindAttempt` and the loops: what halts part by part halts as a whole.
-/

namespace Generics

/-! ### Enough budget -/

/-- With enough budget `f` answers `a`, and goes on doing so. -/
def Answers {α : Type} (f : Nat → Option α) (a : α) : Prop := ∃ N, ∀ n, N ≤ n → f n = some a

/-- There is one answer at most. -/
theorem Answers.unique {α : Type} {f : Nat → Option α} {a b : α} (ha : Answers f a)
    (hb : Answers f b) : a = b := by
  obtain ⟨N, hN⟩ := ha
  obtain ⟨M, hM⟩ := hb
  have hleft : f (max N M) = some a := hN _ (by omega)
  have hright : f (max N M) = some b := hM _ (by omega)
  exact Option.some.inj (hleft.symm.trans hright)

theorem Answers.exists_eq {α : Type} {f : Nat → Option α} {a : α} (h : Answers f a) :
    ∃ n, f n = some a := by
  obtain ⟨N, hN⟩ := h
  exact ⟨N, hN N (Nat.le_refl N)⟩

theorem Answers.congr {α : Type} {f g : Nat → Option α} {a : α} (hf : Answers f a)
    (hfg : ∃ N, ∀ n, N ≤ n → g n = f n) : Answers g a := by
  obtain ⟨N, hN⟩ := hf
  obtain ⟨M, hM⟩ := hfg
  refine ⟨max N M, fun n hn => ?_⟩
  rw [hM n (by omega), hN n (by omega)]

theorem Answers.map {α β : Type} {f : Nat → Option α} {a : α} (h : Answers f a) (g : α → β) :
    Answers (fun n => (f n).map g) (g a) := by
  obtain ⟨N, hN⟩ := h
  exact ⟨N, fun n hn => congrArg (Option.map g) (hN n hn)⟩

/-- A loop that asks for all passes exactly if every member does. -/
theorem allM_eq_true_iff {α : Type} {p : α → Option Bool} {as : List α} :
    as.allM p = some true ↔ ∀ a ∈ as, p a = some true := by
  induction as with
  | nil => simp
  | cons a as ih =>
    rw [List.allM_cons, List.forall_mem_cons, ← ih]
    cases p a with
    | none => simp
    | some b => cases b <;> simp

/-- A loop that asks for all is turned down only by a member. -/
theorem exists_of_allM_eq_false {α : Type} {p : α → Option Bool} {as : List α}
    (h : as.allM p = some false) : ∃ a ∈ as, p a = some false := by
  induction as with
  | nil => cases h
  | cons a as ih =>
    rw [List.allM_cons] at h
    obtain ⟨b, hb, hrest⟩ := Option.bind_eq_some_iff.1 h
    cases b with
    | true =>
      obtain ⟨a', ha', hp⟩ := ih hrest
      exact ⟨a', List.mem_cons_of_mem _ ha', hp⟩
    | false => exact ⟨a, List.mem_cons_self, hb⟩

/-- The answer of a loop is made of the answers for its members. -/
theorem allM_congr {α : Type} {p q : α → Option Bool} {as : List α} (h : ∀ a ∈ as, p a = q a) :
    as.allM p = as.allM q := by
  induction as with
  | nil => rfl
  | cons a as ih =>
    rw [List.allM_cons, List.allM_cons, h a List.mem_cons_self,
      ih fun b hb => h b (List.mem_cons_of_mem a hb)]

/-- A loop that asks for any passes only if some member does. -/
theorem exists_of_anyM_eq_true {α : Type} {p : α → Option Bool} {as : List α}
    (h : as.anyM p = some true) : ∃ a ∈ as, p a = some true := by
  induction as with
  | nil => cases h
  | cons a as ih =>
    rw [List.anyM_cons] at h
    obtain ⟨b, hb, hrest⟩ := Option.bind_eq_some_iff.1 h
    cases b with
    | true => exact ⟨a, List.mem_cons_self, hb⟩
    | false =>
      obtain ⟨a', ha', hp⟩ := ih hrest
      exact ⟨a', List.mem_cons_of_mem _ ha', hp⟩

/-- A loop that asks for any is turned down exactly if every member is. -/
theorem anyM_eq_false_iff {α : Type} {p : α → Option Bool} {as : List α} :
    as.anyM p = some false ↔ ∀ a ∈ as, p a = some false := by
  induction as with
  | nil => simp
  | cons a as ih =>
    rw [List.anyM_cons, List.forall_mem_cons, ← ih]
    cases p a with
    | none => simp
    | some b => cases b <;> simp

/-- What a loop that looks for something finds is a member that passes. -/
theorem of_findM?_eq_some {α : Type} {p : α → Option Bool} {as : List α} {a : α}
    (h : as.findM? p = some (some a)) : a ∈ as ∧ p a = some true := by
  induction as with
  | nil => cases h
  | cons a' as ih =>
    rw [List.findM?] at h
    obtain ⟨b, hb, hrest⟩ := Option.bind_eq_some_iff.1 h
    cases b with
    | true =>
      obtain rfl : a' = a := Option.some.inj (Option.some.inj hrest)
      exact ⟨List.mem_cons_self, hb⟩
    | false =>
      obtain ⟨hmem, hp⟩ := ih hrest
      exact ⟨List.mem_cons_of_mem _ hmem, hp⟩

/-- A loop that looks for something finds nothing exactly if every member is turned down. -/
theorem findM?_eq_some_none_iff {α : Type} {p : α → Option Bool} {as : List α} :
    as.findM? p = some none ↔ ∀ a ∈ as, p a = some false := by
  induction as with
  | nil => simp
  | cons a as ih =>
    rw [List.findM?, List.forall_mem_cons, ← ih]
    cases p a with
    | none => simp
    | some b => cases b <;> simp

/-- In a list that is in order, a loop finds the first of the members that pass. -/
theorem rel_of_findM?_eq_some {α : Type} {p : α → Option Bool} {r : α → α → Prop} {as : List α}
    {a : α} (hr : as.Pairwise r) (h : as.findM? p = some (some a)) {b : α} (hb : b ∈ as)
    (hp : p b = some true) : b = a ∨ r a b := by
  induction as with
  | nil => cases h
  | cons a' as ih =>
    obtain ⟨ha', has⟩ := List.pairwise_cons.1 hr
    rw [List.findM?] at h
    obtain ⟨passes, hpasses, hrest⟩ := Option.bind_eq_some_iff.1 h
    cases passes with
    | true =>
      obtain rfl : a' = a := Option.some.inj (Option.some.inj hrest)
      rcases List.mem_cons.1 hb with rfl | hb
      · exact Or.inl rfl
      · exact Or.inr (ha' b hb)
    | false =>
      rcases List.mem_cons.1 hb with rfl | hb
      · rw [hp] at hpasses
        cases hpasses
      · exact ih has hrest hb

/-- A fold whose steps are answered as long as an invariant holds, which they keep, is answered. -/
theorem foldlM_eq_some {α β : Type} {f : β → α → Option β} {g : β → α → β} {I : β → Prop}
    {as : List α} (h : ∀ b, I b → ∀ a ∈ as, f b a = some (g b a) ∧ I (g b a)) {b : β} (hb : I b) :
    as.foldlM f b = some (as.foldl g b) ∧ I (as.foldl g b) := by
  induction as generalizing b with
  | nil => exact ⟨rfl, hb⟩
  | cons a as ih =>
    obtain ⟨hstep, hnext⟩ := h b hb a List.mem_cons_self
    rw [List.foldlM_cons, hstep, List.foldl_cons]
    exact ih (fun b hb a' ha' => h b hb a' (List.mem_cons_of_mem _ ha')) hnext

theorem filterAuxM_eq_some_iff {α : Type} {p : α → Option Bool} {as acc bs : List α} :
    as.filterAuxM p acc = some bs ↔
      (∀ a ∈ as, p a ≠ none) ∧ (as.filter fun a => p a == some true).reverse ++ acc = bs := by
  induction as generalizing acc with
  | nil => simp
  | cons a as ih =>
    rw [List.filterAuxM, List.forall_mem_cons, List.filter_cons]
    cases hp : p a with
    | none => simp
    | some b =>
      rw [Option.bind_eq_bind, Option.bind_some, ih]
      cases b <;> simp

/-- A loop that keeps what passes answers exactly if every member has an answer. -/
theorem filterM_eq_some_iff {α : Type} {p : α → Option Bool} {as bs : List α} :
    as.filterM p = some bs ↔
      (∀ a ∈ as, p a ≠ none) ∧ (as.filter fun a => p a == some true) = bs := by
  rw [List.filterM]
  rw [Option.bind_eq_bind, Option.bind_eq_some_iff]
  constructor
  · rintro ⟨cs, hcs, h⟩
    obtain ⟨hall, rfl⟩ := filterAuxM_eq_some_iff.1 hcs
    exact ⟨hall, by simpa using h⟩
  · rintro ⟨hall, h⟩
    exact ⟨_, filterAuxM_eq_some_iff.2 ⟨hall, rfl⟩, by simpa using h⟩

/-- What holds of each of finitely many things with enough budget holds of all of them with a common
budget. -/
theorem eventually_forall_mem {α : Type} {P : α → Nat → Prop} {as : List α}
    (h : ∀ a ∈ as, ∃ N, ∀ n, N ≤ n → P a n) : ∃ N, ∀ n, N ≤ n → ∀ a ∈ as, P a n := by
  induction as with
  | nil => exact ⟨0, fun _ _ _ ha => absurd ha List.not_mem_nil⟩
  | cons a as ih =>
    obtain ⟨N, hN⟩ := h a List.mem_cons_self
    obtain ⟨M, hM⟩ := ih fun b hb => h b (List.mem_cons_of_mem _ hb)
    refine ⟨max N M, fun n hn b hb => ?_⟩
    rcases List.mem_cons.1 hb with rfl | hb
    · exact hN n (by omega)
    · exact hM n (by omega) b hb

theorem eventually_forall_getElem? {α : Type} {P : Nat → α → Nat → Prop} {as : List α}
    (h : ∀ i a, as[i]? = some a → ∃ N, ∀ n, N ≤ n → P i a n) :
    ∃ N, ∀ n, N ≤ n → ∀ i a, as[i]? = some a → P i a n := by
  obtain ⟨N, hN⟩ := eventually_forall_mem (P := fun e n => P e.2 e.1 n)
    fun e he => h e.2 e.1 (List.mem_zipIdx_iff_getElem?.1 he)
  exact ⟨N, fun n hn i a ha => hN n hn (a, i) (List.mem_zipIdx_iff_getElem?.2 ha)⟩

/-- Finitely many questions that are answered are answered with a common budget. -/
theorem answers_common {α β : Type} {f : α → Nat → Option β} {g : α → β} {as : List α}
    (h : ∀ a ∈ as, Answers (f a) (g a)) : ∃ N, ∀ n, N ≤ n → ∀ a ∈ as, f a n = some (g a) :=
  eventually_forall_mem h

/-- If every member has an answer, the loop keeps those that pass. -/
theorem Answers.filterM {α : Type} {p : α → Nat → Option Bool} {q : α → Bool} {as : List α}
    (h : ∀ a ∈ as, Answers (p a) (q a)) :
    Answers (fun n => as.filterM fun a => p a n) (as.filter q) := by
  obtain ⟨N, hN⟩ := answers_common h
  refine ⟨N, fun n hn => filterM_eq_some_iff.2 ⟨fun a ha => ?_, ?_⟩⟩
  · rw [hN n hn a ha]
    exact Option.some_ne_none _
  · exact List.filter_congr fun a ha => by rw [hN n hn a ha]; cases q a <;> rfl

/-! ### Coming to some answer -/

/-- With enough budget `f` comes to an answer and stays with it. -/
def Halts {α : Type} (f : Nat → Option α) : Prop := ∃ a, Answers f a

namespace Halts

variable {α β : Type}

theorem some (a : α) : Halts fun _ => Option.some a := ⟨a, 0, fun _ _ => rfl⟩

/-- One step more does not matter. -/
theorem of_succ {f : Nat → Option α} (h : Halts fun n => f (n + 1)) : Halts f := by
  obtain ⟨a, N, hN⟩ := h
  refine ⟨a, N + 1, fun n hn => ?_⟩
  obtain ⟨m, rfl⟩ : ∃ m, n = m + 1 := ⟨n - 1, by omega⟩
  exact hN m (by omega)

theorem map {f : Nat → Option α} (h : Halts f) (g : α → β) : Halts fun n => (f n).map g := by
  obtain ⟨a, ha⟩ := h
  exact ⟨g a, ha.map g⟩

/-- A computation in two parts halts if the second halts on the answer of the first. -/
theorem bind {f : Nat → Option α} {g : Nat → α → Option β} (hf : Halts f)
    (hg : ∀ a, Answers f a → Halts fun n => g n a) : Halts fun n => (f n).bind (g n) := by
  obtain ⟨a, ha⟩ := hf
  obtain ⟨b, M, hM⟩ := hg a ha
  obtain ⟨N, hN⟩ := ha
  refine ⟨b, max N M, fun n hn => ?_⟩
  have hfirst : f n = Option.some a := hN n (by omega)
  have hsecond : g n a = Option.some b := hM n (by omega)
  show (f n).bind (g n) = Option.some b
  rw [hfirst, Option.bind_some, hsecond]

/-- Whatever the budget, the same branch is taken. How the condition is decided may depend on the
budget. -/
theorem ite {c : Prop} {dec : Nat → Decidable c} {f g : Nat → Option α} (hf : c → Halts f)
    (hg : ¬ c → Halts g) : Halts fun n => @ite _ c (dec n) (f n) (g n) := by
  by_cases hc : c
  · simp only [if_pos hc]
    exact hf hc
  · simp only [if_neg hc]
    exact hg hc

theorem allM {p : α → Nat → Option Bool} {as : List α} (h : ∀ a ∈ as, Halts (p a)) :
    Halts fun n => as.allM fun a => p a n := by
  induction as with
  | nil => exact some true
  | cons a as ih =>
    refine bind (h a List.mem_cons_self) fun b _ => ?_
    cases b with
    | true => exact ih fun a' ha' => h a' (List.mem_cons_of_mem _ ha')
    | false => exact some false

theorem anyM {p : α → Nat → Option Bool} {as : List α} (h : ∀ a ∈ as, Halts (p a)) :
    Halts fun n => as.anyM fun a => p a n := by
  induction as with
  | nil => exact some false
  | cons a as ih =>
    refine bind (h a List.mem_cons_self) fun b _ => ?_
    cases b with
    | true => exact some true
    | false => exact ih fun a' ha' => h a' (List.mem_cons_of_mem _ ha')

theorem findM? {p : α → Nat → Option Bool} {as : List α} (h : ∀ a ∈ as, Halts (p a)) :
    Halts fun n => as.findM? fun a => p a n := by
  induction as with
  | nil => exact some none
  | cons a as ih =>
    refine bind (h a List.mem_cons_self) fun b _ => ?_
    cases b with
    | true => exact some (Option.some a)
    | false => exact ih fun a' ha' => h a' (List.mem_cons_of_mem _ ha')

/-! A result and a failure are answers alike. -/

variable {ε : Type}

/-- The second part is needed for results of the first only. -/
theorem bindAttempt {x : Nat → ExceptT ε Option α} {f : Nat → α → ExceptT ε Option β}
    (hx : Halts fun n => (x n).run) (hf : ∀ a, Halts fun n => (f n a).run) :
    Halts fun n => (x n >>= f n).run := by
  refine bind hx fun r _ => ?_
  cases r with
  | ok a => exact hf a
  | error e => exact some (Except.error e)

/-- A partial answer inside an attempt. -/
theorem liftAttempt {x : Nat → Option α} {f : Nat → α → ExceptT ε Option β} (hx : Halts x)
    (hf : ∀ a, Halts fun n => (f n a).run) :
    Halts fun n => ((liftM (x n) : ExceptT ε Option α) >>= f n).run := by
  refine bindAttempt ?_ hf
  obtain ⟨a, N, hN⟩ := hx
  refine ⟨Except.ok a, N, fun n hn => ?_⟩
  show (liftM (x n) : ExceptT ε Option α).run = Option.some (Except.ok a)
  rw [hN n hn]
  rfl

/-- A test that must be passed. -/
theorem guardAttempt {fits : Nat → Option Bool} {x : Nat → ExceptT ε Option α} {e : ε}
    (hfits : Halts fits) (hx : Halts fun n => (x n).run) :
    Halts fun n => ((liftM (fits n) : ExceptT ε Option Bool) >>= fun b =>
      if b then x n else throw e).run := by
  refine liftAttempt hfits fun b => ?_
  cases b with
  | true => exact hx
  | false => exact some (Except.error e)

theorem mapM {f : Nat → α → ExceptT ε Option β} {as : List α}
    (h : ∀ a ∈ as, Halts fun n => (f n a).run) : Halts fun n => (as.mapM (f n)).run := by
  induction as with
  | nil => exact some (Except.ok [])
  | cons a as ih =>
    simp only [List.mapM_cons]
    refine bindAttempt (h a List.mem_cons_self) fun b => ?_
    refine bindAttempt (ih fun a' ha' => h a' (List.mem_cons_of_mem _ ha')) fun bs => ?_
    exact some (Except.ok (b :: bs))

end Halts

/-! ### Comparing answers -/

/-- A relation between partial answers that holds of equal answers and is kept by sequencing. -/
structure Comparison where
  /-- The relation. -/
  rel : {α : Type} → Option α → Option α → Prop
  /-- It holds of equal answers, -/
  some : ∀ {α : Type} (a : α), rel (Option.some a) (Option.some a)
  /-- and where there is no answer at all. -/
  unanswered : ∀ {α : Type}, rel (none : Option α) none
  /-- Steps that compare for equal answers before them compare as a whole. -/
  bind : ∀ {α β : Type} {x y : Option α} {f g : α → Option β}, rel x y →
    (∀ a, rel (f a) (g a)) → rel (x.bind f) (y.bind g)

namespace Comparison

/-- The second computation answers whatever the first does. -/
def refines : Comparison where
  rel x y := ∀ a, x = Option.some a → y = Option.some a
  some _ _ h := h
  unanswered _ h := h
  bind := by
    intro α β x y f g hxy hfg b hb
    obtain ⟨a, ha, hfa⟩ := Option.bind_eq_some_iff.1 hb
    exact Option.bind_eq_some_iff.2 ⟨a, hxy a ha, hfg a b hfa⟩

/-- As far as both computations answer, they answer alike. -/
def agrees : Comparison where
  rel x y := ∀ a b, x = Option.some a → y = Option.some b → a = b
  some _ _ _ ha hb := Option.some.inj (ha.symm.trans hb)
  unanswered _ _ ha _ := nomatch ha
  bind := by
    intro α β x y f g hxy hfg b c hb hc
    obtain ⟨a, ha, hfa⟩ := Option.bind_eq_some_iff.1 hb
    obtain ⟨a', ha', hga⟩ := Option.bind_eq_some_iff.1 hc
    obtain rfl := hxy a a' ha ha'
    exact hfg a b c hfa hga

/-- A question that has an answer with some budget keeps it, if more budget never loses answers. -/
theorem answers_of_refines {α : Type} {f : Nat → Option α} {n : Nat} {a : α}
    (h : f n = Option.some a) (hf : ∀ n, refines.rel (f n) (f (n + 1))) : Answers f a := by
  refine ⟨n, fun m hm => ?_⟩
  induction hm with
  | refl => exact h
  | step _ ih => exact hf _ a ih

variable (C : Comparison) {α β : Type}

theorem refl (x : Option α) : C.rel x x := by
  cases x with
  | none => exact C.unanswered
  | some a => exact C.some a

theorem map {x y : Option α} (f : α → β) (h : C.rel x y) : C.rel (x.map f) (y.map f) := by
  rw [Option.map_eq_bind, Option.map_eq_bind]
  exact C.bind h fun a => C.some (f a)

theorem allM {p q : α → Option Bool} {as : List α} (h : ∀ a ∈ as, C.rel (p a) (q a)) :
    C.rel (as.allM p) (as.allM q) := by
  induction as with
  | nil => exact C.some true
  | cons a as ih =>
    refine C.bind (h a List.mem_cons_self) fun b => ?_
    cases b with
    | true => exact ih fun a' ha' => h a' (List.mem_cons_of_mem _ ha')
    | false => exact C.some false

theorem anyM {p q : α → Option Bool} {as : List α} (h : ∀ a ∈ as, C.rel (p a) (q a)) :
    C.rel (as.anyM p) (as.anyM q) := by
  induction as with
  | nil => exact C.some false
  | cons a as ih =>
    refine C.bind (h a List.mem_cons_self) fun b => ?_
    cases b with
    | true => exact C.some true
    | false => exact ih fun a' ha' => h a' (List.mem_cons_of_mem _ ha')

theorem findM? {p q : α → Option Bool} {as : List α} (h : ∀ a ∈ as, C.rel (p a) (q a)) :
    C.rel (as.findM? p) (as.findM? q) := by
  induction as with
  | nil => exact C.some none
  | cons a as ih =>
    refine C.bind (h a List.mem_cons_self) fun b => ?_
    cases b with
    | true => exact C.some (Option.some a)
    | false => exact ih fun a' ha' => h a' (List.mem_cons_of_mem _ ha')

/-! ### Comparing attempts -/

theorem pureAttempt (a : α) : C.rel (pure a : Attempt α).run (pure a : Attempt α).run :=
  C.some (Except.ok a : Except Failure α)

theorem bindAttempt {x y : Attempt α} {f g : α → Attempt β} (h : C.rel x.run y.run)
    (hfg : ∀ a, C.rel (f a).run (g a).run) : C.rel (x >>= f).run (y >>= g).run := by
  refine C.bind h fun r => ?_
  cases r with
  | ok a => exact hfg a
  | error e => exact C.some (Except.error e : Except Failure β)

/-- A partial answer inside an attempt. -/
theorem liftAttempt {x y : Option α} {f g : α → Attempt β} (h : C.rel x y)
    (hfg : ∀ a, C.rel (f a).run (g a).run) :
    C.rel ((liftM x : Attempt α) >>= f).run ((liftM y : Attempt α) >>= g).run := by
  refine C.bindAttempt ?_ hfg
  rw [ExceptT.run_liftM, ExceptT.run_liftM]
  exact C.map _ h

theorem mapM {f g : α → Attempt β} {as : List α} (h : ∀ a ∈ as, C.rel (f a).run (g a).run) :
    C.rel (as.mapM f).run (as.mapM g).run := by
  induction as with
  | nil => exact C.pureAttempt []
  | cons a as ih =>
    rw [List.mapM_cons, List.mapM_cons]
    refine C.bindAttempt (h a List.mem_cons_self) fun b => ?_
    exact C.bindAttempt (ih fun a' ha' => h a' (List.mem_cons_of_mem _ ha')) fun bs =>
      C.pureAttempt (b :: bs)

end Comparison

/-! ### Attempts that end with a result -/

namespace Attempt

variable {α β : Type}

/-- The attempt ends with the result `a`. -/
def Yields (x : Attempt α) (a : α) : Prop := x.run = some (.ok a)

instance [DecidableEq α] (x : Attempt α) (a : α) : Decidable (x.Yields a) :=
  match h : x.run with
  | some (.ok b) => decidable_of_iff (b = a) (by
      rw [Yields]
      rw [h, Option.some.injEq, Except.ok.injEq])
  | some (.error _) => .isFalse (by
      rw [Yields]
      rw [h]
      exact fun he => nomatch he)
  | none => .isFalse (by
      rw [Yields]
      rw [h]
      exact fun he => nomatch he)

@[simp] theorem yields_pure {a b : α} : (pure a : Attempt α).Yields b ↔ a = b := by
  constructor
  · exact fun h => Except.ok.inj (Option.some.inj h)
  · rintro rfl
    rfl

@[simp] theorem not_yields_throw {e : Failure} {a : α} : ¬ (throw e : Attempt α).Yields a := by
  intro h
  have herr : (Except.error e : Except Failure α) = .ok a := Option.some.inj h
  cases herr

@[simp] theorem yields_bind {x : Attempt α} {f : α → Attempt β} {b : β} :
    (x >>= f).Yields b ↔ ∃ a, x.Yields a ∧ (f a).Yields b := by
  unfold Yields
  rw [ExceptT.run_bind]
  cases x.run with
  | none => simp
  | some r => cases r <;> simp

/-- A partial answer inside an attempt. -/
@[simp] theorem yields_liftM {x : Option α} {a : α} :
    (liftM x : Attempt α).Yields a ↔ x = some a := by
  rw [Yields]
  rw [ExceptT.run_liftM]
  cases x <;> simp

/-- An attempt in two parts fails where the first part fails, or where the second does. -/
theorem run_bind_eq_error_iff {x : Attempt α} {f : α → Attempt β} {e : Failure} :
    (x >>= f).run = some (.error e) ↔
      x.run = some (.error e) ∨ ∃ a, x.Yields a ∧ (f a).run = some (.error e) := by
  unfold Yields
  rw [ExceptT.run_bind]
  cases x.run with
  | none => simp
  | some r => cases r <;> simp

/-- Behind a partial answer comes what is made of it. -/
theorem run_bind_liftM_eq_some_iff {x : Option α} {f : α → Attempt β} {r : Except Failure β} :
    ((liftM x : Attempt α) >>= f).run = some r ↔ ∃ a, x = some a ∧ (f a).run = some r := by
  rw [ExceptT.run_bind, ExceptT.run_liftM]
  cases x <;> simp

/-- A test that must be passed. -/
theorem yields_guard {fits : Option Bool} {x : Attempt α} {e : Failure} {a : α} :
    ((liftM fits : Attempt Bool) >>= fun b => if b then x else throw e).Yields a ↔
      fits = some true ∧ x.Yields a := by
  rw [yields_bind]
  constructor
  · rintro ⟨b, hb, h⟩
    cases b with
    | true => exact ⟨yields_liftM.1 hb, h⟩
    | false => exact absurd h not_yields_throw
  · rintro ⟨hb, h⟩
    exact ⟨true, yields_liftM.2 hb, h⟩

end Attempt

end Generics
