import Generics.Proofs.Assignability.Termination
import Generics.Registry.Standard

/-!
# Variables are followed once

A source variable stands for its bounds, and so as not to run in circles it is followed only once on
the way down from a question: below that it counts as assignable to nothing. The variables that were
followed are kept for the whole way, through questions about other targets too. A variable can
therefore be less than its bounds are: `Comparable<S>` is a `Comparable<? extends Object>`, since
`S` is an object, but a variable `S` with this bound is not, since at the argument it has been
followed already.

Two runs on one question with different followed variables are compared here, step by step. Where
one says yes and the other no, a question that is asked next is answered so too, down to one where
the second run turns away a variable that the first one follows. So fewer followed variables never
turn a yes into a no, and a variable is assignable to what its bound is assignable to unless the way
from the bound comes back to the variable with another target.

## Main definitions

* `Registry.ComesBack` — the way from a bound comes back to the variable
* `TypeExpr.Undivided` — types that are compared as a whole only

## Main results

* `Registry.follows_or_asks_of_step` — one step of two runs that part
* `Registry.exists_follows_of_assignableFrom` — the whole of two runs that part
* `Registry.exists_bound_of_assignable_var` — where a variable is assignable, one of its bounds is
* `Registry.assignable_var_of_bound` — and the other way round
* `Registry.not_comesBack_of_undivided` — for all targets that are compared as a whole,
* `Registry.not_comesBack_of_superOf` — and for some with a wildcard,
* `Registry.not_assignable_var_of_bound_sorting` — but not for every target
-/

namespace Generics

namespace Registry

variable {reg : Registry}

/-! ### One step -/

/-- Where two ways of comparing an argument with a wildcard part, they part at one of the bounds. -/
theorem exists_of_contained {assign assign' : TypeExpr → TypeExpr → Option Bool} {arg : TypeExpr}
    {us ls : List TypeExpr} (h : reg.contained assign arg us ls = some true)
    (h' : reg.contained assign' arg us ls = some false) :
    (∃ u ∈ us, ∃ a ∈ (reg.argumentBounds arg).1,
      assign a u = some true ∧ assign' a u = some false) ∨
    ∃ l ∈ ls, ∃ a ∈ (reg.argumentBounds arg).2,
      assign l a = some true ∧ assign' l a = some false := by
  obtain ⟨below, hbelow, hrest⟩ := Option.bind_eq_some_iff.1 h
  obtain ⟨above, habove, hboth⟩ := Option.bind_eq_some_iff.1 hrest
  obtain ⟨rfl, rfl⟩ : below = true ∧ above = true := by simpa using hboth
  obtain ⟨below, hbelow', hrest'⟩ := Option.bind_eq_some_iff.1 h'
  obtain ⟨above, habove', hboth'⟩ := Option.bind_eq_some_iff.1 hrest'
  rw [allM_eq_true_iff] at hbelow habove
  cases below with
  | false =>
    obtain ⟨u, hu, hno⟩ := exists_of_allM_eq_false hbelow'
    obtain ⟨a, ha, hyes⟩ := exists_of_anyM_eq_true (hbelow u hu)
    exact .inl ⟨u, hu, a, ha, hyes, anyM_eq_false_iff.1 hno a ha⟩
  | true =>
    obtain rfl : above = false := by simpa using hboth'
    obtain ⟨l, hl, hno⟩ := exists_of_allM_eq_false habove'
    obtain ⟨a, ha, hyes⟩ := exists_of_anyM_eq_true (habove l hl)
    exact .inr ⟨l, hl, a, ha, hyes, anyM_eq_false_iff.1 hno a ha⟩

/-- Where two ways of comparing arguments part, they part at a wildcard. -/
theorem exists_of_argumentsFit {assign assign' : TypeExpr → TypeExpr → Option Bool}
    {args targets : List TypeExpr} (h : reg.argumentsFit assign args targets = some true)
    (h' : reg.argumentsFit assign' args targets = some false) :
    ∃ arg us ls, (arg, .wildcard us ls) ∈ args.zip targets ∧
      reg.contained assign arg us ls = some true ∧
      reg.contained assign' arg us ls = some false := by
  rw [argumentsFit] at h h'
  split at h
  · rename_i hlen
    rw [if_pos hlen] at h'
    obtain ⟨⟨arg, target⟩, hmem, hno⟩ := exists_of_allM_eq_false h'
    have hyes := allM_eq_true_iff.1 h _ hmem
    by_cases heq : arg = target
    · simp only [argumentFits, if_pos heq] at hno
      cases hno
    · cases target with
      | wildcard us ls =>
        simp only [argumentFits, if_neg heq] at hyes hno
        exact ⟨arg, us, ls, hmem, hyes, hno⟩
      | var v =>
        simp only [argumentFits, if_neg heq] at hyes hno
        cases hyes.symm.trans hno
      | _ =>
        simp only [argumentFits, if_neg heq] at hyes
        cases hyes
  · cases h

/-- The run `assign'`, with other followed variables, says no to a question asked next that the run
`assign` says yes to. -/
def PartsBelow (reg : Registry) (assign assign' : List VarId → TypeExpr → TypeExpr → Option Bool)
    (seen' : List VarId) (q : Question) : Prop :=
  ∃ r more, reg.Asks q r ∧ r.seen = more ++ q.seen ∧
    assign r.seen r.source r.target = some true ∧
    assign' (more ++ seen') r.source r.target = some false

variable {assign assign' : List VarId → TypeExpr → TypeExpr → Option Bool} {seen' : List VarId}

/-- Two runs that part at a comparison of arguments part below. -/
theorem partsBelow_of_compares {q : Question} {arg : TypeExpr} {us ls : List TypeExpr}
    (hc : reg.Compares q arg us ls) (h : reg.contained (assign q.seen) arg us ls = some true)
    (h' : reg.contained (assign' seen') arg us ls = some false) :
    reg.PartsBelow assign assign' seen' q := by
  rcases exists_of_contained h h' with ⟨u, hu, a, ha, hyes, hno⟩ | ⟨l, hl, a, ha, hyes, hno⟩
  · exact ⟨⟨q.seen, a, u⟩, [], .inl (.upper hc hu ha), rfl, hyes, hno⟩
  · exact ⟨⟨q.seen, l, a⟩, [], .inr (.lower hc hl ha), rfl, hyes, hno⟩

/-- Two runs that part at a use of a class part below: they see the same view. -/
theorem partsBelow_of_use? {n m : Nat} {seen : List VarId} {s : TypeExpr} {u : Use}
    (hs : s.use? = some u) {c : ClassId} {targets : List TypeExpr} {owner : Option TypeExpr}
    (hne : s ≠ .app c targets owner)
    (h : reg.assignableStep assign n seen s (.app c targets owner) = some true)
    (h' : reg.assignableStep assign' m seen' s (.app c targets owner) = some false) :
    reg.PartsBelow assign assign' seen' ⟨seen, s, .app c targets owner⟩ := by
  rw [assignableStep_of_use? hs hne] at h h'
  obtain ⟨r, hr, hyes⟩ := Option.bind_eq_some_iff.1 h
  obtain ⟨r', hr', hno⟩ := Option.bind_eq_some_iff.1 h'
  obtain rfl := answer_classView_unique hr hr'
  cases r with
  | none => cases hyes
  | some t =>
    obtain ⟨rounds, w, hw, rfl⟩ := exists_found_of_answers
      (Comparison.answers_of_refines hr fun n => classView_refines n c u)
    obtain ⟨d, args⟩ := w
    cases args with
    | nil => cases hno
    | cons a as =>
      obtain ⟨arg, us, ls, hmem, hcy, hcn⟩ := exists_of_argumentsFit hyes hno
      exact partsBelow_of_compares (.argument hs hw hmem) hcy hcn

/-- **One step of two runs that part.** One run says yes to a question, and one with other followed
variables says no. Then the source is a variable that the first run follows and the second has
followed already, or the two part at a question asked next. -/
theorem follows_or_asks_of_step {n m : Nat} {q : Question}
    (h : reg.assignableStep assign n q.seen q.source q.target = some true)
    (h' : reg.assignableStep assign' m seen' q.source q.target = some false) :
    (∃ v, q.source = .var v ∧ v ∉ q.seen ∧ v ∈ seen' ∧
      ∃ b ∈ reg.bounds v, assign (v :: q.seen) b q.target = some true) ∨
    reg.PartsBelow assign assign' seen' q := by
  obtain ⟨seen, s, t⟩ := q
  dsimp only at h h' ⊢
  by_cases heq : s = t
  · simp only [assignableStep, if_pos heq] at h'
    cases h'
  have hbounds : ∀ v, s = .var v →
      (if v ∈ seen then some false else (reg.bounds v).anyM fun b => assign (v :: seen) b t) =
        some true →
      (if v ∈ seen' then some false else (reg.bounds v).anyM fun b => assign' (v :: seen') b t) =
        some false →
      (∃ v, s = .var v ∧ v ∉ seen ∧ v ∈ seen' ∧
        ∃ b ∈ reg.bounds v, assign (v :: seen) b t = some true) ∨
      reg.PartsBelow assign assign' seen' ⟨seen, s, t⟩ := by
    rintro v rfl hyes hno
    by_cases hv : v ∈ seen
    · rw [if_pos hv] at hyes
      cases hyes
    rw [if_neg hv] at hyes
    obtain ⟨b, hb, hb'⟩ := exists_of_anyM_eq_true hyes
    by_cases hv' : v ∈ seen'
    · exact .inl ⟨v, rfl, hv, hv', b, hb, hb'⟩
    · rw [if_neg hv', anyM_eq_false_iff] at hno
      exact .inr ⟨⟨v :: seen, b, t⟩, [v], .inl (.bound hv hb), rfl, hb', hno b hb⟩
  have huppers : ∀ us ls, s = .wildcard us ls →
      (reg.orObject us).anyM (fun b => assign seen b t) = some true →
      (reg.orObject us).anyM (fun b => assign' seen' b t) = some false →
      reg.PartsBelow assign assign' seen' ⟨seen, s, t⟩ := by
    rintro us ls rfl hyes hno
    obtain ⟨b, hb, hb'⟩ := exists_of_anyM_eq_true hyes
    exact ⟨⟨seen, b, t⟩, [], .inl (.sourceUpper hb), rfl, hb', anyM_eq_false_iff.1 hno b hb⟩
  cases t with
  | var w =>
    simp only [assignableStep, if_neg heq] at h h'
    cases h.symm.trans h'
  | wildcard us ls =>
    simp only [assignableStep, if_neg heq] at h h'
    exact .inr (partsBelow_of_compares .whole h h')
  | raw c =>
    have huse : ∀ u, s.use? = some u → False := by
      intro u hs
      rw [assignableStep_raw_of_use? hs heq] at h h'
      obtain ⟨r, hr, hyes⟩ := Option.map_eq_some_iff.1 h
      obtain ⟨r', hr', hno⟩ := Option.map_eq_some_iff.1 h'
      obtain rfl := answer_classView_unique hr hr'
      cases hyes.symm.trans hno
    cases s with
    | raw d => exact (huse _ rfl).elim
    | app d args o => exact (huse _ rfl).elim
    | wildcard us ls =>
      simp only [assignableStep, if_neg heq] at h h'
      exact .inr (huppers us ls rfl h h')
    | var v =>
      simp only [assignableStep, if_neg heq] at h h'
      exact hbounds v rfl h h'
    | array elem =>
      simp only [assignableStep, if_neg heq] at h h'
      cases h.symm.trans h'
  | app c targets owner =>
    cases s with
    | raw d => exact .inr (partsBelow_of_use? rfl heq h h')
    | app d args o => exact .inr (partsBelow_of_use? rfl heq h h')
    | wildcard us ls =>
      simp only [assignableStep, if_neg heq] at h h'
      exact .inr (huppers us ls rfl h h')
    | var v =>
      simp only [assignableStep, if_neg heq] at h h'
      exact hbounds v rfl h h'
    | array elem =>
      simp only [assignableStep, if_neg heq] at h
      cases h
  | array t =>
    cases s with
    | array s =>
      simp only [assignableStep, if_neg heq] at h h'
      exact .inr ⟨⟨seen, s, t⟩, [], .inl .component, rfl, h, h'⟩
    | wildcard us ls =>
      simp only [assignableStep, if_neg heq] at h h'
      exact .inr (huppers us ls rfl h h')
    | var v =>
      simp only [assignableStep, if_neg heq] at h h'
      exact hbounds v rfl h h'
    | _ =>
      simp only [assignableStep, if_neg heq] at h
      cases h

/-! ### Whole runs -/

/-- **Two runs that part do so at a variable.** One run says yes to a question, and one with `extra`
more followed variables says no. Then a question on the way is about one of these variables, and the
first run follows it to a yes. -/
theorem exists_follows_of_assignableFrom (extra : List VarId) {n m : Nat} {q : Question}
    (h : reg.assignableFrom n q.seen q.source q.target = some true)
    (h' : reg.assignableFrom m seen' q.source q.target = some false)
    (hseen : ∀ w ∈ seen', w ∈ q.seen ∨ w ∈ extra) :
    ∃ r v k, Relation.ReflTransGen reg.Asks q r ∧ r.source = .var v ∧ v ∈ extra ∧ v ∉ r.seen ∧
      ∃ b ∈ reg.bounds v, reg.assignableFrom k (v :: r.seen) b r.target = some true := by
  induction n generalizing m q seen' with
  | zero => cases h
  | succ n ih =>
    cases m with
    | zero => cases h'
    | succ m =>
      rcases follows_or_asks_of_step h h' with
        ⟨v, hv, hnew, hold, b, hb, hyes⟩ | ⟨r, more, hask, hmore, hyes, hno⟩
      · exact ⟨q, v, n, .refl, hv, (hseen v hold).resolve_left hnew, hnew, b, hb, hyes⟩
      · have hnext : ∀ w ∈ more ++ seen', w ∈ r.seen ∨ w ∈ extra := by
          intro w hw
          rw [hmore, List.mem_append]
          rcases List.mem_append.1 hw with hw | hw
          · exact .inl (.inl hw)
          · exact (hseen w hw).imp_left .inr
        obtain ⟨r', v, k, hpath, hrest⟩ := ih hyes hno hnext
        exact ⟨r', v, k, .head hask hpath, hrest⟩

/-- Fewer followed variables never turn a yes into a no. -/
theorem assignableFrom_eq_true_of_subset {n m : Nat} {seen : List VarId} {s t : TypeExpr}
    (h : reg.assignableFrom n seen s t = some true) (hsub : seen' ⊆ seen) {b : Bool}
    (h' : reg.assignableFrom m seen' s t = some b) : b = true := by
  cases b with
  | true => rfl
  | false =>
    obtain ⟨r, v, k, -, -, hv, -⟩ := exists_follows_of_assignableFrom [] (q := ⟨seen, s, t⟩)
      h h' fun w hw => .inl (hsub hw)
    cases hv

/-! ### A variable and its bounds -/

/-- What is asked about the bound `b` and `t` comes back to following the variable, with another
target. -/
def ComesBack (reg : Registry) (v : VarId) (b t : TypeExpr) : Prop :=
  ∃ q, Relation.ReflTransGen reg.Asks ⟨[], b, t⟩ q ∧ q.source = .var v ∧ v ∉ q.seen ∧ q.target ≠ t

/-- A variable is assignable to a class or an array if one of its bounds is. -/
theorem assignableFrom_var {n : Nat} {seen : List VarId} {v : VarId} (hv : v ∉ seen) {t : TypeExpr}
    (hvar : ∀ w, t ≠ .var w) (hwildcard : ∀ us ls, t ≠ .wildcard us ls) :
    reg.assignableFrom (n + 1) seen (.var v) t =
      (reg.bounds v).anyM fun b => reg.assignableFrom n (v :: seen) b t := by
  show reg.assignableStep (reg.assignableFrom n) n seen (.var v) t = _
  cases t with
  | var w => exact absurd rfl (hvar w)
  | wildcard us ls => exact absurd rfl (hwildcard us ls)
  | _ => simp only [assignableStep, if_neg (hvar v).symm, if_neg hv]

/-- What a variable is assignable to, one of its bounds is assignable to. -/
theorem exists_bound_of_assignable_var {v : VarId} {t : TypeExpr} (hvar : ∀ w, t ≠ .var w)
    (hwildcard : ∀ us ls, t ≠ .wildcard us ls)
    (hend : ∀ b ∈ reg.bounds v, Halts fun n => reg.assignable? n b t)
    (h : Answers (fun n => reg.assignable? n (.var v) t) true) :
    ∃ b ∈ reg.bounds v, Answers (fun n => reg.assignable? n b t) true := by
  obtain ⟨N, hN⟩ := h
  have hyes : reg.assignableFrom (N + 1) [] (.var v) t = some true := hN (N + 1) (Nat.le_succ N)
  rw [assignableFrom_var List.not_mem_nil hvar hwildcard] at hyes
  obtain ⟨b, hb, hbt⟩ := exists_of_anyM_eq_true hyes
  obtain ⟨r, hr⟩ := hend b hb
  obtain ⟨m, hm⟩ := hr.exists_eq
  obtain rfl := assignableFrom_eq_true_of_subset hbt (List.nil_subset _) hm
  exact ⟨b, hb, hr⟩

/-- The answer about a variable is not no where the answer about a bound is yes, if the way from the
bound does not come back to the variable with another target. -/
theorem answers_var_of_bound {v : VarId} {b t : TypeExpr} (hb : b ∈ reg.bounds v)
    (hvar : ∀ w, t ≠ .var w) (hwildcard : ∀ us ls, t ≠ .wildcard us ls)
    (hback : ¬ reg.ComesBack v b t) (h : Answers (fun n => reg.assignable? n b t) true)
    (hend : Halts fun n => reg.assignable? n (.var v) t) :
    Answers (fun n => reg.assignable? n (.var v) t) true := by
  obtain ⟨r, hr⟩ := hend
  cases r with
  | true => exact hr
  | false =>
    exfalso
    obtain ⟨n, hn⟩ := h.exists_eq
    obtain ⟨N, hN⟩ := hr
    have hno : reg.assignableFrom (N + 1) [] (.var v) t = some false := hN (N + 1) (Nat.le_succ N)
    rw [assignableFrom_var List.not_mem_nil hvar hwildcard, anyM_eq_false_iff] at hno
    -- the run from the bound follows the variable, to a yes for the target it has there
    obtain ⟨q, w, k, hpath, hw, hmem, hnew, b', hb', hyes⟩ :=
      exists_follows_of_assignableFrom [v] (q := ⟨[], b, t⟩) hn (hno b hb) fun w hw => .inr hw
    obtain rfl := List.mem_singleton.1 hmem
    by_cases htarget : q.target = t
    · -- which is the same target, so a bound is assignable after all
      rw [htarget] at hyes
      have hsub : [w] ⊆ w :: q.seen := List.cons_subset_cons w (List.nil_subset _)
      cases assignableFrom_eq_true_of_subset hyes hsub (hno b' hb')
    · exact hback ⟨q, hpath, hw, hnew, htarget⟩

/-- **A variable is assignable to what its bound is assignable to,** if the way from the bound does
not come back to the variable with another target. The bounds before this one are asked first, so
there has to be an answer at all; on an acyclic hierarchy there is one if lower bounds occur on one
side only. -/
theorem assignable_var_of_bound {v : VarId} {b t : TypeExpr} (hb : b ∈ reg.bounds v)
    (hvar : ∀ w, t ≠ .var w) (hwildcard : ∀ us ls, t ≠ .wildcard us ls)
    (hback : ¬ reg.ComesBack v b t) (h : Answers (fun n => reg.assignable? n b t) true) :
    ((Halts fun n => reg.assignable? n (.var v) t) →
      Answers (fun n => reg.assignable? n (.var v) t) true) ∧
    (reg.Acyclic → reg.SupertypesNominal → (t.lowerDepth = 0 ∨ reg.SupertypesLowerFree) →
      Answers (fun n => reg.assignable? n (.var v) t) true) := by
  have hyes := answers_var_of_bound hb hvar hwildcard hback h
  refine ⟨hyes, fun hA hN hlower => hyes ?_⟩
  refine halts_of_acc (fun c u => hA.not_endless hN c u) (q := ⟨[], .var v, t⟩) ?_
  rcases hlower with hlower | hlower
  · exact acc_of_target hlower
  · exact acc_of_supertypes hlower _

end Registry

/-! ### Targets that are compared as a whole -/

/-- The type is no array and no wildcard, and no argument of it is a wildcard. -/
def TypeExpr.Undivided : TypeExpr → Prop
  | .raw _ => True
  | .var _ => True
  | .app _ args _ => ∀ us ls, .wildcard us ls ∉ args
  | _ => False

namespace Registry

variable {reg : Registry}

/-- No argument is compared with a wildcard. -/
theorem not_compares_of_undivided {q : Question} (hq : q.target.Undivided) {arg : TypeExpr}
    {us ls : List TypeExpr} : ¬ reg.Compares q arg us ls := by
  rintro (_ | ⟨-, -, hmem⟩)
  · exact hq
  · exact hq us ls (List.of_mem_zip hmem).2

/-- A target that is compared as a whole is the target of all that is asked. -/
theorem target_eq_of_asks {q r : Question} (hq : q.target.Undivided) (h : reg.Asks q r) :
    r.target = q.target := by
  rcases h with h | h
  · cases h with
    | upper hc _ _ => exact absurd hc (not_compares_of_undivided hq)
    | bound _ _ => rfl
    | sourceUpper _ => rfl
    | component => exact hq.elim
  · cases h with
    | lower hc _ _ => exact absurd hc (not_compares_of_undivided hq)

theorem target_eq_of_asks_trans {q r : Question} (hq : q.target.Undivided)
    (h : Relation.ReflTransGen reg.Asks q r) : r.target = q.target := by
  induction h with
  | refl => rfl
  | tail _ hask ih => exact (target_eq_of_asks (ih ▸ hq) hask).trans ih

/-- With such a target nothing comes back to a variable with another one. -/
theorem not_comesBack_of_undivided {v : VarId} {b t : TypeExpr} (ht : t.Undivided) :
    ¬ reg.ComesBack v b t := by
  rintro ⟨q, hpath, -, -, htarget⟩
  exact htarget (target_eq_of_asks_trans (q := ⟨[], b, t⟩) ht hpath)

/-- Nor does anything come back to a variable whose bound is a class over its supertypes, against the
same class over the subtypes of another one. All that is asked on the way is whether `Object` is
assignable to that other class. -/
theorem not_comesBack_of_superOf {v : VarId} {c d : ClassId} :
    ¬ reg.ComesBack v (.app c [.superOf (.var v)] none) (.app c [.extending (.raw d)] none) := by
  have hcompares : ∀ {arg us ls}, reg.Compares
      ⟨[], .app c [.superOf (.var v)] none, .app c [.extending (.raw d)] none⟩ arg us ls →
      arg = .superOf (.var v) ∧ us = [.raw d] ∧ ls = [] := by
    rintro arg us ls (_ | ⟨hs, hview, hmem⟩)
    obtain rfl := Option.some.inj hs
    obtain rfl := classView_unique hview (classView_self 0 _ _)
    obtain ⟨rfl, hwildcard⟩ := Prod.mk.inj (List.mem_singleton.1 hmem)
    obtain ⟨rfl, rfl⟩ := TypeExpr.wildcard.inj hwildcard
    exact ⟨rfl, rfl, rfl⟩
  have hasked : ∀ q, Relation.ReflTransGen reg.Asks
      ⟨[], .app c [.superOf (.var v)] none, .app c [.extending (.raw d)] none⟩ q →
      q = ⟨[], .app c [.superOf (.var v)] none, .app c [.extending (.raw d)] none⟩ ∨
        q = ⟨[], .raw reg.object, .raw d⟩ := by
    intro q hpath
    induction hpath with
    | refl => exact .inl rfl
    | tail _ hask ih =>
      rcases ih with rfl | rfl
      · rcases hask with hask | hask
        · cases hask with
          | upper hc hu ha =>
            obtain ⟨rfl, rfl, rfl⟩ := hcompares hc
            obtain rfl := List.mem_singleton.1 hu
            obtain rfl := List.mem_singleton.1 ha
            exact .inr rfl
        · cases hask with
          | lower hc hl _ =>
            obtain ⟨rfl, rfl, rfl⟩ := hcompares hc
            cases hl
      · -- where a class meets a class nothing is asked
        rcases hask with (hask | hask)
        · cases hask with
          | upper hc => cases hc
        · cases hask with
          | lower hc => cases hc
  rintro ⟨q, hpath, hsource, -, -⟩
  rcases hasked q hpath with rfl | rfl
  · cases hsource
  · cases hsource

/-! ### A variable that is comparable with itself -/

/-- The interface `Comparable<X>` and a class `Sorter<S extends Comparable<S>>`. -/
def sorting : Registry where
  classes := #[some { name := objectName },
    some (interfaceDef "Comparable" [⟨0⟩] []),
    some (classDef "Sorter" [⟨1⟩] (.raw ⟨0⟩) [])]
  params := #[⟨"X", .ofClass ⟨1⟩, [.raw ⟨0⟩]⟩, ⟨"S", .ofClass ⟨2⟩, [.app ⟨1⟩ [.var ⟨1⟩] none]⟩]
  names := [("Sorter", ⟨2⟩), ("Comparable", ⟨1⟩), (objectName, ⟨0⟩)]
  object := ⟨0⟩

/-- The variable `S` is assignable to the raw `Comparable`, as its bound `Comparable<S>` is. The
variable of the static `sort` is assignable to `Comparable<? extends Object>`, as its bound
`Comparable<? super T>` is. -/
theorem assignable_var_of_bound_sorting :
    (.app ⟨1⟩ [.var ⟨1⟩] none ∈ sorting.bounds ⟨1⟩ ∧
      ¬ sorting.ComesBack ⟨1⟩ (.app ⟨1⟩ [.var ⟨1⟩] none) (.raw ⟨1⟩) ∧
      sorting.Acyclic ∧ sorting.SupertypesNominal) ∧
    Answers (fun n => sorting.assignable? n (.app ⟨1⟩ [.var ⟨1⟩] none) (.raw ⟨1⟩)) true ∧
    Answers (fun n => sorting.assignable? n (.var ⟨1⟩) (.raw ⟨1⟩)) true ∧
    let bound : TypeExpr := .app ⟨4⟩ [.superOf (.var ⟨12⟩)] none
    let target : TypeExpr := .app ⟨4⟩ [.extending (.raw ⟨0⟩)] none
    (bound ∈ standard.bounds ⟨12⟩ ∧ ¬ standard.ComesBack ⟨12⟩ bound target ∧
      standard.Acyclic ∧ standard.SupertypesNominal) ∧
    Answers (fun n => standard.assignable? n bound target) true ∧
    Answers (fun n => standard.assignable? n (.var ⟨12⟩) target) true := by
  have hb : .app ⟨1⟩ [.var ⟨1⟩] none ∈ sorting.bounds ⟨1⟩ := by decide
  have hback : ¬ sorting.ComesBack ⟨1⟩ (.app ⟨1⟩ [.var ⟨1⟩] none) (.raw ⟨1⟩) :=
    not_comesBack_of_undivided trivial
  have hbound : Answers (fun n => sorting.assignable? n (.app ⟨1⟩ [.var ⟨1⟩] none) (.raw ⟨1⟩))
      true := answers_assignable? (n := 3) (by decide +kernel)
  have hA : sorting.Acyclic := by decide +kernel
  have hN : sorting.SupertypesNominal := by decide +kernel
  have hyes := assignable_var_of_bound (t := .raw ⟨1⟩) hb (fun _ h => nomatch h)
    (fun _ _ h => nomatch h) hback hbound
  refine ⟨⟨hb, hback, hA, hN⟩, hbound, hyes.2 hA hN (.inl rfl), ?_⟩
  -- the variable of the static `sort`, against a target with a wildcard
  intro bound target
  have hb : bound ∈ standard.bounds ⟨12⟩ := by decide +kernel
  have hbound : Answers (fun n => standard.assignable? n bound target) true :=
    answers_assignable? (n := 6) (by decide +kernel)
  have hA : standard.Acyclic := by decide +kernel
  have hN : standard.SupertypesNominal := by decide +kernel
  have hyes := assignable_var_of_bound (t := target) hb (fun _ h => nomatch h)
    (fun _ _ h => nomatch h) not_comesBack_of_superOf hbound
  exact ⟨⟨hb, not_comesBack_of_superOf, hA, hN⟩, hbound, hyes.2 hA hN (.inl rfl)⟩
/-- The type `Comparable<S>` is assignable to `Comparable<? extends Object>`, for `S` is assignable
to `Object`. The variable `S` itself, which has this bound, is not: the way from the bound comes
back to `S`, which has been followed then. -/
theorem not_assignable_var_of_bound_sorting :
    (sorting.typeParam? ⟨1⟩).isSome = true ∧
    .app ⟨1⟩ [.var ⟨1⟩] none ∈ sorting.bounds ⟨1⟩ ∧
    Answers (fun n => sorting.assignable? n (.app ⟨1⟩ [.var ⟨1⟩] none)
      (.app ⟨1⟩ [.extending (.raw ⟨0⟩)] none)) true ∧
    Answers (fun n => sorting.assignable? n (.var ⟨1⟩) (.raw ⟨0⟩)) true ∧
    Answers (fun n => sorting.assignable? n (.var ⟨1⟩)
      (.app ⟨1⟩ [.extending (.raw ⟨0⟩)] none)) false :=
  ⟨by decide, by decide,
    answers_assignable? (n := 6) (by decide +kernel),
    answers_assignable? (n := 6) (by decide +kernel),
    answers_assignable? (n := 6) (by decide +kernel)⟩

end Registry

end Generics
