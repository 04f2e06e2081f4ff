import Generics.Proofs.Assignability.MoreBudget

/-!
# The questions that a question about assignability asks

Answering a question about assignability means answering others first. Which ones these are is read
off one step of the definition here, without a budget: a question that leads to no infinite chain of
further ones, on a registry where every walk to a view ends, comes to an answer.

Four ways lead to a question about a smaller target, or the same target and something nearer to it
on the side of the source. Only a lower bound of a wildcard turns the sides around.

## Main definitions

* `Question`
* `Registry.Compares` — a question compares an argument with a wildcard
* `Registry.Descends`, `Registry.Turns`, `Registry.Asks` — which questions a question asks
* `Registry.viewFits` — the arguments of a view against those of a target

## Main results

* `Registry.assignableStep_of_use?` — one step where a use meets a use
* `Registry.halts_of_acc`
-/

namespace Generics

/-- Whether `source` is assignable to `target`, below the source variables `seen`. -/
structure Question where
  /-- The variables that were followed to get to the source. -/
  seen : List VarId
  /-- What is to be assigned. -/
  source : TypeExpr
  /-- What it is to be assigned to. -/
  target : TypeExpr

namespace Registry

variable (reg : Registry)

/-! ### Asking -/

/-- The question compares `arg` with the wildcard between `us` and `ls`: the source with the target,
or an argument of the source's view with an argument of the target. -/
inductive Compares : Question → TypeExpr → List TypeExpr → List TypeExpr → Prop where
  /-- The target is the wildcard. -/
  | whole {seen : List VarId} {s : TypeExpr} {us ls : List TypeExpr} :
    Compares ⟨seen, s, .wildcard us ls⟩ s us ls
  /-- The wildcard is an argument of the target. -/
  | argument {seen : List VarId} {s : TypeExpr} {u w : Use} {c : ClassId} {rounds : Nat}
    {targets : List TypeExpr} {owner : Option TypeExpr} {arg : TypeExpr} {us ls : List TypeExpr}
    (hs : s.use? = some u) (hview : reg.classView rounds c u = .found w)
    (hmem : (arg, .wildcard us ls) ∈ w.2.zip targets) :
    Compares ⟨seen, s, .app c targets owner⟩ arg us ls

/-- To answer the first question the second is asked, and the sides stay. -/
inductive Descends : Question → Question → Prop where
  /-- About an upper bound of the wildcard on the side of the target. -/
  | upper {q : Question} {arg : TypeExpr} {us ls : List TypeExpr} {u a : TypeExpr}
    (h : reg.Compares q arg us ls) (hu : u ∈ us) (ha : a ∈ (reg.argumentBounds arg).1) :
    Descends q ⟨q.seen, a, u⟩
  /-- About a bound of the source variable. -/
  | bound {seen : List VarId} {v : VarId} {t b : TypeExpr} (hv : v ∉ seen) (hb : b ∈ reg.bounds v) :
    Descends ⟨seen, .var v, t⟩ ⟨v :: seen, b, t⟩
  /-- About an upper bound of the source. -/
  | sourceUpper {seen : List VarId} {us ls : List TypeExpr} {t b : TypeExpr}
    (hb : b ∈ reg.orObject us) : Descends ⟨seen, .wildcard us ls, t⟩ ⟨seen, b, t⟩
  /-- About the components of two arrays. -/
  | component {seen : List VarId} {s t : TypeExpr} :
    Descends ⟨seen, .array s, .array t⟩ ⟨seen, s, t⟩

/-- To answer the first question the second is asked, with the sides turned: a lower bound on the
side of the target becomes the source. -/
inductive Turns : Question → Question → Prop where
  /-- About a lower bound of the wildcard on the side of the target. -/
  | lower {q : Question} {arg : TypeExpr} {us ls : List TypeExpr} {l a : TypeExpr}
    (h : reg.Compares q arg us ls) (hl : l ∈ ls) (ha : a ∈ (reg.argumentBounds arg).2) :
    Turns q ⟨q.seen, l, a⟩

/-- To answer the first question the second is asked. -/
def Asks (q r : Question) : Prop := reg.Descends q r ∨ reg.Turns q r

/-! ### One step -/

/-- The view of a source fits the arguments of the target. -/
def viewFits (assign : TypeExpr → TypeExpr → Option Bool) (targets : List TypeExpr) :
    Option TypeExpr → Option Bool
  | some (.raw _) => some true
  | some (.app _ args _) => reg.argumentsFit assign args targets
  | _ => some false

variable {reg}

/-- Where a use meets another use, its view decides. -/
theorem assignableStep_of_use? {assign : List VarId → TypeExpr → TypeExpr → Option Bool}
    {rounds : Nat} {seen : List VarId} {s : TypeExpr} {u : Use} (hs : s.use? = some u) {c : ClassId}
    {targets : List TypeExpr} {owner : Option TypeExpr} (hne : s ≠ .app c targets owner) :
    reg.assignableStep assign rounds seen s (.app c targets owner) =
      (answer (reg.classView rounds c u)).bind (reg.viewFits (assign seen) targets) := by
  rw [← view_of_use? hs]
  cases s with
  | raw d =>
    refine (if_neg hne).trans ?_
    dsimp only
    generalize reg.view rounds (.raw d) c = r
    rcases r with _ | _ | (_ | _ | _ | _ | _) <;> rfl
  | app d args o =>
    refine (if_neg hne).trans ?_
    dsimp only
    generalize reg.view rounds (.app d args o) c = r
    rcases r with _ | _ | (_ | _ | _ | _ | _) <;> rfl
  | wildcard us ls => cases hs
  | var v => cases hs
  | array elem => cases hs

theorem assignableStep_raw_of_use? {assign : List VarId → TypeExpr → TypeExpr → Option Bool}
    {rounds : Nat} {seen : List VarId} {s : TypeExpr} {u : Use} (hs : s.use? = some u) {c : ClassId}
    (hne : s ≠ .raw c) : reg.assignableStep assign rounds seen s (.raw c) =
      (answer (reg.classView rounds c u)).map Option.isSome := by
  rw [← view_of_use? hs]
  cases s with
  | raw d => exact if_neg hne
  | app d args o => exact if_neg hne
  | wildcard us ls => cases hs
  | var v => cases hs
  | array elem => cases hs

/-! ### Questions with an answer -/

/-- A comparison of arguments with a wildcard is answered if the questions that it leads to are. -/
theorem halts_contained {assign : Nat → TypeExpr → TypeExpr → Option Bool} {arg : TypeExpr}
    {us ls : List TypeExpr}
    (hupper : ∀ u ∈ us, ∀ a ∈ (reg.argumentBounds arg).1, Halts fun n => assign n a u)
    (hlower : ∀ l ∈ ls, ∀ a ∈ (reg.argumentBounds arg).2, Halts fun n => assign n l a) :
    Halts fun n => reg.contained (assign n) arg us ls := by
  have hbelow : Halts fun n => us.allM fun u => (reg.argumentBounds arg).1.anyM fun a =>
      assign n a u :=
    Halts.allM fun u hu => Halts.anyM fun a ha => hupper u hu a ha
  have habove : Halts fun n => ls.allM fun l => (reg.argumentBounds arg).2.anyM fun a =>
      assign n l a :=
    Halts.allM fun l hl => Halts.anyM fun a ha => hlower l hl a ha
  exact hbelow.bind fun below _ => habove.bind fun above _ => Halts.some (below && above)

/-- Whether the arguments of a view fit those of the target is answered if every comparison with a
wildcard is. -/
theorem halts_argumentsFit {assign : Nat → TypeExpr → TypeExpr → Option Bool}
    {args targets : List TypeExpr}
    (h : ∀ arg us ls, (arg, .wildcard us ls) ∈ args.zip targets →
      Halts fun n => reg.contained (assign n) arg us ls) :
    Halts fun n => reg.argumentsFit (assign n) args targets := by
  unfold argumentsFit
  split
  · refine Halts.allM fun e he => ?_
    unfold argumentFits
    split
    · exact Halts.some true
    · obtain ⟨arg, target⟩ := e
      cases target with
      | wildcard us ls => exact h arg us ls he
      | var v => exact Halts.some _
      | raw c => exact Halts.some false
      | app c ts o => exact Halts.some false
      | array elem => exact Halts.some false
  · exact Halts.some false

/-- A use of a class meets another use: the walk to the view ends, and the comparisons of arguments
are answered. -/
theorem halts_of_use? (hend : ∀ c u, ¬ reg.Endless c u) {seen : List VarId} {s : TypeExpr} {u : Use}
    (hs : s.use? = some u) {c : ClassId} {targets : List TypeExpr} {owner : Option TypeExpr}
    (hne : s ≠ .app c targets owner)
    (h : ∀ arg us ls, reg.Compares ⟨seen, s, .app c targets owner⟩ arg us ls →
      Halts fun n => reg.contained (reg.assignableFrom n seen) arg us ls) :
    Halts fun n =>
      reg.assignableStep (reg.assignableFrom n) n seen s (.app c targets owner) := by
  simp only [assignableStep_of_use? hs hne]
  refine Halts.bind (exists_answers_of_not_endless (hend c u)) fun r hr => ?_
  cases r with
  | none => exact Halts.some false
  | some t =>
    obtain ⟨rounds, w, hw, rfl⟩ := exists_found_of_answers hr
    obtain ⟨d, args⟩ := w
    cases args with
    | nil => exact Halts.some true
    | cons a as => exact halts_argumentsFit fun arg us ls hmem => h arg us ls (.argument hs hw hmem)

/-- **A question that leads to no infinite chain of questions is answered,** if every walk to a view
comes to an end. -/
theorem halts_of_acc (hend : ∀ c u, ¬ reg.Endless c u) {q : Question}
    (h : Acc (fun r q => reg.Asks q r) q) :
    Halts fun n => reg.assignableFrom n q.seen q.source q.target := by
  induction h with
  | intro q _ ih =>
    obtain ⟨seen, s, t⟩ := q
    have hask : ∀ r, reg.Asks ⟨seen, s, t⟩ r →
        Halts fun n => reg.assignableFrom n r.seen r.source r.target := ih
    have hdescend : ∀ r, reg.Descends ⟨seen, s, t⟩ r →
        Halts fun n => reg.assignableFrom n r.seen r.source r.target := fun r hr => hask r (.inl hr)
    have hcontained : ∀ arg us ls, reg.Compares ⟨seen, s, t⟩ arg us ls →
        Halts fun n => reg.contained (reg.assignableFrom n seen) arg us ls := by
      intro arg us ls hc
      exact halts_contained (fun u hu a ha => hdescend _ (.upper hc hu ha))
        fun l hl a ha => hask _ (.inr (.lower hc hl ha))
    have hvar : ∀ v, s = .var v → Halts fun n => if v ∈ seen then some false
        else (reg.bounds v).anyM fun b => reg.assignableFrom n (v :: seen) b t := by
      rintro v rfl
      by_cases hv : v ∈ seen
      · simp only [if_pos hv]
        exact Halts.some false
      · simp only [if_neg hv]
        exact Halts.anyM fun b hb => hdescend _ (.bound hv hb)
    have hwildcard : ∀ us ls, s = .wildcard us ls →
        Halts fun n => (reg.orObject us).anyM fun b => reg.assignableFrom n seen b t := by
      rintro us ls rfl
      exact Halts.anyM fun b hb => hdescend _ (.sourceUpper hb)
    refine Halts.of_succ ?_
    show Halts fun n => reg.assignableStep (reg.assignableFrom n) n seen s t
    by_cases heq : s = t
    · simp only [assignableStep, if_pos heq]
      exact Halts.some true
    cases t with
    | var v =>
      simp only [assignableStep, if_neg heq]
      exact Halts.some _
    | wildcard us ls =>
      simp only [assignableStep, if_neg heq]
      exact hcontained s us ls .whole
    | raw c =>
      have huse : ∀ u, s.use? = some u → Halts fun n =>
          reg.assignableStep (reg.assignableFrom n) n seen s (.raw c) := by
        intro u hs
        simp only [assignableStep_raw_of_use? hs heq]
        exact Halts.map (exists_answers_of_not_endless (hend c u)) Option.isSome
      cases s with
      | raw d => exact huse (d, []) rfl
      | app d args o => exact huse (d, args) rfl
      | wildcard us ls =>
        simp only [assignableStep, if_neg heq]
        exact hwildcard us ls rfl
      | var v =>
        simp only [assignableStep, if_neg heq]
        exact hvar v rfl
      | array elem =>
        simp only [assignableStep, if_neg heq]
        exact Halts.some _
    | app c targets owner =>
      cases s with
      | raw d => exact halts_of_use? hend rfl heq hcontained
      | app d args o => exact halts_of_use? hend rfl heq hcontained
      | wildcard us ls =>
        simp only [assignableStep, if_neg heq]
        exact hwildcard us ls rfl
      | var v =>
        simp only [assignableStep, if_neg heq]
        exact hvar v rfl
      | array elem =>
        simp only [assignableStep, if_neg heq]
        exact Halts.some false
    | array t =>
      cases s with
      | array s =>
        simp only [assignableStep, if_neg heq]
        exact hdescend _ .component
      | wildcard us ls =>
        simp only [assignableStep, if_neg heq]
        exact hwildcard us ls rfl
      | var v =>
        simp only [assignableStep, if_neg heq]
        exact hvar v rfl
      | raw d =>
        simp only [assignableStep, if_neg heq]
        exact Halts.some false
      | app d args o =>
        simp only [assignableStep, if_neg heq]
        exact Halts.some false

end Registry

end Generics
