import Generics.Proofs.Hierarchy.Reachability
import Generics.Proofs.Registry.WellApplied
import Generics.Inference.Arguments

/-!
# Views and inferred bindings are well applied

Where supertypes and bounds are declared with the right numbers of arguments, nothing that is read
off from them gets a wrong one. The hierarchy is walked with uses, and one step up from a
well-applied use leads to well-applied uses; what a view is, or what a class above a use binds, has
been met on such a walk. Matching binds a formal to a part of what is matched, and a type that binds
the formals of its class binds them to its own arguments.

## Main results

* `Registry.DeclaresWellApplied.superUses`, `Registry.DeclaresWellApplied.inheritedUses` — one step
  up
* `Registry.DeclaresWellApplied.view`
* `Registry.DeclaresWellApplied.impliedBindings`
* `Registry.bindsWellApplied_of_determined`, `Registry.DeclaresWellApplied.context`
-/

namespace Generics

/-- What every step keeps holds wherever the steps lead. -/
theorem Search.Reaches.keeps {α : Type} {next : α → List α} {P : α → Prop}
    (hstep : ∀ a, P a → ∀ b ∈ next a, P b) {a b : α} (hab : Search.Reaches next a b) (ha : P a) :
    P b := by
  induction hab with
  | refl => exact ha
  | tail _ hbc ih => exact hstep _ ih _ hbc

/-- Members are matched in pairs. -/
theorem exists_of_mem_matchAllFormals {formals : List VarId} {ps ts : List TypeExpr}
    {e : VarId × TypeExpr} (he : e ∈ matchAllFormals formals ps ts) :
    ∃ p ∈ ps, ∃ t ∈ ts, e ∈ matchFormals formals p t := by
  induction ps generalizing ts with
  | nil =>
    rw [matchAllFormals.eq_def] at he
    cases he
  | cons p ps ih =>
    cases ts with
    | nil =>
      rw [matchAllFormals.eq_def] at he
      cases he
    | cons t ts =>
      rcases List.mem_append.1 he with he | he
      · exact ⟨p, List.mem_cons_self, t, List.mem_cons_self, he⟩
      · obtain ⟨p', hp', t', ht', he⟩ := ih he
        exact ⟨p', List.mem_cons_of_mem _ hp', t', List.mem_cons_of_mem _ ht', he⟩

namespace Registry

variable {reg : Registry} {t r : TypeExpr} {u w : Use}

/-! ### What is matched and what is bound -/

/-- Matched against a well-applied type, a formal is bound to a well-applied part of it. -/
theorem wellApplied_of_mem_matchFormals {formals : List VarId} {p : TypeExpr}
    (ht : reg.WellApplied t) {e : VarId × TypeExpr} (he : e ∈ matchFormals formals p t) :
    reg.WellApplied e.2 := by
  induction p generalizing t with
  | raw c => simp [matchFormals] at he
  | app c ps owner ihArgs _ =>
    cases t with
    | app d ts o =>
      rw [matchFormals] at he
      split at he
      · obtain ⟨p, hp, t, hmem, he⟩ := exists_of_mem_matchAllFormals he
        exact ihArgs p hp ((wellApplied_app_iff.1 ht).2.1 t hmem) he
      · cases he
    | _ => simp [matchFormals] at he
  | wildcard us ls _ _ => simp [matchFormals] at he
  | var v =>
    rw [matchFormals] at he
    split at he
    · obtain rfl := List.mem_singleton.1 he
      exact ht
    · cases he
  | array p ih =>
    cases t with
    | array t => exact ih (wellApplied_array_iff.1 ht) he
    | _ => simp [matchFormals] at he

/-- A use binds the formals of its class to its arguments. -/
theorem UseWellApplied.of_mem_useBindings (hu : reg.UseWellApplied u) {e : VarId × TypeExpr}
    (he : e ∈ reg.useBindings u) : reg.WellApplied e.2 :=
  hu.args _ (List.of_mem_zip he).2

/-- **What a supertype determines is well applied** if the arguments that it is wanted with are. -/
theorem bindsWellApplied_of_determined {rounds : Nat} {source : ClassId}
    (hw : ∀ a ∈ w.2, reg.WellApplied a) {σ : Substitution}
    (hσ : reg.determined rounds source w = some σ) : reg.BindsWellApplied σ := by
  rw [Registry.determined] at hσ
  split at hσ
  · obtain rfl := Option.some.inj hσ
    exact bindsWellApplied_empty
  · split at hσ
    · cases hσ
    · obtain rfl := Option.some.inj hσ
      refine bindsWellApplied_empty.bindAllIfAbsent fun e he => ?_
      obtain ⟨p, -, a, ha, he⟩ := exists_of_mem_matchAllFormals he
      exact wellApplied_of_mem_matchFormals (hw a ha) he
    · obtain rfl := Option.some.inj hσ
      exact bindsWellApplied_empty

namespace DeclaresWellApplied

variable (h : reg.DeclaresWellApplied)

include h

/-! ### Views -/

/-- One step up from a well-applied use. -/
theorem superUses (hu : reg.UseWellApplied u) (hw : w ∈ reg.superUses u) :
    reg.UseWellApplied w := by
  obtain ⟨t, ht, ⟨-, -, hnil⟩ | ⟨-, htw⟩⟩ := superUses_cases hw
  · exact (show w = (w.1, []) from Prod.ext rfl hnil) ▸ useWellApplied_raw w.1
  · exact .of_use? ((h.of_mem_supertypes ht).substitute (.ofFormals hu.args)) htw

theorem answer_classView {rounds : Nat} {target : ClassId} (hu : reg.UseWellApplied u)
    (hr : answer (reg.classView rounds target u) = some (some r)) : reg.WellApplied r := by
  cases hview : reg.classView rounds target u with
  | found w =>
    rw [hview] at hr
    obtain rfl := Option.some.inj (Option.some.inj hr)
    obtain ⟨-, u', hu', hreach⟩ := Search.reaches_of_find hview
    obtain rfl := List.mem_singleton.1 hu'
    exact (hreach.keeps (fun _ hv _ hw => h.superUses hv hw) hu).toType
  | absent =>
    rw [hview] at hr
    cases hr
  | unfinished =>
    rw [hview] at hr
    cases hr

omit h in
/-- The first view among several is one of them. -/
theorem exists_of_firstView {α : Type} {f : α → Option (Option TypeExpr)} {as : List α}
    (hr : firstView f as = some (some r)) : ∃ a ∈ as, f a = some (some r) := by
  induction as with
  | nil => cases hr
  | cons a as ih =>
    rw [firstView] at hr
    split at hr
    · cases hr
    · rename_i hfa
      exact ⟨a, List.mem_cons_self, hfa.trans hr⟩
    · obtain ⟨b, hb, hfb⟩ := ih hr
      exact ⟨b, List.mem_cons_of_mem _ hb, hfb⟩

theorem viewWith {rounds : Nat} {target : ClassId} {onVar : VarId → Option (Option TypeExpr)}
    (hvar : ∀ v r, onVar v = some (some r) → reg.WellApplied r) (ht : reg.WellApplied t)
    (hr : reg.viewWith rounds target onVar t = some (some r)) : reg.WellApplied r := by
  induction t with
  | raw c =>
    rw [Registry.viewWith] at hr
    exact h.answer_classView (useWellApplied_raw c) hr
  | app c args owner =>
    rw [Registry.viewWith] at hr
    exact h.answer_classView (useWellApplied_of_app ht) hr
  | wildcard us ls ihUppers =>
    cases us with
    | nil =>
      rw [Registry.viewWith] at hr
      exact h.answer_classView (useWellApplied_raw _) hr
    | cons u us =>
      rw [Registry.viewWith, viewFirstWith_eq] at hr
      obtain ⟨b, hb, hr⟩ := exists_of_firstView hr
      exact ihUppers b hb ((wellApplied_wildcard_iff.1 ht).1 b hb) hr
  | var v =>
    rw [Registry.viewWith] at hr
    exact hvar v r hr
  | array elem =>
    rw [Registry.viewWith] at hr
    split at hr
    · obtain rfl := Option.some.inj (Option.some.inj hr)
      exact wellApplied_raw _
    · cases hr

theorem viewFrom {rounds : Nat} {target : ClassId} {n : Nat} {seen : List VarId}
    (ht : reg.WellApplied t) (hr : reg.viewFrom rounds target n seen t = some (some r)) :
    reg.WellApplied r := by
  induction n generalizing seen t r with
  | zero =>
    refine h.viewWith (fun v r hv => ?_) ht hr
    cases hv
  | succ n ih =>
    refine h.viewWith (fun v r hv => ?_) ht hr
    split at hv
    · cases hv
    · obtain ⟨b, hb, hv⟩ := exists_of_firstView hv
      exact ih (h.of_mem_bounds hb) hv

/-- **A view of a well-applied type is well applied.** -/
theorem view {rounds : Nat} {target : ClassId} (ht : reg.WellApplied t)
    (hr : reg.view rounds t target = some (some r)) : reg.WellApplied r :=
  h.viewFrom ht hr

/-! ### Implied bindings -/

/-- One step up from a well-applied use, with formals kept where there are no arguments. -/
theorem inheritedUses (hu : reg.UseWellApplied u) (hw : w ∈ reg.inheritedUses u) :
    reg.UseWellApplied w := by
  rw [Registry.inheritedUses] at hw
  obtain ⟨t, ht, htw⟩ := List.mem_filterMap.1 hw
  exact .of_use? ((h.of_mem_supertypes ht).substitute
    (.ofList fun _ he => hu.of_mem_useBindings he)) htw

theorem of_mem_inherited (hu : reg.UseWellApplied u) {e : VarId × TypeExpr}
    (he : e ∈ reg.inherited u) : reg.WellApplied e.2 := by
  rw [inherited] at he
  obtain ⟨w, hw, hmem⟩ := List.mem_flatMap.1 he
  obtain ⟨x, hx, hbinds⟩ := List.mem_flatMap.1 hmem
  obtain ⟨u', hu', hreach⟩ := Search.reaches_of_mem_walk hw
  obtain rfl := List.mem_singleton.1 hu'
  have hwell : reg.UseWellApplied w := hreach.keeps (fun _ hv _ hw => h.inheritedUses hv hw) hu
  exact (h.inheritedUses hwell hx).of_mem_useBindings hbinds

theorem impliedWith {onVar : VarId → List VarId → Bindings × List VarId}
    (hvar : ∀ v seen, ∀ e ∈ (onVar v seen).1, reg.WellApplied e.2) (ht : reg.WellApplied t)
    (seen : List VarId) : ∀ e ∈ (reg.impliedWith onVar t seen).1, reg.WellApplied e.2 := by
  induction t generalizing seen with
  | raw c =>
    intro e he
    rw [Registry.impliedWith] at he
    exact h.of_mem_inherited (useWellApplied_raw c) he
  | app c args owner _ ihOwner =>
    intro e he
    rw [Registry.impliedWith] at he
    have hu : reg.UseWellApplied (c, args) := useWellApplied_of_app ht
    rcases List.mem_append.1 he with he | he
    · rcases List.mem_append.1 he with he | he
      · exact hu.of_mem_useBindings he
      · cases owner with
        | none => cases he
        | some o => exact ihOwner o rfl ((wellApplied_app_iff.1 ht).2.2 o rfl) seen e he
    · exact h.of_mem_inherited hu he
  | wildcard us ls ihUppers _ =>
    have hus := (wellApplied_wildcard_iff.1 ht).1
    rw [Registry.impliedWith]
    clear ht
    induction us generalizing seen with
    | nil => exact fun e he => absurd he List.not_mem_nil
    | cons u us ih =>
      intro e he
      rw [impliedAllWith] at he
      rcases List.mem_append.1 he with he | he
      · exact ihUppers u List.mem_cons_self (hus u List.mem_cons_self) seen e he
      · exact ih (fun u hu => ihUppers u (List.mem_cons_of_mem _ hu)) _
          (fun u hu => hus u (List.mem_cons_of_mem _ hu)) e he
  | var v => exact hvar v seen
  | array elem ih => exact ih (wellApplied_array_iff.1 ht) seen

theorem impliedFrom (n : Nat) (ht : reg.WellApplied t) (seen : List VarId) :
    ∀ e ∈ (reg.impliedFrom n t seen).1, reg.WellApplied e.2 := by
  induction n generalizing t seen with
  | zero => exact h.impliedWith (fun _ _ _ he => absurd he List.not_mem_nil) ht seen
  | succ n ih =>
    refine h.impliedWith (fun v seen => ?_) ht seen
    dsimp only
    split
    · exact fun e he => absurd he List.not_mem_nil
    -- The bounds are gone through with the bindings collected so far.
    · suffices hfold : ∀ (bs : List TypeExpr) (acc : Bindings × List VarId),
          (∀ b ∈ bs, reg.WellApplied b) → (∀ e ∈ acc.1, reg.WellApplied e.2) →
          ∀ e ∈ (bs.foldl (fun acc b => (acc.1 ++ (reg.impliedFrom n b acc.2).1,
            (reg.impliedFrom n b acc.2).2)) acc).1, reg.WellApplied e.2 from
        hfold _ _ (fun b hb => h.of_mem_bounds hb) fun e he => absurd he List.not_mem_nil
      intro bs
      induction bs with
      | nil => exact fun acc _ hacc => hacc
      | cons b bs ihBounds =>
        intro acc hbs hacc
        refine ihBounds _ (fun b hb => hbs b (List.mem_cons_of_mem _ hb)) fun e he => ?_
        rcases List.mem_append.1 he with he | he
        · exact hacc e he
        · exact ih (hbs b List.mem_cons_self) acc.2 e he

/-- **What a well-applied type implies is well applied.** -/
theorem impliedBindings (ht : reg.WellApplied t) :
    reg.BindsWellApplied (reg.impliedBindings t) :=
  bindsWellApplied_empty.bindAllIfAbsent (h.impliedFrom _ ht [])

/-- **The context in which a source is resolved against a well-applied target is well applied.** -/
theorem context {rounds : Nat} {source target : TypeExpr} (ht : reg.WellApplied target)
    {σ : Substitution} (hσ : reg.context rounds source target = some σ) :
    reg.BindsWellApplied σ := by
  rw [Registry.context.eq_def] at hσ
  dsimp only at hσ
  split at hσ
  · obtain ⟨τ, hτ, rfl⟩ := Option.map_eq_some_iff.1 hσ
    exact (h.impliedBindings ht).extend
      (bindsWellApplied_of_determined (wellApplied_app_iff.1 ht).2.1 hτ)
  · obtain rfl := Option.some.inj hσ
    exact h.impliedBindings ht

end DeclaresWellApplied

end Registry

end Generics
