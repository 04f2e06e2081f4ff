import Generics.Proofs.Resolution.Arguments
import Generics.Proofs.Substitution.Formals
import Generics.Proofs.Substitution.Ground
import Generics.Resolution.Boundaries

/-!
# What a passed bound check says

A candidate passes if it lies below every bound, read with the candidate in the place of the
variable it is checked for. A bound in which variables are left is asked another question than
assignability; a bound without any is a plain question of assignability.

## Main definitions

* `Resolver.inEffect` — the bindings under which the bounds are read

## Main results

* `Resolver.checkBounds_iff`, `Resolver.checkBounds_eq_true_iff` — bound by bound
* `Resolver.checkBounds_concrete_iff` — all bounds concrete
* `Resolver.checkBounds_ground` — all bounds without variables
* `Resolver.checkBounds_congr`, `Resolver.checkBounds_chosen` — the same bounds, read alike
* `Resolver.run_satisfies`, `Resolver.run_satisfies_variable` — may a type stand for a variable?
* `Resolver.chosenAfter_empty`, `Resolver.fitsFormal_eq_true_iff` — both for known formals
-/

namespace Generics

namespace Resolver

variable {R : Resolver} {become : TypeExpr → TypeExpr → Option Bool}

/-- The bindings under which bounds are read: the variable they belong to, if there is one, stands
for the candidate. -/
def inEffect (σ : Substitution) (var : Option VarId) (candidate : TypeExpr) : Substitution :=
  var.elim σ fun v => σ.bind v candidate

/-- A candidate passes if it passes for every upper bound and every lower bound is assignable to
it. -/
theorem checkBounds_iff {candidate : TypeExpr} {var : Option VarId}
    {uppers lowers : List TypeExpr} {σ : Substitution} :
    R.checkBounds become candidate var uppers lowers σ = some true ↔
      (∀ b ∈ uppers, (if (b.substitute (inEffect σ var candidate)).hasVars
        then become candidate (b.substitute (inEffect σ var candidate))
        else R.isAssignable candidate (b.substitute (inEffect σ var candidate))) = some true) ∧
      ∀ b ∈ lowers, R.isAssignable (b.substitute (inEffect σ var candidate)) candidate =
        some true := by
  have hcheck : R.checkBounds become candidate var uppers lowers σ =
      (uppers.allM fun (b : TypeExpr) => if (b.substitute (inEffect σ var candidate)).hasVars
        then become candidate (b.substitute (inEffect σ var candidate))
        else R.isAssignable candidate (b.substitute (inEffect σ var candidate))).bind fun below =>
          if below then lowers.allM fun (b : TypeExpr) =>
            R.isAssignable (b.substitute (inEffect σ var candidate)) candidate
          else some false := by
    cases var <;> rfl
  rw [hcheck, Option.bind_eq_some_iff, ← allM_eq_true_iff, ← allM_eq_true_iff]
  constructor
  · rintro ⟨below, hbelow, h⟩
    cases below with
    | true => exact ⟨hbelow, h⟩
    | false => cases h
  · rintro ⟨hbelow, h⟩
    exact ⟨true, hbelow, h⟩

/-- A candidate for a variable passes if it passes for every bound. -/
theorem checkBounds_eq_true_iff {candidate : TypeExpr} {v : VarId} {uppers : List TypeExpr}
    {σ : Substitution} :
    R.checkBounds become candidate (some v) uppers [] σ = some true ↔
      ∀ b ∈ uppers, (if (b.substitute (σ.bind v candidate)).hasVars
        then become candidate (b.substitute (σ.bind v candidate))
        else R.isAssignable candidate (b.substitute (σ.bind v candidate))) = some true :=
  checkBounds_iff.trans (and_iff_left fun _ hb => absurd hb List.not_mem_nil)

/-- A candidate passes for concrete bounds if it lies below the upper ones and above the lower
ones, whatever variable it stands for and whatever is bound. -/
theorem checkBounds_concrete_iff {candidate : TypeExpr} {var : Option VarId}
    {uppers lowers : List TypeExpr} {σ : Substitution}
    (huppers : ∀ u ∈ uppers, u.isConcrete = true) (hlowers : ∀ l ∈ lowers, l.isConcrete = true) :
    R.checkBounds become candidate var uppers lowers σ = some true ↔
      (∀ u ∈ uppers, R.isAssignable candidate u = some true) ∧
        ∀ l ∈ lowers, R.isAssignable l candidate = some true := by
  rw [checkBounds_iff]
  refine and_congr (forall_congr' fun u => forall_congr' fun hu => ?_)
    (forall_congr' fun l => forall_congr' fun hl => ?_)
  · rw [TypeExpr.substitute_of_isConcrete (huppers u hu),
      TypeExpr.hasVars_of_isConcrete (huppers u hu), if_neg Bool.false_ne_true]
  · rw [TypeExpr.substitute_of_isConcrete (hlowers l hl)]

/-- Without variables in the bounds the check is about assignability only. -/
theorem checkBounds_ground {candidate : TypeExpr} {v : VarId} {uppers : List TypeExpr}
    {σ : Substitution} (h : ∀ b ∈ uppers, (b.substitute (σ.bind v candidate)).hasVars = false) :
    R.checkBounds become candidate (some v) uppers [] σ = some true ↔
      ∀ b ∈ uppers, R.isAssignable candidate (b.substitute (σ.bind v candidate)) = some true := by
  rw [checkBounds_eq_true_iff]
  exact forall_congr' fun b => forall_congr' fun hb => by rw [h b hb, if_neg Bool.false_ne_true]

/-- The bindings of variables in the bounds decide, except for the variable itself. -/
theorem checkBounds_congr {candidate : TypeExpr} {v : VarId} {uppers : List TypeExpr}
    {σ τ : Substitution}
    (h : ∀ b ∈ uppers, ∀ w ∈ b.occurrences, w ≠ v → σ.get? w = τ.get? w) :
    R.checkBounds become candidate (some v) uppers [] σ = some true ↔
      R.checkBounds become candidate (some v) uppers [] τ = some true := by
  rw [checkBounds_eq_true_iff, checkBounds_eq_true_iff]
  refine forall_congr' fun b => forall_congr' fun hb => ?_
  have hsame : b.substitute (σ.bind v candidate) = b.substitute (τ.bind v candidate) := by
    refine TypeExpr.substitute_congr fun w hw => ?_
    rw [Substitution.get?_bind, Substitution.get?_bind]
    split
    · rfl
    · rename_i hne
      exact h b hb w hw hne
  rw [hsame]

/-- Concrete types that are put into the bounds first might as well be bound with the rest. -/
theorem checkBounds_chosen {candidate : TypeExpr} {v : VarId} {uppers : List TypeExpr}
    {σ chosen : Substitution} (hv : chosen.get? v = none)
    (hchosen : ∀ w u, chosen.get? w = some u → u.isConcrete = true) :
    R.checkBounds become candidate (some v) (uppers.map (TypeExpr.substitute chosen)) [] σ =
        some true ↔
      R.checkBounds become candidate (some v) uppers [] (σ.extend chosen) = some true := by
  rw [checkBounds_eq_true_iff, checkBounds_eq_true_iff, List.forall_mem_map]
  refine forall_congr' fun b => forall_congr' fun _ => ?_
  have hsame : (b.substitute chosen).substitute (σ.bind v candidate) =
      b.substitute ((σ.extend chosen).bind v candidate) := by
    refine TypeExpr.substitute_substitute fun w _ => ?_
    cases hw : chosen.get? w with
    | none =>
      simp only [TypeExpr.substitute_var, hw, Option.getD_none, Substitution.get?_bind,
        Substitution.get?_extend, Option.none_or]
    | some u =>
      have hne : w ≠ v := by
        rintro rfl
        rw [hv] at hw
        cases hw
      rw [TypeExpr.substitute_var_of_get? hw, TypeExpr.substitute_of_isConcrete (hchosen w u hw)]
      refine (TypeExpr.substitute_var_of_get? ?_).symm
      rw [Substitution.get?_bind, if_neg hne, Substitution.get?_extend, hw, Option.some_or]
  rw [hsame]

/-- A concrete type is never refused a check. -/
theorem run_satisfies {u : TypeExpr} (hu : u.isConcrete = true) (source : BoundSource)
    (σ : Substitution) : (R.satisfies u source σ).run = (R.boundsHold u source σ).map .ok := by
  cases u with
  | var w => cases hu
  | wildcard us ls => cases hu
  | raw c => rfl
  | app c args owner => rfl
  | array elem => rfl

/-- Whether a concrete type may stand for a declared variable is the check of its bounds, with the
levels that are left below the variable. -/
theorem run_satisfies_variable {u : TypeExpr} (hu : u.isConcrete = true) {v : VarId}
    {p : TypeParam} (hp : R.registry.typeParam? v = some p) (σ : Substitution) :
    (R.satisfies u (.variable v) σ).run =
      (R.checkBounds (R.canBecomeAt (R.levels 1)) u (some v) p.bounds [] σ).map .ok := by
  rw [run_satisfies hu, boundsHold, hp]

/-! ### Known formals -/

variable {inst : TypeExpr → Substitution → Attempt TypeExpr}
  {select : TypeExpr → List TypeExpr → List TypeExpr → Substitution → Attempt TypeExpr}
  {formals : List VarId} {σ chosen : Substitution} {f : VarId}

theorem knownFormal_cons {p : TypeParam} (hp : R.registry.typeParam? f = some p)
    (fs : List VarId) : R.knownFormal (f :: fs) = some (f, p) := by
  rw [knownFormal, List.head?_cons, Option.bind_some, hp, Option.map_some]

/-- A formal that is declared is the first known one where it stands. -/
theorem exists_knownFormal (hk : FormalsKnown R.registry formals) {i : Nat}
    (hf : formals[i]? = some f) :
    ∃ p, R.registry.typeParam? f = some p ∧ R.knownFormal (formals.drop i) = some (f, p) := by
  obtain ⟨p, hp⟩ := Option.isSome_iff_exists.1 (hk f (List.mem_of_getElem? hf))
  obtain ⟨hi, rfl⟩ := List.getElem?_eq_some_iff.1 hf
  exact ⟨p, hp, by rw [List.drop_eq_getElem_cons hi, knownFormal_cons hp]⟩

/-- With known formals, what is left after some results are the bindings of formals to results. -/
theorem chosenAfter_eq_bindAll (hk : FormalsKnown R.registry formals) (chosen : Substitution)
    (results : List TypeExpr) :
    R.chosenAfter chosen formals results = chosen.bindAll (formals.zip results) := by
  induction results generalizing chosen formals with
  | nil =>
    rw [List.zip_nil_right]
    rfl
  | cons r rs ih =>
    cases formals with
    | nil => exact ih hk chosen
    | cons f fs =>
      obtain ⟨p, -, hknown⟩ := exists_knownFormal (R := R) hk (i := 0) rfl
      rw [chosenAfter, choose, show R.knownFormal (f :: fs) = some (f, p) from hknown]
      exact ih (fun g hg => hk g (List.mem_cons_of_mem _ hg)) _

theorem chosenAfter_empty (hk : FormalsKnown R.registry formals) (results : List TypeExpr) :
    R.chosenAfter .empty formals results = .ofFormals formals results :=
  chosenAfter_eq_bindAll hk .empty results

/-- The check of a known formal: a result that is new and concrete lies below the bounds. -/
theorem fitsFormal_eq_true_iff (hk : FormalsKnown R.registry formals) {i : Nat}
    (hf : formals[i]? = some f) {arg result : TypeExpr} :
    R.fitsFormal become chosen (formals.drop i) arg result σ = some true ↔
      (result ≠ arg → result.isConcrete = true →
        R.checkBounds become result (some f)
          ((R.registry.bounds f).map (TypeExpr.substitute chosen)) [] σ = some true) := by
  obtain ⟨p, hp, hknown⟩ := exists_knownFormal hk hf
  rw [fitsFormal, hknown, Registry.bounds_of_typeParam? hp]
  simp only [replacementFits, seenBounds, hknown, Option.map_some, Option.getD_some]
  split
  · rename_i h
    rw [Bool.and_eq_true, bne_iff_ne] at h
    exact ⟨fun hc _ _ => hc, fun hc => hc h.1 h.2⟩
  · rename_i h
    rw [Bool.and_eq_true, bne_iff_ne] at h
    exact ⟨fun _ hne hc => absurd ⟨hne, hc⟩ h, fun _ => rfl⟩

end Resolver

end Generics
