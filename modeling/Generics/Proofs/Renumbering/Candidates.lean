import Generics.Proofs.Registry.NameIndex
import Generics.Proofs.Renumbering.Hierarchy
import Generics.Resolution.Candidates
import Mathlib.Data.List.Nodup

/-!
# Candidates under other numbers

The classes of a registry are listed by name. Numbers decide only between classes of one name, and
as no two classes have the same name, they decide nothing: under other numbers the same classes come
in the same order, and so do those that may stand for a variable.

## Main results

* `Registry.Renumbered.classIds` — the list of the classes
* `Registry.Renumbered.standIns` — the candidates for a variable, best first
* `Registry.Renumbered.mostSpecific` — the bound below all others
-/

namespace Generics

namespace Registry

/-- A class with its name, under another number. -/
def renumberNamed (ρ : Renumbering) (e : String × ClassId) : String × ClassId :=
  (e.1, ρ.classes e.2)

theorem renumberNamed_injective (ρ : Renumbering) : Function.Injective (renumberNamed ρ) :=
  Function.Injective.prodMap Function.injective_id ρ.classes.injective

namespace Renumbered

variable {ρ : Renumbering} {reg reg' : Registry} (h : Renumbered ρ reg reg')

include h

/-! ### The list of the classes -/

/-- The same classes are named, in whatever order. -/
theorem named_perm : (reg.named.map (renumberNamed ρ)).Perm reg'.named := by
  have hinj := renumberNamed_injective ρ
  refine (List.perm_ext_iff_of_nodup ((nodup_named reg).map hinj) (nodup_named reg')).2 ?_
  rintro ⟨name, c'⟩
  obtain ⟨c, rfl⟩ := ρ.classes.surjective c'
  have hmem : (name, ρ.classes c) ∈ reg.named.map (renumberNamed ρ) ↔ (name, c) ∈ reg.named :=
    List.mem_map_of_injective (a := (name, c)) hinj
  rw [hmem, mem_named, mem_named, h.class?]
  constructor
  · rintro ⟨d, hd, hname⟩
    exact ⟨d.renumber ρ, by rw [hd, Option.map_some], hname⟩
  · rintro ⟨d', hd', hname⟩
    obtain ⟨d, hd, rfl⟩ := Option.map_eq_some_iff.1 hd'
    exact ⟨d, hd, hname⟩

/-- Between named classes the numbers decide nothing. -/
theorem nameLe_renumberNamed {a b : String × ClassId} (ha : a ∈ reg.named) (hb : b ∈ reg.named)
    (hab : nameLe a b = true) : nameLe (renumberNamed ρ a) (renumberNamed ρ b) = true := by
  obtain ⟨d, hd, hname⟩ := mem_named.1 ha
  obtain ⟨d', hd', hname'⟩ := mem_named.1 hb
  by_cases hn : a.1 = b.1
  · have hclass : a.2 = b.2 :=
      h.names a.2 b.2 d d' hd hd' (hname.trans (hn.trans hname'.symm))
    simp only [nameLe, renumberNamed, if_pos hn, hclass, decide_eq_true_eq]
    exact Nat.le_refl _
  · have hname : (renumberNamed ρ a).1 ≠ (renumberNamed ρ b).1 := hn
    rw [nameLe, if_neg hn] at hab
    rw [nameLe, if_neg hname]
    exact hab

/-- **The classes come in the same order.** -/
theorem classIds : reg'.classIds = reg.classIds.map ρ.classes := by
  have hsorted : ∀ r : Registry,
      (Ordered.sort nameLe r.named).Pairwise fun a b => nameLe a b = true := fun r =>
    Ordered.pairwise_sort nameLe_total nameLe_trans r.named
  have hmapped : ((Ordered.sort nameLe reg.named).map (renumberNamed ρ)).Pairwise
      fun a b => nameLe a b = true :=
    List.pairwise_map.2 ((hsorted reg).imp_of_mem fun ha hb =>
      h.nameLe_renumberNamed (Ordered.mem_sort.1 ha) (Ordered.mem_sort.1 hb))
  have hperm : ((Ordered.sort nameLe reg.named).map (renumberNamed ρ)).Perm
      (Ordered.sort nameLe reg'.named) :=
    ((Ordered.sort_perm nameLe reg.named).map _).trans
      (h.named_perm.trans (Ordered.sort_perm nameLe reg'.named).symm)
  have hlist := hperm.eq_of_pairwise (fun _ _ _ _ => nameLe_antisymm) hmapped (hsorted reg')
  rw [Registry.classIds, Registry.classIds, ← hlist, List.map_map, List.map_map]
  rfl

/-! ### Stand-ins -/

theorem remoteness (c : ClassId) : reg'.remoteness (ρ.classes c) = reg.remoteness c := by
  rw [Registry.remoteness, Registry.remoteness, h.class?]
  cases reg.class? c <;> rfl

theorem preferable (c d : ClassId) :
    reg'.preferable (ρ.classes c) (ρ.classes d) = reg.preferable c d := by
  rw [Registry.preferable, Registry.preferable, h.remoteness, h.remoteness]

theorem isPlain (c : ClassId) : reg'.isPlain (ρ.classes c) = reg.isPlain c := by
  rw [Registry.isPlain, Registry.isPlain, h.class?]
  cases reg.class? c with
  | none => rfl
  | some d => exact congrArg (!·) (d.isGeneric_renumber ρ)

/-- **The candidates for a variable** come in the same order. -/
theorem standIns : reg'.standIns = reg.standIns.map ρ.classes := by
  have hplain : (reg.classIds.map ρ.classes).filter reg'.isPlain =
      (reg.classIds.filter reg.isPlain).map ρ.classes := by
    rw [List.filter_map]
    exact congrArg _ (List.filter_congr fun c _ => h.isPlain c)
  rw [Registry.standIns, Registry.standIns, h.classIds, hplain]
  exact Ordered.sort_map h.preferable _

/-! ### Bounds -/

theorem passesErased (bounds : List TypeExpr) (c : ClassId) :
    reg'.passesErased (bounds.map (TypeExpr.renumber ρ)) (ρ.classes c) =
      reg.passesErased bounds c := by
  have herased : (bounds.map (TypeExpr.renumber ρ)).filterMap reg'.erasure =
      (bounds.filterMap reg.erasure).map (ErasedType.renumber ρ) := by
    rw [List.filterMap_map, List.map_filterMap]
    exact List.filterMap_congr fun b _ => h.erasure b
  rw [Registry.passesErased, Registry.passesErased, herased]
  exact all_map_eq fun b _ => h.isRawAssignable b (.plain c)

theorem mostSpecific (bounds : List TypeExpr) :
    reg'.mostSpecific (bounds.map (TypeExpr.renumber ρ)) =
      (reg.mostSpecific bounds).map (TypeExpr.renumber ρ) := by
  have hany : ∀ (t : TypeExpr) {p q : ErasedType → Bool}, (∀ e, q (e.renumber ρ) = p e) →
      (reg'.erasure (t.renumber ρ)).any q = (reg.erasure t).any p := by
    intro t p q hpq
    rw [h.erasure]
    cases reg.erasure t with
    | none => rw [Option.map_none, Option.any_none, Option.any_none]
    | some e => exact hpq e
  refine find?_map_eq fun b _ => hany b fun e => ?_
  exact all_map_eq fun o _ => hany o fun f => h.isRawAssignable f e

end Renumbered

end Registry

end Generics
