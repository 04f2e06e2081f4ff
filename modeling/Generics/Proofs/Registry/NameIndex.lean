import Generics.Registry.Basic
import Mathlib.Data.List.Nodup

/-!
# The index of names and the table of classes

A registry can be asked for the class of a name and for the name of a class. Nothing in the type of
registries ties the two together: two classes may have one name, and a name may lead to a class that
has been given another one. Where neither happens, a class is known by its name.

## Main definitions

* `Registry.interned` — the number that a name has, with or without a definition
* `Registry.NamesFaithful`, `Registry.NamesTruthful`

## Main results

* `Registry.isDefined_of_lookup?` — on every registry, what is found is defined
* `Registry.nodup_classIds`, `Registry.pairwise_classIds` — on every registry, each class is listed
  once, and by name
* `Registry.NamesFaithful.lookup?_name` — a class is found by its name
* `Registry.NamesFaithful.pairwise_lt_classIds` — the names of the listed classes ascend strictly
-/

namespace Generics

namespace Registry

variable {reg : Registry}

/-- The number that has been given to a name, whether or not the class is defined. -/
def interned (reg : Registry) (name : String) : Option ClassId := reg.names.lookup name

/-- A name leads to the class that has this name, and to no other. -/
def NamesFaithful (reg : Registry) : Prop :=
  ∀ name c, reg.lookup? name = some c ↔ ∃ d, reg.class? c = some d ∧ d.name = name

/-- What is found is a defined class that the name has been given to. -/
theorem lookup?_eq_some_iff {name : String} {c : ClassId} :
    reg.lookup? name = some c ↔ reg.interned name = some c ∧ reg.isDefined c = true :=
  Option.filter_eq_some_iff

/-- Only a defined class can be found. -/
theorem isDefined_of_lookup? {name : String} {c : ClassId} (h : reg.lookup? name = some c) :
    reg.isDefined c = true :=
  (lookup?_eq_some_iff.1 h).2

/-- A name leads to a class that has this name, if it leads anywhere. -/
def NamesTruthful (reg : Registry) : Prop :=
  ∀ name c, reg.lookup? name = some c → ∃ d, reg.class? c = some d ∧ d.name = name

theorem NamesFaithful.namesTruthful (h : reg.NamesFaithful) : reg.NamesTruthful :=
  fun name c => (h name c).1

theorem NamesFaithful.lookup?_name (h : reg.NamesFaithful) {c : ClassId} {d : ClassDef}
    (hd : reg.class? c = some d) : reg.lookup? d.name = some c :=
  (h d.name c).2 ⟨d, hd, rfl⟩

/-- A name that has a number is in the index. -/
theorem mem_names_of_interned {name : String} {c : ClassId} (h : reg.interned name = some c) :
    (name, c) ∈ reg.names := by
  obtain ⟨before, after, hnames, -⟩ := List.lookup_eq_some_iff.1 h
  rw [hnames]
  exact List.mem_append_right _ List.mem_cons_self

theorem mem_names_of_lookup? {name : String} {c : ClassId} (h : reg.lookup? name = some c) :
    (name, c) ∈ reg.names :=
  mem_names_of_interned (lookup?_eq_some_iff.1 h).1

instance (reg : Registry) : Decidable reg.NamesFaithful :=
  decidable_of_iff ((∀ e ∈ reg.named, reg.lookup? e.1 = some e.2) ∧
      ∀ e ∈ reg.names, reg.lookup? e.1 = some e.2 → e ∈ reg.named)
    ⟨fun h name c => by
      rw [← mem_named]
      exact ⟨fun hc => h.2 (name, c) (mem_names_of_lookup? hc) hc, h.1 (name, c)⟩,
    fun h => ⟨fun e he => (h e.1 e.2).2 (mem_named.1 he),
      fun e _ he => mem_named.2 ((h e.1 e.2).1 he)⟩⟩

/-! ### The list of the classes -/

theorem nodup_named (reg : Registry) : reg.named.Nodup := by
  refine List.Nodup.filterMap (fun i j e hi hj => ?_) List.nodup_range
  obtain ⟨_, -, rfl⟩ := Option.map_eq_some_iff.1 hi
  obtain ⟨_, -, he⟩ := Option.map_eq_some_iff.1 hj
  exact (congrArg (fun e : String × ClassId => e.2.idx) he).symm

/-- No class is listed twice. -/
theorem nodup_classIds (reg : Registry) : reg.classIds.Nodup := by
  have hsorted : (Ordered.sort nameLe reg.named).Nodup :=
    (Ordered.sort_perm nameLe reg.named).nodup_iff.2 (nodup_named reg)
  refine hsorted.map_on fun a ha b hb hab => ?_
  obtain ⟨da, hda, hna⟩ := mem_named.1 (Ordered.mem_sort.1 ha)
  obtain ⟨db, hdb, hnb⟩ := mem_named.1 (Ordered.mem_sort.1 hb)
  have hdef : da = db := Option.some.inj (hda.symm.trans ((congrArg reg.class? hab).trans hdb))
  exact Prod.ext (hna.symm.trans (hdef ▸ hnb)) hab

/-- The classes are listed by name. -/
theorem pairwise_classIds (reg : Registry) :
    reg.classIds.Pairwise fun c d =>
      ∃ dc ∈ reg.class? c, ∃ dd ∈ reg.class? d, dc.name ≤ dd.name := by
  rw [classIds, List.pairwise_map]
  have hsorted := Ordered.pairwise_sort nameLe_total nameLe_trans reg.named
  refine hsorted.imp_of_mem fun {a b} ha hb hab => ?_
  obtain ⟨da, hda, hna⟩ := mem_named.1 (Ordered.mem_sort.1 ha)
  obtain ⟨db, hdb, hnb⟩ := mem_named.1 (Ordered.mem_sort.1 hb)
  exact ⟨da, hda, db, hdb, by rw [hna, hnb]; exact fst_le_of_nameLe hab⟩

/-- Where no two classes have one name, the names of the listed classes ascend strictly. -/
theorem NamesFaithful.pairwise_lt_classIds (h : reg.NamesFaithful) :
    reg.classIds.Pairwise fun c d =>
      ∃ dc ∈ reg.class? c, ∃ dd ∈ reg.class? d, dc.name < dd.name := by
  refine ((pairwise_classIds reg).and (nodup_classIds reg)).imp ?_
  rintro c d ⟨⟨dc, hdc, dd, hdd, hle⟩, hne⟩
  refine ⟨dc, hdc, dd, hdd, String.not_le.1 fun hge => hne ?_⟩
  have hc := h.lookup?_name hdc
  rw [String.le_antisymm hle hge] at hc
  exact Option.some.inj (hc.symm.trans (h.lookup?_name hdd))

end Registry

end Generics
