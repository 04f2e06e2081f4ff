import Generics.Proofs.Session.Reset

/-!
# Sessions over time

A session is used by one request after the other: types are recorded, questions are asked, the
registry is replaced by any other one, the pool is cleared. Whatever the order of the requests, the
pool holds concrete uses of classes that the current registry defines, each once. It is known from
what was recorded: a recorded type becomes another one with every new registry, until it can no
longer be carried over or the pool is cleared, and the pool is the list of what has become of all
types, in the order in which they were recorded.

## Main definitions

* `Session.Request`, `Session.step`, `Session.run`
* `Session.becomes`, `Session.becomesAfter` — what becomes of a recorded type
* `Session.adds`, `Session.addsAfter` — what is recorded on the way
* `Session.Sound` — everything in the pool may be recorded

## Main results

* `Session.Sound.step`, `Session.Sound.run`
* `Session.entries_step`, `Session.entries_run` — the pool, from what was recorded
* `Session.run_keeps_pool`
-/

namespace Generics

namespace Session

/-- What a session can be asked to do. -/
inductive Request where
  /-- Record a type if it may be. -/
  | record (t : TypeExpr)
  /-- Which recorded types can be used as `slot`? -/
  | candidatesFor (slot : TypeExpr)
  /-- Resolve a type in some bindings. -/
  | instantiate (t : TypeExpr) (σ : Substitution)
  /-- Replace the registry. -/
  | reset (registry : Registry)
  /-- Forget the recorded types. -/
  | clear

namespace Request

/-- The request only asks for an answer. -/
def isQuery : Request → Bool
  | .candidatesFor _ | .instantiate .. => true
  | _ => false

/-- The request replaces the registry. -/
def isReset : Request → Bool
  | .reset _ => true
  | _ => false

end Request

/-- The session after a request. -/
def step (s : Session) : Request → Session
  | .record t => (s.record t).2
  | .candidatesFor _ | .instantiate .. => s
  | .reset registry => (s.reset registry).2
  | .clear => s.clear

/-- The session after some requests. -/
def run (s : Session) (requests : List Request) : Session := requests.foldl step s

variable {s : Session}

@[simp] theorem run_nil : s.run [] = s := rfl

theorem run_cons (r : Request) (rs : List Request) : s.run (r :: rs) = (s.step r).run rs := rfl

theorem run_append (rs qs : List Request) : s.run (rs ++ qs) = (s.run rs).run qs :=
  List.foldl_append

/-! ### What may be in the pool -/

/-- Everything in the pool may be recorded. -/
def Sound (s : Session) : Prop := ∀ t ∈ s.pool.entries, s.isRecordable t = true

theorem sound_start (registry : Registry) (maxDepth : Nat) : (start registry maxDepth).Sound :=
  fun _ ht => absurd ht List.not_mem_nil

/-- Recording changes the pool at most. -/
theorem record_snd (s : Session) (t : TypeExpr) :
    (s.record t).2 =
      { s with pool := if s.isRecordable t then (s.pool.record t).2 else s.pool } := by
  rw [record]
  split <;> rfl

theorem Sound.step (h : s.Sound) (r : Request) : (s.step r).Sound := by
  cases r with
  | record t =>
    intro u hu
    rw [Session.step, record_snd] at hu ⊢
    show s.isRecordable u = true
    cases ht : s.isRecordable t with
    | false =>
      rw [ht] at hu
      exact h u hu
    | true =>
      rw [ht] at hu
      rcases Pool.mem_record.1 hu with hu | rfl
      · exact h u hu
      · exact ht
  | candidatesFor slot => exact h
  | instantiate t σ => exact h
  | reset registry =>
    intro u hu
    obtain ⟨t, ht, hrebind⟩ := mem_carried_iff.1 (Pool.mem_ofList.1 hu)
    exact isRecordable_of_rebind (h t ht) hrebind
  | clear => exact fun _ hu => absurd hu List.not_mem_nil

theorem Sound.run (h : s.Sound) (rs : List Request) : (s.run rs).Sound := by
  induction rs generalizing s with
  | nil => exact h
  | cons r rs ih => exact ih (h.step r)

/-! ### What becomes of a recorded type -/

/-- What becomes of a recorded type in one step, if anything. -/
def becomes (s : Session) : Request → TypeExpr → Option TypeExpr
  | .reset registry, t => (s.registry.rebind registry t).toOption
  | .clear, _ => none
  | _, t => some t

/-- What is recorded in one step, perhaps once more. -/
def adds (s : Session) : Request → List TypeExpr
  | .record t => if s.isRecordable t then [t] else []
  | _ => []

/-- What becomes of a recorded type, if anything. -/
def becomesAfter (s : Session) : List Request → TypeExpr → Option TypeExpr
  | [], t => some t
  | r :: rs, t => (s.becomes r t).bind ((s.step r).becomesAfter rs)

/-- What has become of the types that were recorded on the way. -/
def addsAfter (s : Session) : List Request → List TypeExpr
  | [] => []
  | r :: rs => (s.adds r).filterMap ((s.step r).becomesAfter rs) ++ (s.step r).addsAfter rs

/-- Where types stay as they are, so does the pool. -/
theorem ofList_filterMap_eq_self {f : TypeExpr → Option TypeExpr} (h : ∀ t, f t = some t) :
    Distinct.ofList (s.pool.entries.filterMap f) = s.pool.entries := by
  rw [show f = some from funext h, List.filterMap_some, Distinct.ofList_eq_self s.pool.nodup]

/-- After a step the pool is what has become of the types in it, and what was recorded, each once.
-/
theorem entries_step (s : Session) (r : Request) :
    (s.step r).pool.entries =
      Distinct.ofList (s.pool.entries.filterMap (s.becomes r) ++ s.adds r) := by
  rw [Distinct.ofList_append]
  cases r with
  | record t =>
    rw [ofList_filterMap_eq_self (f := s.becomes (.record t)) fun _ => rfl, step, record_snd, adds]
    split <;> rfl
  | candidatesFor slot => exact (ofList_filterMap_eq_self fun _ => rfl).symm
  | instantiate t σ => exact (ofList_filterMap_eq_self fun _ => rfl).symm
  | reset registry => rfl
  | clear =>
    have hnone : s.pool.entries.filterMap (s.becomes .clear) = [] :=
      List.filterMap_eq_nil_iff.2 fun _ _ => rfl
    rw [hnone]
    rfl

/-- **The pool is known from what was recorded:** first what has become of the types that were
there, then what has become of the types that were recorded on the way, each once. -/
theorem entries_run (s : Session) (rs : List Request) :
    (s.run rs).pool.entries =
      Distinct.ofList (s.pool.entries.filterMap (s.becomesAfter rs) ++ s.addsAfter rs) := by
  induction rs generalizing s with
  | nil =>
    rw [addsAfter, List.append_nil, run_nil]
    exact (ofList_filterMap_eq_self fun _ => rfl).symm
  | cons r rs ih =>
    rw [run_cons, ih, entries_step, Distinct.ofList_append, Distinct.ofList_filterMap_ofList,
      ← Distinct.ofList_append, List.filterMap_append, List.filterMap_filterMap, List.append_assoc]
    rfl

/-! ### Whole sessions -/

theorem generation_step (s : Session) (r : Request) :
    (s.step r).generation = s.generation + if r.isReset then 1 else 0 := by
  cases r with
  | record t => rw [step, record_snd]; rfl
  | _ => rfl

theorem generation_run (s : Session) (rs : List Request) :
    (s.run rs).generation = s.generation + rs.countP Request.isReset := by
  induction rs generalizing s with
  | nil => rfl
  | cons r rs ih =>
    rw [run_cons, ih, generation_step, List.countP_cons, Nat.add_assoc,
      Nat.add_comm (List.countP _ _)]

/-- **A session keeps its pool in order.** After any requests to a fresh session the pool holds
concrete uses, raw or with arguments, of classes that the current registry defines, each once. It is
what has become of the types in the pool at any earlier time, and of the types recorded since; the
former stand first, each once and in the order in which they were recorded. Questions change
nothing, and the number of the generation is the number of times that the registry was replaced. -/
theorem run_keeps_pool (registry : Registry) (maxDepth : Nat) (before after : List Request) :
    let s := (start registry maxDepth).run before
    let s' := (start registry maxDepth).run (before ++ after)
    (∀ t ∈ s'.pool.entries, t.isConcrete = true ∧
      ∃ c, (t = .raw c ∨ ∃ args owner, t = .app c args owner) ∧ s'.registry.isDefined c = true) ∧
    s'.pool.entries.Nodup ∧
    s'.pool.entries =
      Distinct.ofList (s.pool.entries.filterMap (s.becomesAfter after) ++ s.addsAfter after) ∧
    Distinct.ofList (s.pool.entries.filterMap (s.becomesAfter after)) <+: s'.pool.entries ∧
    (∀ q : Request, q.isQuery = true → s'.step q = s') ∧
    s'.generation = (before ++ after).countP Request.isReset := by
  intro s s'
  have hentries : s'.pool.entries = Distinct.ofList
      (s.pool.entries.filterMap (s.becomesAfter after) ++ s.addsAfter after) := by
    rw [← entries_run, ← run_append]
  refine ⟨fun t ht => ?_, s'.pool.nodup, hentries, ?_, fun q hq => ?_, ?_⟩
  · have hsound : s'.Sound := (sound_start registry maxDepth).run _
    obtain ⟨⟨c, hc, hdefined⟩, hconcrete⟩ := isRecordable_iff.1 (hsound t ht)
    exact ⟨hconcrete, c, TypeExpr.classId?_eq_some_iff.1 hc, hdefined⟩
  · rw [hentries]
    exact Distinct.ofList_prefix_ofList_append _ _
  · cases q with
    | candidatesFor slot => rfl
    | instantiate t σ => rfl
    | _ => cases hq
  · rw [generation_run]
    exact Nat.zero_add _

end Session

end Generics
