import Generics.Logging.Level
import Generics.Ordered
import Generics.Text.Alphanumeric

/-!
# Filters for log output

A filter is a set of directives: a level for everything, and levels for single targets. It is written as
a list with commas. A directive is a level, a target, or a target with a level; a target alone asks for
everything. Of two directives for the same target the later counts. Longer targets come first, because
they are more specific.

## Main definitions

* `Directive`, `Directive.ofText?` and `Directive.text`.
* `Filter`, `Filter.ofText?` and `Filter.text`.

## Main results

* `ofText?_eq_none_iff`: a filter is refused exactly if one of its pieces is.
-/

namespace Generics

/-- A level for one target, or for everything. -/
structure Directive where
  /-- The target; none for everything. -/
  target : Option String
  /-- The level. -/
  level : Level
deriving DecidableEq, Repr

namespace Directive

/-- A directive may begin with this character. -/
def mayBegin (c : Char) : Bool := c == '-' || c == ':' || c == '_' || Text.isAlphanumeric c

/-- A directive without an equality sign. -/
def ofWord (word : String) : Directive :=
  match Level.ofText? word with
  | some level => ⟨none, level⟩
  | none => ⟨some word, .trace⟩

/-- A directive with the given texts before and after its first equality sign. -/
def ofParts? (target level : String) : Option Directive :=
  if level = "" then some ⟨some target, .trace⟩
  else (Level.ofText? level).map fun l => ⟨some target, l⟩

/-- The directive that a piece of a filter stands for. -/
def ofText? (piece : String) : Option Directive :=
  let cs := piece.toList
  if cs.head?.any mayBegin then
    match cs.dropWhile (· != '=') with
    | [] => some (ofWord piece)
    | _ :: level => ofParts? (String.ofList (cs.takeWhile (· != '='))) (String.ofList level)
  else none

/-- The directive as it is written. -/
def text (d : Directive) : String :=
  match d.target with
  | some target => target ++ "=" ++ d.level.name
  | none => d.level.name

/-- Longer targets first, then in descending order; everything comes last. -/
def precedes (a b : Directive) : Bool :=
  match a.target, b.target with
  | _, none => true
  | none, some _ => false
  | some s, some t =>
    if s.utf8ByteSize = t.utf8ByteSize then t ≤ s else t.utf8ByteSize < s.utf8ByteSize

end Directive

/-- Directives, at most one for each target. -/
structure Filter where
  /-- The directives in the order in which they are written. -/
  directives : List Directive
deriving DecidableEq, Repr

namespace Filter

/-- Take a directive into account, which replaces an earlier one for the same target. -/
def put (ds : List Directive) (d : Directive) : List Directive :=
  ds.filter (fun e => e.target != d.target) ++ [d]

/-- The filter with the given directives; a later one counts more. -/
def ofDirectives (ds : List Directive) : Filter :=
  ⟨Ordered.sort Directive.precedes (ds.foldl put [])⟩

/-- The pieces of a filter: what stands between commas, unless it is empty. -/
def pieces (s : String) : List String :=
  ((splitAtCommas s.toList).filter fun cs => !cs.isEmpty).map String.ofList
where
  /-- The texts between the commas. -/
  splitAtCommas : List Char → List (List Char)
    | [] => [[]]
    | c :: cs =>
      if c = ',' then [] :: splitAtCommas cs
      else match splitAtCommas cs with
        | [] => [[c]]
        | piece :: rest => (c :: piece) :: rest

/-- The directives of the pieces, if each piece is one. -/
def directives? : List String → Option (List Directive)
  | [] => some []
  | p :: ps =>
    match Directive.ofText? p, directives? ps with
    | some d, some ds => some (d :: ds)
    | _, _ => none

/-- The filter that a text stands for. -/
def ofText? (s : String) : Option Filter := (directives? (pieces s)).map ofDirectives

/-- The filter as it is written. -/
def text (f : Filter) : String := ",".intercalate (f.directives.map Directive.text)

theorem directives?_eq_none_iff (ps : List String) :
    directives? ps = none ↔ ∃ p ∈ ps, Directive.ofText? p = none := by
  induction ps with
  | nil => simp [directives?]
  | cons p ps ih =>
    cases hp : Directive.ofText? p <;> cases hps : directives? ps <;>
      simp_all [directives?]

/-- A filter is refused exactly if one of its pieces is. -/
theorem ofText?_eq_none_iff (s : String) :
    ofText? s = none ↔ ∃ p ∈ pieces s, Directive.ofText? p = none := by
  rw [ofText?, Option.map_eq_none_iff, directives?_eq_none_iff]

end Filter

end Generics
