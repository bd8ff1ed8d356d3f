import Mathlib.Data.List.Basic
import NoteSieve.Filter.Predicate

/-!
# Predicates as trees

A predicate is a tree: its leaves are tests (`NoteSieve.Predicate.IsTest`), and its nodes are
conjunctions of any number of predicates and negations of one. A statement about all predicates is
proved of the tests and carried over the nodes (`NoteSieve.Predicate.induction`).

Joining predicates (`NoteSieve.Predicate.both`) builds no deeper tree: however many are joined one
after the other, the result is one conjunction that has the parts of them all in a row
(`NoteSieve.Predicate.foldl_both`).

A predicate also holds things that are not looked at when it is compared or shown: the fold that a
pattern keeps, and what a shape accepts. The first is settled by what is looked at
(`NoteSieve.Pattern.same_iff`). The second is not, but it can be exchanged throughout
(`NoteSieve.Predicate.reread`), and **predicates compare equal exactly if they are one predicate
after that** (`NoteSieve.Predicate.same_iff_reread`).
-/

namespace NoteSieve

/-- A shape read anew: what it accepts is what `reads` says of its source. -/
def Shape.reread (reads : Text → Text → Bool) (shape : Shape) : Shape :=
  ⟨shape.source, reads shape.source⟩

/-- Nothing but the source is left of a shape that is read anew. -/
theorem Shape.reread_eq_reread_iff {reads : Text → Text → Bool} {a b : Shape} :
    a.reread reads = b.reread reads ↔ a.source = b.source := by
  constructor
  · exact congrArg Shape.source
  · intro h
    rw [reread, reread, h]

namespace Predicate

variable {F R : Type} {p q : Predicate F} {reads : Text → Text → Bool}

/-! ### Leaves and nodes -/

/-- A test: a predicate that is not made of others. -/
def IsTest : Predicate F → Prop
  | all _ | negation _ => False
  | _ => True

mutual

/-- **Induction over a predicate**: what is true of tests, of a conjunction if it is true of all its
parts, and of a negation if it is true of what is negated, is true of every predicate. -/
theorem induction {P : Predicate F → Prop} (test : ∀ p, p.IsTest → P p)
    (all : ∀ parts, (∀ part ∈ parts, P part) → P (.all parts))
    (negation : ∀ part, P part → P (.negation part)) : ∀ p, P p
  | .all parts => all parts (induction_parts test all negation parts)
  | .negation part => negation part (induction test all negation part)
  | .constant _ | .flag _ _ | .contains _ _ | .equals _ _ | .firstLineContains _ _
  | .fullMatch _ _ => test _ trivial

theorem induction_parts {P : Predicate F → Prop} (test : ∀ p, p.IsTest → P p)
    (all : ∀ parts, (∀ part ∈ parts, P part) → P (.all parts))
    (negation : ∀ part, P part → P (.negation part)) : ∀ parts : List (Predicate F),
      ∀ part ∈ parts, P part
  | [] => List.forall_mem_nil _
  | part :: rest => List.forall_mem_cons.mpr
      ⟨induction test all negation part, induction_parts test all negation rest⟩

end

/-! ### Fields that are tested -/

section Fields

variable [Searchable R F] {r : R} {field : F} {pattern : Pattern} {shape : Shape}

theorem contains_holds_iff : (contains field pattern).holds r = true ↔
    ∃ s, Searchable.text? r field = some s ∧ pattern.foundIn s = true := by
  rw [holds, Option.any_eq_true]

theorem firstLineContains_holds_iff : (firstLineContains field pattern).holds r = true ↔
    ∃ s, Searchable.text? r field = some s ∧ pattern.foundIn s.firstLine = true := by
  rw [holds, Option.any_eq_true]

theorem fullMatch_holds_iff : (fullMatch field shape).holds r = true ↔
    ∃ s, Searchable.text? r field = some s ∧ shape.accepts s = true := by
  rw [holds, Option.any_eq_true]

end Fields

/-! ### Predicates joined one after the other -/

theorem IsTest.conjuncts_eq (h : p.IsTest) : p.conjuncts = [p] := by
  cases p with
  | all => exact h.elim
  | _ => rfl

theorem flatMap_conjuncts {ps : List (Predicate F)} (h : ∀ p ∈ ps, p.IsTest) :
    ps.flatMap conjuncts = ps := by
  rw [List.flatMap_congr fun p hp => (h p hp).conjuncts_eq, List.flatMap_singleton']

@[simp]
theorem conjuncts_both (p q : Predicate F) :
    (p.both q).conjuncts = p.conjuncts ++ q.conjuncts := rfl

/-- **Predicates joined to a first one** make one conjunction, which has the parts of them all in a
row. -/
theorem foldl_both (p f : Predicate F) (fs : List (Predicate F)) :
    (f :: fs).foldl both p = all (p.conjuncts ++ (f :: fs).flatMap conjuncts) := by
  induction fs generalizing p f with
  | nil => simp [both]
  | cons g fs ih =>
    rw [List.foldl_cons, ih, conjuncts_both, List.append_assoc, ← List.flatMap_cons]

theorem conjuncts_holds [Searchable R F] (r : R) (p : Predicate F) :
    p.conjuncts.all (holds r) = p.holds r := by
  cases p with
  | all parts => rw [holds_all, conjuncts]
  | _ => exact Bool.and_true _

/-! ### Shapes read anew -/

mutual

/-- A predicate with its shapes read anew. -/
def reread (reads : Text → Text → Bool) : Predicate F → Predicate F
  | fullMatch field shape => fullMatch field (shape.reread reads)
  | all parts => all (rereadAll reads parts)
  | negation part => negation (reread reads part)
  | p => p

/-- Predicates with their shapes read anew. -/
def rereadAll (reads : Text → Text → Bool) : List (Predicate F) → List (Predicate F)
  | [] => []
  | part :: rest => reread reads part :: rereadAll reads rest

end

/-- **The shapes of a predicate are read by `reads`**: what a shape accepts is told by its source,
and those with the same source accept the same. -/
def IsReadBy (reads : Text → Text → Bool) (p : Predicate F) : Prop := p.reread reads = p

theorem rereadAll_eq_map (ps : List (Predicate F)) :
    rereadAll reads ps = ps.map (reread reads) := by
  induction ps with
  | nil => rfl
  | cons p ps ih => rw [rereadAll, ih, List.map_cons]

theorem conjuncts_reread (p : Predicate F) :
    (p.reread reads).conjuncts = p.conjuncts.map (reread reads) := by
  cases p with
  | all parts => exact rereadAll_eq_map parts
  | _ => rfl

theorem reread_both (p q : Predicate F) :
    (p.both q).reread reads = (p.reread reads).both (q.reread reads) := by
  rw [both, reread, rereadAll_eq_map, List.map_append, ← conjuncts_reread, ← conjuncts_reread, both]

/-! ### Predicates that compare equal -/

section Equality

variable [DecidableEq F]

theorem IsTest.same_iff_reread (h : p.IsTest) :
    p.same q = true ↔ p.reread reads = q.reread reads := by
  cases p with
  | all | negation => exact h.elim
  | _ => cases q <;> simp [same, reread, Pattern.same_iff, Shape.reread_eq_reread_iff]

/-- Lists compare equal if they have the same parts, given that parts do so. -/
theorem sameAll_iff_rereadAll {ps qs : List (Predicate F)}
    (h : ∀ p ∈ ps, ∀ q, p.same q = true ↔ p.reread reads = q.reread reads) :
    sameAll ps qs = true ↔ rereadAll reads ps = rereadAll reads qs := by
  induction ps generalizing qs with
  | nil => cases qs <;> simp [sameAll, rereadAll]
  | cons p ps ih =>
    obtain ⟨hp, hps⟩ := List.forall_mem_cons.mp h
    cases qs with
    | nil => simp [sameAll, rereadAll]
    | cons q qs =>
      rw [sameAll, Bool.and_eq_true, hp, ih hps, rereadAll, rereadAll, List.cons.injEq]

/-- **Predicates compare equal exactly if they are one predicate once their shapes are read anew**,
in whatever way. -/
theorem same_iff_reread (reads : Text → Text → Bool) :
    p.same q = true ↔ p.reread reads = q.reread reads := by
  -- The other tree goes along, since its parts are compared with the parts of this one.
  induction p using induction generalizing q with
  | test p hp => exact hp.same_iff_reread
  | all parts ih =>
    cases q with
    | all parts' =>
      rw [same, sameAll_iff_rereadAll fun p hp q => ih p hp, reread, reread, all.injEq]
    | _ => simp [same, reread]
  | negation part ih =>
    cases q with
    | negation part' => rw [same, ih, reread, reread, negation.injEq]
    | _ => simp [same, reread]

/-- Predicates whose shapes are read in one way are one predicate if they compare equal. -/
theorem IsReadBy.eq_of_same (hp : p.IsReadBy reads) (hq : q.IsReadBy reads)
    (h : p.same q = true) : p = q := by
  rw [← hp, ← hq]
  exact (same_iff_reread reads).mp h

end Equality

end Predicate

end NoteSieve
