import NoteSieve.Filter.Pattern
import NoteSieve.Record.Basic

/-!
# Predicates

A filter is a tree of tests over the fields of one record. Each kind of test is one that a store can
answer by itself, so a tree can be handed to a backend as well as run here.

`Predicate.holds` runs it. A test of a text field that a record does not have fails, whatever is
asked of the field; only a negation turns that into success. `Predicate.both` joins two trees into
one flat conjunction.
-/

namespace NoteSieve

/-- A test of one record with the fields `F`. -/
inductive Predicate (F : Type) where
  /-- Always holds, or never. -/
  | constant (value : Bool)
  /-- A flag has this value. -/
  | flag (field : F) (value : Bool)
  /-- The pattern occurs in a text field. -/
  | contains (field : F) (pattern : Pattern)
  /-- A text field is the pattern. -/
  | equals (field : F) (pattern : Pattern)
  /-- The pattern occurs in the first line of a text field. -/
  | firstLineContains (field : F) (pattern : Pattern)
  /-- The whole of a text field has a shape. -/
  | fullMatch (field : F) (shape : Shape)
  /-- Every part holds. -/
  | all (parts : List (Predicate F))
  /-- The part does not hold. -/
  | negation (part : Predicate F)

namespace Predicate

variable {F R : Type}

/-! ### Running a predicate -/

mutual

/-- **Whether a record passes.** -/
def holds [Searchable R F] (r : R) : Predicate F → Bool
  | constant value => value
  | flag field value => Searchable.flag? r field == some value
  | contains field pattern => (Searchable.text? r field).any pattern.foundIn
  | equals field pattern => (Searchable.text? r field).any pattern.equals
  | firstLineContains field pattern =>
    (Searchable.text? r field).any fun s => pattern.foundIn s.firstLine
  | fullMatch field shape => (Searchable.text? r field).any shape.accepts
  | all parts => allHold r parts
  | negation part => !holds r part

/-- Whether a record passes every one of a list of predicates. -/
def allHold [Searchable R F] (r : R) : List (Predicate F) → Bool
  | [] => true
  | part :: rest => holds r part && allHold r rest

end

/-- The records that pass, in their order. -/
def select [Searchable R F] (p : Predicate F) (records : List R) : List R :=
  records.filter fun r => p.holds r

/-! ### Equality -/

mutual

/-- **Whether two predicates are the same**, as far as that can be told: their patterns by text and
comparison, and their shapes by source. -/
def same [DecidableEq F] : Predicate F → Predicate F → Bool
  | constant a, constant b => a == b
  | flag f a, flag g b => decide (f = g) && a == b
  | contains f a, contains g b => decide (f = g) && a.same b
  | equals f a, equals g b => decide (f = g) && a.same b
  | firstLineContains f a, firstLineContains g b => decide (f = g) && a.same b
  | fullMatch f a, fullMatch g b => decide (f = g) && a.source == b.source
  | all as, all bs => sameAll as bs
  | negation a, negation b => same a b
  | _, _ => false

/-- Whether two lists of predicates are the same, part by part. -/
def sameAll [DecidableEq F] : List (Predicate F) → List (Predicate F) → Bool
  | [], [] => true
  | a :: as, b :: bs => same a b && sameAll as bs
  | _, _ => false

end

/-! ### Conjunction -/

/-- The predicate that every record passes. -/
def always : Predicate F := constant true

/-- The parts of a conjunction; any other predicate is the only part of itself. -/
def conjuncts : Predicate F → List (Predicate F)
  | all parts => parts
  | p => [p]

/-- **Both of two predicates**, as one conjunction without a conjunction of theirs inside. -/
def both (p q : Predicate F) : Predicate F := all (p.conjuncts ++ q.conjuncts)

/-! ### First laws -/

theorem allHold_eq_all [Searchable R F] (r : R) (parts : List (Predicate F)) :
    allHold r parts = parts.all (holds r) := by
  induction parts with
  | nil => rfl
  | cons part rest ih => rw [allHold, ih, List.all_cons]

@[simp]
theorem holds_all [Searchable R F] (r : R) (parts : List (Predicate F)) :
    (all parts).holds r = parts.all (holds r) := by
  rw [holds, allHold_eq_all]

@[simp]
theorem holds_negation [Searchable R F] (r : R) (part : Predicate F) :
    part.negation.holds r = !part.holds r := by
  rw [holds]

end Predicate

end NoteSieve
