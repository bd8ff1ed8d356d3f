import Mathlib.Logic.Relation
import NoteSieve.Filter.Compile
import NoteSieve.Proofs.Filter.Rendered

/-!
# Equality and conjunction of predicates

Two operations are left to those who hold two predicates: comparing them and joining them.

* **Comparison** goes through both trees side by side (`NoteSieve.Predicate.same`). Patterns are
  compared by their texts and comparisons, shapes by their sources. The fold that a pattern keeps is
  not looked at. Nothing is lost by that, since a pattern cannot be made with any other fold
  (`NoteSieve.Pattern.folded_eq`). What a shape accepts is not looked at either, and here something
  could be lost: shapes with the same source have to accept the same. Given this, predicates that
  compare equal **cannot be told apart**, neither by a record nor by how they are shown nor as parts
  of a conjunction (`NoteSieve.Predicate.same_congruence`).
* **Conjunction** sets the parts of both in a row (`NoteSieve.Predicate.conjuncts_both`). All of its
  laws are laws of lists seen through that equation (`NoteSieve.Predicate.both_laws`): it is
  associative on the nose, not only in meaning, and nests nothing that was not nested before.
-/

namespace NoteSieve

namespace Predicate

variable {F R : Type} {p q : Predicate F}

/-! ### Predicates that compare equal -/

section Equality

variable [DecidableEq F] {a b : Predicate F}

/-- Comparison is equality once the shapes are read anew, so it is an equivalence. -/
theorem equivalence_same : Equivalence fun p q : Predicate F => p.same q = true := by
  let reads : Text → Text → Bool := fun _ _ => false
  have hsame : (fun p q : Predicate F => p.same q = true)
      = fun p q => p.reread reads = q.reread reads :=
    funext₂ fun p q => propext (same_iff_reread reads)
  rw [hsame]
  exact eq_equivalence.comap (reread reads)

/-- Predicates that compare equal, joined to predicates that do, compare equal. -/
theorem both_same_both (hpq : p.same q = true) (hab : a.same b = true) :
    (p.both a).same (q.both b) = true := by
  let reads : Text → Text → Bool := fun _ _ => false
  rw [same_iff_reread reads] at hpq hab ⊢
  rw [reread_both, reread_both, hpq, hab]

/-- **Predicates that compare equal cannot be told apart.** Comparison is an equivalence. Where it
finds two predicates equal, the same records pass them, if what a shape in them accepts is told by
its source; they are shown in the same way; and joined to predicates that compare equal too, on
either side, they give predicates that compare equal. -/
theorem same_congruence [Named F] :
    (Equivalence fun p q : Predicate F => p.same q = true) ∧
    ∀ p q : Predicate F, p.same q = true →
      (∀ reads, p.IsReadBy reads → q.IsReadBy reads →
        ∀ {R : Type} [Searchable R F] (r : R), p.holds r = q.holds r) ∧
      p.render = q.render ∧
      ∀ a b : Predicate F, a.same b = true →
        (p.both a).same (q.both b) = true ∧ (a.both p).same (b.both q) = true := by
  refine ⟨equivalence_same, fun p q hpq => ⟨fun reads hp hq _ _ r => ?_, ?_, fun a b hab => ?_⟩⟩
  · rw [hp.eq_of_same hq hpq]
  · exact render_eq_of_same hpq
  · exact ⟨both_same_both hpq hab, both_same_both hab hpq⟩

/-- The same predicate, joined in one step and in two, is joined to another; the parts are a negated
conjunction, an operand whose lower case is longer than it is, and a shape that is a plain word. -/
theorem same_congruence_joined :
    let word : Shape := ⟨"x".toList, Text.occursIn "x".toList⟩
    let part : Predicate NoteField := negation (all [contains .content (.of "İ".toList .loose)])
    let p : Predicate NoteField := (part.both (all [])).both (fullMatch .tags word)
    let q : Predicate NoteField := all [part, fullMatch .tags word]
    p.same q = true ∧ (∀ n : Note, p.holds n = q.holds n) ∧ p.render = q.render ∧
      (p.both untaggedFilter).same (q.both untaggedFilter) = true := by
  intro word part p q
  have hsame : p.same q = true := by decide
  obtain ⟨hholds, hrender, hboth⟩ := same_congruence.2 p q hsame
  exact ⟨hsame, hholds Text.occursIn rfl rfl, hrender,
    (hboth _ _ (same_congruence.1.refl untaggedFilter)).1⟩

end Equality

/-! ### Predicates joined to one conjunction -/

/-- Whether a predicate is a conjunction. -/
def IsConjunction : Predicate F → Prop
  | all _ => True
  | _ => False

/-- **A flat predicate**: one that has no conjunction right inside the conjunction that it is, if it
is one. -/
def IsFlat (p : Predicate F) : Prop :=
  ∀ parts, p = all parts → ∀ part ∈ parts, ¬part.IsConjunction

theorem isFlat_iff : p.IsFlat ↔ ∀ part ∈ p.conjuncts, ¬part.IsConjunction := by
  cases p with
  | all parts => exact ⟨fun h => h parts rfl, fun h _ hparts => all.inj hparts ▸ h⟩
  | _ => exact ⟨fun _ => List.forall_mem_singleton.mpr id, fun _ _ h => absurd h (by simp)⟩

theorem both_holds [Searchable R F] (p q : Predicate F) (r : R) :
    (p.both q).holds r = (p.holds r && q.holds r) := by
  rw [both, holds_all, List.all_append, conjuncts_holds, conjuncts_holds]

theorem IsFlat.both (hp : p.IsFlat) (hq : q.IsFlat) : (p.both q).IsFlat := by
  rw [isFlat_iff] at hp hq ⊢
  rw [conjuncts_both]
  exact List.forall_mem_append.mpr ⟨hp, hq⟩

/-- **The laws of conjunction**, for predicates with any shapes in them, whatever these accept. A
record passes two joined predicates if it passes each of them. Three predicates joined in either way
are one and the same tree. Joined predicates select those records that the second one selects of
those that the first one selects, in their order. And two flat predicates give a flat one. -/
theorem both_laws (p q s : Predicate F) :
    (∀ {R : Type} [Searchable R F] (r : R), (p.both q).holds r = true ↔
      p.holds r = true ∧ q.holds r = true) ∧
    (p.both q).both s = p.both (q.both s) ∧
    (∀ {R : Type} [Searchable R F] (records : List R),
      (p.both q).select records = q.select (p.select records)) ∧
    (p.IsFlat → q.IsFlat → (p.both q).IsFlat) := by
  refine ⟨fun r => ?_, ?_, fun records => ?_, IsFlat.both⟩
  · rw [both_holds, Bool.and_eq_true]
  · rw [both, conjuncts_both, List.append_assoc, ← conjuncts_both]
    rfl
  · rw [select, select, select, List.filter_filter]
    exact List.filter_congr fun r _ => by rw [both_holds, Bool.and_comm]

/-- A negated conjunction is a part by itself, and an empty conjunction has none; a conjunction
inside a conjunction stays where it is. -/
theorem both_laws_negation :
    let p : Predicate NoteField := negation (all [always, always])
    let q : Predicate NoteField := all []
    let nested : Predicate NoteField := all [all [always]]
    p.IsFlat ∧ q.IsFlat ∧ p.both q = all [p] ∧ (p.both q).IsFlat ∧ ¬(p.both nested).IsFlat := by
  intro p q nested
  have hp : p.IsFlat := fun parts h => absurd h (by simp [p])
  have hq : q.IsFlat := isFlat_iff.mpr (List.forall_mem_nil _)
  refine ⟨hp, hq, rfl, (both_laws p q always).2.2.2 hp hq, fun h => ?_⟩
  exact h _ rfl (all [always]) (by simp [nested, conjuncts]) trivial

end Predicate

end NoteSieve
