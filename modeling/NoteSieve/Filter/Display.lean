import NoteSieve.Filter.Predicate
import NoteSieve.Text.Quoted

/-!
# Rendered predicates

A predicate is shown in the notation of predicate languages: `content CONTAINS[cd] "milk"`,
conjunctions in parentheses, and what a comparison ignores as letters in brackets (`c` for case,
`d` for diacritics). Operands are shown as they were given, quoted.
-/

namespace NoteSieve

/-- What a comparison ignores, as a filter shows it. -/
def Comparison.marker (c : Comparison) : Text :=
  match c.ignoresCase, c.ignoresMarks with
  | false, false => []
  | true, false => "[c]".toList
  | false, true => "[d]".toList
  | true, true => "[cd]".toList

/-- An operator of comparison with its operand. -/
def Pattern.render (operator : Text) (p : Pattern) : Text :=
  operator ++ p.comparison.marker ++ " ".toList ++ p.operand.quoted

namespace Predicate

variable {F : Type}

mutual

/-- **A predicate as it is shown.** An empty conjunction is shown as what it is, the truth. -/
def render [Named F] : Predicate F → Text
  | constant value => if value then "TRUE".toList else "FALSE".toList
  | flag field value => Named.fieldName field ++ " == ".toList ++ Text.ofBool value
  | contains field pattern => Named.fieldName field ++ pattern.render " CONTAINS".toList
  | equals field pattern => Named.fieldName field ++ pattern.render " ==".toList
  | firstLineContains field pattern =>
    "firstLine(".toList ++ Named.fieldName field ++ ")".toList
      ++ pattern.render " CONTAINS".toList
  | fullMatch field shape =>
    Named.fieldName field ++ " MATCHES ".toList ++ shape.source.quoted
  | all [] => "TRUE".toList
  | all (part :: rest) => "(".toList ++ render part ++ renderRest rest ++ ")".toList
  | negation part => "NOT ".toList ++ render part

/-- The later parts of a conjunction, each after its connective. -/
def renderRest [Named F] : List (Predicate F) → Text
  | [] => []
  | part :: rest => " AND ".toList ++ render part ++ renderRest rest

end

end Predicate

end NoteSieve
