import Mathlib.Logic.Basic
import NoteSieve.Filter.Display
import NoteSieve.Proofs.Filter.Predicate
import NoteSieve.Proofs.Text.Quoted

/-!
# A rendered predicate tells which one it is

A predicate is shown without much to hold its pieces together: operands may be whole rendered
predicates, a negation has no parentheses, and only what stands between quotes is escaped. It can be
read all the same, from the front to the end, since at every place one piece ends where the next one
begins. In the words of `NoteSieve.Text.IsCode`, each kind of piece is a code.

| piece | examples | theorem |
|---|---|---|
| how a predicate begins | `TRUE`, `content `, `firstLine(content) `, `(`, `NOT ` | `Opening.isCode_text` |
| the operator of a test | `CONTAINS[cd] `, `== ` | `isCode_operator` |
| its operand | `true`, `"milk"` | `isCode_operand` |

A flag and an exact comparison have the same operator, and it is the operand that tells the two
apart. An empty conjunction is shown as the truth and cannot be told from it. That is all that is
lost: **rendered predicates are equal exactly if the predicates compare equal, up to empty
conjunctions** (`NoteSieve.Predicate.render_eq_iff`). What a shape accepts is not shown. Where it is
told by the source, as `NoteSieve.Predicate.IsReadBy` says, the predicates are the same.
-/

namespace NoteSieve

namespace Predicate

open Text

variable {F R : Type} {p q : Predicate F} {reads : Text → Text → Bool}

/-! ### Predicates without empty conjunctions -/

mutual

/-- A predicate with every empty conjunction in it written as the truth. -/
def plain : Predicate F → Predicate F
  | all [] => always
  | all (part :: rest) => all (plain part :: plainAll rest)
  | negation part => negation (plain part)
  | p => p

/-- Predicates with every empty conjunction in them written as the truth. -/
def plainAll : List (Predicate F) → List (Predicate F)
  | [] => []
  | part :: rest => plain part :: plainAll rest

end

theorem IsTest.plain_eq (h : p.IsTest) : p.plain = p := by
  cases p with
  | all | negation => exact h.elim
  | _ => rfl

theorem plainAll_eq_map (ps : List (Predicate F)) : plainAll ps = ps.map plain := by
  induction ps with
  | nil => rfl
  | cons p ps ih => rw [plainAll, ih, List.map_cons]

theorem holds_plain [Searchable R F] (r : R) (p : Predicate F) : p.plain.holds r = p.holds r := by
  induction p using induction with
  | test p hp => rw [hp.plain_eq]
  | all parts ih =>
    cases parts with
    | nil => rfl
    | cons part rest =>
      rw [plain, ← plainAll, plainAll_eq_map, Bool.eq_iff_iff, holds_all, holds_all,
        List.all_eq_true, List.all_eq_true, List.forall_mem_map]
      exact forall₂_congr fun part hpart => by rw [ih part hpart]
  | negation part ih => rw [plain, holds_negation, holds_negation, ih]

theorem reread_plain (p : Predicate F) : p.plain.reread reads = (p.reread reads).plain := by
  induction p using induction with
  | test p hp =>
    cases p with
    | all | negation => exact hp.elim
    | _ => rfl
  | all parts ih =>
    cases parts with
    | nil => rfl
    | cons part rest =>
      rw [plain, ← plainAll, reread, reread, rereadAll, plain, ← plainAll, ← rereadAll,
        plainAll_eq_map, plainAll_eq_map, rereadAll_eq_map, rereadAll_eq_map, List.map_map,
        List.map_map]
      exact congrArg all (List.map_congr_left ih)
  | negation part ih => rw [plain, reread, ih, reread, plain]

theorem IsReadBy.plain (h : p.IsReadBy reads) : p.plain.IsReadBy reads := by
  rw [IsReadBy, reread_plain, h]

/-! ### How a predicate begins -/

/-- What the names of fields are made of: small letters and underscores. -/
def isNameChar (c : Char) : Bool := ('a' ≤ c && c ≤ 'z') || c == '_'

/-- Fields that are told apart by names of small letters and underscores. -/
class PlainlyNamed (F : Type) [Named F] : Prop where
  /-- A name is made of small letters and underscores. -/
  isNameChar_of_mem : ∀ f : F, ∀ c ∈ Named.fieldName f, isNameChar c = true
  /-- No two fields have the same name. -/
  fieldName_injective : Function.Injective (Named.fieldName : F → Text)

instance : PlainlyNamed NoteField where
  isNameChar_of_mem f := by cases f <;> exact List.all_eq_true.mp rfl
  fieldName_injective f g h := by
    cases f <;> cases g <;> first | rfl | exact absurd h (by decide)

instance : PlainlyNamed TagField where
  isNameChar_of_mem _ := List.all_eq_true.mp rfl
  fieldName_injective _ _ _ := rfl

/-- What a rendered predicate begins with. -/
inductive Opening (F : Type) where
  /-- The word for a truth value. -/
  | truth (value : Bool)
  /-- A field that is looked at. -/
  | field (field : F)
  /-- A field of which the first line is looked at. -/
  | title (field : F)
  /-- The parenthesis of a conjunction. -/
  | group
  /-- The word of a negation. -/
  | denial

namespace Opening

variable [Named F]

/-- The small letters and underscores at the front of an opening. -/
def word : Opening F → Text
  | field f => Named.fieldName f
  | title _ => "first".toList
  | truth _ | group | denial => []

/-- The first character of an opening that is neither. No two kinds of openings have the same. -/
def mark : Opening F → Char
  | truth true => 'T'
  | truth false => 'F'
  | field _ => ' '
  | title _ => 'L'
  | group => '('
  | denial => 'N'

/-- What stands behind that character. -/
def rest : Opening F → Text
  | truth true => "RUE".toList
  | truth false => "ALSE".toList
  | title f => "ine(".toList ++ (Named.fieldName f ++ ") ".toList)
  | denial => "OT ".toList
  | field _ | group => []

/-- The text of an opening. -/
def text (o : Opening F) : Text := o.word ++ o.mark :: o.rest

omit [Named F] in
theorem not_isNameChar_mark (o : Opening F) : ¬isNameChar o.mark = true := by
  rcases o with (_ | _) | _ | _ | _ | _ <;> simp [mark, isNameChar]

variable [PlainlyNamed F]

theorem isNameChar_of_mem_word (o : Opening F) : ∀ c ∈ o.word, isNameChar c = true := by
  have hfirst : ∀ c ∈ "first".toList, isNameChar c = true := List.all_eq_true.mp rfl
  cases o with
  | field f => exact PlainlyNamed.isNameChar_of_mem f
  | title _ => exact hfirst
  | _ => exact List.forall_mem_nil _

/-- **Openings are a code.** -/
theorem isCode_text : IsCode (text : Opening F → Text) := by
  intro o o' s t h
  simp only [text, List.append_assoc, List.cons_append] at h
  obtain ⟨hword, hmark, hrest⟩ := cut_inj o.isNameChar_of_mem_word o'.isNameChar_of_mem_word
    o.not_isNameChar_mark o'.not_isNameChar_mark h
  -- The mark tells which kind of opening it is; of a field the name is told too.
  rcases o with (_ | _) | f | f | _ | _ <;> rcases o' with (_ | _) | g | g | _ | _ <;>
    simp [mark] at hmark
  · exact ⟨rfl, List.append_cancel_left hrest⟩
  · exact ⟨rfl, List.append_cancel_left hrest⟩
  · obtain rfl := PlainlyNamed.fieldName_injective hword
    exact ⟨rfl, hrest⟩
  · simp only [rest, List.append_assoc] at hrest
    obtain ⟨hname, -, htail⟩ := cut_inj (PlainlyNamed.isNameChar_of_mem f)
      (PlainlyNamed.isNameChar_of_mem g) (by decide) (by decide) (List.append_cancel_left hrest)
    obtain rfl := PlainlyNamed.fieldName_injective hname
    exact ⟨rfl, List.append_cancel_left htail⟩
  · exact ⟨rfl, hrest⟩
  · exact ⟨rfl, List.append_cancel_left hrest⟩

end Opening

/-! ### Operators and operands -/

/-- The operator of a test of a field. -/
inductive Operator where
  /-- The operand occurs in the field. -/
  | contains (comparison : Comparison)
  /-- The field is the operand. -/
  | equals (comparison : Comparison)
  /-- The field has the shape of which the operand is the source. -/
  | shape

/-- The word of an operator. -/
def Operator.word : Operator → Text
  | contains _ => ['C', 'O', 'N', 'T', 'A', 'I', 'N', 'S']
  | equals _ => ['=', '=']
  | shape => ['M', 'A', 'T', 'C', 'H', 'E', 'S']

/-- What an operator ignores, as it is shown behind the word. -/
def Operator.marker : Operator → Text
  | contains comparison | equals comparison => comparison.marker
  | shape => []

/-- The text of an operator, up to its operand. -/
def Operator.text (o : Operator) : Text := o.word ++ (o.marker ++ " ".toList)

/-- Reads what a comparison ignores, and the space behind it. -/
def readMarker? : Text → Option (Comparison × Text)
  | ' ' :: s => some (.exact, s)
  | '[' :: 'c' :: ']' :: ' ' :: s => some (.caseless, s)
  | '[' :: 'd' :: ']' :: ' ' :: s => some (⟨false, true⟩, s)
  | '[' :: 'c' :: 'd' :: ']' :: ' ' :: s => some (.loose, s)
  | _ => none

/-- Reads an operator. -/
def readOperator? : Text → Option (Operator × Text)
  | 'C' :: 'O' :: 'N' :: 'T' :: 'A' :: 'I' :: 'N' :: 'S' :: s =>
    (readMarker? s).map fun (comparison, s) => (.contains comparison, s)
  | '=' :: '=' :: s => (readMarker? s).map fun (comparison, s) => (.equals comparison, s)
  | 'M' :: 'A' :: 'T' :: 'C' :: 'H' :: 'E' :: 'S' :: ' ' :: s => some (.shape, s)
  | _ => none

theorem isCode_operator : IsCode Operator.text := by
  have hread : ∀ (o : Operator) (s : Text), readOperator? (o.text ++ s) = some (o, s) := by
    rintro (⟨_ | _, _ | _⟩ | ⟨_ | _, _ | _⟩ | _) s <;> rfl
  exact isCode_of_read hread

/-- The operand of a test of a field. -/
inductive Operand where
  /-- The value of a flag. -/
  | value (value : Bool)
  /-- A text or the source of a shape. -/
  | text (operand : Text)

/-- An operand as it is shown. -/
def Operand.shown : Operand → Text
  | value b => Text.ofBool b
  | text s => s.quoted

theorem isCode_operand : IsCode Operand.shown := by
  have hquoted : ∀ u : Text, ∃ tail, u.quoted = '"' :: tail := fun u => ⟨_, rfl⟩
  rintro (b | u) (c | v) s t h
  · rcases b with _ | _ <;> rcases c with _ | _ <;> simp [Operand.shown, Text.ofBool] at h <;>
      exact ⟨rfl, h⟩
  · obtain ⟨tail, hv⟩ := hquoted v
    rcases b with _ | _ <;> simp [Operand.shown, Text.ofBool, hv] at h
  · obtain ⟨tail, hu⟩ := hquoted u
    rcases c with _ | _ <;> simp [Operand.shown, Text.ofBool, hu] at h
  · obtain ⟨rfl, rfl⟩ := isCode_quoted h
    exact ⟨rfl, rfl⟩

/-! ### A predicate by its opening -/

/-- How a predicate begins. -/
def opening : Predicate F → Opening F
  | constant value => .truth value
  | all [] => .truth true
  | flag field _ | contains field _ | equals field _ | fullMatch field _ => .field field
  | firstLineContains field _ => .title field
  | all (_ :: _) => .group
  | negation _ => .denial

theorem exists_all_of_opening_group (h : p.opening = .group) :
    ∃ part rest, p = all (part :: rest) := by
  cases p with
  | all parts =>
    cases parts with
    | nil => exact absurd h (by simp [opening])
    | cons part rest => exact ⟨part, rest, rfl⟩
  | _ => exact absurd h (by simp [opening])

theorem exists_negation_of_opening_denial (h : p.opening = .denial) :
    ∃ part, p = negation part := by
  rcases p with _ | _ | _ | _ | _ | _ | (_ | _) | part
  case negation => exact ⟨part, rfl⟩
  all_goals exact absurd h (by simp [opening])

/-- The operator and the operand of a test of a field. -/
def operation? : Predicate F → Option (Operator × Operand)
  | flag _ value => some (.equals .exact, .value value)
  | contains _ pattern | firstLineContains _ pattern =>
    some (.contains pattern.comparison, .text pattern.operand)
  | equals _ pattern => some (.equals pattern.comparison, .text pattern.operand)
  | fullMatch _ shape => some (.shape, .text shape.source)
  | _ => none

/-- What a predicate is shown as behind its opening. -/
def body [Named F] : Predicate F → Text
  | constant _ | all [] => []
  | all (part :: rest) => part.render ++ (renderRest rest ++ [')'])
  | negation part => part.render
  | p => p.operation?.elim [] fun x => x.1.text ++ x.2.shown

section Shown

variable [Named F]

/-- **A predicate is shown as its opening and its body.** -/
theorem render_eq (p : Predicate F) : p.render = p.opening.text ++ p.body := by
  rw [render.eq_def]
  cases p with
  | constant value => cases value <;> rfl
  | all parts =>
    cases parts with
    | nil => rfl
    | cons part rest =>
      simp [opening, body, Opening.text, Opening.word, Opening.mark, Opening.rest]
  | negation part => rfl
  | _ =>
    simp [opening, body, operation?, Opening.text, Opening.word, Opening.mark, Opening.rest,
      Operator.text, Operator.word, Operator.marker, Operand.shown, Pattern.render,
      Comparison.marker, Comparison.exact]

theorem renderRest_nil : renderRest ([] : List (Predicate F)) = [] := by rw [renderRest.eq_def]

theorem renderRest_cons (p : Predicate F) (ps : List (Predicate F)) :
    renderRest (p :: ps) = " AND ".toList ++ p.render ++ renderRest ps := by
  rw [renderRest.eq_def]

theorem renderRest_plainAll {ps : List (Predicate F)}
    (h : ∀ p ∈ ps, p.plain.render = p.render) : renderRest (plainAll ps) = renderRest ps := by
  induction ps with
  | nil => rfl
  | cons p ps ih =>
    obtain ⟨hp, hps⟩ := List.forall_mem_cons.mp h
    rw [plainAll, renderRest_cons, renderRest_cons, hp, ih hps]

/-- **An empty conjunction is shown as the truth.** -/
theorem render_plain (p : Predicate F) : p.plain.render = p.render := by
  induction p using induction with
  | test p hp => rw [hp.plain_eq]
  | all parts ih =>
    cases parts with
    | nil => rfl
    | cons part rest =>
      obtain ⟨hpart, hrest⟩ := List.forall_mem_cons.mp ih
      rw [plain, render_eq, render_eq (all (part :: rest)), body, body, hpart,
        renderRest_plainAll hrest]
      rfl
  | negation part ih =>
    rw [plain, render_eq, render_eq part.negation, body, body, ih]
    rfl

/-! ### What is not shown -/

theorem renderRest_rereadAll {ps : List (Predicate F)}
    (h : ∀ p ∈ ps, (p.reread reads).render = p.render) :
    renderRest (rereadAll reads ps) = renderRest ps := by
  induction ps with
  | nil => rfl
  | cons p ps ih =>
    obtain ⟨hp, hps⟩ := List.forall_mem_cons.mp h
    rw [rereadAll, renderRest_cons, renderRest_cons, hp, ih hps]

/-- **What shapes accept is not shown.** -/
theorem render_reread (reads : Text → Text → Bool) (p : Predicate F) :
    (p.reread reads).render = p.render := by
  induction p using induction with
  | test p hp =>
    cases p with
    | all | negation => exact hp.elim
    | _ => rfl
  | all parts ih =>
    cases parts with
    | nil => rfl
    | cons part rest =>
      obtain ⟨hpart, hrest⟩ := List.forall_mem_cons.mp ih
      rw [reread, rereadAll, render_eq, render_eq (all (part :: rest)), body, body, hpart,
        renderRest_rereadAll hrest]
      rfl
  | negation part ih =>
    rw [reread, render_eq, render_eq part.negation, body, body, ih]
    rfl

/-- Predicates that compare equal are shown in the same way. -/
theorem render_eq_of_same [DecidableEq F] (h : p.same q = true) : p.render = q.render := by
  let reads : Text → Text → Bool := fun _ _ => false
  rw [← render_reread reads, (same_iff_reread reads).mp h, render_reread]

/-! ### What the opening says of a predicate -/

variable {s t : Text}

theorem plain_of_opening_truth {value : Bool} (h : p.opening = .truth value) :
    p.plain = constant value ∧ p.body = [] := by
  cases p with
  | constant v =>
    obtain rfl := Opening.truth.inj h
    exact ⟨rfl, rfl⟩
  | all parts =>
    cases parts with
    | nil =>
      obtain rfl := Opening.truth.inj h
      exact ⟨rfl, rfl⟩
    | cons => exact absurd h (by simp [opening])
  | _ => exact absurd h (by simp [opening])

/-- An opening that names a field. -/
def Opening.IsSubject : Opening F → Prop
  | field _ | title _ => True
  | truth _ | group | denial => False

omit [Named F] in
theorem isTest_of_isSubject (h : p.opening.IsSubject) : p.IsTest := by
  rcases p with _ | _ | _ | _ | _ | _ | (_ | _) | _
  case all.nil | all.cons | negation => exact h.elim
  all_goals trivial

/-- The test of a field with this opening, operator and operand. What a shape accepts is not told by
them. -/
def ofOperation (reads : Text → Text → Bool) : Opening F → Operator × Operand → Predicate F
  | .field f, (.equals _, .value b) => flag f b
  | .field f, (.contains c, .text u) => contains f (.of u c)
  | .field f, (.equals c, .text u) => equals f (.of u c)
  | .title f, (.contains c, .text u) => firstLineContains f (.of u c)
  | .field f, (.shape, .text u) => fullMatch f ⟨u, reads u⟩
  | _, _ => always

theorem exists_operation_of_isSubject (reads : Text → Text → Bool) (h : p.opening.IsSubject) :
    ∃ x : Operator × Operand, p.reread reads = ofOperation reads p.opening x ∧
      p.body = x.1.text ++ x.2.shown := by
  rcases p with _ | _ | ⟨f, a⟩ | ⟨f, a⟩ | ⟨f, a⟩ | _ | (_ | _) | _
  case constant | all.nil | all.cons | negation => exact h.elim
  case contains =>
    exact ⟨(.contains a.comparison, .text a.operand), congrArg (contains f) a.eq_of, rfl⟩
  case equals =>
    exact ⟨(.equals a.comparison, .text a.operand), congrArg (equals f) a.eq_of, rfl⟩
  case firstLineContains =>
    exact ⟨(.contains a.comparison, .text a.operand), congrArg (firstLineContains f) a.eq_of, rfl⟩
  all_goals exact ⟨_, rfl, rfl⟩

/-- The later parts of a conjunction end at the closing parenthesis. -/
theorem renderRest_append_inj {ps qs : List (Predicate F)}
    (ih : ∀ p ∈ ps, ∀ (q : Predicate F) (s t : Text), p.render ++ s = q.render ++ t →
      p.plain.reread reads = q.plain.reread reads ∧ s = t)
    (h : renderRest ps ++ ')' :: s = renderRest qs ++ ')' :: t) :
    rereadAll reads (plainAll ps) = rereadAll reads (plainAll qs) ∧ s = t := by
  induction ps generalizing qs with
  | nil =>
    cases qs with
    | nil => exact ⟨rfl, (List.cons.inj h).2⟩
    | cons q qs =>
      rw [renderRest_nil, renderRest_cons] at h
      simp at h
  | cons p ps ihps =>
    cases qs with
    | nil =>
      rw [renderRest_nil, renderRest_cons] at h
      simp at h
    | cons q qs =>
      obtain ⟨hp, hps⟩ := List.forall_mem_cons.mp ih
      simp only [renderRest_cons, List.append_assoc] at h
      obtain ⟨hplain, hrest⟩ := hp _ _ _ (List.append_cancel_left h)
      obtain ⟨hplains, hst⟩ := ihps hps hrest
      exact ⟨by rw [plainAll, plainAll, rereadAll, rereadAll, hplain, hplains], hst⟩

/-- **Tests of a field are a code**: after the opening come operator and operand. -/
theorem reread_eq_of_isSubject (hopening : p.opening = q.opening)
    (h : p.body ++ s = q.body ++ t) (hp : p.opening.IsSubject) :
    p.reread reads = q.reread reads ∧ s = t := by
  obtain ⟨x, hpx, hpbody⟩ := exists_operation_of_isSubject reads hp
  obtain ⟨y, hqy, hqbody⟩ := exists_operation_of_isSubject reads (hopening ▸ hp)
  rw [hpbody, hqbody] at h
  obtain ⟨rfl, rfl⟩ := isCode_operator.append isCode_operand h
  exact ⟨by rw [hpx, hqy, hopening], rfl⟩

variable [PlainlyNamed F]

/-- If what is shown begins in the same way, so do the predicates. -/
theorem opening_eq_of_render_append_eq (h : p.render ++ s = q.render ++ t) :
    p.opening = q.opening ∧ p.body ++ s = q.body ++ t := by
  rw [render_eq, render_eq q, List.append_assoc, List.append_assoc] at h
  exact Opening.isCode_text h

theorem plain_eq_of_opening_truth {value : Bool} (hp : p.opening = .truth value)
    (h : p.render ++ s = q.render ++ t) : p.plain = q.plain ∧ s = t := by
  obtain ⟨hopening, hbody⟩ := opening_eq_of_render_append_eq h
  obtain ⟨hplain, hnil⟩ := plain_of_opening_truth hp
  obtain ⟨hplain', hnil'⟩ := plain_of_opening_truth (hopening ▸ hp)
  rw [hnil, hnil'] at hbody
  exact ⟨by rw [hplain, hplain'], hbody⟩

/-- **A rendered predicate can be read**, whatever follows it: up to empty conjunctions and what
shapes accept, the text shows which predicate it begins with and what is left. -/
theorem render_append_inj (reads : Text → Text → Bool) (p : Predicate F) :
    ∀ (q : Predicate F) (s t : Text), p.render ++ s = q.render ++ t →
      p.plain.reread reads = q.plain.reread reads ∧ s = t := by
  -- The openings are the same, and by its opening the other predicate is of the same kind.
  induction p using induction with
  | test p hp =>
    intro q s t h
    cases p with
    | constant =>
      obtain ⟨hplain, hst⟩ := plain_eq_of_opening_truth rfl h
      exact ⟨by rw [hplain], hst⟩
    | all | negation => exact hp.elim
    | _ =>
      obtain ⟨hopening, hbody⟩ := opening_eq_of_render_append_eq h
      have hq : q.plain = q := IsTest.plain_eq (isTest_of_isSubject (hopening ▸ trivial))
      rw [hp.plain_eq, hq]
      exact reread_eq_of_isSubject hopening hbody trivial
  | all parts ih =>
    intro q s t h
    cases parts with
    | nil =>
      obtain ⟨hplain, hst⟩ := plain_eq_of_opening_truth rfl h
      exact ⟨by rw [hplain], hst⟩
    | cons part rest =>
      obtain ⟨hopening, hbody⟩ := opening_eq_of_render_append_eq h
      obtain ⟨part', rest', rfl⟩ := exists_all_of_opening_group hopening.symm
      obtain ⟨hpart, hparts⟩ := List.forall_mem_cons.mp ih
      simp only [body, List.append_assoc, List.singleton_append] at hbody
      obtain ⟨hplain, hrest⟩ := hpart _ _ _ hbody
      obtain ⟨hplains, hst⟩ := renderRest_append_inj hparts hrest
      exact ⟨by rw [plain, plain, reread, reread, rereadAll, rereadAll, hplain, hplains], hst⟩
  | negation part ih =>
    intro q s t h
    obtain ⟨hopening, hbody⟩ := opening_eq_of_render_append_eq h
    obtain ⟨part', rfl⟩ := exists_negation_of_opening_denial hopening.symm
    obtain ⟨hplain, hst⟩ := ih _ _ _ hbody
    exact ⟨by rw [plain, plain, reread, reread, hplain], hst⟩

end Shown

/-! ### Rendered predicates are equal exactly if the predicates are -/

/-- **A rendered filter tells which one it is**: two predicates are shown in the same way exactly if
they compare equal, up to empty conjunctions. Where shapes with the same source accept the same,
they are then one predicate up to empty conjunctions, and the same notes pass both. -/
theorem render_eq_iff (p q : Predicate NoteField) :
    (p.render = q.render ↔ p.plain.same q.plain = true) ∧
      ∀ reads, p.IsReadBy reads → q.IsReadBy reads →
        (p.render = q.render ↔ p.plain = q.plain) ∧
        (p.render = q.render → ∀ n : Note, p.holds n = q.holds n) := by
  have hsame : p.render = q.render → p.plain.same q.plain = true := fun h =>
    (same_iff_reread (fun _ _ => false)).mpr (render_append_inj _ p q [] [] (by rw [h])).1
  refine ⟨⟨hsame, fun h => ?_⟩, fun reads hp hq => ?_⟩
  · rw [← render_plain, ← render_plain q, render_eq_of_same h]
  have hplain : p.render = q.render → p.plain = q.plain := fun h =>
    hp.plain.eq_of_same hq.plain (hsame h)
  refine ⟨⟨hplain, fun h => ?_⟩, fun h n => ?_⟩
  · rw [← render_plain, h, render_plain]
  · rw [← holds_plain, hplain h, holds_plain]

/-- Two predicates that are not the same and are shown in the same way. Their operand looks like the
end of one operand and the beginning of another. -/
theorem render_eq_iff_empty_conjunction :
    let operand : Predicate NoteField := contains .content (.of "\" AND \"".toList .loose)
    let p : Predicate NoteField := all [negation (all []), operand]
    let q : Predicate NoteField := all [negation always, operand]
    p.same q = false ∧ p.render = q.render ∧ p.plain = q.plain ∧
      ∀ n : Note, p.holds n = q.holds n := by
  intro operand p q
  have hrender : p.render = q.render := rfl
  obtain ⟨hiff, hholds⟩ := (render_eq_iff p q).2 (fun _ _ => false) rfl rfl
  exact ⟨rfl, hrender, hiff.mp hrender, hholds hrender⟩

end Predicate

end NoteSieve
