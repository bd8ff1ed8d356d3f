import NoteSieve.Proofs.Json.Number
import NoteSieve.Proofs.Text.Words

/-!
# The spellings of a value

The grammar of JSON beside its reader: which texts spell a value (`NoteSieve.Json.Spelled`), with
white space wherever the grammar has room for it, with any escapes, and with the members of an
object in any order. What is between two commas of an array is a spelling again, and so is either
side of the colon of a member; that makes the grammar one inductive relation, and an induction over
it one case for each kind of value.

**The reader reads a text as a value exactly if the text spells it**
(`NoteSieve.Json.read?_eq_some_iff`), so a text spells one value at most
(`NoteSieve.Json.Spelled.unique`). The two directions need different things:

* what is read is spelled (`NoteSieve.Json.spelled_of_readValue`) by induction on the calls that are
  counted down. The reader leaves the white space behind a value to whoever called it, and the
  grammar gives it to the value, so that nothing has to be said about the text that is left;
* what is spelled is read (`NoteSieve.Json.Spelled.isRead`) by induction on the spelling. A number
  ends where nothing goes on with it, so this needs to know what may follow a value
  (`NoteSieve.Json.Ends`); and the calls have to last, for which two of them for each character are
  enough.
-/

namespace NoteSieve.Json

open Text

variable {s t rest : Text}

/-! ### Values -/

/-- One member of an object as it is spelled. -/
structure SpelledMember where
  /-- What stands in front of the colon. -/
  keyText : Text
  /-- The key that this spells. -/
  key : StringText
  /-- What stands behind the colon. -/
  valueText : Text
  /-- The value that this spells. -/
  value : Json

namespace SpelledMember

/-- The text of a member. -/
def text (m : SpelledMember) : Text := m.keyText ++ ':' :: m.valueText

/-- The member that the text spells. -/
def pair (m : SpelledMember) : StringText × Json := (m.key, m.value)

end SpelledMember

/-- **The texts that spell a value**, white space around it included. -/
inductive Spelled : Text → Json → Prop
  | spaced {before s after : Text} {value : Json} :
      IsWhite before → Spelled s value → IsWhite after → Spelled (before ++ (s ++ after)) value
  | null : Spelled "null".toList .null
  | bool (b : Bool) : Spelled (Text.ofBool b) (.bool b)
  | number {s : Text} : IsNumber s → Spelled s (.number s)
  | string {s : Text} {units : List Nat} :
      Spells s units → Spelled ('"' :: (s ++ ['"'])) (.string (textOfUnits units))
  | emptyArray {s : Text} : IsWhite s → Spelled ('[' :: (s ++ [']'])) (.array [])
  | array {parts : List (Text × Json)} : parts ≠ [] → (∀ p ∈ parts, Spelled p.1 p.2) →
      Spelled ('[' :: (joinWith [','] (parts.map Prod.fst) ++ [']'])) (.array (parts.map Prod.snd))
  | emptyObject {s : Text} : IsWhite s → Spelled ('\x7b' :: (s ++ ['\x7d'])) (.object [])
  | object {parts : List SpelledMember} : parts ≠ [] →
      (∀ m ∈ parts, Spelled m.keyText (.string m.key)) →
      (∀ m ∈ parts, Spelled m.valueText m.value) →
      Spelled ('\x7b' :: (joinWith [','] (parts.map SpelledMember.text) ++ ['\x7d']))
        (.object (parts.map SpelledMember.pair))

theorem Spelled.behind {value : Json} (h : Spelled t value) (hs : IsWhite s) :
    Spelled (s ++ t) value := by
  have := Spelled.spaced hs h isWhite_nil
  rwa [List.append_nil] at this

theorem Spelled.before {value : Json} (h : Spelled s value) (ht : IsWhite t) :
    Spelled (s ++ t) value := Spelled.spaced isWhite_nil h ht

/-- What spells a string has white space around its quotes, and nothing else. -/
theorem exists_spells_of_spelled {key : StringText} (h : Spelled s (.string key)) :
    ∃ before spelling units after, s = before ++ '"' :: (spelling ++ '"' :: after) ∧
      IsWhite before ∧ IsWhite after ∧ Spells spelling units ∧ textOfUnits units = key := by
  generalize hvalue : Json.string key = value at h
  induction h with
  | @spaced before s after value hbefore _ hafter ih =>
    obtain ⟨before', spelling, units, after', rfl, hbefore', hafter', hspells, hkey⟩ := ih hvalue
    exact ⟨before ++ before', spelling, units, after' ++ after, by simp,
      hbefore.append hbefore', hafter'.append hafter, hspells, hkey⟩
  | @string s units hspells =>
    exact ⟨[], s, units, [], rfl, isWhite_nil, isWhite_nil, hspells, (Json.string.inj hvalue).symm⟩
  | _ => exact absurd hvalue (by simp)

/-- What spells an array has white space around its brackets. Between them there is nothing but
white space, or there are the spellings of its elements, with a comma between two of them. -/
theorem exists_parts_of_spelled {elements : List Json} (h : Spelled s (.array elements)) :
    ∃ before inner after, s = before ++ '[' :: (inner ++ ']' :: after) ∧
      IsWhite before ∧ IsWhite after ∧ ((IsWhite inner ∧ elements = []) ∨
        ∃ parts : List (Text × Json), parts ≠ [] ∧ (∀ p ∈ parts, Spelled p.1 p.2) ∧
          inner = joinWith [','] (parts.map Prod.fst) ∧ elements = parts.map Prod.snd) := by
  generalize hvalue : Json.array elements = value at h
  induction h with
  | @spaced before s after value hbefore _ hafter ih =>
    obtain ⟨before', inner, after', rfl, hbefore', hafter', hinner⟩ := ih hvalue
    exact ⟨before ++ before', inner, after' ++ after, by simp, hbefore.append hbefore',
      hafter'.append hafter, hinner⟩
  | @emptyArray s hs =>
    exact ⟨[], s, [], rfl, isWhite_nil, isWhite_nil, Or.inl ⟨hs, Json.array.inj hvalue⟩⟩
  | @array parts hne hparts _ =>
    exact ⟨[], _, [], rfl, isWhite_nil, isWhite_nil,
      Or.inr ⟨parts, hne, hparts, rfl, Json.array.inj hvalue⟩⟩
  | _ => exact absurd hvalue (by simp)

/-! ### What is read is spelled -/

theorem exists_spelled_of_readString {key : StringText} (h : readString s = some (key, rest)) :
    ∃ spelling, s = spelling ++ '"' :: rest ∧
      Spelled ('"' :: (spelling ++ ['"'])) (.string key) := by
  obtain ⟨⟨units, rest'⟩, hunits, hpair⟩ := Option.map_eq_some_iff.mp h
  obtain ⟨rfl, rfl⟩ := Prod.mk.inj hpair
  obtain ⟨spelling, rfl, hspells⟩ := readUnits_eq_some_iff.mp hunits
  exact ⟨spelling, rfl, .string hspells⟩

/-- What so many calls read of a value is spelled. -/
def ValueSpelled (fuel : Nat) : Prop :=
  ∀ {s rest : Text} {value : Json}, readValue fuel s = some (value, rest) →
    ∃ t, s = t ++ rest ∧ Spelled t value

/-- What so many calls read of elements is spelled. -/
def ElementsSpelled (fuel : Nat) : Prop :=
  ∀ {s rest : Text} {elements : List Json}, readElements fuel s = some (elements, rest) →
    ∃ parts : List (Text × Json), parts ≠ [] ∧ (∀ p ∈ parts, Spelled p.1 p.2) ∧
      s = joinWith [','] (parts.map Prod.fst) ++ ']' :: rest ∧ parts.map Prod.snd = elements

/-- What so many calls read of members is spelled. -/
def MembersSpelled (fuel : Nat) : Prop :=
  ∀ {s rest : Text} {members : List (StringText × Json)},
    readMembers fuel s = some (members, rest) →
      ∃ parts : List SpelledMember, parts ≠ [] ∧
        (∀ m ∈ parts, Spelled m.keyText (.string m.key) ∧ Spelled m.valueText m.value) ∧
        s = joinWith [','] (parts.map SpelledMember.text) ++ '\x7d' :: rest ∧
        parts.map SpelledMember.pair = members

theorem valueSpelled_succ {fuel : Nat} (helements : ElementsSpelled fuel)
    (hmembers : MembersSpelled fuel) : ValueSpelled (fuel + 1) := by
  intro s rest value h
  -- The white space in front is that of the value.
  suffices hfront : ∃ t, skipSpace s = t ++ rest ∧ Spelled t value by
    obtain ⟨t, hskip, ht⟩ := hfront
    obtain ⟨space, hspace, rfl⟩ := exists_isWhite hskip
    exact ⟨space ++ t, by rw [List.append_assoc], ht.behind hspace⟩
  rw [readValue] at h
  split at h
  case h_1 t ht =>
    obtain ⟨rfl, rfl⟩ := Prod.mk.inj (Option.some.inj h)
    exact ⟨"null".toList, ht, .null⟩
  case h_2 t ht =>
    obtain ⟨rfl, rfl⟩ := Prod.mk.inj (Option.some.inj h)
    exact ⟨"true".toList, ht, .bool true⟩
  case h_3 t ht =>
    obtain ⟨rfl, rfl⟩ := Prod.mk.inj (Option.some.inj h)
    exact ⟨"false".toList, ht, .bool false⟩
  case h_4 t ht =>
    obtain ⟨⟨key, rest'⟩, hread, hpair⟩ := Option.map_eq_some_iff.mp h
    obtain ⟨rfl, rfl⟩ := Prod.mk.inj hpair
    obtain ⟨spelling, rfl, hspelled⟩ := exists_spelled_of_readString hread
    exact ⟨_, by simp [ht], hspelled⟩
  case h_5 t ht =>
    split at h
    · next t' ht' =>
      obtain ⟨rfl, rfl⟩ := Prod.mk.inj (Option.some.inj h)
      obtain ⟨space, hspace, rfl⟩ := exists_isWhite ht'
      exact ⟨_, by simp [ht], .emptyArray hspace⟩
    · obtain ⟨⟨elements, rest'⟩, hread, hpair⟩ := Option.map_eq_some_iff.mp h
      obtain ⟨rfl, rfl⟩ := Prod.mk.inj hpair
      obtain ⟨parts, hne, hparts, rfl, rfl⟩ := helements hread
      exact ⟨_, by simp [ht], .array hne hparts⟩
  case h_6 t ht =>
    split at h
    · next t' ht' =>
      obtain ⟨rfl, rfl⟩ := Prod.mk.inj (Option.some.inj h)
      obtain ⟨space, hspace, rfl⟩ := exists_isWhite ht'
      exact ⟨_, by simp [ht], .emptyObject hspace⟩
    · obtain ⟨⟨members, rest'⟩, hread, hpair⟩ := Option.map_eq_some_iff.mp h
      obtain ⟨rfl, rfl⟩ := Prod.mk.inj hpair
      obtain ⟨parts, hne, hparts, rfl, rfl⟩ := hmembers hread
      refine ⟨_, by simp [ht], .object hne (fun m hm => ?_) fun m hm => ?_⟩
      · exact (hparts m hm).1
      · exact (hparts m hm).2
  case h_7 =>
    obtain ⟨⟨spelling, rest'⟩, hread, hpair⟩ := Option.map_eq_some_iff.mp h
    obtain ⟨rfl, rfl⟩ := Prod.mk.inj hpair
    obtain ⟨hs, hnumber⟩ := isNumber_of_readNumber hread
    exact ⟨spelling, hs, .number hnumber⟩

/-- What is read of the first element, and what comes behind it. -/
theorem readElements_succ_eq_some {fuel : Nat} {elements : List Json}
    (h : readElements (fuel + 1) s = some (elements, rest)) :
    ∃ element tail, readValue fuel s = some (element, tail) ∧
      ((skipSpace tail = ']' :: rest ∧ elements = [element]) ∨
        ∃ next more, skipSpace tail = ',' :: next ∧ readElements fuel next = some (more, rest) ∧
          elements = element :: more) := by
  rw [readElements] at h
  split at h
  · exact absurd h (by simp)
  · next element tail hread =>
    refine ⟨element, tail, hread, ?_⟩
    split at h
    · next next hnext =>
      obtain ⟨⟨more, rest'⟩, hmore, hpair⟩ := Option.map_eq_some_iff.mp h
      obtain ⟨rfl, rfl⟩ := Prod.mk.inj hpair
      exact Or.inr ⟨next, more, hnext, hmore, rfl⟩
    · next rest' hrest =>
      obtain ⟨rfl, rfl⟩ := Prod.mk.inj (Option.some.inj h)
      exact Or.inl ⟨hrest, rfl⟩
    · exact absurd h (by simp)

theorem elementsSpelled_succ {fuel : Nat} (hvalue : ValueSpelled fuel)
    (helements : ElementsSpelled fuel) : ElementsSpelled (fuel + 1) := by
  intro s rest elements h
  obtain ⟨element, tail, hread, hrest⟩ := readElements_succ_eq_some h
  obtain ⟨t, rfl, ht⟩ := hvalue hread
  rcases hrest with ⟨hclose, rfl⟩ | ⟨next, more, hcomma, hmore, rfl⟩
  · obtain ⟨space, hspace, rfl⟩ := exists_isWhite hclose
    refine ⟨[(t ++ space, element)], List.cons_ne_nil _ _,
      List.forall_mem_singleton.mpr (ht.before hspace), ?_, rfl⟩
    simp [joinWith]
  · obtain ⟨space, hspace, rfl⟩ := exists_isWhite hcomma
    obtain ⟨parts, hne, hparts, rfl, rfl⟩ := helements hmore
    refine ⟨(t ++ space, element) :: parts, List.cons_ne_nil _ _,
      List.forall_mem_cons.mpr ⟨ht.before hspace, hparts⟩, ?_, rfl⟩
    rw [joinWith_map_cons hne]
    simp

/-- What is read of the first member, and what comes behind it. -/
theorem readMembers_succ_eq_some {fuel : Nat} {members : List (StringText × Json)}
    (h : readMembers (fuel + 1) s = some (members, rest)) :
    ∃ t key colon u value tail, skipSpace s = '"' :: t ∧ readString t = some (key, colon) ∧
      skipSpace colon = ':' :: u ∧ readValue fuel u = some (value, tail) ∧
      ((skipSpace tail = '\x7d' :: rest ∧ members = [(key, value)]) ∨
        ∃ next more, skipSpace tail = ',' :: next ∧ readMembers fuel next = some (more, rest) ∧
          members = (key, value) :: more) := by
  rw [readMembers] at h
  split at h
  · next t ht =>
    split at h
    · exact absurd h (by simp)
    next key colon hkey =>
    split at h
    · next u hu =>
      split at h
      · exact absurd h (by simp)
      next value tail hvalue =>
      refine ⟨t, key, colon, u, value, tail, ht, hkey, hu, hvalue, ?_⟩
      split at h
      · next next hnext =>
        obtain ⟨⟨more, rest'⟩, hmore, hpair⟩ := Option.map_eq_some_iff.mp h
        obtain ⟨rfl, rfl⟩ := Prod.mk.inj hpair
        exact Or.inr ⟨next, more, hnext, hmore, rfl⟩
      · next rest' hrest =>
        obtain ⟨rfl, rfl⟩ := Prod.mk.inj (Option.some.inj h)
        exact Or.inl ⟨hrest, rfl⟩
      · exact absurd h (by simp)
    · exact absurd h (by simp)
  · exact absurd h (by simp)

theorem membersSpelled_succ {fuel : Nat} (hvalue : ValueSpelled fuel)
    (hmembers : MembersSpelled fuel) : MembersSpelled (fuel + 1) := by
  intro s rest members h
  obtain ⟨t, key, colon, u, value, tail, hs, hkey, hcolon, hread, hrest⟩ :=
    readMembers_succ_eq_some h
  obtain ⟨before, hbefore, rfl⟩ := exists_isWhite hs
  obtain ⟨spelling, rfl, hspelled⟩ := exists_spelled_of_readString hkey
  obtain ⟨after, hafter, rfl⟩ := exists_isWhite hcolon
  obtain ⟨v, rfl, hv⟩ := hvalue hread
  have hkeyText := Spelled.spaced hbefore hspelled hafter
  rcases hrest with ⟨hclose, rfl⟩ | ⟨next, more, hcomma, hmore, rfl⟩
  · obtain ⟨space, hspace, rfl⟩ := exists_isWhite hclose
    refine ⟨[⟨_, key, v ++ space, value⟩], List.cons_ne_nil _ _,
      List.forall_mem_singleton.mpr ⟨hkeyText, hv.before hspace⟩, ?_, rfl⟩
    simp [joinWith, SpelledMember.text]
  · obtain ⟨space, hspace, rfl⟩ := exists_isWhite hcomma
    obtain ⟨parts, hne, hparts, rfl, rfl⟩ := hmembers hmore
    refine ⟨⟨_, key, v ++ space, value⟩ :: parts, List.cons_ne_nil _ _,
      List.forall_mem_cons.mpr ⟨⟨hkeyText, hv.before hspace⟩, hparts⟩, ?_, rfl⟩
    rw [joinWith_map_cons hne]
    simp [SpelledMember.text]

/-- **Whatever is read is spelled**, by any number of calls. -/
theorem spelled_of_read (fuel : Nat) :
    ValueSpelled fuel ∧ ElementsSpelled fuel ∧ MembersSpelled fuel := by
  induction fuel with
  | zero =>
    refine ⟨?_, ?_, ?_⟩ <;> intro s rest _ h
    · exact absurd h (by simp)
    · exact absurd h (by simp)
    · exact absurd h (by simp)
  | succ fuel ih =>
    obtain ⟨hvalue, helements, hmembers⟩ := ih
    exact ⟨valueSpelled_succ helements hmembers, elementsSpelled_succ hvalue helements,
      membersSpelled_succ hvalue hmembers⟩

theorem spelled_of_readValue {fuel : Nat} {value : Json}
    (h : readValue fuel s = some (value, rest)) : ∃ t, s = t ++ rest ∧ Spelled t value :=
  (spelled_of_read fuel).1 h

/-! ### What is spelled is read -/

/-- **A spelling is read wherever it stands**, as long as nothing goes on with it. Some of the white
space behind it may be left. -/
def IsRead (s : Text) (value : Json) : Prop :=
  ∀ {fuel : Nat} {rest : Text}, 2 * s.length ≤ fuel → Ends rest →
    ∃ left, IsWhite left ∧ readValue fuel (s ++ rest) = some (value, left ++ rest)

theorem readValue_append_of_isWhite (hs : IsWhite s) (fuel : Nat) (t : Text) :
    readValue fuel (s ++ t) = readValue fuel t := by
  cases fuel with
  | zero => rw [readValue_zero, readValue_zero]
  | succ fuel => rw [readValue, readValue, skipSpace_append hs]

section Parts

variable {parts : List (Text × Json)} {members : List SpelledMember} {fuel : Nat}

/-- **Elements are read one by one.** -/
theorem readElements_append (hne : parts ≠ []) (h : ∀ p ∈ parts, IsRead p.1 p.2)
    (hfuel : 2 * (joinWith [','] (parts.map Prod.fst)).length < fuel) (rest : Text) :
    readElements fuel (joinWith [','] (parts.map Prod.fst) ++ ']' :: rest)
      = some (parts.map Prod.snd, rest) := by
  induction parts generalizing fuel with
  | nil => exact absurd rfl hne
  | cons p parts ih =>
    obtain ⟨fuel, rfl⟩ : ∃ k, fuel = k + 1 := ⟨fuel - 1, by omega⟩
    obtain ⟨hp, hparts⟩ := List.forall_mem_cons.mp h
    by_cases hnil : parts = []
    · subst hnil
      have hone : joinWith [','] ([p].map Prod.fst) = p.1 := by simp [joinWith]
      rw [hone] at hfuel ⊢
      obtain ⟨left, hleft, hread⟩ :=
        @hp fuel (']' :: rest) (by omega) (ends_cons (by simp) rest)
      rw [readElements, hread]
      simp only [skipSpace_append_cons hleft (show isSpace ']' = false by decide)]
      rfl
    · rw [joinWith_map_cons hnil] at hfuel ⊢
      simp only [List.length_append, List.length_cons, List.length_nil] at hfuel
      simp only [List.append_assoc, List.cons_append, List.nil_append]
      obtain ⟨left, hleft, hread⟩ := @hp fuel
        (',' :: (joinWith [','] (parts.map Prod.fst) ++ ']' :: rest)) (by omega)
        (ends_cons (by simp) _)
      rw [readElements, hread]
      simp only [skipSpace_append_cons hleft (show isSpace ',' = false by decide)]
      rw [ih hnil hparts (by omega)]
      rfl

theorem exists_readString_of_spelled {key : StringText} (h : Spelled s (.string key)) (t : Text) :
    ∃ u left, IsWhite left ∧ skipSpace (s ++ t) = '"' :: u ∧
      readString u = some (key, left ++ t) := by
  obtain ⟨before, spelling, units, after, rfl, hbefore, hafter, hspells, rfl⟩ :=
    exists_spells_of_spelled h
  refine ⟨spelling ++ '"' :: (after ++ t), after, hafter, ?_, ?_⟩
  · rw [List.append_assoc, List.cons_append, List.append_assoc, List.cons_append]
    exact skipSpace_append_cons hbefore (by decide) _
  · rw [readString, hspells.readUnits_append, Option.map_some]

/-- A member is read up to what may follow its value. -/
theorem exists_readMembers_eq {m : SpelledMember} (hkey : Spelled m.keyText (.string m.key))
    (hvalue : IsRead m.valueText m.value) (hfuel : 2 * m.text.length ≤ fuel) (rest : Text)
    (hrest : Ends rest) :
    ∃ left, IsWhite left ∧ readMembers (fuel + 1) (m.text ++ rest) =
      match skipSpace (left ++ rest) with
      | ',' :: rest => (readMembers fuel rest).map fun (ms, rest) => (m.pair :: ms, rest)
      | '\x7d' :: rest => some ([m.pair], rest)
      | _ => none := by
  rw [SpelledMember.text, List.length_append, List.length_cons] at hfuel
  obtain ⟨left, hleft, hread⟩ := @hvalue fuel rest (by omega) hrest
  obtain ⟨u, space, hspace, hskip, hstring⟩ :=
    exists_readString_of_spelled hkey (':' :: (m.valueText ++ rest))
  refine ⟨left, hleft, ?_⟩
  rw [SpelledMember.text, List.append_assoc, List.cons_append, readMembers, hskip]
  simp only [hstring, skipSpace_append_cons hspace (show isSpace ':' = false by decide), hread]
  rfl

/-- **Members are read one by one.** -/
theorem readMembers_append (hne : members ≠ [])
    (hkey : ∀ m ∈ members, Spelled m.keyText (.string m.key))
    (hvalue : ∀ m ∈ members, IsRead m.valueText m.value)
    (hfuel : 2 * (joinWith [','] (members.map SpelledMember.text)).length < fuel) (rest : Text) :
    readMembers fuel (joinWith [','] (members.map SpelledMember.text) ++ '\x7d' :: rest)
      = some (members.map SpelledMember.pair, rest) := by
  induction members generalizing fuel with
  | nil => exact absurd rfl hne
  | cons m members ih =>
    obtain ⟨fuel, rfl⟩ : ∃ k, fuel = k + 1 := ⟨fuel - 1, by omega⟩
    obtain ⟨hk, hkeys⟩ := List.forall_mem_cons.mp hkey
    obtain ⟨hv, hvalues⟩ := List.forall_mem_cons.mp hvalue
    by_cases hnil : members = []
    · subst hnil
      have hone : joinWith [','] ([m].map SpelledMember.text) = m.text := by simp [joinWith]
      rw [hone] at hfuel ⊢
      obtain ⟨left, hleft, hread⟩ := exists_readMembers_eq hk hv (by omega : _ ≤ fuel)
        ('\x7d' :: rest) (ends_cons (by simp) rest)
      rw [hread]
      simp only [skipSpace_append_cons hleft (show isSpace '\x7d' = false by decide)]
      rfl
    · rw [joinWith_map_cons hnil] at hfuel ⊢
      simp only [List.length_append, List.length_cons, List.length_nil] at hfuel
      simp only [List.append_assoc, List.cons_append, List.nil_append]
      obtain ⟨left, hleft, hread⟩ := exists_readMembers_eq hk hv (by omega : _ ≤ fuel)
        (',' :: (joinWith [','] (members.map SpelledMember.text) ++ '\x7d' :: rest))
        (ends_cons (by simp) _)
      rw [hread]
      simp only [skipSpace_append_cons hleft (show isSpace ',' = false by decide)]
      rw [ih hnil hkeys hvalues (by omega)]
      rfl

end Parts

/-- No element begins with a closing bracket. -/
theorem readElements_bracket (h : skipSpace s = ']' :: t) (fuel : Nat) :
    readElements fuel s = none := by
  have hvalue : ∀ fuel, readValue fuel s = none := by
    intro fuel
    cases fuel with
    | zero => exact readValue_zero s
    | succ fuel =>
      rw [readValue, h]
      rfl
  cases fuel with
  | zero => exact readElements_zero s
  | succ fuel => rw [readElements, hvalue]

/-- No member begins with a closing brace. -/
theorem readMembers_brace (h : skipSpace s = '\x7d' :: t) (fuel : Nat) :
    readMembers fuel s = none := by
  cases fuel with
  | zero => exact readMembers_zero s
  | succ fuel =>
    rw [readMembers, h]
    rfl

theorem readValue_bracket {fuel : Nat} {elements : List Json}
    (h : readElements fuel s = some (elements, rest)) :
    readValue (fuel + 1) ('[' :: s) = some (.array elements, rest) := by
  rw [readValue, skipSpace_cons (by decide)]
  simp only
  split
  · next t ht =>
    rw [readElements_bracket ht] at h
    exact absurd h (by simp)
  · rw [h, Option.map_some]

theorem readValue_brace {fuel : Nat} {members : List (StringText × Json)}
    (h : readMembers fuel s = some (members, rest)) :
    readValue (fuel + 1) ('\x7b' :: s) = some (.object members, rest) := by
  rw [readValue, skipSpace_cons (by decide)]
  simp only
  split
  · next t ht =>
    rw [readMembers_brace ht] at h
    exact absurd h (by simp)
  · rw [h, Option.map_some]

/-- A digit or a minus begins nothing but a number. -/
theorem readValue_number {c : Char} {spelling : Text} (hc : c = '-' ∨ isDigit c = true)
    (h : readNumber (c :: t) = some (spelling, rest)) (fuel : Nat) :
    readValue (fuel + 1) (c :: t) = some (.number spelling, rest) := by
  have hne : ∀ d, isDigit d = false → d ≠ '-' → c ≠ d := by
    rintro d hd hminus rfl
    rcases hc with hc | hc
    · exact hminus hc
    · rw [hd] at hc
      exact Bool.false_ne_true hc
  have hspace : isSpace c = false := by
    rw [Bool.eq_false_iff]
    intro hspace
    rcases isSpace_iff.mp hspace with rfl | rfl | rfl | rfl <;> exact hne _ rfl (by decide) rfl
  rw [readValue, skipSpace_cons hspace]
  split
  case h_7 => rw [h, Option.map_some]
  all_goals
    next h => exact absurd (List.cons.inj h).1 (hne _ rfl (by decide))

/-- What one call reads is read wherever it stands. -/
theorem isRead_of_one_call {value : Json} (hs : s ≠ [])
    (h : ∀ (fuel : Nat) {rest : Text}, Ends rest →
      readValue (fuel + 1) (s ++ rest) = some (value, rest)) : IsRead s value := by
  intro fuel rest hfuel hrest
  have hlength := List.length_pos_iff.mpr hs
  obtain ⟨fuel, rfl⟩ : ∃ k, fuel = k + 1 := ⟨fuel - 1, by omega⟩
  exact ⟨[], isWhite_nil, h fuel hrest⟩

/-- **Whatever is spelled is read.** -/
theorem Spelled.isRead {value : Json} (h : Spelled s value) : IsRead s value := by
  induction h with
  | @spaced before s after value hbefore _ hafter ih =>
    intro fuel rest hfuel hrest
    simp only [List.length_append] at hfuel
    obtain ⟨left, hleft, hread⟩ := @ih fuel (after ++ rest) (by omega) (hrest.behind hafter)
    refine ⟨left ++ after, hleft.append hafter, ?_⟩
    rw [List.append_assoc, List.append_assoc, readValue_append_of_isWhite hbefore, hread,
      List.append_assoc]
  | null =>
    refine isRead_of_one_call (by decide) fun fuel rest _ => ?_
    rw [readValue]
    rfl
  | bool b =>
    refine isRead_of_one_call (by cases b <;> decide) fun fuel rest _ => ?_
    cases b <;> rw [readValue] <;> rfl
  | @number s hnumber =>
    obtain ⟨c, t, rfl, hc⟩ := hnumber.exists_cons
    exact isRead_of_one_call (List.cons_ne_nil c t) fun fuel _ hrest =>
      readValue_number hc (hnumber.readNumber_append hrest) fuel
  | @string s units hspells =>
    refine isRead_of_one_call (List.cons_ne_nil _ _) fun fuel rest _ => ?_
    rw [List.cons_append, List.append_assoc, readValue, skipSpace_cons (by decide)]
    simp [readString, hspells.readUnits_append]
  | @emptyArray s hs =>
    refine isRead_of_one_call (List.cons_ne_nil _ _) fun fuel rest _ => ?_
    rw [List.cons_append, List.append_assoc, readValue, skipSpace_cons (by decide)]
    simp only [List.cons_append, skipSpace_append_cons hs (show isSpace ']' = false by decide)]
    rfl
  | @array parts hne _ ih =>
    intro fuel rest hfuel _
    simp only [List.length_cons, List.length_append, List.length_nil] at hfuel
    obtain ⟨fuel, rfl⟩ : ∃ k, fuel = k + 1 := ⟨fuel - 1, by omega⟩
    have hread := readElements_append hne ih (by omega : _ < fuel) rest
    refine ⟨[], isWhite_nil, ?_⟩
    rw [List.cons_append, List.append_assoc]
    exact readValue_bracket hread
  | @emptyObject s hs =>
    refine isRead_of_one_call (List.cons_ne_nil _ _) fun fuel rest _ => ?_
    rw [List.cons_append, List.append_assoc, readValue, skipSpace_cons (by decide)]
    simp only [List.cons_append, skipSpace_append_cons hs (show isSpace '\x7d' = false by decide)]
    rfl
  | @object parts hne hkeys _ _ ih =>
    intro fuel rest hfuel _
    simp only [List.length_cons, List.length_append, List.length_nil] at hfuel
    obtain ⟨fuel, rfl⟩ : ∃ k, fuel = k + 1 := ⟨fuel - 1, by omega⟩
    have hread := readMembers_append hne hkeys ih (by omega : _ < fuel) rest
    refine ⟨[], isWhite_nil, ?_⟩
    rw [List.cons_append, List.append_assoc]
    exact readValue_brace hread

/-! ### The reader and the grammar -/

/-- **The reader reads a text as a value exactly if the text spells it.** -/
theorem read?_eq_some_iff {value : Json} : read? s = some value ↔ Spelled s value := by
  constructor
  · intro h
    rw [read?] at h
    split at h
    · next value' rest hread =>
      split at h
      · next hempty =>
        obtain rfl := Option.some.inj h
        obtain ⟨t, rfl, ht⟩ := spelled_of_readValue hread
        obtain ⟨space, hspace, rfl⟩ := exists_isWhite (List.isEmpty_iff.mp hempty)
        exact ht.before (hspace.append isWhite_nil)
      · exact absurd h (by simp)
    · exact absurd h (by simp)
  · intro h
    obtain ⟨left, hleft, hread⟩ :=
      @Spelled.isRead s value h (2 * s.length + 1) [] (by omega) fun c hc => absurd hc (by simp)
    rw [List.append_nil, List.append_nil] at hread
    rw [read?, hread]
    exact if_pos (List.isEmpty_iff.mpr (skipSpace_eq_nil hleft))

/-- **A text spells one value at most.** -/
theorem Spelled.unique {value value' : Json} (h : Spelled s value) (h' : Spelled s value') :
    value = value' :=
  Option.some.inj ((read?_eq_some_iff.mpr h).symm.trans (read?_eq_some_iff.mpr h'))

end NoteSieve.Json
