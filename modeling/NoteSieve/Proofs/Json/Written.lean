import NoteSieve.Json.Writer
import NoteSieve.Proofs.Json.Grammar
import NoteSieve.Proofs.Text.Digits

/-!
# What is written is read back

A value is written over several lines. The grammar knows nothing of lines, but it has room for white
space, and **what is written of a value is one of the spellings of the value**
(`NoteSieve.Json.IsNatural.spelled_writeAt`):

* in a string every character is written as the grammar spells it
  (`NoteSieve.Json.spells_escapeChar`), and a string that has no text is written as an escape that
  spells none (`NoteSieve.Json.spelled_writeString`);
* a natural number is written with digits of which the first is no zero
  (`NoteSieve.Json.isNumber_ofNat`);
* elements and members are written with a comma between two of them, and with a new line in front
  of each that is white space to the grammar (`NoteSieve.Json.exists_parts_of_elements`,
  `NoteSieve.Json.exists_parts_of_members`).

So every value that has no numbers but natural ones is read back from what is written of it
(`NoteSieve.Json.IsNatural.read?_writeAt`), also from a line of its own, as a run prints it
(`NoteSieve.Json.IsNatural.read?_write_line`).
-/

namespace NoteSieve.Json

open Text

variable {s : Text} {level : Nat}

/-! ### Strings -/

/-- **A character is written as the grammar spells it.** -/
theorem spells_escapeChar (c : Char) {units : List Nat} (h : Spells s units) :
    Spells (escapeChar c ++ s) (c.toNat :: units) := by
  have hdigits : ∀ n < 0x20, digits? 16 ('0' :: '0' :: twoHexDigits n) = some n := by decide
  rw [escapeChar]
  split_ifs with hquote hback hbackspace hfeed hline hreturn htab hcontrol
  · rw [hquote]
    exact Spells.short rfl h
  · rw [hback]
    exact Spells.short rfl h
  · rw [hbackspace]
    exact Spells.short rfl h
  · rw [hfeed]
    exact Spells.short rfl h
  · rw [hline]
    exact Spells.short rfl h
  · rw [hreturn]
    exact Spells.short rfl h
  · rw [htab]
    exact Spells.short rfl h
  · exact Spells.code (hdigits c.toNat hcontrol) h
  · exact Spells.plain (by omega) hquote hback h

theorem spells_flatMap_escapeChar (s : Text) :
    Spells (s.flatMap escapeChar) (s.map Char.toNat) := by
  induction s with
  | nil => exact Spells.nil
  | cons c s ih => exact spells_escapeChar c ih

/-- **A string is written as the grammar spells it.** -/
theorem spelled_writeString (value : StringText) :
    Spelled (writeString value) (.string value) := by
  cases value with
  | none => exact Spelled.string (Spells.code (n := 0xD800) rfl Spells.nil)
  | some s =>
    have hspelled := Spelled.string (spells_flatMap_escapeChar s)
    rwa [textOfUnits_toNat] at hspelled

/-! ### Numbers -/

/-- **A natural number is written as the grammar spells it.** -/
theorem isNumber_ofNat (n : Nat) : IsNumber (Text.ofNat n) := by
  have hwhole : IsWhole (Text.ofNat n) := by
    rcases Nat.eq_zero_or_pos n with rfl | hn
    · exact .zero
    · exact .digits ⟨Nat.toDigits_ne_nil, fun c hc => isDigit_of_mem_ofNat hc⟩
        (head?_ofNat (Nat.ne_of_gt hn))
  have hnumber := IsNumber.mk .none hwhole .none .none
  rwa [List.append_nil, List.append_nil, List.nil_append] at hnumber

/-! ### Elements and members -/

/-- A value of which every number is a natural one. -/
inductive IsNatural : Json → Prop
  | null : IsNatural .null
  | bool (value : Bool) : IsNatural (.bool value)
  | number (n : Nat) : IsNatural (ofNat n)
  | string (value : StringText) : IsNatural (.string value)
  | array {elements : List Json} :
      (∀ element ∈ elements, IsNatural element) → IsNatural (.array elements)
  | object {members : List (StringText × Json)} :
      (∀ m ∈ members, IsNatural m.2) → IsNatural (.object members)

theorem isWhite_newLine (level : Nat) : IsWhite (newLine level) := by
  intro c hc
  rcases List.mem_cons.mp hc with rfl | hc
  · rfl
  · rw [List.eq_of_mem_replicate hc]
    rfl

/-- **Elements are written as parts between commas**, with white space around them. -/
theorem exists_parts_of_elements {space : Text} (hspace : IsWhite space) {element : Json}
    {elements : List Json} (h : ∀ e ∈ element :: elements, Spelled (writeAt level e) e) :
    ∃ parts : List (Text × Json), parts ≠ [] ∧ (∀ p ∈ parts, Spelled p.1 p.2) ∧
      parts.map Prod.snd = element :: elements ∧
      joinWith [','] (parts.map Prod.fst)
        = newLine level ++ (writeAt level element ++ (writeElements level elements ++ space)) := by
  induction elements generalizing element with
  | nil =>
    obtain ⟨helement, -⟩ := List.forall_mem_cons.mp h
    refine ⟨[(newLine level ++ (writeAt level element ++ space), element)], List.cons_ne_nil _ _,
      List.forall_mem_singleton.mpr ?_, rfl, ?_⟩
    · exact .spaced (isWhite_newLine level) helement hspace
    · simp [joinWith, writeElements]
  | cons next elements ih =>
    obtain ⟨helement, hrest⟩ := List.forall_mem_cons.mp h
    obtain ⟨parts, hne, hparts, hvalues, hjoin⟩ := ih hrest
    refine ⟨(newLine level ++ writeAt level element, element) :: parts, List.cons_ne_nil _ _,
      List.forall_mem_cons.mpr ⟨helement.behind (isWhite_newLine level), hparts⟩, ?_, ?_⟩
    · rw [List.map_cons, hvalues]
    · rw [joinWith_map_cons hne, hjoin, writeElements]
      simp

/-- **Members are written as parts between commas**, with white space around keys and values. -/
theorem exists_parts_of_members {space : Text} (hspace : IsWhite space) {key : StringText}
    {value : Json} {members : List (StringText × Json)}
    (h : ∀ m ∈ (key, value) :: members, Spelled (writeAt level m.2) m.2) :
    ∃ parts : List SpelledMember, parts ≠ [] ∧
      (∀ m ∈ parts, Spelled m.keyText (.string m.key) ∧ Spelled m.valueText m.value) ∧
      parts.map SpelledMember.pair = (key, value) :: members ∧
      joinWith [','] (parts.map SpelledMember.text)
        = newLine level ++ (writeString key ++ ':' :: ' ' :: (writeAt level value
          ++ (writeMembers level members ++ space))) := by
  have hblank : IsWhite [' '] := by simp [IsWhite, isSpace]
  induction members generalizing key value with
  | nil =>
    obtain ⟨hvalue, -⟩ := List.forall_mem_cons.mp h
    refine ⟨[⟨newLine level ++ writeString key, key, [' '] ++ (writeAt level value ++ space),
      value⟩], List.cons_ne_nil _ _, List.forall_mem_singleton.mpr ⟨?_, ?_⟩, rfl, ?_⟩
    · exact (spelled_writeString key).behind (isWhite_newLine level)
    · exact .spaced hblank hvalue hspace
    · simp [joinWith, SpelledMember.text, writeMembers]
  | cons next members ih =>
    obtain ⟨hvalue, hrest⟩ := List.forall_mem_cons.mp h
    obtain ⟨parts, hne, hparts, hpairs, hjoin⟩ := ih hrest
    refine ⟨⟨newLine level ++ writeString key, key, [' '] ++ writeAt level value, value⟩ :: parts,
      List.cons_ne_nil _ _, List.forall_mem_cons.mpr ⟨⟨?_, hvalue.behind hblank⟩, hparts⟩, ?_, ?_⟩
    · exact (spelled_writeString key).behind (isWhite_newLine level)
    · rw [List.map_cons, hpairs]
      rfl
    · rw [joinWith_map_cons hne, hjoin, writeMembers]
      simp [SpelledMember.text]

/-! ### Values -/

/-- **What is written of a value spells it**, at any level. -/
theorem IsNatural.spelled_writeAt {value : Json} (h : IsNatural value) (level : Nat) :
    Spelled (writeAt level value) value := by
  induction h generalizing level with
  | null => exact .null
  | bool b => exact .bool b
  | number n => exact .number (isNumber_ofNat n)
  | string value => exact spelled_writeString value
  | @array elements _ ih =>
    cases elements with
    | nil => exact .emptyArray isWhite_nil
    | cons element elements =>
      obtain ⟨parts, hne, hparts, hvalues, hjoin⟩ :=
        exists_parts_of_elements (isWhite_newLine level) fun e he => ih e he (level + 1)
      have hspelled := Spelled.array hne hparts
      rw [hvalues, hjoin] at hspelled
      rw [writeAt]
      simpa using hspelled
  | @object members _ ih =>
    cases members with
    | nil => exact .emptyObject isWhite_nil
    | cons m members =>
      obtain ⟨key, value⟩ := m
      obtain ⟨parts, hne, hparts, hpairs, hjoin⟩ :=
        exists_parts_of_members (isWhite_newLine level) fun m hm => ih m hm (level + 1)
      have hspelled := Spelled.object hne (fun m hm => (hparts m hm).1) fun m hm => (hparts m hm).2
      rw [hpairs, hjoin] at hspelled
      rw [writeAt]
      simpa using hspelled

/-- **What is written of a value is read back**, at any level. -/
theorem IsNatural.read?_writeAt {value : Json} (h : IsNatural value) (level : Nat) :
    read? (writeAt level value) = some value :=
  read?_eq_some_iff.mpr (h.spelled_writeAt level)

/-- **A printed value is read back**, the end of its line included. -/
theorem IsNatural.read?_write_line {value : Json} (h : IsNatural value) :
    read? (value.write ++ ['\n']) = some value :=
  read?_eq_some_iff.mpr ((h.spelled_writeAt 0).before (isWhite_newLine 0))

end NoteSieve.Json
