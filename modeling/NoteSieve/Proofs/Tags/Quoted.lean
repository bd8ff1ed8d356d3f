import NoteSieve.Proofs.Tags.Stored

/-!
# A quoted tag read as a string

A tag is looked for in its written form, and the array that it is looked for in is JSON. The two
agree on a name as far as they can: the written form escapes the backslash and the slash, and JSON
wants the quote and the controls escaped as well. **A quoted tag is a JSON string exactly if its
name has neither of these, and then it is the string of that name**
(`NoteSieve.Text.quotedTag_reads`).

In one direction the written form spells the name character by character. In the other, a quote in
the name would end the string too soon: no escape hides it, since a backslash in front of it is
itself escaped (`NoteSieve.Text.spells_written_iff`).

Whether it reads as a string or not, a quoted tag tells its name. It can be made in two passes
instead of one, the backslashes first (`NoteSieve.Text.quotedTag_eq_replaced`).
-/

namespace NoteSieve

namespace Json

variable {s : Text} {value : Json}

/-- **A text that opens with a quote is a string**, or it is no JSON: one reads up to the closing
quote, and nothing but white space may follow. -/
theorem read?_quote_iff : read? ('"' :: s) = some value ↔
    ∃ units rest, readUnits s = some (units, rest) ∧ (∀ c ∈ rest, isSpace c = true) ∧
      value = .string (textOfUnits units) := by
  have hvalue : readValue (2 * ('"' :: s).length + 1) ('"' :: s)
      = (readUnits s).map fun read => (.string (textOfUnits read.1), read.2) := by
    rw [readValue, skipSpace_cons (by decide)]
    simp [readString, Function.comp_def]
  rw [read?, hvalue]
  cases readUnits s with
  | none => simp only [Option.map_none, reduceCtorEq, false_and, exists_false]
  | some read =>
    obtain ⟨units, rest⟩ := read
    have hrest : (skipSpace rest).isEmpty = true ↔ ∀ c ∈ rest, isSpace c = true := by
      rw [List.isEmpty_iff, skipSpace, List.dropWhile_eq_nil_iff]
    rw [Option.map_some]
    dsimp only
    rw [Option.ite_none_right_eq_some, hrest, Option.some.injEq]
    constructor
    · rintro ⟨hspace, rfl⟩
      exact ⟨units, rest, rfl, hspace, rfl⟩
    · rintro ⟨_, _, ⟨⟩, hspace, rfl⟩
      exact ⟨hspace, rfl⟩

end Json

namespace Text

variable {name : Text} {units : List Nat}

/-! ### Reading the written form -/

/-- **The written form spells the name, or nothing.** -/
theorem spells_written_iff :
    Json.Spells (written name) units ↔ IsPlain name ∧ units = name.map Char.toNat := by
  refine ⟨fun h => ?_, ?_⟩
  · induction name generalizing units with
    | nil =>
      cases h
      exact ⟨fun c hc => absurd hc List.not_mem_nil, rfl⟩
    | cons c name ih =>
      -- The grammar is asked for the next character, and what is left is the rest of the name.
      cases hc : isEscaped c with
      | true =>
        rw [written_cons_of_isEscaped hc] at h
        generalize hrest : c :: written name = rest at h
        cases h with
        | plain _ _ hback _ => exact absurd rfl hback
        | short hd hspells =>
          obtain ⟨rfl, rfl⟩ := List.cons.inj hrest
          obtain ⟨hplain, rfl⟩ := ih hspells
          rcases isEscaped_iff.mp hc with rfl | rfl
          · obtain rfl := Option.some.inj hd
            exact ⟨List.forall_mem_cons.mpr ⟨by decide, hplain⟩, rfl⟩
          · obtain rfl := Option.some.inj hd
            exact ⟨List.forall_mem_cons.mpr ⟨by decide, hplain⟩, rfl⟩
        | code _ _ =>
          obtain ⟨rfl, -⟩ := List.cons.inj hrest
          exact absurd hc (by decide)
      | false =>
        rw [written_cons_of_not_isEscaped hc] at h
        have hback : c ≠ '\\' := by
          rintro rfl
          exact absurd hc (by decide)
        generalize hrest : written name = rest at h
        cases h with
        | plain hcontrol hquote _ hspells =>
          obtain ⟨hplain, rfl⟩ := ih (hrest ▸ hspells)
          exact ⟨List.forall_mem_cons.mpr ⟨⟨hcontrol, hquote⟩, hplain⟩, rfl⟩
        | short _ _ => exact absurd rfl hback
        | code _ _ => exact absurd rfl hback
  · rintro ⟨hplain, rfl⟩
    exact spells_written hplain

/-- **A quoted tag reads as its name**, if the name is plain, and as nothing else. -/
theorem read?_quotedTag_iff {value : Json} :
    Json.read? (quotedTag name) = some value ↔ IsPlain name ∧ value = Json.ofText name := by
  rw [quotedTag_eq, Json.read?_quote_iff]
  constructor
  · rintro ⟨units, rest, hread, hspace, rfl⟩
    obtain ⟨spelling, hs, hspells⟩ := Json.readUnits_eq_some_iff.mp hread
    -- The closing quote is the last character, for what follows it would end in a quote too.
    have hrest : rest = [] := by
      rcases List.eq_nil_or_concat' rest with h | ⟨front, c, rfl⟩
      · exact h
      · have hlast : written name ++ ['"'] = (spelling ++ '"' :: front) ++ [c] := by
          rw [hs, List.append_assoc, List.cons_append]
        obtain ⟨-, hc⟩ := List.append_inj' hlast rfl
        obtain ⟨rfl, -⟩ := List.cons.inj hc
        exact absurd (hspace '"' (by simp)) (by decide)
    rw [hrest] at hs
    rw [← List.append_cancel_right hs] at hspells
    obtain ⟨hplain, rfl⟩ := spells_written_iff.mp hspells
    exact ⟨hplain, congrArg Json.string (Json.textOfUnits_toNat name)⟩
  · rintro ⟨hplain, rfl⟩
    refine ⟨name.map Char.toNat, [], (spells_written hplain).readUnits_append [], ?_, ?_⟩
    · exact fun c hc => absurd hc List.not_mem_nil
    · exact congrArg Json.string (Json.textOfUnits_toNat name).symm

/-! ### Two passes -/

/-- A text with another one in place of each occurrence of a character. -/
def replaceChar (c : Char) (other s : Text) : Text :=
  s.flatMap fun d => if d = c then other else [d]

/-- **A quoted tag is made in two passes**: a backslash goes in front of each backslash, and then in
front of each slash. -/
theorem quotedTag_eq_replaced (name : Text) :
    quotedTag name
      = '"' :: (replaceChar '/' ['\\', '/'] (replaceChar '\\' ['\\', '\\'] name) ++ ['"']) := by
  have hchar : ∀ c : Char, escapeTagChar c
      = (if c = '\\' then ['\\', '\\'] else [c]).flatMap
        fun d => if d = '/' then ['\\', '/'] else [d] := by
    intro c
    by_cases hback : c = '\\'
    · subst hback
      decide
    · by_cases hslash : c = '/'
      · subst hslash
        decide
      · simp [escapeTagChar, hback, hslash]
  rw [quotedTag_eq, written, replaceChar, replaceChar, List.flatMap_assoc, funext hchar]

/-- With the slashes first, the backslash in front of a slash would be escaped again. -/
example : replaceChar '\\' ['\\', '\\'] (replaceChar '/' ['\\', '/'] ['/']) ≠ written ['/'] := by
  decide

theorem quotedTag_injective : Function.Injective quotedTag := by
  intro name name' h
  rw [quotedTag_eq, quotedTag_eq] at h
  exact written_injective (List.append_cancel_right (List.cons.inj h).2)

/-- **When a quoted tag is a JSON string**: if and only if the name has no quote and no control, and
then the string is the name. Different names are quoted differently in any case, and the two passes
that make a quoted tag do not get into each other's way. -/
theorem quotedTag_reads :
    (∀ name : Text, quotedTag name
      = '"' :: (replaceChar '/' ['\\', '/'] (replaceChar '\\' ['\\', '\\'] name) ++ ['"'])) ∧
    (∀ (name : Text) (value : Json), Json.read? (quotedTag name) = some value ↔
      (∀ c ∈ name, 0x20 ≤ c.toNat ∧ c ≠ '"') ∧ value = Json.ofText name) ∧
    Function.Injective quotedTag :=
  ⟨quotedTag_eq_replaced, fun _ _ => read?_quotedTag_iff, quotedTag_injective⟩

end Text

end NoteSieve
