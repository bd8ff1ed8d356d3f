import NoteSieve.Proofs.Json.Names
import NoteSieve.Proofs.Record.Exported

/-!
# Reading a document of tokens

A token is read from one value only, the one that is written of it
(`NoteSieve.Token.ofJson?_eq_some_iff`). By the grammar of JSON it is then read from every text that
spells this value (`NoteSieve.Token.read?_bind_ofJson?_eq_some_iff`), be it spread over lines, as in
a document, or without any white space (`NoteSieve.Token.spelled_inline`).

The document of a query holds the values of all its tokens, beside the text that they were cut out
of. So **the text and the tokens of a query are read back from its document, and so are the keywords
and the names of tags, which are among the tokens** (`NoteSieve.Query.tokensDocument_lossless`).
Unlike the table of the tokens, the document needs to know nothing of them: whatever characters a
token is made of, its text is a string.
-/

namespace NoteSieve

open Json

/-! ### One token -/

namespace Token

variable {t : Token}

/-- A token written without any white space. -/
def inline (t : Token) : Text :=
  '\x7b' :: (writeText t.kind ++ ':' :: (writeText t.text ++ ['\x7d']))

/-- **A token is read from what is written of it, and from nothing else.** -/
theorem ofJson?_eq_some_iff {value : Json} : ofJson? value = some t ↔ value = t.toJson := by
  constructor
  · intro h
    unfold ofJson? at h
    split at h
    · next key s =>
      split_ifs at h with hkeyword htag
      · obtain rfl := Option.some.inj h
        rw [hkeyword]
        rfl
      · obtain rfl := Option.some.inj h
        rw [htag]
        rfl
    · exact absurd h (by simp)
  · rintro rfl
    cases t <;> rfl

/-- **A token is read from every spelling of its value**, and from no other text. -/
theorem read?_bind_ofJson?_eq_some_iff {s : Text} :
    (read? s).bind ofJson? = some t ↔ Spelled s t.toJson := by
  rw [Option.bind_eq_some_iff]
  constructor
  · rintro ⟨value, hvalue, ht⟩
    obtain rfl := ofJson?_eq_some_iff.mp ht
    exact read?_eq_some_iff.mp hvalue
  · intro h
    exact ⟨_, read?_eq_some_iff.mpr h, ofJson?_eq_some_iff.mpr rfl⟩

theorem isNatural_toJson (t : Token) : t.toJson.IsNatural :=
  IsNatural.ofMembers (List.forall_mem_singleton.mpr (IsNatural.string _))

theorem spelled_inline (t : Token) : Spelled t.inline t.toJson := by
  have hspelled : Spelled _ t.toJson := @Spelled.object
    [⟨writeText t.kind, some t.kind, writeText t.text, .ofText t.text⟩] (List.cons_ne_nil _ _)
    (List.forall_mem_singleton.mpr (spelled_writeString (some t.kind)))
    (List.forall_mem_singleton.mpr (spelled_writeString (some t.text)))
  simpa [Text.joinWith, SpelledMember.text, inline] using hspelled

theorem ofJson?_toJson (t : Token) : ofJson? t.toJson = some t := ofJson?_eq_some_iff.mpr rfl

theorem toJson_injective : Function.Injective toJson := fun t t' h =>
  Option.some.inj ((ofJson?_toJson t).symm.trans (h ▸ ofJson?_toJson t'))

end Token

/-! ### The document of a query -/

theorem isNatural_tokensDocument (q : Query) : (tokensDocument q).IsNatural := by
  have htexts : ∀ texts : List Text, IsNatural (.array (texts.map Json.ofText)) := fun texts =>
    IsNatural.array (List.forall_mem_map.mpr fun s _ => IsNatural.string (some s))
  refine IsNatural.ofMembers ?_
  simp only [List.forall_mem_cons]
  exact ⟨htexts _, IsNatural.string _, htexts _,
    IsNatural.array (List.forall_mem_map.mpr fun t _ => t.isNatural_toJson), List.forall_mem_nil _⟩

theorem read?_write_tokensDocument (q : Query) :
    read? (tokensDocument q).write = some (tokensDocument q) :=
  (isNatural_tokensDocument q).read?_writeAt 0

namespace Query

/-- **A query can be told from its document.** -/
theorem eq_of_write_tokensDocument {q q' : Query}
    (h : (tokensDocument q').write = (tokensDocument q).write) : q' = q := by
  have hread := read?_write_tokensDocument q'
  rw [h, read?_write_tokensDocument q] at hread
  simp only [tokensDocument, ofMembers, List.map_cons, List.map_nil, Option.some.injEq, ofText,
    Json.object.injEq, List.cons.injEq, Prod.mk.injEq, Json.string.injEq, Json.array.injEq,
    true_and, and_true] at hread
  obtain ⟨-, htext, -, htokens⟩ := hread
  obtain ⟨s, tokens⟩ := q
  obtain ⟨s', tokens'⟩ := q'
  obtain rfl : s = s' := htext
  obtain rfl : tokens = tokens' := List.map_injective_iff.mpr Token.toJson_injective htokens
  rfl

/-- **The document of a query is lossless.** It is read as an object with four members. One is the
search text as it was typed, and the others are arrays: of values from which the tokens are read, in
order, and of the texts of the keywords and of the tags among them that are not empty. A token is
read from what is written of it, from the same on one line, and from every other spelling of it. No
two search texts have the same document, whatever the operators, nor do two lists of tokens. -/
theorem tokensDocument_lossless (ops : Operators) (s : Text) :
    let q := parse ops s
    (∃ keywords tags tokens : List Json,
      read? (tokensDocument q).write = some (.ofMembers
        [("keywords".toList, .array keywords), ("search_text".toList, .ofText s),
          ("tags".toList, .array tags), ("tokens".toList, .array tokens)]) ∧
      tokens.mapM Token.ofJson? = some q.tokens ∧
      keywords.mapM text? = some (q.tokens.filterMap fun
        | .keyword text => some text
        | .tag _ => none) ∧
      tags.mapM text? = some (q.tokens.filterMap fun
        | .keyword _ => none
        | .tag name => if name = [] then none else some name)) ∧
    (∀ t : Token, (read? t.toJson.write).bind Token.ofJson? = some t ∧
      (read? t.inline).bind Token.ofJson? = some t ∧
      ∀ u, (read? u).bind Token.ofJson? = some t ↔ Spelled u t.toJson) ∧
    ∀ ops' s', (tokensDocument (parse ops' s')).write = (tokensDocument q).write →
      s' = s ∧ (parse ops' s').tokens = q.tokens := by
  intro q
  refine ⟨⟨_, _, _, read?_write_tokensDocument q, ?_, ?_, ?_⟩, fun t => ⟨?_, ?_, fun u => ?_⟩,
    fun ops' s' h => ?_⟩
  · exact records?_map Token.ofJson?_toJson q.tokens
  · rw [mapM_text?_eq_some_iff]
    refine congrArg (List.map ofText) (List.filterMap_congr fun t _ => ?_)
    cases t <;> rfl
  · rw [mapM_text?_eq_some_iff]
    refine congrArg (List.map ofText) (List.filterMap_congr fun t _ => ?_)
    cases t <;> simp [Token.tagName?]
  · exact Token.read?_bind_ofJson?_eq_some_iff.mpr (t.isNatural_toJson.spelled_writeAt 0)
  · exact Token.read?_bind_ofJson?_eq_some_iff.mpr t.spelled_inline
  · exact Token.read?_bind_ofJson?_eq_some_iff
  · have hq := eq_of_write_tokensDocument h
    exact ⟨congrArg searchText hq, congrArg tokens hq⟩

/-- A bare operator is among the tokens and not among the tags. A quote, a backslash and a control
in a keyword are told apart from an escape that was typed. -/
theorem tokensDocument_lossless_escapes :
    let s := "TAG: \"\x01\\u0001 tag:a".toList
    let q := parse .default s
    let q' := parse ⟨"Tag:".toList, "#".toList⟩ s
    (∃ keywords tags tokens : List Json,
      read? (tokensDocument q).write = some (.ofMembers
        [("keywords".toList, .array keywords), ("search_text".toList, .ofText s),
          ("tags".toList, .array tags), ("tokens".toList, .array tokens)]) ∧
      tokens.mapM Token.ofJson? =
        some [.tag [], .keyword "\"\x01\\u0001".toList, .tag "a".toList] ∧
      keywords.mapM text? = some ["\"\x01\\u0001".toList] ∧
      tags.mapM text? = some ["a".toList]) ∧
    (tokensDocument q').write = (tokensDocument q).write ∧ q'.tokens = q.tokens := by
  intro s q q'
  have htokens : q.tokens = [.tag [], .keyword "\"\x01\\u0001".toList, .tag "a".toList] := by
    decide
  have hsame : (tokensDocument q').write = (tokensDocument q).write := by decide +kernel
  obtain ⟨hmembers, -, hinjective⟩ := tokensDocument_lossless .default s
  refine ⟨?_, hsame, (hinjective _ _ hsame).2⟩
  rw [htokens] at hmembers
  exact hmembers

end Query

end NoteSieve
