import NoteSieve.Json.Writer
import NoteSieve.Query.Basic
import NoteSieve.Record.Json

/-!
# Documents

What the commands print for a program: one JSON value. The members of the notes document come in
the order of the fields it is made of, those of the others in the order of their keys.
-/

namespace NoteSieve

/-- The notes of a search, with the filter that chose them and the number of notes before any were
left out. -/
def notesDocument (notes : List Note) (total : Nat) (filter : Text) : Json :=
  .ofMembers
    [("filter".toList, .ofText filter),
      ("total".toList, .ofNat total),
      ("notes".toList, .array (notes.map Note.toJson))]

/-- The names of the tags that have one. -/
def tagsDocument (tags : List Tag) : Json :=
  .ofMembers [("suggestions".toList, .array ((tags.filterMap Tag.name).map Json.ofText))]

/-- A query: its text, its tokens, and of these the keywords and the tags. -/
def tokensDocument (q : Query) : Json :=
  .ofMembers
    [("keywords".toList, .array (q.keywords.map Json.ofText)),
      ("search_text".toList, .ofText q.searchText),
      ("tags".toList, .array (q.tags.map Json.ofText)),
      ("tokens".toList, .array (q.tokens.map Token.toJson))]

/-- A completed search text. -/
def completionDocument (s : Text) : Json := .ofMembers [("search_text".toList, .ofText s)]

end NoteSieve
