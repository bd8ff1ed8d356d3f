import NoteSieve.Filter.Predicate
import NoteSieve.Filter.Tags
import NoteSieve.Query.Basic

/-!
# Filters

Predicates made from queries and from single options. For notes, every token of a query is a
constraint of its own and all of them must be met (`Query.noteFilter`). For tags, only the word
being typed counts: its suggestions are the tags that contain it, except, once it names a tag, the
tag it already names (`Query.tagFilter`).
-/

namespace NoteSieve

/-! ### Filters of notes -/

/-- The constraint of one token. An operator with nothing after it does not constrain. -/
def Token.noteFilter : Token → Predicate NoteField
  | .keyword s => .contains .content (.of s .loose)
  | .tag s => if s.isEmpty then .always else .contains .tags (.of s.quotedTag .loose)

theorem Token.noteFilter_tag {s : Text} (h : s ≠ []) :
    (Token.tag s).noteFilter = .contains .tags (.of s.quotedTag .loose) :=
  if_neg (mt List.isEmpty_iff.mp h)

/-- **The notes that meet every constraint of a query.** A query without words has none. -/
def Query.noteFilter (q : Query) : Predicate NoteField :=
  if q.isEmpty then .always else .all (q.tokens.map Token.noteFilter)

/-- The notes in the trash, or those out of it. -/
def deletedFilter (deleted : Bool) : Predicate NoteField := .flag .deleted deleted

/-- The notes whose content has a text in it, to the letter. -/
def exactFilter (s : Text) : Predicate NoteField := .contains .content (.of s .exact)

/-- The notes whose internal markers have a text in them, whatever its case. -/
def systemTagFilter (s : Text) : Predicate NoteField := .contains .systemTags (.of s .caseless)

/-- The notes that have a tag of this name, whatever its case. -/
def tagFilter (name : Text) : Predicate NoteField := .contains .tags (.of name.quotedTag .caseless)

/-- The notes whose tags are there and say that there are none. -/
def untaggedFilter : Predicate NoteField := .fullMatch .tags .untagged

/-- The notes whose first line has a text in it, whatever its case and marks. -/
def titleFilter (s : Text) : Predicate NoteField := .firstLineContains .content (.of s .loose)

/-! ### Filters of tags -/

/-- The tags suggested for one token. -/
def Token.tagFilter : Token → Predicate TagField
  | .keyword s => .contains .name (.of s .loose)
  | .tag s =>
    if s.isEmpty then .always
    else .all [.contains .name (.of s .loose), .negation (.equals .name (.of s .caseless))]

/-- **The tags suggested for a query**, which are those of its last token. -/
def Query.tagFilter (q : Query) : Predicate TagField :=
  match q.lastToken? with
  | none => .always
  | some token => token.tagFilter

/-! ### A whole search -/

/-- What a search for notes asks for besides its text. -/
structure NoteOptions where
  /-- Search the trash instead of the live notes. -/
  deleted : Bool
  /-- Only notes without tags. -/
  untagged : Bool
  /-- Only notes with this tag. -/
  tag : Option Text
  /-- Only notes with this internal marker. -/
  systemTag : Option Text
  /-- Only notes with this text in their title. -/
  title : Option Text
  /-- Only notes with this text in their content, to the letter. -/
  exact : Option Text
  deriving DecidableEq, Repr

/-- The filters of the options that are given, in a fixed order. -/
def NoteOptions.filters (o : NoteOptions) : List (Predicate NoteField) :=
  [deletedFilter o.deleted]
    ++ (if o.untagged then [untaggedFilter] else [])
    ++ (o.tag.map tagFilter).toList
    ++ (o.systemTag.map systemTagFilter).toList
    ++ (o.title.map titleFilter).toList
    ++ (o.exact.map exactFilter).toList

/-- **The filter of a whole search**: its text and every option that is given. -/
def searchFilter (ops : Operators) (s : Text) (o : NoteOptions) : Predicate NoteField :=
  o.filters.foldl .both (Query.parse ops s).noteFilter

end NoteSieve
