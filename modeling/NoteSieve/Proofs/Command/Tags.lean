import NoteSieve.Proofs.Command.Dispatch
import NoteSieve.Proofs.Command.Listing
import NoteSieve.Proofs.Filter.Suggestion
import NoteSieve.Proofs.Output.Rows
import NoteSieve.Proofs.Record.Exported

/-!
# Suggested tags from end to end

A tag may have no name, and then there is nothing to suggest. The names to suggest are those of the
tags that pass the filter and have one, up to the limit (`NoteSieve.Predicate.suggestions`). A run
cuts off the tags that pass at the limit first and leaves out the nameless ones of these, both in
the document and in the table. So the names that are printed are a front of those to suggest, and
**all of them exactly if the limit takes in no nameless tag, or leaves out only such**
(`NoteSieve.CommandLine.tags_printed_iff`).

The table says that there is no tag where the limit leaves none
(`NoteSieve.tagsTable_eq_noTagsNotice_iff`); where it leaves nameless ones only, the table is empty,
though there may be nothing to suggest (`NoteSieve.tagsTable_right_iff`). No nameless tag is in the
way where the last word of the search text asks for something, since then all that pass have a name
(`NoteSieve.Query.isSome_name_of_tagFilter_holds`).
-/

namespace NoteSieve

open Json

/-! ### The names to suggest -/

/-- **The names to suggest**: of the tags that pass and have one, in order, up to the limit. -/
def Predicate.suggestions (p : Predicate TagField) (limit : Option Nat) (tags : List Tag) :
    List Text :=
  firstOf limit ((p.select tags).filterMap Tag.name)

/-- A query whose last word asks for something lets no nameless tag pass. -/
theorem Query.isSome_name_of_tagFilter_holds {q : Query} {token : Token} {t : Tag}
    (hq : q.lastToken? = some token) (htoken : token ≠ .tag [])
    (h : q.tagFilter.holds t = true) : t.name.isSome = true := by
  rw [tagFilter_holds_iff hq] at h
  cases token with
  | keyword s =>
    obtain ⟨name, hname, -⟩ := h
    exact Option.isSome_of_eq_some hname
  | tag s =>
    obtain ⟨⟨name, hname, -⟩, -⟩ := h fun hs => htoken (congrArg Token.tag hs)
    exact Option.isSome_of_eq_some hname

/-! ### The document of the tags -/

theorem read?_tagsDocument_line (tags : List Tag) :
    read? ((tagsDocument tags).write ++ ['\n']) = some (.ofMembers
      [("suggestions".toList, .array ((tags.filterMap Tag.name).map Json.ofText))]) := by
  refine IsNatural.read?_write_line (IsNatural.ofMembers (List.forall_mem_singleton.mpr ?_))
  exact IsNatural.array (List.forall_mem_map.mpr fun name _ => IsNatural.string _)

/-! ### The table of the tags -/

/-- The only row of a table is the notice, by the way the operator and the name are spelled. -/
def SpellsNotice (color : Bool) (operator : Text) (names : List Text) : Prop :=
  color = false ∧ ∃ name, names = [name] ∧ operator ++ name = "No tags found.".toList

theorem SpellsNotice.ne_nil {color : Bool} {operator : Text} {names : List Text}
    (h : SpellsNotice color operator names) : names ≠ [] := by
  obtain ⟨-, name, rfl, -⟩ := h
  exact List.cons_ne_nil name []

theorem tagRow_eq_iff {color : Bool} {operator name : Text} :
    tagRow color operator name = "No tags found.".toList ↔
      color = false ∧ operator ++ name = "No tags found.".toList := by
  cases color with
  | false => simp [tagRow, Style.paint]
  | true => simp [tagRow, Style.paint, Style.code]

/-- **When the table says that there is no tag**: there is none to be shown, or one that spells
these very words. -/
theorem tagsTable_eq_noTagsNotice_iff {color : Bool} {operator : Text} {tags : List Tag} :
    tagsTable color operator tags = noTagsNotice ↔
      tags = [] ∨ SpellsNotice color operator (tags.filterMap Tag.name) := by
  rw [tagsTable_eq]
  split
  · next htags => simp [htags]
  · next htags =>
    rw [noTagsNotice, Text.unlines_eq_iff (by decide), SpellsNotice, or_iff_right htags]
    simp only [List.map_eq_singleton_iff, tagRow_eq_iff]
    constructor
    · rintro ⟨name, hname, hcolor, hspelling⟩
      exact ⟨hcolor, name, hname, hspelling⟩
    · rintro ⟨hcolor, name, hname, hspelling⟩
      exact ⟨name, hname, hcolor, hspelling⟩

/-- **When the table is right**, and tells that there is no tag exactly if there is no name to
suggest: there has to be one wherever a tag is shown, and no row may spell the words of the
table. -/
theorem tagsTable_right_iff (color : Bool) (operator : Text) (limit : Option Nat)
    (passing : List Tag) :
    let shown := firstOf limit passing
    let names := firstOf limit (passing.filterMap Tag.name)
    (tagsTable color operator shown = noTagsNotice ↔ names = []) ↔
      (shown ≠ [] → names ≠ []) ∧ ¬SpellsNotice color operator (shown.filterMap Tag.name) := by
  intro shown names
  have hprefix : shown.filterMap Tag.name <+: names :=
    filterMap_firstOf_prefix Tag.name limit passing
  have hshown : shown = [] → names = [] := firstOf_filterMap_eq_nil Tag.name
  rw [tagsTable_eq_noTagsNotice_iff]
  by_cases hnames : names = []
  · -- without a name to suggest there is no row
    have hrow : ¬SpellsNotice color operator (shown.filterMap Tag.name) := fun h =>
      h.ne_nil (List.prefix_nil.mp (hnames ▸ hprefix))
    simp [hnames, hrow]
  · have hany : shown ≠ [] := fun h => hnames (hshown h)
    simp [hnames, hany]

/-! ### A run -/

variable {env : Environment} {disk : Disk} {line : CommandLine} {path file query : Text}
  {config : Config} {limit : Option Nat} {tags : List Tag}

namespace CommandLine

/-- A run that suggests tags prints the document or the table, and nothing else. -/
theorem run_tags (hload : line.Loads env disk path config)
    (hcommand : line.command = some (.tags file query limit))
    (htags : loadTags disk file = .ok tags) :
    let ctx := Context.of env line config
    let shown := firstOf limit ((Query.parse ctx.operators query).tagFilter.select tags)
    line.run env disk =
      ⟨0, ctx.print (tagsDocument shown) (tagsTable ctx.color ctx.operators.primary shown), [],
        []⟩ := by
  intro ctx shown
  rw [run_eq_ofCommand, hload.perform_tags hcommand, suggestTags, htags]
  rfl

/-- **What a run that suggests tags prints**, given a configuration and a file of tags that can be
loaded. The document and the table have the same names: those of the tags that pass and are within
the limit. They are a front of the names to suggest, and all of these exactly if each tag within
the limit has a name or none beyond it does. That the table tells that there is no tag exactly if
there is no name to suggest holds just if there is such a name wherever a tag is within the limit,
and no row spells the words of the table. Where the last word of the search text asks for something,
all names are printed, and there is one wherever a tag is within the limit. -/
theorem tags_printed_iff (hload : line.Loads env disk path config)
    (hcommand : line.command = some (.tags file query limit))
    (htags : loadTags disk file = .ok tags) :
    let ctx := Context.of env line config
    let q := Query.parse ctx.operators query
    let passing := q.tagFilter.select tags
    let shown := firstOf limit passing
    let names := shown.filterMap Tag.name
    let suggestions := q.tagFilter.suggestions limit tags
    let outcome := line.run env disk
    (outcome.exitCode = 0 ∧ outcome.stderr = [] ∧ outcome.changes = []) ∧
    (line.json = true → read? outcome.stdout =
      some (.ofMembers [("suggestions".toList, .array (names.map Json.ofText))])) ∧
    (line.json = false → line.quiet = false → outcome.stdout =
      if shown = [] then noTagsNotice
        else Text.unlines (names.map (tagRow ctx.color ctx.operators.primary))) ∧
    names <+: suggestions ∧
    (names = suggestions ↔
      (∀ t ∈ shown, t.name.isSome = true) ∨ ∀ t ∈ beyond limit passing, t.name = none) ∧
    (line.json = false → line.quiet = false →
      ((outcome.stdout = noTagsNotice ↔ suggestions = []) ↔
        (shown ≠ [] → suggestions ≠ []) ∧ ¬SpellsNotice ctx.color ctx.operators.primary names)) ∧
    (∀ token, q.lastToken? = some token → token ≠ .tag [] →
      names = suggestions ∧ (shown ≠ [] → suggestions ≠ [])) := by
  intro ctx q passing shown names suggestions outcome
  have hrun : outcome = _ := run_tags hload hcommand htags
  have htable (hjson : line.json = false) (hquiet : line.quiet = false) :
      outcome.stdout = tagsTable ctx.color ctx.operators.primary shown := by
    rw [hrun]
    exact ctx.print_table hjson hquiet _ _
  have hnames : names <+: suggestions := filterMap_firstOf_prefix Tag.name limit passing
  have hsuggestions : names = suggestions ↔ _ := filterMap_firstOf_eq_iff Tag.name limit passing
  refine ⟨by rw [hrun]; exact ⟨rfl, rfl, rfl⟩, fun hjson => ?_, fun hjson hquiet => ?_, hnames,
    hsuggestions, fun hjson hquiet => ?_, fun token hq htoken => ?_⟩
  · rw [hrun]
    exact (congrArg read? (ctx.print_document hjson _ _)).trans (read?_tagsDocument_line shown)
  · rw [htable hjson hquiet, tagsTable_eq]
  · rw [htable hjson hquiet]
    exact tagsTable_right_iff _ _ limit passing
  · have hsome : ∀ t ∈ shown, t.name.isSome = true := fun t ht =>
      Query.isSome_name_of_tagFilter_holds hq htoken
        (List.mem_filter.mp ((firstOf_prefix_self limit passing).subset ht)).2
    have hall : names = suggestions := hsuggestions.mpr (.inl hsome)
    exact ⟨hall, fun hshown => hall ▸ filterMap_ne_nil hsome hshown⟩

/-- Of two tags only the second has a name, and any tag passes: a limit of one prints no name. -/
theorem tags_printed_iff_limit :
    let env : Environment := ⟨none, none, none, none, false, .plain⟩
    let disk : Disk := .ofEntries fun p => if p = [['t']] then
      some (.file (.text "[\x7b\x7d,\x7b\"name\":\"a\"\x7d]".toList)) else none
    let line : CommandLine :=
      ⟨0, false, true, false, some ['c'], none, none, some (.tags ['t'] [] (some 1))⟩
    loadTags disk ['t'] = .ok [⟨none⟩, ⟨some ['a']⟩] ∧
    read? (line.run env disk).stdout
      = some (.ofMembers [("suggestions".toList, .array [])]) := by
  intro env disk line
  have hload : line.Loads env disk ['c'] .default := ⟨rfl, by decide⟩
  have htags : loadTags disk ['t'] = .ok [⟨none⟩, ⟨some ['a']⟩] := by decide +kernel
  have hprinted := tags_printed_iff hload rfl htags
  exact ⟨htags, hprinted.2.1 rfl⟩

/-- **Not every name to suggest is printed**: a limit of one leaves out the only name there is. And
the table does not tell that there is no tag where the only one has no name: it is empty. -/
theorem tags_not_printed :
    let unnamed : Tag := ⟨none⟩
    let named : Tag := ⟨some ['a']⟩
    let env : Environment := ⟨none, none, none, none, false, .plain⟩
    let disk : Disk := .ofEntries fun p =>
      if p = [['t']] then some (.file (.text "[\x7b\x7d,\x7b\"name\":\"a\"\x7d]".toList))
      else if p = [['n']] then some (.file (.text "[\x7b\x7d]".toList)) else none
    let line (json : Bool) (file : Text) (limit : Option Nat) : CommandLine :=
      ⟨0, false, json, true, some ['c'], none, none, some (.tags file [] limit)⟩
    let filter := (Query.parse .default []).tagFilter
    (loadTags disk ['t'] = .ok [unnamed, named] ∧
      filter.suggestions (some 1) [unnamed, named] = [['a']] ∧
      ((line true ['t'] (some 1)).run env disk).stdout = (tagsDocument []).write ++ ['\n']) ∧
    loadTags disk ['n'] = .ok [unnamed] ∧ filter.suggestions none [unnamed] = [] ∧
      ((line false ['n'] none).run env disk).stdout = [] := by
  decide +kernel

end CommandLine

end NoteSieve
