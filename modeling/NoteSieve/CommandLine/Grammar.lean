import NoteSieve.CommandLine.Basic
import NoteSieve.Text.Digits

/-!
# The grammar of command lines

What may stand where on a command line. An argument is read at a *level*: the first ones belong to
the program itself, those after the name of a command to that command, and so on. Each level has its
operands, which are told apart by their places, its switches, which are told apart by their names,
and the names that lead on to the next level.

Everything here is a table. What the arguments mean is read off it, and so are the help texts and
the scripts that complete commands.
-/

namespace NoteSieve

/-- The levels of a command line. -/
inductive Level where
  | program
  | notes
  | tags
  | parse
  | complete
  | config
  | configView
  | configSet
  | configPath
  | completions
  | help
  deriving DecidableEq, Repr

/-- What the value of an operand or of a switch may be. -/
inductive ValueKind where
  /-- Any text. -/
  | text
  /-- A text that is not empty. -/
  | path
  /-- A number of 64 bits. -/
  | number
  /-- The name of a shell. -/
  | shell
  deriving DecidableEq, Repr

/-- The most that a number can be. -/
def maxNumber : Nat := 18446744073709551615

/-- The number that a text spells: digits, with a plus sign in front or without. -/
def number? (s : Text) : Option Nat := do
  let digits :=
    match s with
    | '+' :: rest => rest
    | _ => s
  if digits.all Text.isDigit then
    let n ← Text.digits? 10 digits
    if n ≤ maxNumber then some n else none
  else none

/-! ### Operands -/

/-- An operand: an argument without a name. -/
structure Operand where
  /-- What it is called in a message. -/
  name : Text
  /-- What it may be. -/
  kind : ValueKind
  /-- Whether it may not be left out. -/
  required : Bool
  deriving DecidableEq, Repr

namespace Operand

/-- A file of records. -/
def file : Operand := ⟨"FILE".toList, .path, true⟩

/-- A search text that may be left out. -/
def optionalQuery : Operand := ⟨"QUERY".toList, .text, false⟩

/-- A search text. -/
def query : Operand := ⟨"QUERY".toList, .text, true⟩

/-- An accepted suggestion. -/
def word : Operand := ⟨"WORD".toList, .text, true⟩

/-- The key of a setting. -/
def key : Operand := ⟨"KEY".toList, .text, true⟩

/-- The new value of a setting. -/
def value : Operand := ⟨"VALUE".toList, .text, true⟩

/-- A shell. -/
def shell : Operand := ⟨"SHELL".toList, .shell, true⟩

end Operand

/-- The operands of a level, in order. -/
def Level.operands : Level → List Operand
  | notes | tags => [.file, .optionalQuery]
  | parse => [.query]
  | complete => [.query, .word]
  | configSet => [.key, .value]
  | completions => [.shell]
  | program | config | configView | configPath | help => []

/-! ### Switches -/

/-- The switches. -/
inductive Switch where
  | verbose
  | quiet
  | json
  | noColor
  | config
  | primaryOperator
  | localizedOperator
  | deleted
  | untagged
  | tag
  | systemTag
  | title
  | exact
  | limit
  | asTag
  | help
  | version
  deriving DecidableEq, Repr

namespace Switch

/-- The name of a switch after two dashes. -/
def longName : Switch → Text
  | verbose => "verbose".toList
  | quiet => "quiet".toList
  | json => "json".toList
  | noColor => "no-color".toList
  | config => "config".toList
  | primaryOperator => "tag-operator".toList
  | localizedOperator => "localized-tag-operator".toList
  | deleted => "deleted".toList
  | untagged => "untagged".toList
  | tag | asTag => "tag".toList
  | systemTag => "system-tag".toList
  | title => "title".toList
  | exact => "exact".toList
  | limit => "limit".toList
  | help => "help".toList
  | version => "version".toList

/-- The letter of a switch after one dash, if it has one. -/
def shortName? : Switch → Option Char
  | verbose => some 'v'
  | quiet => some 'q'
  | help => some 'h'
  | version => some 'V'
  | _ => none

/-- What the value of a switch may be, if it takes one. -/
def kind? : Switch → Option ValueKind
  | config => some .path
  | limit => some .number
  | primaryOperator | localizedOperator | tag | systemTag | title | exact => some .text
  | verbose | quiet | json | noColor | deleted | untagged | asTag | help | version => none

/-- What a switch is for. -/
def purpose : Switch → Text
  | verbose => "More output on standard error".toList
  | quiet => "Errors only".toList
  | json => "Print JSON instead of tables".toList
  | noColor => "Print without colors".toList
  | config => "The configuration file".toList
  | primaryOperator => "The primary tag operator".toList
  | localizedOperator => "The localized tag operator".toList
  | deleted => "Search the trash instead of the live notes".toList
  | untagged => "Only notes without tags".toList
  | tag => "Only notes with this tag".toList
  | systemTag => "Only notes with this system tag".toList
  | title => "Only notes with this text in their first line".toList
  | exact => "Only notes with this very text".toList
  | limit => "Print no more than this many".toList
  | asTag => "Insert the suggestion as a tag".toList
  | help => "Print help".toList
  | version => "Print the version".toList

end Switch

namespace Level

/-- The switches that every level has. -/
def commonSwitches : List Switch :=
  [.verbose, .quiet, .json, .noColor, .config, .primaryOperator, .localizedOperator, .help,
    .version]

/-- The switches that a level has of its own. -/
def ownSwitches : Level → List Switch
  | notes => [.deleted, .untagged, .tag, .systemTag, .title, .exact, .limit]
  | tags => [.limit]
  | complete => [.asTag]
  | program | parse | config | configView | configSet | configPath | completions | help => []

/-- All switches of a level. -/
def switches (level : Level) : List Switch := level.ownSwitches ++ commonSwitches

/-- The switch with a long name. -/
def longSwitch? (level : Level) (name : Text) : Option Switch :=
  level.switches.find? fun s => s.longName == name

/-- The switch with a letter. -/
def shortSwitch? (level : Level) (letter : Char) : Option Switch :=
  level.switches.find? fun s => s.shortName? == some letter

/-! ### Names that lead on -/

/-- The levels that follow a level, each with the names that lead to it. -/
def next : Level → List (List Text × Level)
  | program =>
    [(["notes".toList, "n".toList], notes),
      (["tags".toList, "t".toList], tags),
      (["parse".toList], parse),
      (["complete".toList], complete),
      (["config".toList], config),
      (["completions".toList], completions),
      (["help".toList], help)]
  | config =>
    [(["show".toList], configView),
      (["set".toList], configSet),
      (["path".toList], configPath),
      (["help".toList], help)]
  | notes | tags | parse | complete | configView | configSet | configPath | completions | help => []

/-- The level that a name leads to. -/
def next? (level : Level) (name : Text) : Option Level :=
  (level.next.find? fun entry => entry.1.contains name).map Prod.snd

/-- All levels. -/
def all : List Level :=
  [program, notes, tags, parse, complete, config, configView, configSet, configPath, completions,
    help]

/-- What leads to a level, from the program on. -/
def names : Level → List Text
  | program => ["ns".toList]
  | notes => ["ns".toList, "notes".toList]
  | tags => ["ns".toList, "tags".toList]
  | parse => ["ns".toList, "parse".toList]
  | complete => ["ns".toList, "complete".toList]
  | config => ["ns".toList, "config".toList]
  | configView => ["ns".toList, "config".toList, "show".toList]
  | configSet => ["ns".toList, "config".toList, "set".toList]
  | configPath => ["ns".toList, "config".toList, "path".toList]
  | completions => ["ns".toList, "completions".toList]
  | help => ["ns".toList, "help".toList]

/-- What a level is for. -/
def purpose : Level → Text
  | program => "Search exported notes and tags".toList
  | notes => "Search notes".toList
  | tags => "Suggest tags for the last word of a search text".toList
  | parse => "Show how a search text is read".toList
  | complete => "Replace the last word of a search text by an accepted suggestion".toList
  | config => "View and edit the configuration".toList
  | configView => "Print the configuration".toList
  | configSet => "Change a setting".toList
  | configPath => "Print where the configuration is kept".toList
  | completions => "Write a script that completes commands".toList
  | help => "Print help".toList

end Level

end NoteSieve
