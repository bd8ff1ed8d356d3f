import NoteSieve.Command.Outcome
import NoteSieve.CommandLine.Completion
import NoteSieve.CommandLine.Reader
import NoteSieve.Config.File
import NoteSieve.Filter.Display
import NoteSieve.Output.Document
import NoteSieve.Output.Table

/-!
# Running a command

A run is a function: from the environment, the disk and the arguments to the outcome
(`NoteSieve.respond`). Every command but two reads the configuration first and fails if it cannot.
The two that do not are the script for a shell and the path of the configuration, which have to work
even when the configuration is broken.

What a command finds it prints as a table or, on demand, as a document. Asking for errors only
silences the table but not the document.
-/

namespace NoteSieve

/-- What a command knows besides its operands and options: the configuration, where the command line
does not say otherwise. -/
structure Context where
  /-- Print documents. -/
  json : Bool
  /-- Print tables in color. -/
  color : Bool
  /-- Print errors only. -/
  quiet : Bool
  /-- The tag operators. -/
  operators : Operators
  deriving DecidableEq, Repr

namespace Context

/-- The context of a command line. -/
def of (env : Environment) (line : CommandLine) (config : Config) : Context where
  json := line.json
  color := !line.noColor && config.color.getD true && !env.noColor
  quiet := line.quiet
  operators :=
    { primary := line.primaryOperator.getD config.operators.primary
      localized := line.localizedOperator.getD config.operators.localized }

/-- What is printed of a result, given as a document and as a table. -/
def print (ctx : Context) (document : Json) (table : Text) : Text :=
  if ctx.json then document.write ++ ['\n'] else if ctx.quiet then [] else table

theorem print_document (ctx : Context) (h : ctx.json = true) (document : Json) (table : Text) :
    ctx.print document table = document.write ++ ['\n'] :=
  if_pos h

theorem print_table (ctx : Context) (hjson : ctx.json = false) (hquiet : ctx.quiet = false)
    (document : Json) (table : Text) : ctx.print document table = table := by
  simp [print, hjson, hquiet]

end Context

/-- The first records of a list, or all of them without a limit. -/
def firstOf {α : Type} (limit : Option Nat) (records : List α) : List α :=
  match limit with
  | none => records
  | some n => records.take n

/-! ### The commands -/

/-- **Searches notes.** The total counts the notes before any are left out. -/
def searchNotes (ctx : Context) (disk : Disk) (file query : Text) (options : NoteOptions)
    (limit : Option Nat) : Except CommandError Text :=
  match loadNotes disk file with
  | .error e => .error (.records e)
  | .ok notes =>
    let filter := searchFilter ctx.operators query options
    let matched := filter.select notes
    let shown := firstOf limit matched
    .ok <|
      ctx.print (notesDocument shown matched.length filter.render)
        (notesTable ctx.color shown matched.length)

/-- **Suggests tags** for the last word of a search text. -/
def suggestTags (ctx : Context) (disk : Disk) (file query : Text) (limit : Option Nat) :
    Except CommandError Text :=
  match loadTags disk file with
  | .error e => .error (.records e)
  | .ok tags =>
    let shown := firstOf limit ((Query.parse ctx.operators query).tagFilter.select tags)
    .ok (ctx.print (tagsDocument shown) (tagsTable ctx.color ctx.operators.primary shown))

/-- **Shows the tokens** of a search text. -/
def showTokens (ctx : Context) (query : Text) : Text :=
  let q := Query.parse ctx.operators query
  ctx.print (tokensDocument q) (tokensTable ctx.color q)

/-- **Accepts a suggestion.** -/
def acceptSuggestion (ctx : Context) (query word : Text) (asTag : Bool) : Text :=
  let completed := completedText ctx.operators query word asTag
  ctx.print (completionDocument completed) (completed ++ ['\n'])

/-! ### The configuration -/

/-- The configuration as a document, with the path of its file and whether there is one. -/
def configDocument (path : Text) (isThere : Bool) (config : Config) : Json :=
  .ofMembers
    [("config".toList, config.toJson), ("exists".toList, .bool isThere),
      ("path".toList, .ofText path)]

/-- The configuration for a reader. -/
def configReport (color : Bool) (path : Text) (isThere : Bool) (config : Config) : Text :=
  Text.unlines <|
    [Style.bold.paint color (Style.green.paint color "Configuration".toList),
      [],
      "File: ".toList ++ path,
      "Exists: ".toList ++ Text.ofBool isThere,
      [],
      "[search]".toList,
      "  tag_operator: ".toList ++ config.operators.primary,
      "  localized_tag_operator: ".toList ++ config.operators.localized,
      [],
      "[output]".toList]
      ++ (config.color.map fun b => "  color: ".toList ++ Text.ofBool b).toList

/-- **Prints the configuration.** -/
def viewConfig (ctx : Context) (disk : Disk) (path : Text) (config : Config) : Text :=
  ctx.print (configDocument path (disk.exists? path) config)
    (configReport ctx.color path (disk.exists? path) config)

/-- The path of the configuration as a document. -/
def pathDocument (path : Text) (isThere : Bool) : Json :=
  .ofMembers [("exists".toList, .bool isThere), ("path".toList, .ofText path)]

/-- **Prints where the configuration is kept**, also when errors only are asked for. -/
def printConfigPath (json : Bool) (disk : Disk) (path : Text) : Text :=
  (if json then (pathDocument path (disk.exists? path)).write else path) ++ ['\n']

/-- A changed setting as a document. -/
def settingDocument (path key value : Text) : Json :=
  .ofMembers
    [("key".toList, .ofText key), ("path".toList, .ofText path),
      ("status".toList, .ofText "success".toList), ("value".toList, .ofText value)]

/-- **Changes a setting.** -/
def changeSetting (ctx : Context) (disk : Disk) (path key value : Text) :
    List Disk.Change × Except CommandError Text :=
  match Config.update disk path key value with
  | (changes, .error e) => (changes, .error (.config e))
  | (changes, .ok ()) =>
    (changes, .ok <|
      ctx.print (settingDocument path key value)
        ("Set ".toList ++ key ++ " = ".toList ++ value ++ ['\n']))

/-! ### A whole run -/

/-- What is printed where no command is given. -/
def greeting : Text :=
  "ns: search exported notes and tags. Run 'ns --help' for usage.\n".toList

/-- A command that goes by the configuration, which is kept at the path. -/
def Command.perform (ctx : Context) (disk : Disk) (path : Text) (current : Config) :
    Command → List Disk.Change × Except CommandError Text
  | notes file query options limit => ([], searchNotes ctx disk file query options limit)
  | tags file query limit => ([], suggestTags ctx disk file query limit)
  | parse query => ([], .ok (showTokens ctx query))
  | complete query word asTag => ([], .ok (acceptSuggestion ctx query word asTag))
  | config none | config (some .view) => ([], .ok (viewConfig ctx disk path current))
  | config (some (.set key value)) => changeSetting ctx disk path key value
  | config (some .path) => ([], .ok (printConfigPath ctx.json disk path))
  | completions shell => ([], .ok shell.completionScript)

namespace CommandLine

/-- The path of the configuration file. -/
def configPath (env : Environment) (line : CommandLine) : Except CommandError Text :=
  match env.configPath line.configFile with
  | .ok path => .ok path
  | .error e => .error (.config e)

/-- What a command changes, and what it prints or why it fails. -/
def perform (env : Environment) (disk : Disk) (line : CommandLine) :
    List Disk.Change × Except CommandError Text :=
  match line.command with
  | none => ([], .ok (if line.quiet then [] else greeting))
  | some (.completions shell) => ([], .ok shell.completionScript)
  | some (.config (some .path)) =>
    ([], (line.configPath env).map (printConfigPath line.json disk))
  | some command =>
    match line.configPath env with
    | .error e => ([], .error e)
    | .ok path =>
      match Config.load disk path with
      | .error e => ([], .error (.config e))
      | .ok config => command.perform (.of env line config) disk path config

/-- **The outcome of a command line.** -/
def run (env : Environment) (disk : Disk) (line : CommandLine) : Outcome :=
  let (changes, result) := line.perform env disk
  .ofCommand env.complaints line.json changes result

end CommandLine

/-- **The outcome of a run with arguments.** -/
def respond (env : Environment) (disk : Disk) (arguments : List Text) : Outcome :=
  match CommandLine.ofArguments env.configFile arguments with
  | .ok line => line.run env disk
  | .error halt => .ofHalt halt

end NoteSieve
