import NoteSieve.Filter.Compile

/-!
# Command lines

What a run is asked for, once its arguments have been understood: at most one command with the
operands and options of its own, and the options that go with every command. Nothing in here can be
wrong any more; an argument that does not fit never gets this far.
-/

namespace NoteSieve

/-- The shells that commands can be completed in. -/
inductive Shell where
  | bash
  | zsh
  | fish
  | powershell
  deriving DecidableEq, Repr

namespace Shell

/-- All shells. -/
def all : List Shell := [bash, zsh, fish, powershell]

/-- The name of a shell. -/
def name : Shell → Text
  | bash => "bash".toList
  | zsh => "zsh".toList
  | fish => "fish".toList
  | powershell => "powershell".toList

/-- The shell with a name. -/
def ofName? (s : Text) : Option Shell := all.find? fun shell => shell.name == s

end Shell

/-- What can be done with the configuration. -/
inductive ConfigCommand where
  /-- Print it. -/
  | view
  /-- Change one setting. -/
  | set (key value : Text)
  /-- Print where it is kept. -/
  | path
  deriving DecidableEq, Repr

/-- The commands. -/
inductive Command where
  /-- Search the notes in a file. -/
  | notes (file query : Text) (options : NoteOptions) (limit : Option Nat)
  /-- Suggest tags of a file for the last word of a search text. -/
  | tags (file query : Text) (limit : Option Nat)
  /-- Show the tokens of a search text. -/
  | parse (query : Text)
  /-- Accept a suggestion. -/
  | complete (query word : Text) (asTag : Bool)
  /-- View or edit the configuration; on its own, it is to be printed. -/
  | config (command : Option ConfigCommand)
  /-- Write a script that completes commands in a shell. -/
  | completions (shell : Shell)
  deriving DecidableEq, Repr

/-- A command line. -/
structure CommandLine where
  /-- How many times more output was asked for. -/
  verbosity : Nat
  /-- Print errors only. -/
  quiet : Bool
  /-- Print documents instead of tables. -/
  json : Bool
  /-- Print without color. -/
  noColor : Bool
  /-- The file of the configuration, if one is named. -/
  configFile : Option Text
  /-- The primary tag operator, if it is not to be the configured one. -/
  primaryOperator : Option Text
  /-- The localized tag operator, if it is not to be the configured one. -/
  localizedOperator : Option Text
  /-- The command, if there is one. -/
  command : Option Command
  deriving DecidableEq, Repr

end NoteSieve
