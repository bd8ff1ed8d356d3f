import NoteSieve.CommandLine.Grammar

/-!
# Usage

What a run answers when it does not get to a command: the help and the version of a level, and what
is wrong with the arguments. A wrong argument is reported by its cause; the wording is one function.
-/

namespace NoteSieve

/-- What can be wrong with the arguments. -/
inductive UsageError where
  /-- An argument that has no place. -/
  | unknownArgument (argument : Text)
  /-- A name that leads nowhere. -/
  | unknownCommand (name : Text)
  /-- A switch without the value that it takes. -/
  | missingValue (switch : Switch)
  /-- A value of the wrong kind. -/
  | badValue (value : Text)
  /-- A value that is no number. -/
  | badNumber (value : Text)
  /-- A switch that is given twice at a level. -/
  | repeated (switch : Switch)
  /-- Less and more output asked for at one level. -/
  | quietAndVerbose
  /-- A value for a switch that takes none. -/
  | unwantedValue (switch : Switch)
  /-- An operand that may not be left out. -/
  | missingOperand (operand : Operand)
  deriving DecidableEq, Repr

/-- Why a run does not get to a command. -/
inductive Halt where
  /-- The help of a level is asked for. -/
  | help (level : Level)
  /-- The version is asked for. -/
  | version (level : Level)
  /-- The arguments are wrong. -/
  | error (cause : UsageError)
  deriving DecidableEq, Repr

/-- A switch as it is typed. -/
def Switch.typed (s : Switch) : Text := ['-', '-'] ++ s.longName

/-- The wording of an error. -/
def UsageError.message : UsageError → Text
  | unknownArgument argument => "unexpected argument '".toList ++ argument ++ ['\'']
  | unknownCommand name => "unrecognized subcommand '".toList ++ name ++ ['\'']
  | missingValue switch => "a value is required for '".toList ++ switch.typed ++ ['\'']
  | badValue value => "invalid value '".toList ++ value ++ ['\'']
  | badNumber value => "invalid number '".toList ++ value ++ ['\'']
  | repeated switch =>
    ['\''] ++ switch.typed ++ "' cannot be used multiple times".toList
  | quietAndVerbose => "'--quiet' cannot be used with '--verbose'".toList
  | unwantedValue switch => "unexpected value for '".toList ++ switch.typed ++ ['\'']
  | missingOperand operand => "missing argument <".toList ++ operand.name ++ ['>']

namespace Level

/-! ### Versions -/

/-- The version of the program. -/
def versionNumber : Text := "0.1.0".toList

/-- The version of the program under the name of a level. -/
def versionText (level : Level) : Text :=
  Text.joinWith ['-'] level.names ++ [' '] ++ versionNumber ++ ['\n']

/-! ### Help -/

/-- An operand in a usage line. -/
def operandUsage (o : Operand) : Text :=
  if o.required then ['<'] ++ o.name ++ ['>'] else ['['] ++ o.name ++ [']']

/-- The line that shows how a level is used. -/
def usageLine (level : Level) : Text :=
  "Usage: ".toList
    ++ Text.joinWith [' ']
      (level.names ++ ["[OPTIONS]".toList] ++ level.operands.map operandUsage
        ++ (if level.next.isEmpty then [] else ["[COMMAND]".toList]))

/-- A switch in a help text. -/
def switchHelp (s : Switch) : Text :=
  "  ".toList
    ++ (match s.shortName? with
      | some letter => ['-', letter, ',', ' ']
      | none => "    ".toList)
    ++ Text.padRight 36 (s.typed ++ if s.kind?.isSome then " <VALUE>".toList else [])
    ++ s.purpose

/-- A name that leads on in a help text. -/
def nextHelp (entry : List Text × Level) : Text :=
  "  ".toList ++ Text.padRight 16 (Text.joinWith ", ".toList entry.1) ++ entry.2.purpose

/-- **The help of a level.** -/
def helpText (level : Level) : Text :=
  Text.unlines <|
    [level.purpose, [], level.usageLine]
      ++ (if level.next.isEmpty then [] else [[], "Commands:".toList] ++ level.next.map nextHelp)
      ++ [[], "Options:".toList] ++ level.switches.map switchHelp

end Level

end NoteSieve
