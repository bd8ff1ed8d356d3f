import NoteSieve.CommandLine.Grammar

/-!
# Completion scripts

A script that completes commands in a shell. Each script is made from the same table as the reader
of command lines: at every level it offers the names that lead on and the switches, and a name that
leads on takes it to the next level. Where nothing is offered the shell completes files.
-/

namespace NoteSieve

namespace Level

/-- The name of a level in a script: what leads to it, joined. -/
def label (level : Level) : Text := Text.joinWith ['-'] level.names

/-- The switches of a level as they are typed. -/
def typedSwitches (level : Level) : List Text :=
  level.switches.flatMap fun s =>
    (['-', '-'] ++ s.longName) :: s.shortName?.toList.map fun letter => ['-', letter]

/-- What may be typed at a level: names, switches, and the shells where one is expected. -/
def words (level : Level) : List Text :=
  level.next.flatMap Prod.fst ++ level.typedSwitches
    ++ if level.operands.any fun o => o.kind = .shell then Shell.all.map Shell.name else []

end Level

namespace Shell

/-- A line of a script: an indentation and the pieces of it. -/
def scriptLine (indentation : Nat) (pieces : List Text) : Text :=
  List.replicate indentation ' ' ++ pieces.flatten ++ ['\n']

/-- A text in single quotes. -/
def inQuotes (s : Text) : Text := ['\''] ++ s ++ ['\'']

/-- The steps from a level to the next: its label, a name, and the label that the name leads to. -/
def steps : List (Text × Text × Text) :=
  Level.all.flatMap fun level =>
    level.next.flatMap fun (names, next) => names.map fun name => (level.label, name, next.label)

/-- The script for a shell that has the commands of the Bourne shell; `offer` is the command that
offers words, `typed` the words before the one that is being typed. -/
def bourneScript (heading typed closing : Text) (offer : Text → Text) : Text :=
  scriptLine 0 [heading]
    ++ scriptLine 4 ["local level=ns word".toList]
    ++ scriptLine 4 ["for word in ".toList, typed, "; do".toList]
    ++ scriptLine 8 ["case \"$level,$word\" in".toList]
    ++ (steps.flatMap fun (level, name, next) =>
      scriptLine 12 [level, [','], name, ") level=".toList, next, " ;;".toList])
    ++ scriptLine 8 ["esac".toList]
    ++ scriptLine 4 ["done".toList]
    ++ scriptLine 4 ["case \"$level\" in".toList]
    ++ (Level.all.flatMap fun level =>
      scriptLine 8
        [level.label, ") ".toList, offer (Text.joinWith [' '] level.words), " ;;".toList])
    ++ scriptLine 4 ["esac".toList]
    ++ scriptLine 0 [['\x7d']]
    ++ scriptLine 0 [closing]

/-- The script for bash. -/
def bashScript : Text :=
  bourneScript "_ns() \x7b".toList "\"$\x7bCOMP_WORDS[@]:1:COMP_CWORD-1\x7d\"".toList
    "complete -o default -F _ns ns".toList fun words =>
      "COMPREPLY=($(compgen -W ".toList ++ inQuotes words
        ++ " -- \"$\x7bCOMP_WORDS[COMP_CWORD]\x7d\"))".toList

/-- The script for zsh. -/
def zshScript : Text :=
  scriptLine 0 ["#compdef ns".toList]
    ++ bourneScript "_ns() \x7b".toList "\"$\x7b(@)words[2,CURRENT-1]\x7d\"".toList
      "compdef _ns ns".toList fun words => "compadd -- ".toList ++ words ++ " || _files".toList

/-- The condition under which a level is the innermost one in the script for fish: all that leads to
it has been typed, and nothing that leads on. -/
def fishCondition (level : Level) : Text :=
  inQuotes <|
    "true".toList
      ++ ((level.names.drop 1).flatMap fun name =>
        "; and __fish_seen_subcommand_from ".toList ++ name)
      ++ if level.next.isEmpty then []
        else
          "; and not __fish_seen_subcommand_from ".toList
            ++ Text.joinWith [' '] (level.next.flatMap Prod.fst)

/-- The script for fish. -/
def fishScript : Text :=
  Level.all.flatMap fun level =>
    let here := "complete -c ns -n ".toList ++ fishCondition level
    (level.next.flatMap fun (names, next) =>
      scriptLine 0
        [here, " -a ".toList, inQuotes (Text.joinWith [' '] names), " -d ".toList,
          inQuotes next.purpose])
      ++ level.switches.flatMap fun s =>
        scriptLine 0
          [here, " -l ".toList, s.longName,
            (s.shortName?.toList.map fun letter => [' ', '-', 's', ' ', letter]).flatten,
            if s.kind?.isSome then " -r".toList else [], " -d ".toList, inQuotes s.purpose]

/-- The script for PowerShell. -/
def powershellScript : Text :=
  scriptLine 0
      ["Register-ArgumentCompleter -Native -CommandName 'ns' -ScriptBlock \x7b".toList]
    ++ scriptLine 4 ["param($wordToComplete, $commandAst, $cursorPosition)".toList]
    ++ scriptLine 4 ["$level = 'ns'".toList]
    ++ scriptLine 4 ["foreach ($element in $commandAst.CommandElements) \x7b".toList]
    ++ scriptLine 8 ["switch (\"$level,$element\") \x7b".toList]
    ++ (steps.flatMap fun (level, name, next) =>
      scriptLine 12
        [inQuotes (level ++ [','] ++ name), " \x7b $level = ".toList, inQuotes next,
          "; break \x7d".toList])
    ++ scriptLine 8 [['\x7d']]
    ++ scriptLine 4 [['\x7d']]
    ++ scriptLine 4 ["$words = switch ($level) \x7b".toList]
    ++ (Level.all.flatMap fun level =>
      scriptLine 8
        [inQuotes level.label, " \x7b ".toList,
          Text.joinWith ", ".toList (level.words.map inQuotes), " \x7d".toList])
    ++ scriptLine 4 [['\x7d']]
    ++ scriptLine 4 ["$words | Where-Object \x7b $_ -like \"$wordToComplete*\" \x7d".toList]
    ++ scriptLine 0 [['\x7d']]

/-- **The script that completes commands in a shell.** -/
def completionScript : Shell → Text
  | bash => bashScript
  | zsh => zshScript
  | fish => fishScript
  | powershell => powershellScript

end Shell

end NoteSieve
