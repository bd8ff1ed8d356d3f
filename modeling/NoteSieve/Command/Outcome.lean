import NoteSieve.CommandLine.Usage
import NoteSieve.Config.File
import NoteSieve.Json.Writer
import NoteSieve.Record.Load

/-!
# Outcomes

What is left of a run: how it exits, what it printed, and what it changed on the disk. A command
that fails prints nothing on standard output; its error goes to standard error, as a line or as a
document, and the exit code tells the kind of error.
-/

namespace NoteSieve

/-- Why a command fails. -/
inductive CommandError where
  /-- The configuration. -/
  | config (cause : ConfigError)
  /-- The records. -/
  | records (cause : LoadError)
  deriving DecidableEq, Repr

namespace CommandError

/-- The wording of an error, given what the readers complain of. -/
def message (complaints : Complaints) : CommandError → Text
  | config cause => "configuration error: ".toList ++ cause.message complaints.config
  | records (.unreadable path cause) =>
    "I/O error: ".toList ++ path ++ ": ".toList ++ cause.message
  | records (.malformed kind s) => "serialization error: ".toList ++ complaints.records kind s

/-- The kind of an error. -/
def code : CommandError → Text
  | config _ => "CONFIG_ERROR".toList
  | records (.unreadable _ _) => "IO_ERROR".toList
  | records (.malformed _ _) => "JSON_ERROR".toList

/-- The exit code for an error. -/
def exitCode : CommandError → Nat
  | config _ => 5
  | records (.unreadable _ _) => 3
  | records (.malformed _ _) => 1

/-- An error as a document. -/
def toJson (complaints : Complaints) (e : CommandError) : Json :=
  .ofMembers
    [("error".toList,
      .ofMembers
        [("code".toList, .ofText e.code), ("message".toList, .ofText (e.message complaints))])]

/-- What is printed about an error. -/
def report (complaints : Complaints) (json : Bool) (e : CommandError) : Text :=
  (if json then (e.toJson complaints).write else "Error: ".toList ++ e.message complaints)
    ++ ['\n']

end CommandError

/-- What is left of a run. -/
structure Outcome where
  /-- The exit code. -/
  exitCode : Nat
  /-- What is printed on standard output. -/
  stdout : Text
  /-- What is printed on standard error. -/
  stderr : Text
  /-- What is changed on the disk, in order. -/
  changes : List Disk.Change
  deriving DecidableEq

namespace Outcome

/-- The outcome of a run that does not get to a command. -/
def ofHalt : Halt → Outcome
  | .help level => ⟨0, level.helpText, [], []⟩
  | .version level => ⟨0, level.versionText, [], []⟩
  | .error cause =>
    ⟨2, [],
      "error: ".toList ++ cause.message
        ++ "\n\nFor more information, try '--help'.\n".toList,
      []⟩

/-- The outcome of a command: what it changed, and what it prints or why it fails. -/
def ofCommand (complaints : Complaints) (json : Bool) (changes : List Disk.Change) :
    Except CommandError Text → Outcome
  | .ok printed => ⟨0, printed, [], changes⟩
  | .error e => ⟨e.exitCode, [], e.report complaints json, changes⟩

end Outcome

end NoteSieve
