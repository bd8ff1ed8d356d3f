import NoteSieve.Config.Basic
import NoteSieve.Json.Value
import NoteSieve.Record.Basic
import NoteSieve.Toml.Reader

/-!
# Configuration files

A configuration is kept in a TOML file with the tables `search` and `output`. Whatever is missing
takes its default, keys of no setting are passed over, and a value of the wrong kind makes the whole
file no configuration. A table may be given as an array of its values in order, and a moment in its
place counts as a table without entries.

The file is read as a whole and written as a whole. Setting one value reads the file, changes the
configuration and writes it back; if any of this fails, the file stays as it was.
-/

namespace NoteSieve

namespace Config

/-! ### The text of a configuration -/

/-- A string, or a default where there is no value. -/
def stringOr (default : Text) : Option Toml → Option Text
  | none => some default
  | some (.string s) => some s
  | some _ => none

/-- The number of versions, which have 32 bits. -/
def versionBound : Nat := 4294967296

/-- A version, or a default where there is no value. -/
def versionOr (default : Nat) : Option Toml → Option Nat
  | none => some default
  | some (.integer n) => if 0 ≤ n ∧ n < versionBound then some n.toNat else none
  | some _ => none

/-- The tag operators in a table. -/
def operators? : Option Toml → Option Operators
  | none => some .default
  | some (.table _ entries) => do
    let primary ← stringOr Operators.defaultOperator (Toml.find? "tag_operator".toList entries)
    let localized ←
      stringOr Operators.defaultOperator (Toml.find? "localized_tag_operator".toList entries)
    return { primary, localized }
  | some (.array elements) => do
    let primary ← stringOr Operators.defaultOperator elements[0]?
    let localized ← stringOr Operators.defaultOperator elements[1]?
    return { primary, localized }
  | some .moment => some .default
  | some _ => none

/-- Whether tables have color, in a table. -/
def color? : Option Toml → Option (Option Bool)
  | none => some none
  | some (.table _ entries) =>
    match Toml.find? "color".toList entries with
    | none => some none
    | some (.boolean b) => some (some b)
    | some _ => none
  | some (.array (.boolean b :: _)) => some (some b)
  | some .moment => some none
  | some _ => none

/-- **The configuration that a text describes**, brought up to date. -/
def parse? (s : Text) : Option Config := do
  let entries ← Toml.read? s
  let version ← versionOr currentVersion (Toml.find? "version".toList entries)
  let operators ← operators? (Toml.find? "search".toList entries)
  let color ← color? (Toml.find? "output".toList entries)
  return migrate { version, operators, color }

/-- **The text of a configuration.** -/
def render (c : Config) : Text :=
  "version = ".toList ++ Text.ofNat c.version
    ++ "\n\n[search]\ntag_operator = ".toList ++ Toml.writeString c.operators.primary
    ++ "\nlocalized_tag_operator = ".toList ++ Toml.writeString c.operators.localized
    ++ "\n\n[output]\n".toList
    ++ match c.color with
      | none => []
      | some b => "color = ".toList ++ Text.ofBool b ++ ['\n']

/-- A configuration in JSON, with its keys in order. -/
def toJson (c : Config) : Json :=
  .ofMembers
    [("output".toList, .ofMembers (c.color.map fun b => ("color".toList, Json.bool b)).toList),
      ("search".toList,
        .ofMembers
          [("localized_tag_operator".toList, .ofText c.operators.localized),
            ("tag_operator".toList, .ofText c.operators.primary)]),
      ("version".toList, .ofNat c.version)]

/-! ### The file of a configuration -/

/-- **Reads the configuration at a path.** Where there is none it is the default one. -/
def load (disk : Disk) (path : Text) : Except ConfigError Config :=
  if disk.exists? path then
    match disk.readText path with
    | .error e => .error (.unreadable e)
    | .ok s =>
      match parse? s with
      | some c => .ok c
      | none => .error (.unparsable s)
  else .ok default

/-- **Writes a configuration to a path**, and makes the directory for it. -/
def save (disk : Disk) (path : Text) (c : Config) : List Disk.Change × Except ConfigError Unit :=
  match disk.makeDirectories (Disk.directoriesTo path) with
  | (changes, .error e) => (changes, .error (.noDirectory e))
  | (changes, .ok ()) =>
    match (disk.apply changes).writeText path c.render with
    | .error e => (changes, .error (.unwritable e))
    | .ok written => (changes ++ [written], .ok ())

/-- **Changes one setting in the file at a path.** -/
def update (disk : Disk) (path key value : Text) : List Disk.Change × Except ConfigError Unit :=
  match (do (← load disk path).set key value : Except ConfigError Config) with
  | .error e => ([], .error e)
  | .ok c => save disk path c

end Config

/-! ### The environment -/

/-- What the readers of records and configurations complain of in a text that they refuse. The
wording is theirs: an error passes it on as it is. -/
structure Complaints where
  /-- What is wrong with a text that holds no records of a kind. -/
  records : RecordKind → Text → Text
  /-- What is wrong with a text that is no configuration. -/
  config : Text → Text

/-- The plainest complaints: what was expected. -/
def Complaints.plain : Complaints where
  records
    | .notes, _ => "expected an array of notes".toList
    | .tags, _ => "expected an array of tags".toList
  config _ := "expected a configuration".toList

/-- What a run sees of its environment. -/
structure Environment where
  /-- The file of the configuration, if one is named. -/
  configFile : Option Text
  /-- The directory of configurations, if one is named. -/
  configHome : Option Text
  /-- The home directory that the environment names. -/
  home : Option Text
  /-- The home directory of the user's account. -/
  accountHome : Option Text
  /-- Whether the environment asks for no color. -/
  noColor : Bool
  /-- What the readers complain of. -/
  complaints : Complaints

namespace Environment

/-- A path and one that goes on from it. -/
def joinPath (base path : Text) : Text :=
  if base.isEmpty ∨ base.getLast? = some '/' then base ++ path else base ++ ['/'] ++ path

/-- The home directory: the one of the environment unless it is empty. -/
def homeDirectory? (env : Environment) : Option Text :=
  match env.home with
  | some (c :: rest) => some (c :: rest)
  | _ => env.accountHome

/-- **The path of the configuration file**: the one that is named, or else the usual one. -/
def configPath (env : Environment) (named : Option Text) : Except ConfigError Text :=
  match named, env.configHome, env.homeDirectory? with
  | some path, _, _ => .ok path
  | none, some base, _ => .ok (joinPath (joinPath base "ns".toList) "config.toml".toList)
  | none, none, some home =>
    .ok (joinPath (joinPath (joinPath home ".config".toList) "ns".toList) "config.toml".toList)
  | none, none, none => .error .noHome

end Environment

end NoteSieve
