import NoteSieve.Disk.Basic
import NoteSieve.Query.Settings
import NoteSieve.Unicode.Blank
import NoteSieve.Unicode.Lower

/-!
# Configurations

What a user can configure: the two tag operators, and whether the tables have color. A setting is
addressed by its key and changed by a text, which is checked before anything else happens: an
operator may not be blank, since every word begins with nothing at all, and a truth value has four
spellings of either kind.
-/

namespace NoteSieve

/-- A configuration. -/
structure Config where
  /-- The version of the format of its file. -/
  version : Nat
  /-- The tag operators. -/
  operators : Operators
  /-- Whether tables have color, if that is configured. -/
  color : Option Bool
  deriving DecidableEq, Repr

/-- What can go wrong with a configuration. -/
inductive ConfigError where
  /-- There is no directory for it. -/
  | noHome
  /-- Its file cannot be read. -/
  | unreadable (cause : DiskError)
  /-- Its file holds a text that is no configuration. -/
  | unparsable (s : Text)
  /-- No setting has this key. -/
  | unknownKey (key : Text)
  /-- An operator that is blank. -/
  | blankOperator
  /-- A text that spells no truth value. -/
  | notBoolean (value : Text)
  /-- The directory for its file cannot be made. -/
  | noDirectory (cause : DiskError)
  /-- Its file cannot be written. -/
  | unwritable (cause : DiskError)
  deriving DecidableEq, Repr

/-- The wording of an error, given what is complained of in a text that is no configuration. -/
def ConfigError.message (complaint : Text → Text) : ConfigError → Text
  | noHome => "Could not determine config directory".toList
  | unreadable cause => "Failed to read config: ".toList ++ cause.message
  | unparsable s => "Failed to parse config: ".toList ++ complaint s
  | unknownKey key =>
    "Unknown config key '".toList ++ key
      ++ "'. Valid keys: search.tag_operator, search.localized_tag_operator, ".toList
      ++ "output.color".toList
  | blankOperator => "Tag operator cannot be empty".toList
  | notBoolean value =>
    "Invalid boolean value '".toList ++ value
      ++ "'. Use true/false, yes/no, 1/0, or on/off".toList
  | noDirectory cause => "Failed to create config directory: ".toList ++ cause.message
  | unwritable cause => "Failed to write config: ".toList ++ cause.message

namespace Config

/-- The version of the format that is written. -/
def currentVersion : Nat := 1

/-- The configuration of a user who has none. -/
def default : Config := ⟨currentVersion, .default, none⟩

/-- A configuration read from a file of any version. The formats of all versions so far have the
same fields, so only the version itself is brought up to date. -/
def migrate (c : Config) : Config := { c with version := currentVersion }

/-! ### Settings -/

/-- What can be set by itself. -/
inductive Setting where
  | primaryOperator
  | localizedOperator
  | color
  deriving DecidableEq, Repr

/-- The key of a setting. -/
def Setting.key : Setting → Text
  | primaryOperator => "search.tag_operator".toList
  | localizedOperator => "search.localized_tag_operator".toList
  | color => "output.color".toList

/-- The setting with a key. -/
def Setting.ofKey? (key : Text) : Option Setting :=
  [primaryOperator, localizedOperator, color].find? fun s => s.key == key

/-- An operator, if it is not blank. -/
def operator (value : Text) : Except ConfigError Text :=
  if value.all Unicode.isBlank then .error .blankOperator else .ok value

/-- The truth value that a text spells, in upper or lower case. -/
def boolean (value : Text) : Except ConfigError Bool :=
  let s := Unicode.lower value
  if ["true".toList, "yes".toList, "1".toList, "on".toList].contains s then .ok true
  else if ["false".toList, "no".toList, "0".toList, "off".toList].contains s then .ok false
  else .error (.notBoolean value)

/-- **Changes one setting.** -/
def set (c : Config) (key value : Text) : Except ConfigError Config := do
  match Setting.ofKey? key with
  | some .primaryOperator =>
    return { c with operators := { c.operators with primary := ← operator value } }
  | some .localizedOperator =>
    return { c with operators := { c.operators with localized := ← operator value } }
  | some .color => return { c with color := some (← boolean value) }
  | none => .error (.unknownKey key)

end Config

end NoteSieve
