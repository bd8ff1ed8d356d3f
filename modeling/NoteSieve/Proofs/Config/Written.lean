import NoteSieve.Config.File
import NoteSieve.Proofs.Toml.Reader

/-!
# A written configuration is read back

The text of a configuration is a plain document: the version, the table `search` with the two
operators and the table `output` with the color, if there is one. Read line by line it gives these
tables and nothing else (`NoteSieve.Config.read?_render`), whatever the operators are: quotes, line
breaks and control characters included. So **the configuration comes back**, brought up to date
(`NoteSieve.Config.parse?_render`).
-/

namespace NoteSieve

namespace Config

open Toml

/-! ### The document -/

/-- The line of the color, where there is one. -/
def colorLines : Option Bool → Text
  | none => []
  | some b => entryLine "color".toList (Text.ofBool b)

/-- The entries of the table `search`. -/
def searchEntries (ops : Operators) : Entries :=
  [("tag_operator".toList, .string ops.primary),
    ("localized_tag_operator".toList, .string ops.localized)]

/-- The entries of the table `output`. -/
def outputEntries : Option Bool → Entries
  | none => []
  | some b => [("color".toList, .boolean b)]

/-- The document of a configuration. -/
def document (c : Config) : Entries :=
  [("version".toList, .integer c.version),
    ("search".toList, .table .header (searchEntries c.operators)),
    ("output".toList, .table .header (outputEntries c.color))]

/-! ### The text line by line -/

theorem render_eq_lines (c : Config) : c.render =
    entryLine "version".toList (Text.ofNat c.version) ++ (['\n'] ++
      (headerLine "search".toList ++
        (entryLine "tag_operator".toList (writeString c.operators.primary) ++
          (entryLine "localized_tag_operator".toList (writeString c.operators.localized) ++
            (['\n'] ++ (headerLine "output".toList ++ colorLines c.color)))))) := by
  have hversion : "version = ".toList = "version".toList ++ " = ".toList := by decide
  have hsearch : "\n\n[search]\ntag_operator = ".toList = ['\n'] ++ (['\n'] ++
      headerLine "search".toList ++ "tag_operator".toList ++ " = ".toList) := by decide +kernel
  have hlocalized : "\nlocalized_tag_operator = ".toList
      = ['\n'] ++ "localized_tag_operator".toList ++ " = ".toList := by decide
  have houtput : "\n\n[output]\n".toList = ['\n'] ++ (['\n'] ++ headerLine "output".toList) := by
    decide
  have hcolor : "color = ".toList = "color".toList ++ " = ".toList := by decide
  unfold render
  simp only [hversion, hsearch, hlocalized, houtput, entryLine, List.append_assoc]
  cases c.color with
  | none => rfl
  | some b => simp only [hcolor, entryLine, colorLines, List.append_assoc]

/-- There are more characters than lines. -/
theorem exists_length_render (c : Config) : ∃ fuel, c.render.length + 1 = fuel + 9 := by
  have h : 8 ≤ c.render.length := by
    rw [render_eq_lines]
    simp only [List.length_append, length_entryLine]
    omega
  exact ⟨c.render.length - 8, by omega⟩

/-- The text begins with no byte order mark. -/
theorem read?_render_eq_readLines (c : Config) :
    read? c.render = readLines (c.render.length + 1) [] [] c.render := by
  have hfront : ∃ t, c.render = 'v' :: t := ⟨_, rfl⟩
  obtain ⟨t, ht⟩ := hfront
  rw [ht]
  rfl

/-- The lines of the color are those of the table `output`, and the last ones. -/
theorem readLines_colorLines (fuel : Nat) (v w : Toml) (color : Option Bool) :
    readLines (fuel + 2) ["output".toList]
      [("version".toList, v), ("search".toList, w), ("output".toList, .table .header [])]
      (colorLines color)
    = some [("version".toList, v), ("search".toList, w),
        ("output".toList, .table .header (outputEntries color))] := by
  cases color with
  | none => rfl
  | some b =>
    have hcolor : IsBareKey "color".toList := by decide
    have h := readLines_entry hcolor (spells_ofBool b) (fuel + 1) ["output".toList]
      [("version".toList, v), ("search".toList, w), ("output".toList, .table .header [])] []
    rw [List.append_nil] at h
    rw [colorLines, h]
    rfl

/-- **The document that the text of a configuration describes.** -/
theorem read?_render (c : Config) (hversion : c.version < integerBound) :
    read? c.render = some c.document := by
  let version : Text × Toml := ("version".toList, .integer c.version)
  let search (entries : Entries) : Text × Toml := ("search".toList, .table .header entries)
  let primary : Text × Toml := ("tag_operator".toList, .string c.operators.primary)
  let localized : Text × Toml := ("localized_tag_operator".toList, .string c.operators.localized)
  have hfirst : alongHeader (addNew "version".toList (.integer c.version)) [] []
      = some [version] := rfl
  have hopen : openTable [] "search".toList [version] = some [version, search []] := rfl
  have hprimary : alongHeader (addNew "tag_operator".toList (.string c.operators.primary))
      ["search".toList] [version, search []] = some [version, search [primary]] := rfl
  have hlocalized :
      alongHeader (addNew "localized_tag_operator".toList (.string c.operators.localized))
        ["search".toList] [version, search [primary]]
      = some [version, search [primary, localized]] := rfl
  have hlast : openTable [] "output".toList [version, search [primary, localized]]
      = some [version, search [primary, localized], ("output".toList, .table .header [])] := rfl
  obtain ⟨fuel, hfuel⟩ := c.exists_length_render
  rw [read?_render_eq_readLines, hfuel, render_eq_lines,
    readLines_entry (by decide) (spells_ofNat hversion), hfirst, Option.bind_some,
    List.singleton_append, readLines_blank,
    readLines_header (by decide), hopen, Option.bind_some,
    readLines_entry (by decide) (spells_writeString _), hprimary, Option.bind_some,
    readLines_entry (by decide) (spells_writeString _), hlocalized, Option.bind_some,
    List.singleton_append, readLines_blank,
    readLines_header (by decide), hlast, Option.bind_some]
  exact readLines_colorLines fuel _ _ c.color

/-! ### The configuration -/

theorem versionOr_integer {n : Nat} (hn : n < versionBound) (default : Nat) :
    versionOr default (some (.integer n)) = some n := by
  have hrange : (0 : Int) ≤ n ∧ (n : Int) < versionBound :=
    ⟨Int.natCast_nonneg n, Int.ofNat_lt.mpr hn⟩
  rw [versionOr, if_pos hrange, Int.toNat_natCast]

theorem operators?_searchEntries (ops : Operators) :
    operators? (some (.table .header (searchEntries ops))) = some ops := rfl

theorem color?_outputEntries (color : Option Bool) :
    color? (some (.table .header (outputEntries color))) = some color := by
  cases color <;> rfl

/-- The configuration that the entries of a document describe. -/
def ofDocument? (entries : Entries) : Option Config := do
  let version ← versionOr currentVersion (find? "version".toList entries)
  let operators ← operators? (find? "search".toList entries)
  let color ← color? (find? "output".toList entries)
  return migrate { version, operators, color }

theorem parse?_eq_bind (s : Text) : parse? s = (read? s).bind ofDocument? := rfl

theorem ofDocument?_document (c : Config) (hversion : c.version < versionBound) :
    ofDocument? c.document = some c.migrate := by
  have hfind : find? "version".toList c.document = some (.integer c.version) := rfl
  have hsearch : find? "search".toList c.document
      = some (.table .header (searchEntries c.operators)) := rfl
  have houtput : find? "output".toList c.document
      = some (.table .header (outputEntries c.color)) := rfl
  rw [ofDocument?, hfind, hsearch, houtput, versionOr_integer hversion, operators?_searchEntries,
    color?_outputEntries]
  rfl

/-- **A written configuration is read back**, brought up to date. -/
theorem parse?_render (c : Config) (hversion : c.version < versionBound) :
    parse? c.render = some c.migrate := by
  have hbounds : versionBound < integerBound := by decide
  rw [parse?_eq_bind, c.read?_render (hversion.trans hbounds), Option.bind_some,
    c.ofDocument?_document hversion]

theorem migrate_eq_self {c : Config} (h : c.version = currentVersion) : c.migrate = c := by
  rw [migrate, ← h]

/-- What is read has the version of the format that is written. -/
theorem version_of_parse? {s : Text} {c : Config} (h : parse? s = some c) :
    c.version = currentVersion := by
  simp only [parse?, Option.bind_eq_bind, Option.bind_eq_some_iff, pure] at h
  obtain ⟨_, -, _, -, _, -, _, -, hc⟩ := h
  rw [← Option.some.inj hc, migrate]

/-- **A configuration of the current format is read back as it was written.** -/
theorem parse?_render_current (c : Config) (hversion : c.version = currentVersion) :
    parse? c.render = some c := by
  rw [c.parse?_render (hversion ▸ by decide), migrate_eq_self hversion]

/-- Quotes of both kinds in runs, line breaks and a backslash: both operators are escaped, and one
of them goes between three quotes. -/
theorem parse?_render_quotes :
    parse? (render ⟨1, ⟨"\n\"\"\"'''\\".toList, "\r\t'\"".toList⟩, some false⟩)
      = some ⟨1, ⟨"\n\"\"\"'''\\".toList, "\r\t'\"".toList⟩, some false⟩ :=
  parse?_render_current _ rfl

end Config

end NoteSieve
