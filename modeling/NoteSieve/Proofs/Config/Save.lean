import NoteSieve.Proofs.Config.Setting
import NoteSieve.Proofs.Config.Written
import NoteSieve.Proofs.Disk.Content
import NoteSieve.Proofs.Disk.File

/-!
# The file of a configuration

What is loaded from a path is what a file there holds that may be read
(`NoteSieve.Config.load_eq_ok_iff`). To save a configuration, the directories for its file are made
and the file is written; which directories those are, where the file goes and whether any of this
fails has nothing to do with the configuration, so it is said apart (`NoteSieve.Config.prepare`,
`NoteSieve.Config.save_eq`).

Either way the path is settled from then on. Where saving failed it fails again without changing
anything (`NoteSieve.Config.exists_prepare_again`). Where it succeeded, the path leads to what was
written, and the next configuration goes to the same place with nothing else to do
(`NoteSieve.Config.prepare_eq_ok`).

One thing can come in between: a path such as `new/../file` leads nowhere until a directory is made,
and then to a file that was there all along and may be closed to us. Paths for which that does not
happen are steady (`NoteSieve.Config.IsSteady`), which all are where no file is closed
(`NoteSieve.Config.isSteady_of_open`). Along those, **failing leaves the file as it was**
(`NoteSieve.Config.fileAt?_of_prepare_eq_error`), **and what is written can be loaded**
(`NoteSieve.Config.load_of_prepare_eq_ok`).
-/

namespace NoteSieve

namespace Config

open Disk

variable {disk : Disk} {path : Text} {c : Config} {content : Content} {dirs : List Change}
  {e : ConfigError} {p : Place} {r : Except ConfigError Place}

/-! ### Loading -/

/-- The configuration that a file holds. Without a file it is the default one. -/
def ofFile : Option Content → Except ConfigError Config
  | none => .ok default
  | some (.bytes _) => .error (.unreadable .notText)
  | some (.text s) =>
    match parse? s with
    | some c => .ok c
    | none => .error (.unparsable s)

/-- The configuration in the file at a path. -/
def stored (disk : Disk) (path : Text) : Except ConfigError Config := ofFile (disk.fileAt? path)

/-- **What is loaded**: the default where nothing is, or what a file that may be read holds. -/
theorem load_eq_ok_iff : load disk path = .ok c ↔
    (disk.exists? path = false ∧ c = default) ∨
      ∃ s, disk.fileAt? path = some (.text s) ∧ disk.Grants path .read ∧ parse? s = some c := by
  rw [load]
  cases hthere : disk.exists? path with
  | false =>
    have hnone : disk.fileAt? path = none := fileAt?_eq_none hthere
    simp [hnone, eq_comm]
  | true =>
    cases hread : disk.readText path with
    | error cause =>
      refine iff_of_false (by simp) ?_
      rintro (⟨h, -⟩ | ⟨s, hfile, hgrants, -⟩)
      · exact absurd h (by simp)
      · exact absurd (hread.symm.trans (readText_eq_ok_iff.mpr ⟨hfile, hgrants⟩)) (by simp)
    | ok s =>
      obtain ⟨hfile, hgrants⟩ := readText_eq_ok_iff.mp hread
      cases hs : parse? s <;> simp [hfile, hgrants, hs]

/-- **What is loaded is what is stored.** -/
theorem stored_of_load (h : load disk path = .ok c) : stored disk path = .ok c := by
  rw [stored]
  rcases load_eq_ok_iff.mp h with ⟨hthere, rfl⟩ | ⟨s, hfile, -, hs⟩
  · rw [fileAt?_eq_none hthere]
    rfl
  · rw [hfile, ofFile, hs]

/-- A file that is loaded may be read. -/
theorem grants_read_of_load (h : load disk path = .ok c) (hfile : disk.fileAt? path ≠ none) :
    disk.Grants path .read := by
  rcases load_eq_ok_iff.mp h with ⟨hthere, -⟩ | ⟨s, -, hgrants, -⟩
  · exact absurd (fileAt?_eq_none hthere) hfile
  · exact hgrants

theorem version_of_ofFile {file : Option Content} (h : ofFile file = .ok c) :
    c.version = currentVersion := by
  cases file with
  | none =>
    rw [← Except.ok.inj h]
    rfl
  | some content =>
    cases content with
    | bytes raw => exact absurd h (by simp [ofFile])
    | text s =>
      cases hs : parse? s with
      | none => exact absurd h (by simp [ofFile, hs])
      | some c' =>
        rw [ofFile, hs] at h
        rw [← Except.ok.inj h]
        exact version_of_parse? hs

/-- A loaded configuration is up to date. -/
theorem version_of_load (h : load disk path = .ok c) : c.version = currentVersion :=
  version_of_ofFile (stored_of_load h)

theorem ofFile_render (hversion : c.version = currentVersion) :
    ofFile (some (.text c.render)) = .ok c := by
  rw [ofFile, parse?_render c (hversion ▸ by decide), migrate_eq_self hversion]

/-! ### Saving -/

/-- What saving does before the configuration itself matters: the directories for its file, and the
place where the file goes. -/
def prepare (disk : Disk) (path : Text) : List Change × Except ConfigError Place :=
  match disk.makeDirectories (directoriesTo path) with
  | (dirs, .error e) => (dirs, .error (.noDirectory e))
  | (dirs, .ok ()) => (dirs, ((disk.apply dirs).placeToWrite path).mapError .unwritable)

theorem prepare_of_makeDirectories (h : disk.makeDirectories (directoriesTo path) = ([], .ok ())) :
    prepare disk path = ([], (disk.placeToWrite path).mapError .unwritable) := by
  rw [prepare, h]
  rfl

/-- **Only the text of the file depends on the configuration.** -/
theorem save_eq (disk : Disk) (path : Text) (c : Config) : save disk path c =
    match prepare disk path with
    | (dirs, .error e) => (dirs, .error e)
    | (dirs, .ok p) => (dirs ++ [⟨p, .file (.text c.render)⟩], .ok ()) := by
  rw [save, prepare]
  cases disk.makeDirectories (directoriesTo path) with
  | mk dirs result =>
    cases result with
    | error e => rfl
    | ok =>
      dsimp only
      rw [writeText_eq_map]
      cases (disk.apply dirs).placeToWrite path <;> rfl

theorem prepare_fst (disk : Disk) (path : Text) :
    (prepare disk path).1 = (disk.makeDirectories (directoriesTo path)).1 := by
  rw [prepare]
  split <;> simp [*]

/-- **Only directories are made** before a configuration is written. -/
theorem makesDirectories_prepare (h : prepare disk path = (dirs, r)) :
    disk.MakesDirectories dirs := by
  have hmakes := disk.makesDirectories_makeDirectories (directoriesTo path)
  rwa [← prepare_fst, h] at hmakes

/-- Nothing is made for a file that is there. -/
theorem prepare_fst_of_fileAt? (h : disk.fileAt? path ≠ none) : (prepare disk path).1 = [] := by
  obtain ⟨content, hfile⟩ := Option.ne_none_iff_exists'.mp h
  obtain ⟨p, hp, -⟩ := fileAt?_eq_some_iff.mp hfile
  rw [prepare_fst, makeDirectories_of_resolve hp]

theorem dirs_eq_nil_of_fileAt? (hfile : disk.fileAt? path ≠ none)
    (h : prepare disk path = (dirs, r)) : dirs = [] := by
  rw [← prepare_fst_of_fileAt? hfile, h]

/-- A file that is there is written over where that is granted, with nothing else to do. -/
theorem exists_prepare_of_fileAt? (h : disk.fileAt? path = some content)
    (hwrite : disk.Grants path .write) : ∃ p, prepare disk path = ([], .ok p) := by
  obtain ⟨q, hq, -⟩ := fileAt?_eq_some_iff.mp h
  obtain ⟨p, hp⟩ := exists_placeToWrite h hwrite
  exact ⟨p, by rw [prepare_of_makeDirectories (makeDirectories_of_resolve hq), hp]; rfl⟩

/-- Where saving fails it fails for good. -/
theorem exists_prepare_again (h : prepare disk path = (dirs, .error e)) :
    ∃ e', prepare (disk.apply dirs) path = ([], .error e') := by
  obtain ⟨result, hagain, hresult⟩ := disk.exists_makeDirectories_again path
  rw [prepare] at h
  split at h
  · next changes cause hmake =>
    obtain ⟨rfl, -⟩ := Prod.mk.inj h
    rw [hmake] at hagain hresult
    cases result with
    | error cause' => exact ⟨.noDirectory cause', by rw [prepare, hagain]⟩
    | ok => exact absurd (hresult.mp rfl) (by simp)
  · next changes hmake =>
    rw [hmake] at hagain hresult
    obtain rfl := hresult.mpr rfl
    obtain ⟨rfl, hplace⟩ := Prod.mk.inj h
    exact ⟨e, by rw [prepare_of_makeDirectories hagain, hplace]⟩

/-- The file goes to the place that the path leads to once the directories are made. -/
theorem placeToWrite_of_prepare (h : prepare disk path = (dirs, .ok p)) :
    (disk.apply dirs).placeToWrite path = .ok p := by
  rw [prepare] at h
  split at h
  · exact absurd (congrArg Prod.snd h) (by simp)
  · next changes hmake =>
    obtain ⟨rfl, hresult⟩ := Prod.mk.inj h
    cases hplace : (disk.apply changes).placeToWrite path with
    | error cause =>
      rw [hplace] at hresult
      exact absurd hresult (by simp [Except.mapError])
    | ok q =>
      rw [hplace] at hresult
      rw [Except.ok.inj hresult]

/-- **Where saving succeeds the path leads to what was written**, and the next text goes to the
same place. -/
theorem prepare_eq_ok (h : prepare disk path = (dirs, .ok p)) (content : Content) :
    ((disk.apply dirs).change ⟨p, .file content⟩).fileAt? path = some content ∧
      prepare ((disk.apply dirs).change ⟨p, .file content⟩) path = ([], .ok p) := by
  have hplace := placeToWrite_of_prepare h
  refine ⟨fileAt?_change hplace content, ?_⟩
  rw [prepare_of_makeDirectories
    (makeDirectories_of_resolve (resolve_change_of_placeToWrite hplace content)),
    placeToWrite_change hplace content]
  rfl

/-! ### Steady paths -/

/-- **No closed file turns up on the way**: if the path leads to a file only once the directories on
the way are made, that file may be read and written. -/
def IsSteady (disk : Disk) (path : Text) : Prop :=
  disk.fileAt? path = none → (disk.apply (prepare disk path).1).fileAt? path ≠ none →
    (disk.apply (prepare disk path).1).Grants path .read ∧
      (disk.apply (prepare disk path).1).Grants path .write

/-- **Where no file is closed all paths are steady.** -/
theorem isSteady_of_open
    (h : ∀ p content, disk.contentAt? p = some content → ∀ access, disk.refusal? p access = none)
    (path : Text) : IsSteady disk path := by
  intro _ hfile
  obtain ⟨content, hfile⟩ := Option.ne_none_iff_exists'.mp hfile
  obtain ⟨p, hp, hcontent⟩ := fileAt?_eq_some_iff.mp hfile
  have hmakes : disk.MakesDirectories (prepare disk path).1 := makesDirectories_prepare rfl
  have hbefore : disk.contentAt? p = some content := by
    rw [← hmakes.contentAt?_apply, contentAt?_eq_some_iff, hcontent]
  have hgrants (access : Access) : (disk.apply (prepare disk path).1).Grants path access := by
    rw [grants_iff hp, hmakes.refusal?_apply (by simp [contentAt?_eq_some_iff.mp hbefore])]
    exact h p content hbefore access
  exact ⟨hgrants .read, hgrants .write⟩

/-- A path is steady once the directories on the way are there. -/
theorem isSteady_of_prepare_fst (h : (prepare disk path).1 = []) : IsSteady disk path := by
  rw [IsSteady, h]
  exact fun hnone hfile => absurd hnone hfile

/-- **A configuration that cannot be saved leaves the file as it was.** -/
theorem fileAt?_of_prepare_eq_error (hsteady : IsSteady disk path)
    (h : prepare disk path = (dirs, .error e)) :
    (disk.apply dirs).fileAt? path = disk.fileAt? path := by
  cases hfile : disk.fileAt? path with
  | some content =>
    have hthere : disk.fileAt? path ≠ none := by simp [hfile]
    rw [dirs_eq_nil_of_fileAt? hthere h]
    exact hfile
  | none =>
    -- a file that turned up could be written over, and saving would not have failed
    rw [IsSteady, h] at hsteady
    by_contra hmade
    obtain ⟨content, hmade⟩ := Option.ne_none_iff_exists'.mp hmade
    obtain ⟨p, hp⟩ := exists_prepare_of_fileAt? hmade (hsteady hfile (by simp [hmade])).2
    obtain ⟨e', hagain⟩ := exists_prepare_again h
    exact absurd (congrArg Prod.snd (hagain.symm.trans hp)) (by simp)

/-- **A configuration that is saved is loaded next.** -/
theorem load_of_prepare_eq_ok {c' : Config} (hsteady : IsSteady disk path)
    (hload : load disk path = .ok c) (hversion : c'.version = currentVersion)
    (h : prepare disk path = (dirs, .ok p)) :
    load ((disk.apply dirs).change ⟨p, .file (.text c'.render)⟩) path = .ok c' := by
  have hread : (disk.apply dirs).fileAt? path ≠ none → (disk.apply dirs).Grants path .read :=
    fun hmade => by
    by_cases hfile : disk.fileAt? path = none
    · rw [IsSteady, h] at hsteady
      exact (hsteady hfile hmade).1
    · rw [dirs_eq_nil_of_fileAt? hfile h]
      exact grants_read_of_load hload hfile
  have hplace := placeToWrite_of_prepare h
  have hparse : parse? c'.render = some c' := by
    rw [parse?_render c' (hversion ▸ by decide), migrate_eq_self hversion]
  exact load_eq_ok_iff.mpr (.inr ⟨c'.render, fileAt?_change hplace _,
    grants_read_change hplace _ hread, hparse⟩)

end Config

end NoteSieve
