import NoteSieve.Proofs.Disk.Path

/-!
# Writing a file

What a path has to do with files is the content of the file that it leads to
(`NoteSieve.Disk.fileAt?`), and whether that file may be read and written
(`NoteSieve.Disk.Grants`). Whether a text can be written to a path does not depend on the text
(`NoteSieve.Disk.writeText_eq_map`), an existing file can be written over wherever that is granted
(`NoteSieve.Disk.exists_placeToWrite`), and **a text that is written is what the path leads to**
(`NoteSieve.Disk.fileAt?_change`), in the same place as before.
-/

namespace NoteSieve

namespace Disk

open Text

variable {disk : Disk} {p : Place} {path : Text} {content : Content}

/-- What the file at a path holds, if the path leads to a file. -/
def fileAt? (disk : Disk) (path : Text) : Option Content :=
  match disk.resolve path with
  | .error _ => none
  | .ok p =>
    match disk.lookup p with
    | some (.file content) => some content
    | _ => none

theorem fileAt?_eq_some_iff : disk.fileAt? path = some content ↔
    ∃ p, disk.resolve path = .ok p ∧ disk.lookup p = some (.file content) := by
  rw [fileAt?]
  cases disk.resolve path with
  | error e => simp
  | ok p =>
    cases h : disk.lookup p with
    | none => simp [h]
    | some entry => cases entry <;> simp [h]

theorem fileAt?_eq_none (h : disk.exists? path = false) : disk.fileAt? path = none := by
  rw [exists?] at h
  rw [fileAt?]
  cases hpath : disk.resolve path with
  | error e => rfl
  | ok p =>
    rw [hpath] at h
    have hnone : disk.lookup p = none := by simpa using h
    simp [hnone]

/-- What a path leads to may be used in a way. -/
def Grants (disk : Disk) (path : Text) (access : Access) : Prop :=
  ∀ p, disk.resolve path = .ok p → disk.refusal? p access = none

theorem grants_iff {access : Access} (h : disk.resolve path = .ok p) :
    disk.Grants path access ↔ disk.refusal? p access = none := by
  simp [Grants, h]

/-- **What is read** is the text of a file that may be read. -/
theorem readText_eq_ok_iff {s : Text} : disk.readText path = .ok s ↔
    disk.fileAt? path = some (.text s) ∧ disk.Grants path .read := by
  rw [readText, fileAt?]
  cases hpath : disk.resolve path with
  | error e => simp [bind, Except.bind]
  | ok p =>
    rw [grants_iff hpath]
    cases hp : disk.lookup p with
    | none => simp [bind, Except.bind, hp]
    | some entry =>
      cases hread : disk.refusal? p .read with
      | some cause => simp [bind, Except.bind, hp, permit, hread]
      | none =>
        rcases entry with _ | _ | _ <;>
          simp [bind, Except.bind, hp, permit, hread, pure, Except.pure]

/-! ### Where a text is written -/

/-- The place where a text that is written to a path goes. -/
def placeToWrite (disk : Disk) (path : Text) : Except DiskError Place := do
  checkPath path
  match beforeSlashedName? path with
  | some before =>
    let _ ← disk.follow (before ++ ['.'])
    .error .isDirectory
  | none =>
    let p ← disk.follow path
    if disk.lookup p = some .directory then .error .isDirectory
    else
      disk.permitWrite p
      return p

/-- **What is written does not decide whether it can be written.** -/
theorem writeText_eq_map (disk : Disk) (path s : Text) :
    disk.writeText path s = (disk.placeToWrite path).map fun p => ⟨p, .file (.text s)⟩ := by
  rw [writeText, placeToWrite]
  cases checkPath path with
  | error e => rfl
  | ok =>
    cases beforeSlashedName? path with
    | some before =>
      cases h : disk.follow (before ++ ['.']) <;> simp [bind, Except.bind, h, Except.map]
    | none =>
      cases disk.follow path with
      | error e => rfl
      | ok p =>
        cases h : disk.lookup p with
        | none =>
          cases hwrite : disk.permitWrite p <;>
            simp [bind, Except.bind, h, hwrite, pure, Except.pure, Except.map]
        | some entry =>
          cases entry <;> cases hwrite : disk.permitWrite p <;>
            simp [bind, Except.bind, h, hwrite, pure, Except.pure, Except.map]

theorem placeToWrite_eq_ok_iff : disk.placeToWrite path = .ok p ↔
    disk.resolve path = .ok p ∧ beforeSlashedName? path = none ∧
      disk.lookup p ≠ some .directory ∧ disk.permitWrite p = .ok () := by
  rw [placeToWrite, resolve]
  cases checkPath path with
  | error e => simp [bind, Except.bind]
  | ok =>
    cases beforeSlashedName? path with
    | some before => cases h : disk.follow (before ++ ['.']) <;> simp [bind, Except.bind, h]
    | none =>
      cases disk.follow path with
      | error e => simp [bind, Except.bind]
      | ok q =>
        by_cases hqp : q = p
        · subst hqp
          by_cases hdir : disk.lookup q = some .directory <;>
            cases hwrite : disk.permitWrite q <;>
              simp [bind, Except.bind, pure, Except.pure, hdir, hwrite]
        · by_cases hdir : disk.lookup q = some .directory <;>
            cases hwrite : disk.permitWrite q <;>
              simp [bind, Except.bind, pure, Except.pure, hdir, hwrite, hqp]

/-- **A file can be written over** where that is granted. -/
theorem exists_placeToWrite (h : disk.fileAt? path = some content)
    (hwrite : disk.Grants path .write) : ∃ p, disk.placeToWrite path = .ok p := by
  obtain ⟨p, hp, hfile⟩ := fileAt?_eq_some_iff.mp h
  have hdir : disk.lookup p ≠ some .directory := by simp [hfile]
  have hpermit : disk.permitWrite p = .ok () := by
    rw [permitWrite, if_neg (by simp [hfile])]
    exact permit_eq_ok_iff.mpr (hwrite p hp)
  exact ⟨p, placeToWrite_eq_ok_iff.mpr
    ⟨hp, beforeSlashedName?_eq_none (resolve_eq_ok_iff.mp hp).2 hdir, hdir, hpermit⟩⟩

/-! ### After it is written -/

section Written

variable (hplace : disk.placeToWrite path = .ok p) (content : Content)

include hplace

theorem lookup_change_of_placeToWrite :
    (disk.change ⟨p, .file content⟩).lookup p = some (.file content) :=
  lookup_change_self (placeToWrite_eq_ok_iff.mp hplace).2.2.1

theorem resolve_change_of_placeToWrite :
    (disk.change ⟨p, .file content⟩).resolve path = .ok p :=
  have h := placeToWrite_eq_ok_iff.mp hplace
  (keepsDirectories_change h.2.2.1).resolve_eq_ok h.1

/-- **A path leads to what was written to it.** -/
theorem fileAt?_change : (disk.change ⟨p, .file content⟩).fileAt? path = some content :=
  fileAt?_eq_some_iff.mpr ⟨p, resolve_change_of_placeToWrite hplace content,
    lookup_change_of_placeToWrite hplace content⟩

/-- What is written can be written over. -/
theorem permitWrite_change : (disk.change ⟨p, .file content⟩).permitWrite p = .ok () := by
  have hwrite := (placeToWrite_eq_ok_iff.mp hplace).2.2.2
  rw [permitWrite, if_neg (by simp [lookup_change_of_placeToWrite hplace content]),
    permit_eq_ok_iff]
  by_cases hp : disk.lookup p = none
  · exact refusal?_change_self hp .write
  · rw [permitWrite, if_neg hp, permit_eq_ok_iff] at hwrite
    rw [refusal?_change hp, hwrite]

/-- The next text goes to the same place. -/
theorem placeToWrite_change : (disk.change ⟨p, .file content⟩).placeToWrite path = .ok p :=
  placeToWrite_eq_ok_iff.mpr ⟨resolve_change_of_placeToWrite hplace content,
    (placeToWrite_eq_ok_iff.mp hplace).2.1,
    by simp [lookup_change_of_placeToWrite hplace content], permitWrite_change hplace content⟩

/-- What is written can be read, unless it was written over a file that cannot. -/
theorem grants_read_change (hread : disk.fileAt? path ≠ none → disk.Grants path .read) :
    (disk.change ⟨p, .file content⟩).Grants path .read := by
  obtain ⟨hpath, -, hdir, -⟩ := placeToWrite_eq_ok_iff.mp hplace
  rw [grants_iff (resolve_change_of_placeToWrite hplace content)]
  cases hp : disk.lookup p with
  | none => exact refusal?_change_self hp .read
  | some entry =>
    cases entry with
    | directory => exact absurd hp hdir
    | file old =>
      have hfile : disk.fileAt? path = some old := fileAt?_eq_some_iff.mpr ⟨p, hpath, hp⟩
      rw [refusal?_change (by simp [hp])]
      exact hread (by simp [hfile]) p hpath

end Written

/-- The second of two changes in one place is the one that stays. -/
theorem change_change (disk : Disk) (p : Place) (entry entry' : Entry) :
    (disk.change ⟨p, entry⟩).change ⟨p, entry'⟩ = disk.change ⟨p, entry'⟩ := by
  refine Disk.ext (funext fun q => ?_) (funext fun q => funext fun access => ?_)
  · by_cases hq : q = p <;> simp [change, hq]
  · by_cases hq : q = p
    · subst hq
      rw [refusal?_change (lookup_change_self_ne_none disk ⟨q, entry⟩)]
      rfl
    · simp [change, hq]

end Disk

end NoteSieve
