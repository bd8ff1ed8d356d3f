import NoteSieve.Proofs.Disk.Directories

/-!
# What the files hold

A disk is a tree of directories with files in it, and the files hold something. The two are kept
apart here.

Making directories leaves alone what the files hold. Each directory is made where nothing was
(`NoteSieve.Disk.MakesDirectories`), whether or not the one that is wanted is reached in the end
(`NoteSieve.Disk.makesDirectories_makeDirectories`), so **no file holds anything else afterwards**
(`NoteSieve.Disk.MakesDirectories.contentAt?_apply`).

Following a path, on the other hand, never looks into a file. Two disks that are the same tree
(`NoteSieve.Disk.SameTree`) lead every path to the same place, and **the same paths lead to
something** (`NoteSieve.Disk.SameTree.exists?_eq`), whatever their files hold.
-/

namespace NoteSieve

/-- Whether an entry is a directory: this is all that a path sees of it. -/
def Entry.isDirectory : Entry → Bool
  | .directory => true
  | .file _ => false

namespace Disk

variable {disk disk' : Disk} {p q : Place} {path : Text} {changes more : List Change} {c : Change}
  {content : Content}

/-! ### Files that are left alone -/

/-- What the file at a place holds, if there is a file. -/
def contentAt? (disk : Disk) (p : Place) : Option Content :=
  match disk.lookup p with
  | some (.file content) => some content
  | _ => none

theorem contentAt?_change_of_ne (h : p ≠ c.place) :
    (disk.change c).contentAt? p = disk.contentAt? p := by
  rw [contentAt?, lookup_change, if_neg fun hp => h hp.1, contentAt?]

/-- Where nothing was there is no file after a directory is made. -/
theorem contentAt?_change_directory (h : disk.lookup q = none) (p : Place) :
    (disk.change ⟨q, .directory⟩).contentAt? p = disk.contentAt? p := by
  by_cases hp : p = q
  · subst hp
    have hmade : (disk.change ⟨p, .directory⟩).lookup p = some .directory :=
      lookup_change_self (by simp [h])
    rw [contentAt?, hmade, contentAt?, h]
  · exact contentAt?_change_of_ne hp

/-- **Changes that make directories only**, each of them where nothing was. -/
inductive MakesDirectories : Disk → List Change → Prop
  /-- Nothing is made. -/
  | nil (disk : Disk) : MakesDirectories disk []
  /-- A directory is made, and then others. -/
  | cons {disk : Disk} {p : Place} {changes : List Change} (hp : disk.lookup p = none)
      (h : MakesDirectories (disk.change ⟨p, .directory⟩) changes) :
      MakesDirectories disk (⟨p, .directory⟩ :: changes)

theorem MakesDirectories.append (h : MakesDirectories disk changes)
    (hmore : MakesDirectories (disk.apply changes) more) :
    MakesDirectories disk (changes ++ more) := by
  induction h with
  | nil => exact hmore
  | cons hp _ ih => exact .cons hp (ih hmore)

/-- **No file holds anything else** after directories are made. -/
theorem MakesDirectories.contentAt?_apply (h : MakesDirectories disk changes) (p : Place) :
    (disk.apply changes).contentAt? p = disk.contentAt? p := by
  induction h with
  | nil => rfl
  | cons hq _ ih => exact ih.trans (contentAt?_change_directory hq p)

/-- What was there stays as open as it was after directories are made. -/
theorem MakesDirectories.refusal?_apply (h : MakesDirectories disk changes)
    (hp : disk.lookup p ≠ none) (access : Access) :
    (disk.apply changes).refusal? p access = disk.refusal? p access := by
  induction h with
  | nil => rfl
  | @cons disk q changes hq _ ih =>
    have hne : p ≠ q := fun hpq => hp (hpq ▸ hq)
    refine (ih ?_).trans (refusal?_change hp _ access)
    rwa [lookup_change, if_neg fun h => hne h.1]

theorem makesDirectories_attempt (disk : Disk) (path : Text) :
    MakesDirectories disk (disk.attempt path).1 := by
  rw [attempt]
  split
  · next made hmade =>
    obtain ⟨p, -, hp, -, rfl⟩ := makeDirectory_eq_ok_iff.mp hmade
    exact .cons hp (.nil _)
  · exact .nil disk

/-- **Only directories are made on the way to one**, even where it cannot be reached. -/
theorem makesDirectories_makeDirectories (disk : Disk) (paths : List Text) :
    MakesDirectories disk (disk.makeDirectories paths).1 := by
  induction paths with
  | nil => exact .nil disk
  | cons path outer ih =>
    rw [makeDirectories_cons]
    split
    · split
      · next changes e houter => rwa [houter] at ih
      · next changes houter =>
        rw [houter] at ih
        exact ih.append (makesDirectories_attempt _ path)
    · exact makesDirectories_attempt disk path

/-! ### Trees -/

/-- Two disks have their directories and their files in the same places, and the directories may be
searched alike. What the files hold may differ. -/
def SameTree (disk disk' : Disk) : Prop :=
  ∀ p, (disk.lookup p).map Entry.isDirectory = (disk'.lookup p).map Entry.isDirectory ∧
    disk.refusal? p .search = disk'.refusal? p .search

theorem contentAt?_eq_some_iff :
    disk.contentAt? p = some content ↔ disk.lookup p = some (.file content) := by
  rw [contentAt?]
  split
  · next hfile => simp [hfile]
  · next hfile => simpa using hfile content

/-- A file that is written over stays where it was. -/
theorem sameTree_change (h : disk.contentAt? p = some content) (content' : Content) :
    disk.SameTree (disk.change ⟨p, .file content'⟩) := by
  have hfile := contentAt?_eq_some_iff.mp h
  intro q
  by_cases hq : q = p
  · subst hq
    have hwritten : (disk.change ⟨q, .file content'⟩).lookup q = some (.file content') :=
      lookup_change_self (by simp [hfile])
    exact ⟨by rw [hfile, hwritten]; rfl, (refusal?_change (by simp [hfile]) _ _).symm⟩
  · exact ⟨by rw [lookup_change, if_neg fun h => hq h.1], (if_neg fun h => hq h.1).symm⟩

theorem SameTree.lookup_cases (h : disk.SameTree disk') (p : Place) :
    (disk.lookup p = none ∧ disk'.lookup p = none) ∨
    (disk.lookup p = some .directory ∧ disk'.lookup p = some .directory) ∨
    ∃ content content', disk.lookup p = some (.file content) ∧
      disk'.lookup p = some (.file content') := by
  have hp := (h p).1
  generalize disk.lookup p = entry at hp ⊢
  generalize disk'.lookup p = entry' at hp ⊢
  rcases entry with _ | _ | content <;> rcases entry' with _ | _ | content' <;>
    simp [Entry.isDirectory] at hp ⊢

/-- A name is looked up among directories and files, whatever the files hold. -/
theorem SameTree.enter_eq (h : disk.SameTree disk') : disk.enter = disk'.enter := by
  funext p name
  rw [enter, enter, permit, permit, (h p).2]
  rcases h.lookup_cases p with ⟨hp, hp'⟩ | ⟨hp, hp'⟩ | ⟨content, content', hp, hp'⟩ <;> rw [hp, hp']

/-- **Every path leads to the same place.** -/
theorem SameTree.resolve_eq (h : disk.SameTree disk') (path : Text) :
    disk.resolve path = disk'.resolve path := by
  rw [resolve, resolve, follow_eq_walk, follow_eq_walk, walk, walk, h.enter_eq]

/-- **The same paths lead to something.** -/
theorem SameTree.exists?_eq (h : disk.SameTree disk') (path : Text) :
    disk.exists? path = disk'.exists? path := by
  rw [exists?, exists?, h.resolve_eq]
  cases disk'.resolve path with
  | error e => rfl
  | ok p => simpa using congrArg Option.isSome (h p).1

end Disk

end NoteSieve
