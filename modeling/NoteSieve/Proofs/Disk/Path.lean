import NoteSieve.Disk.Basic
import NoteSieve.Proofs.Text.Words

/-!
# Paths on a disk that changes

A path is followed through directories only, in which the names may be looked up
(`NoteSieve.Disk.enter_eq_ok_iff`), so **what stays a directory stays passable**: on a disk that
keeps the directories of another (`NoteSieve.Disk.KeepsDirectories`), every path that leads
somewhere still leads there (`NoteSieve.Disk.KeepsDirectories.resolve_eq_ok`). A change keeps the
directories unless it is made in the place of one (`NoteSieve.Disk.keepsDirectories_change`).

A path is also cut at its slashes: whatever is in front of a slash has to lead to a directory for
the whole to lead anywhere (`NoteSieve.Disk.leadsToDirectory_of_above`). In particular no file is
reached by a path that ends in a slash (`NoteSieve.Disk.beforeSlashedName?_eq_none`).
-/

namespace NoteSieve

namespace Disk

open Text

variable {disk disk' : Disk} {p q : Place} {names : List Text} {path above : Text} {c : Change}

/-! ### Walks -/

theorem lookup_change (disk : Disk) (c : Change) (p : Place) :
    (disk.change c).lookup p = if p = c.place ∧ p.isAnchor = false then some c.entry
      else disk.lookup p := by
  rw [lookup, lookup]
  cases p.isAnchor with
  | true => simp
  | false => simp [change]

/-- What a change puts in its place is there, unless a directory was. -/
theorem lookup_change_self (h : disk.lookup c.place ≠ some .directory) :
    (disk.change c).lookup c.place = some c.entry := by
  have hanchor : c.place.isAnchor = false := by
    by_contra hc
    exact h (by rw [lookup, if_pos (Bool.not_eq_false _ ▸ hc)])
  rw [lookup_change, if_pos ⟨rfl, hanchor⟩]

@[simp] theorem permit_eq_ok_iff {access : Access} :
    disk.permit p access = .ok () ↔ disk.refusal? p access = none := by
  rw [permit]
  cases disk.refusal? p access <;> simp

theorem lookup_change_self_ne_none (disk : Disk) (c : Change) :
    (disk.change c).lookup c.place ≠ none := by
  rw [lookup_change]
  cases hanchor : c.place.isAnchor <;> simp [lookup, hanchor]

/-- What was there before is as open as it was. -/
theorem refusal?_change (h : disk.lookup p ≠ none) (c : Change) (access : Access) :
    (disk.change c).refusal? p access = disk.refusal? p access :=
  if_neg fun hp => h hp.2

/-- What a change puts where nothing was is open. -/
theorem refusal?_change_self (h : disk.lookup c.place = none) (access : Access) :
    (disk.change c).refusal? c.place access = none :=
  if_pos ⟨rfl, h⟩

/-- Every directory of a disk is one of another disk as well, and is searched alike there. -/
def KeepsDirectories (disk disk' : Disk) : Prop :=
  ∀ p, disk.lookup p = some .directory →
    disk'.lookup p = some .directory ∧ disk'.refusal? p .search = disk.refusal? p .search

theorem KeepsDirectories.refl (disk : Disk) : disk.KeepsDirectories disk := fun _ h => ⟨h, rfl⟩

theorem keepsDirectories_change (h : disk.lookup c.place ≠ some .directory) :
    disk.KeepsDirectories (disk.change c) := by
  intro p hp
  have hne : p ≠ c.place := fun hpc => h (hpc ▸ hp)
  exact ⟨by rw [lookup_change, if_neg fun hpc => hne hpc.1, hp], refusal?_change (by simp [hp]) c _⟩

/-- A name leads somewhere from a directory in which it may be looked up. -/
theorem enter_eq_ok_iff {name : Text} : disk.enter p name = .ok q ↔
    disk.lookup p = some .directory ∧ (name = [] ∨ disk.refusal? p .search = none) ∧
      p.next name = .ok q := by
  rw [enter]
  split
  · next hp => simp [hp]
  · next hp => simp [hp]
  · next hp =>
    by_cases hname : name = []
    · simp [hname, hp]
    · rw [permit]
      cases disk.refusal? p .search <;> simp [hname, hp, bind, Except.bind]

theorem walk_cons_eq_ok_iff {name : Text} {rest : List Text} :
    disk.walk p (name :: rest) = .ok q ↔
      ∃ p', disk.enter p name = .ok p' ∧ disk.walk p' rest = .ok q := by
  rw [walk, List.foldlM_cons]
  cases disk.enter p name <;> simp [walk, bind, Except.bind]

/-- A walk that ends somewhere went through directories. -/
theorem KeepsDirectories.walk_eq_ok (h : disk.KeepsDirectories disk') {p q : Place}
    (hwalk : disk.walk p names = .ok q) : disk'.walk p names = .ok q := by
  induction names generalizing p with
  | nil => exact hwalk
  | cons name rest ih =>
    obtain ⟨p', henter, hrest⟩ := walk_cons_eq_ok_iff.mp hwalk
    obtain ⟨hdir, hsearch, hnext⟩ := enter_eq_ok_iff.mp henter
    obtain ⟨hdir', hsearch'⟩ := h p hdir
    exact walk_cons_eq_ok_iff.mpr
      ⟨p', enter_eq_ok_iff.mpr ⟨hdir', hsearch' ▸ hsearch, hnext⟩, ih hrest⟩

theorem walk_append (disk : Disk) (p : Place) (names rest : List Text) :
    disk.walk p (names ++ rest) = (disk.walk p names).bind fun q => disk.walk q rest :=
  List.foldlM_append

/-- Every name has to lead through a directory. -/
theorem lookup_of_walk_eq_ok (hnames : names ≠ []) (h : disk.walk p names = .ok q) :
    disk.lookup p = some .directory := by
  obtain ⟨name, rest, rfl⟩ := List.exists_cons_of_ne_nil hnames
  obtain ⟨p', henter, -⟩ := walk_cons_eq_ok_iff.mp h
  exact (enter_eq_ok_iff.mp henter).1

/-! ### Paths -/

/-- Where the names of a path begin. -/
def origin : List Text → Place
  | [] :: _ => Place.root
  | _ => []

theorem follow_eq_walk (disk : Disk) (path : Text) :
    disk.follow path = disk.walk (origin (fragments (· == '/') path))
      (fragments (· == '/') path) := by
  rw [follow]
  split
  · next rest hrest =>
    have hroot : disk.enter Place.root [] = .ok Place.root := rfl
    rw [hrest, origin, walk, walk, List.foldlM_cons, hroot]
    rfl
  · next hnames =>
    have horigin : origin (fragments (· == '/') path) = [] := by
      rw [origin]
      exact fun rest h => hnames rest h
    rw [horigin]

theorem resolve_eq_ok_iff : disk.resolve path = .ok p ↔
    checkPath path = .ok () ∧ disk.follow path = .ok p := by
  rw [resolve]
  cases checkPath path with
  | error e => simp [bind, Except.bind]
  | ok u => simp [bind, Except.bind]

/-- **A path that leads somewhere leads there still**, as long as the directories are kept. -/
theorem KeepsDirectories.resolve_eq_ok (h : disk.KeepsDirectories disk')
    (hpath : disk.resolve path = .ok p) : disk'.resolve path = .ok p := by
  rw [resolve_eq_ok_iff] at hpath ⊢
  rw [follow_eq_walk] at hpath ⊢
  exact ⟨hpath.1, h.walk_eq_ok hpath.2⟩

theorem leadsToDirectory_iff : disk.leadsToDirectory path = true ↔
    ∃ p, disk.resolve path = .ok p ∧ disk.lookup p = some .directory := by
  rw [leadsToDirectory]
  cases disk.resolve path with
  | error e => simp
  | ok p => simp [isDirectory]

/-! ### Paths in front of a slash -/

/-- A path goes on from another one behind a slash. -/
def IsAbove (above path : Text) : Prop := above ≠ [] ∧ ∃ rest, path = above ++ '/' :: rest

theorem checkPath_eq_ok_iff : checkPath path = .ok () ↔
    path ≠ [] ∧ (String.ofList path).utf8ByteSize ≤ maxPathBytes := by
  rw [checkPath, ← Nat.not_lt]
  cases path with
  | nil => simp
  | cons c path => simp

theorem IsAbove.checkPath (h : IsAbove above path) (hpath : checkPath path = .ok ()) :
    Disk.checkPath above = .ok () := by
  obtain ⟨hne, rest, rfl⟩ := h
  rw [checkPath_eq_ok_iff] at hpath ⊢
  rw [String.ofList_append, String.utf8ByteSize_append] at hpath
  exact ⟨hne, (Nat.le_add_right _ _).trans hpath.2⟩

theorem IsAbove.origin_eq (h : IsAbove above path) :
    origin (fragments (· == '/') path) = origin (fragments (· == '/') above) := by
  obtain ⟨-, rest, rfl⟩ := h
  obtain ⟨name, names, hnames⟩ := List.exists_cons_of_ne_nil (fragments_ne_nil (· == '/') above)
  rw [fragments_append_cons (by decide), hnames]
  cases name <;> rfl

/-- **What is in front of a slash leads to a directory**, if the whole path leads anywhere. -/
theorem leadsToDirectory_of_above (h : IsAbove above path) (hpath : disk.resolve path = .ok p) :
    disk.leadsToDirectory above = true := by
  rw [resolve_eq_ok_iff, follow_eq_walk, h.origin_eq] at hpath
  obtain ⟨hcheck, hwalk⟩ := hpath
  have hcheck' := h.checkPath hcheck
  obtain ⟨-, rest, rfl⟩ := h
  rw [fragments_append_cons (by decide), walk_append] at hwalk
  cases hq : disk.walk (origin (fragments (· == '/') above)) (fragments (· == '/') above) with
  | error e =>
    rw [hq] at hwalk
    exact absurd hwalk (by simp [Except.bind])
  | ok q =>
    rw [hq] at hwalk
    refine leadsToDirectory_iff.mpr ⟨q, resolve_eq_ok_iff.mpr ⟨hcheck', ?_⟩, ?_⟩
    · rw [follow_eq_walk, hq]
    · exact lookup_of_walk_eq_ok (fragments_ne_nil _ rest) hwalk

/-- A path with a slash at its end leads to a directory, if anywhere. -/
theorem lookup_of_follow_slashed (h : disk.follow (above ++ ['/']) = .ok p) :
    disk.lookup p = some .directory := by
  rw [follow_eq_walk, fragments_append_cons (by decide), walk_append] at h
  generalize origin (fragments (· == '/') above ++ fragments (· == '/') []) = start at h
  cases hq : disk.walk start (fragments (· == '/') above) with
  | error e =>
    rw [hq] at h
    exact absurd h (by simp [Except.bind])
  | ok q =>
    rw [hq] at h
    have hdir := lookup_of_walk_eq_ok (fragments_ne_nil (· == '/') []) h
    have hp : disk.walk q [[]] = .ok q := walk_cons_eq_ok_iff.mpr
      ⟨q, enter_eq_ok_iff.mpr ⟨hdir, .inl rfl, rfl⟩, rfl⟩
    obtain rfl : q = p := Except.ok.inj (hp.symm.trans h)
    exact hdir

/-- A path is cut before a name with a slash behind it only where it ends in one. -/
theorem exists_slashed {before : Text} (h : beforeSlashedName? path = some before) :
    ∃ above, path = above ++ ['/'] := by
  rw [beforeSlashedName?] at h
  split at h
  · next hshort =>
    rcases List.eq_nil_or_concat path with rfl | ⟨above, c, rfl⟩
    · exact absurd hshort.1 (by simp)
    · by_cases hc : c = '/'
      · exact ⟨above, by rw [hc, List.concat_eq_append]⟩
      · simp [Text.trimEnd, hc] at hshort
  · exact absurd h (by simp)

/-- **No file is reached by a path that ends in a slash.** -/
theorem beforeSlashedName?_eq_none (hpath : disk.follow path = .ok p)
    (hp : disk.lookup p ≠ some .directory) : beforeSlashedName? path = none := by
  cases h : beforeSlashedName? path with
  | none => rfl
  | some before =>
    obtain ⟨above, rfl⟩ := exists_slashed h
    exact absurd (lookup_of_follow_slashed hpath) hp

end Disk

end NoteSieve
