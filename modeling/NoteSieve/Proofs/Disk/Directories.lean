import NoteSieve.Proofs.Disk.Path

/-!
# Making the directories on the way

The directories on the way to a file are pieces of its path, each above the one before it
(`NoteSieve.Disk.pairwise_isAbove_directoriesTo`). Making them succeeds exactly when the innermost
one leads to a directory afterwards (`NoteSieve.Disk.makeDirectories_eq_ok_iff`), and **what can be
made is made in one go**: made once more, the directories need no change at all, whether or not all
of them are there (`NoteSieve.Disk.exists_makeDirectories_again`). Nothing is to be made for a path
that leads somewhere (`NoteSieve.Disk.makeDirectories_of_resolve`).
-/

namespace NoteSieve

namespace Disk

open Text

variable {disk disk' : Disk} {p : Place} {path : Text} {outer : List Text}

/-! ### The paths of the directories -/

theorem joinWith_take_ne_nil {parts : List Text} {i : Nat} {name : Text} (h : parts[i]? = some name)
    (hname : name ≠ []) (separator : Text) : joinWith separator (parts.take (i + 1)) ≠ [] := by
  rw [List.take_add_one, h, Option.toList_some]
  by_cases hfront : parts.take i = []
  · rw [hfront]
    simpa [joinWith] using hname
  · rw [joinWith_append_singleton hfront]
    simp [hname]

/-- Fewer of the fragments make up a path above. -/
theorem isAbove_joinWith_take {parts : List Text} {i j : Nat} (hij : i < j) (hj : j ≤ parts.length)
    (hne : joinWith ['/'] (parts.take i) ≠ []) :
    IsAbove (joinWith ['/'] (parts.take i)) (joinWith ['/'] (parts.take j)) := by
  have hfront : parts.take i ≠ [] := fun h => hne (by rw [h]; rfl)
  obtain ⟨rest, hrest⟩ : parts.take i <+: parts.take j :=
    List.take_prefix_take_left (Nat.le_of_lt hij)
  have hne' : rest ≠ [] := by
    rintro rfl
    have hlength := congrArg List.length hrest
    rw [List.append_nil, List.length_take, List.length_take] at hlength
    omega
  refine ⟨hne, joinWith ['/'] rest, ?_⟩
  rw [← hrest, joinWith_append hfront hne', List.append_assoc]
  rfl

theorem joinWith_fragments_slash (path : Text) :
    joinWith ['/'] (fragments (· == '/') path) = path := by
  rw [joinWith_fragments]
  conv_rhs => rw [← List.map_id path]
  refine List.map_congr_left fun c _ => ?_
  split
  · next hc => exact (beq_iff_eq.mp hc).symm
  · rfl

theorem pairwise_zipIdx {α : Type} (l : List α) : l.zipIdx.Pairwise fun a b => a.2 < b.2 := by
  rw [← List.pairwise_map, List.zipIdx_map_snd]
  exact List.pairwise_lt_range' 1

/-- **Each directory is above those before it**, and all are above the path itself. -/
theorem pairwise_isAbove_directoriesTo (path : Text) :
    (path :: directoriesTo path).Pairwise fun inner outer => IsAbove outer inner := by
  let parts := fragments (· == '/') path
  let names := parts.zipIdx.filter fun a => decide (a.1 ≠ [] ∧ (a.1 ≠ ['.'] ∨ a.2 = 0))
  have hpath : joinWith ['/'] (parts.take parts.length) = path := by
    rw [List.take_length, joinWith_fragments_slash]
  have hsorted : names.Pairwise fun a b => a.2 < b.2 := (pairwise_zipIdx parts).filter _
  have hname : ∀ a ∈ names, parts[a.2]? = some a.1 ∧ a.1 ≠ [] := fun a ha => by
    rw [List.mem_filter, List.mem_zipIdx_iff_getElem?, decide_eq_true_eq] at ha
    exact ⟨ha.1, ha.2.1⟩
  have hne : ∀ a ∈ names, joinWith ['/'] (parts.take (a.2 + 1)) ≠ [] := fun a ha =>
    joinWith_take_ne_nil (hname a ha).1 (hname a ha).2 _
  -- the last name is behind all others, so none of those is at the end of the path
  have hlt : ∀ a ∈ names.dropLast, a.2 + 1 < parts.length := fun a ha => by
    have hnames : names ≠ [] := fun h => by simp [h] at ha
    have hlast := hname _ (List.getLast_mem hnames)
    rw [← List.dropLast_concat_getLast hnames, List.pairwise_append] at hsorted
    exact Nat.lt_of_le_of_lt (hsorted.2.2 a ha _ (List.mem_singleton_self _))
      (List.getElem?_eq_some_iff.mp hlast.1).1
  change (path :: names.dropLast.reverse.map fun a =>
    joinWith ['/'] (parts.take (a.2 + 1))).Pairwise _
  rw [List.pairwise_cons, List.pairwise_map, List.pairwise_reverse]
  constructor
  · intro above habove
    obtain ⟨a, ha, rfl⟩ := List.mem_map.mp habove
    have ha := List.mem_reverse.mp ha
    have h := isAbove_joinWith_take (hlt a ha) (Nat.le_refl _)
      (hne a (List.dropLast_subset _ ha))
    rwa [hpath] at h
  · refine (hsorted.sublist (List.dropLast_sublist names)).imp_of_mem fun ha hb hab => ?_
    have ha := List.dropLast_subset _ ha
    have hb := hlt _ hb
    exact isAbove_joinWith_take (by omega) (by omega) (hne _ ha)

/-! ### One directory -/

theorem makeDirectory_eq_ok_iff {made : Change} : disk.makeDirectory path = .ok made ↔
    ∃ p, disk.resolve path = .ok p ∧ disk.lookup p = none ∧ disk.permitWrite p = .ok () ∧
      made = ⟨p, .directory⟩ := by
  rw [makeDirectory]
  cases disk.resolve path with
  | error e => simp [bind, Except.bind]
  | ok p =>
    cases h : disk.lookup p with
    | some entry => simp [bind, Except.bind, h]
    | none =>
      cases hwrite : disk.permitWrite p <;>
        simp [bind, Except.bind, h, hwrite, pure, Except.pure, eq_comm]

/-- Makes a directory, unless there is one. -/
def attempt (disk : Disk) (path : Text) : List Change × Except DiskError Unit :=
  match disk.makeDirectory path with
  | .ok made => ([made], .ok ())
  | .error e => ([], if disk.leadsToDirectory path then .ok () else .error e)

theorem keepsDirectories_attempt (disk : Disk) (path : Text) :
    disk.KeepsDirectories (disk.apply (disk.attempt path).1) := by
  rw [attempt]
  split
  · next made hmade =>
    obtain ⟨p, -, hp, -, rfl⟩ := makeDirectory_eq_ok_iff.mp hmade
    exact keepsDirectories_change (by simp [hp])
  · exact .refl disk

theorem attempt_eq_ok_iff : (disk.attempt path).2 = .ok () ↔
    (disk.apply (disk.attempt path).1).leadsToDirectory path = true := by
  have hkeeps := disk.keepsDirectories_attempt path
  rw [attempt] at hkeeps ⊢
  split at hkeeps
  · next made hmade =>
    obtain ⟨p, hresolve, hp, -, rfl⟩ := makeDirectory_eq_ok_iff.mp hmade
    exact iff_of_true rfl (leadsToDirectory_iff.mpr
      ⟨p, hkeeps.resolve_eq_ok hresolve, lookup_change_self (by simp [hp])⟩)
  · change (if _ then _ else _) = _ ↔ disk.leadsToDirectory path = true
    split
    · next h => simp [h]
    · next h => simp [h]

theorem attempt_fst_eq_nil (h : ∀ made, disk.makeDirectory path ≠ .ok made) :
    (disk.attempt path).1 = [] := by
  rw [attempt]
  split
  · next made hmade => exact absurd hmade (h made)
  · rfl

theorem makeDirectory_ne_ok (h : (disk.attempt path).2 ≠ .ok ()) (made : Change) :
    disk.makeDirectory path ≠ .ok made := by
  intro hmade
  rw [attempt, hmade] at h
  exact h rfl

/-! ### All directories -/

/-- The innermost directory is made if those around it are there or can be made. -/
theorem makeDirectories_cons (disk : Disk) (path : Text) (outer : List Text) :
    disk.makeDirectories (path :: outer) =
      if disk.makeDirectory path = .error .notFound then
        match disk.makeDirectories outer with
        | (changes, .error e) => (changes, .error e)
        | (changes, .ok ()) =>
          (changes ++ ((disk.apply changes).attempt path).1, ((disk.apply changes).attempt path).2)
      else disk.attempt path := by
  rw [makeDirectories, attempt]
  cases hmake : disk.makeDirectory path with
  | ok made => rw [if_neg (by simp)]
  | error e =>
    by_cases he : e = .notFound
    · subst he
      rw [if_pos rfl]
      cases disk.makeDirectories outer with
      | mk changes result =>
        cases result with
        | error e => rfl
        | ok =>
          dsimp only
          rw [attempt]
          cases (disk.apply changes).makeDirectory path <;> simp
    · rw [if_neg (by simpa using he)]
      cases e <;> first | rfl | exact absurd rfl he

theorem makeDirectories_of_leadsToDirectory (h : disk.leadsToDirectory path = true) :
    disk.makeDirectories (path :: outer) = ([], .ok ()) := by
  obtain ⟨p, hp, hdir⟩ := leadsToDirectory_iff.mp h
  have hmake : disk.makeDirectory path = .error .alreadyExists := by
    simp [makeDirectory, hp, hdir, bind, Except.bind]
  rw [makeDirectories_cons, if_neg (by simp [hmake]), attempt, hmake]
  simp [h]

theorem apply_append (disk : Disk) (changes more : List Change) :
    disk.apply (changes ++ more) = (disk.apply changes).apply more := List.foldl_append

/-- **The directories are made exactly if the innermost one is there afterwards.** -/
theorem makeDirectories_eq_ok_iff
    (h : (path :: outer).Pairwise fun inner outer => IsAbove outer inner) :
    (disk.makeDirectories (path :: outer)).2 = .ok () ↔
      (disk.apply (disk.makeDirectories (path :: outer)).1).leadsToDirectory path = true := by
  induction outer generalizing path with
  | nil =>
    rw [makeDirectories_cons]
    split
    · exact attempt_eq_ok_iff
    · exact attempt_eq_ok_iff
  | cons above outer ih =>
    have ih := ih (List.pairwise_cons.mp h).2
    have habove := (List.pairwise_cons.mp h).1 above List.mem_cons_self
    rw [makeDirectories_cons]
    split
    · split
      · next changes e houter =>
        rw [houter] at ih
        -- were the innermost one there, so would be the one around it
        refine iff_of_false (by simp) fun hpath => ?_
        obtain ⟨p, hp, -⟩ := leadsToDirectory_iff.mp hpath
        exact absurd (ih.mpr (leadsToDirectory_of_above habove hp)) (by simp)
      · next changes houter =>
        dsimp only
        rw [apply_append]
        exact attempt_eq_ok_iff
    · exact attempt_eq_ok_iff

/-- Nothing is changed where the innermost directory cannot be made and the others need no
change. -/
theorem makeDirectories_cons_eq_nil (hpath : ∀ made, disk.makeDirectory path ≠ .ok made)
    (houter : (disk.makeDirectories outer).1 = []) :
    (disk.makeDirectories (path :: outer)).1 = [] := by
  have hattempt := attempt_fst_eq_nil hpath
  rw [makeDirectories_cons]
  split
  · split
    · next changes e h => rwa [h] at houter
    · next changes h =>
      rw [h] at houter
      obtain rfl : changes = [] := houter
      exact hattempt
  · exact hattempt

/-- Where the outer directories cannot be made, nothing leads to the innermost one. -/
theorem makeDirectory_ne_ok_of_outer {changes : List Change} {e : DiskError}
    (h : (path :: outer).Pairwise fun inner outer => IsAbove outer inner)
    (houter : disk.makeDirectories outer = (changes, .error e)) (made : Change) :
    (disk.apply changes).makeDirectory path ≠ .ok made := by
  intro hmade
  obtain ⟨p, hp, -⟩ := makeDirectory_eq_ok_iff.mp hmade
  cases outer with
  | nil => exact absurd houter (by simp [makeDirectories])
  | cons above outer =>
    have habove := (List.pairwise_cons.mp h).1 above List.mem_cons_self
    have hmade : (disk.makeDirectories (above :: outer)).2 = .ok () ↔ _ :=
      makeDirectories_eq_ok_iff (List.pairwise_cons.mp h).2
    rw [houter] at hmade
    exact absurd (hmade.mpr (leadsToDirectory_of_above habove hp)) (by simp)

/-- **What can be made is made in one go**: a second time nothing is changed. -/
theorem makeDirectories_again {paths : List Text}
    (h : paths.Pairwise fun inner outer => IsAbove outer inner) :
    ((disk.apply (disk.makeDirectories paths).1).makeDirectories paths).1 = [] := by
  induction paths with
  | nil => rfl
  | cons path outer ih =>
    have ih := ih (List.pairwise_cons.mp h).2
    by_cases hthere :
        (disk.apply (disk.makeDirectories (path :: outer)).1).leadsToDirectory path = true
    · rw [makeDirectories_of_leadsToDirectory hthere]
    -- the first time failed: for want of the outer ones, or at the innermost one itself
    have hfailed := mt (makeDirectories_eq_ok_iff h).mp hthere
    by_cases hmissing : disk.makeDirectory path = .error .notFound
    · cases houter : disk.makeDirectories outer with
      | mk changes result =>
        rw [houter] at ih
        cases result with
        | error e =>
          rw [makeDirectories_cons disk, if_pos hmissing, houter]
          exact makeDirectories_cons_eq_nil (makeDirectory_ne_ok_of_outer h houter) ih
        | ok =>
          rw [makeDirectories_cons disk, if_pos hmissing, houter] at hfailed ⊢
          have hmake := makeDirectory_ne_ok hfailed
          dsimp only
          rw [attempt_fst_eq_nil hmake, List.append_nil]
          exact makeDirectories_cons_eq_nil hmake ih
    · have hresult : disk.makeDirectories (path :: outer) = disk.attempt path := by
        rw [makeDirectories_cons, if_neg hmissing]
      have hmake := makeDirectory_ne_ok (hresult ▸ hfailed)
      rw [hresult, attempt_fst_eq_nil hmake]
      change (disk.makeDirectories (path :: outer)).1 = []
      rw [hresult, attempt_fst_eq_nil hmake]

/-! ### The directories of a path -/

/-- The directories of a path that leads somewhere are all there. -/
theorem makeDirectories_of_resolve (h : disk.resolve path = .ok p) :
    disk.makeDirectories (directoriesTo path) = ([], .ok ()) := by
  have habove := pairwise_isAbove_directoriesTo path
  cases hpaths : directoriesTo path with
  | nil => rfl
  | cons above outer =>
    rw [hpaths] at habove
    exact makeDirectories_of_leadsToDirectory
      (leadsToDirectory_of_above ((List.pairwise_cons.mp habove).1 above List.mem_cons_self) h)

/-- Made once more, the directories need no change, and they are as complete as before. -/
theorem exists_makeDirectories_again (disk : Disk) (path : Text) : ∃ result,
    (disk.apply (disk.makeDirectories (directoriesTo path)).1).makeDirectories (directoriesTo path)
      = ([], result) ∧
    (result = .ok () ↔ (disk.makeDirectories (directoriesTo path)).2 = .ok ()) := by
  have habove := (List.pairwise_cons.mp (pairwise_isAbove_directoriesTo path)).2
  refine ⟨_, Prod.ext (makeDirectories_again habove) rfl, ?_⟩
  cases hpaths : directoriesTo path with
  | nil => rfl
  | cons inner outer =>
    rw [hpaths] at habove
    rw [makeDirectories_eq_ok_iff habove, makeDirectories_eq_ok_iff habove,
      makeDirectories_again habove]
    rfl

end Disk

end NoteSieve
