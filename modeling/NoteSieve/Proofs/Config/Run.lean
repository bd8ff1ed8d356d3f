import NoteSieve.Proofs.Config.Save

/-!
# Runs of changes to a configuration file

Requests to change a setting come one after the other, each with a key and a text, and each one
reads the file, changes it and writes it back. A request is accepted exactly if the text spells a
value of the setting with the key, the file can be loaded and it can be saved
(`NoteSieve.Config.accepts_iff`). A request that is not accepted changes what no file holds
(`NoteSieve.Config.contentAt?_step`).

Along a steady path the last two conditions are settled before the first request: no request,
accepted or not, changes whether they hold (`NoteSieve.Config.isReady_step`), and the path stays
steady (`NoteSieve.Config.isSteady_step`). So one request leaves the file alone
(`NoteSieve.Config.fileAt?_step`) or puts one value into what is stored
(`NoteSieve.Config.fileAt?_step_of_accepts`), and a run of them leaves each setting with the value
of the last accepted request for its key (`NoteSieve.Config.exists_stored_after`). Requests for
different keys may change places (`NoteSieve.Config.step_comm`).
-/

namespace NoteSieve

namespace Config

open Disk

/-- A request to change a setting. -/
structure Request where
  /-- The key of the setting. -/
  key : Text
  /-- The text for its value. -/
  value : Text
  deriving DecidableEq, Repr

/-- The disk after a request. -/
def step (disk : Disk) (path : Text) (r : Request) : Disk :=
  disk.apply (update disk path r.key r.value).1

/-- Nothing fails when a request is carried out. -/
def Accepts (disk : Disk) (path : Text) (r : Request) : Prop :=
  (update disk path r.key r.value).2 = .ok ()

instance (disk : Disk) (path : Text) (r : Request) : Decidable (Accepts disk path r) :=
  inferInstanceAs (Decidable ((update disk path r.key r.value).2 = .ok ()))

/-- **The disk after requests**, in their order. -/
def after (disk : Disk) (path : Text) (requests : List Request) : Disk :=
  requests.foldl (step · path ·) disk

/-- **The requests of a run that are accepted.** -/
def accepted (disk : Disk) (path : Text) : List Request → List Request
  | [] => []
  | r :: rest =>
    if Accepts disk path r then r :: accepted (step disk path r) path rest
    else accepted (step disk path r) path rest

variable {disk : Disk} {path : Text} {r : Request} {c c' : Config} {dirs : List Change}
  {e : ConfigError} {p : Place}

/-! ### One request -/

/-- The text of a request spells a value of the setting with its key. -/
def Request.IsValid (r : Request) : Prop :=
  ∃ (s : Setting) (x : s.Value), s.key = r.key ∧ s.value? r.value = .ok x

theorem isValid_of_set (h : c.set r.key r.value = .ok c') : r.IsValid := by
  obtain ⟨s, x, hkey, hx, -⟩ := set_eq_ok_iff.mp h
  exact ⟨s, x, hkey, hx⟩

theorem Request.IsValid.exists_set (h : r.IsValid) (c : Config) :
    ∃ c', c.set r.key r.value = .ok c' := by
  obtain ⟨s, x, hkey, hx⟩ := h
  exact ⟨c.put s x, set_eq_ok_iff.mpr ⟨s, x, hkey, hx, rfl⟩⟩

/-- The configuration can be loaded, and its file can be written. -/
def IsReady (disk : Disk) (path : Text) : Prop :=
  (∃ c, load disk path = .ok c) ∧ ∃ p, (prepare disk path).2 = .ok p

/-- A file that can be loaded can be written over where that is granted. -/
theorem isReady_of_fileAt? {content : Content} (hfile : disk.fileAt? path = some content)
    (hload : load disk path = .ok c) (hwrite : disk.Grants path .write) : IsReady disk path := by
  obtain ⟨p, hp⟩ := exists_prepare_of_fileAt? hfile hwrite
  exact ⟨⟨c, hload⟩, p, by rw [hp]⟩

/-- A request that is invalid, or for which nothing can be loaded, is refused at once. -/
theorem update_of_refused (h : (∀ c, load disk path ≠ .ok c) ∨ ¬ r.IsValid) :
    ∃ e, update disk path r.key r.value = ([], .error e) := by
  rw [update]
  cases hload : load disk path with
  | error e => exact ⟨e, rfl⟩
  | ok c =>
    cases hset : c.set r.key r.value with
    | error e => exact ⟨e, by simp [bind, Except.bind, hset]⟩
    | ok c' => exact absurd h (not_or.mpr ⟨fun h => h c hload, not_not.mpr (isValid_of_set hset)⟩)

theorem step_of_refused (h : (∀ c, load disk path ≠ .ok c) ∨ ¬ r.IsValid) :
    step disk path r = disk := by
  obtain ⟨e, he⟩ := update_of_refused h
  rw [step, he]
  rfl

theorem update_of_set (hload : load disk path = .ok c) (hset : c.set r.key r.value = .ok c') :
    update disk path r.key r.value = save disk path c' := by
  rw [update, hload]
  simp [bind, Except.bind, hset]

theorem update_of_prepare_error (hload : load disk path = .ok c) (hvalid : r.IsValid)
    (h : prepare disk path = (dirs, .error e)) :
    update disk path r.key r.value = (dirs, .error e) := by
  obtain ⟨c', hset⟩ := hvalid.exists_set c
  rw [update_of_set hload hset, save_eq, h]

theorem update_of_prepare_ok (hload : load disk path = .ok c)
    (hset : c.set r.key r.value = .ok c') (h : prepare disk path = (dirs, .ok p)) :
    update disk path r.key r.value = (dirs ++ [⟨p, .file (.text c'.render)⟩], .ok ()) := by
  rw [update_of_set hload hset, save_eq, h]

theorem step_of_prepare_ok (hload : load disk path = .ok c)
    (hset : c.set r.key r.value = .ok c') (h : prepare disk path = (dirs, .ok p)) :
    step disk path r = (disk.apply dirs).change ⟨p, .file (.text c'.render)⟩ := by
  rw [step, update_of_prepare_ok hload hset h, apply_append]
  rfl

/-- Where no file can be written nothing changes any more. -/
theorem step_of_prepare_error (h : prepare disk path = ([], .error e)) :
    step disk path r = disk := by
  by_cases hrefused : (∀ c, load disk path ≠ .ok c) ∨ ¬ r.IsValid
  · exact step_of_refused hrefused
  · obtain ⟨hload, hvalid⟩ := not_or.mp hrefused
    obtain ⟨c, hload⟩ := not_forall_not.mp hload
    rw [step, update_of_prepare_error hload (not_not.mp hvalid) h]
    rfl

/-- **What a request does**: it is refused at once, it fails while the file is saved, or one value
is put in and the file is written. -/
theorem update_cases (disk : Disk) (path : Text) (r : Request) :
    ((∀ c, load disk path ≠ .ok c) ∨ ¬ r.IsValid) ∨
    (∃ c dirs e, load disk path = .ok c ∧ r.IsValid ∧ prepare disk path = (dirs, .error e)) ∨
    (∃ c c' dirs p, load disk path = .ok c ∧ c.set r.key r.value = .ok c' ∧
      prepare disk path = (dirs, .ok p)) := by
  refine or_iff_not_imp_left.mpr fun hrefused => ?_
  obtain ⟨hload, hvalid⟩ := not_or.mp hrefused
  obtain ⟨c, hload⟩ := not_forall_not.mp hload
  have hvalid := not_not.mp hvalid
  obtain ⟨c', hset⟩ := hvalid.exists_set c
  cases hprepare : prepare disk path with
  | mk dirs result =>
    cases result with
    | error e => exact .inl ⟨c, dirs, e, hload, hvalid, rfl⟩
    | ok p => exact .inr ⟨c, c', dirs, p, hload, hset, rfl⟩

/-- **When a request is accepted.** -/
theorem accepts_iff : Accepts disk path r ↔ IsReady disk path ∧ r.IsValid := by
  rw [Accepts, IsReady]
  rcases update_cases disk path r with
    hrefused | ⟨c, dirs, e, hload, hvalid, hprepare⟩ | ⟨c, c', dirs, p, hload, hset, hprepare⟩
  · obtain ⟨e, he⟩ := update_of_refused hrefused
    refine iff_of_false (by simp [he]) fun h => ?_
    obtain ⟨c, hc⟩ := h.1.1
    exact hrefused.elim (fun hload => hload c hc) fun hvalid => hvalid h.2
  · refine iff_of_false (by simp [update_of_prepare_error hload hvalid hprepare]) fun h => ?_
    obtain ⟨p, hp⟩ := h.1.2
    exact absurd hp (by simp [hprepare])
  · exact iff_of_true (by simp [update_of_prepare_ok hload hset hprepare])
      ⟨⟨⟨c, hload⟩, p, by rw [hprepare]⟩, isValid_of_set hset⟩

/-- **A request that is not accepted changes nothing, or it makes directories.** -/
theorem step_of_not_accepts (h : ¬ Accepts disk path r) :
    step disk path r = disk ∨
      ∃ dirs e, prepare disk path = (dirs, .error e) ∧ step disk path r = disk.apply dirs := by
  rcases update_cases disk path r with
    hrefused | ⟨c, dirs, e, hload, hvalid, hprepare⟩ | ⟨c, c', dirs, p, hload, hset, hprepare⟩
  · exact .inl (step_of_refused hrefused)
  · exact .inr ⟨dirs, e, hprepare, by rw [step, update_of_prepare_error hload hvalid hprepare]⟩
  · exact absurd (congrArg Prod.snd (update_of_prepare_ok hload hset hprepare)) h

/-- **No file holds anything else** after a request that is not accepted. -/
theorem contentAt?_step (h : ¬ Accepts disk path r) (p : Place) :
    (step disk path r).contentAt? p = disk.contentAt? p := by
  rcases step_of_not_accepts h with hstep | ⟨dirs, e, hprepare, hstep⟩
  · rw [hstep]
  · rw [hstep, (makesDirectories_prepare hprepare).contentAt?_apply]

/-- **A request that is not accepted leaves the file as it was.** -/
theorem fileAt?_step (hsteady : IsSteady disk path) (h : ¬ Accepts disk path r) :
    (step disk path r).fileAt? path = disk.fileAt? path := by
  rcases step_of_not_accepts h with hstep | ⟨dirs, e, hprepare, hstep⟩
  · rw [hstep]
  · rw [hstep, fileAt?_of_prepare_eq_error hsteady hprepare]

/-- **A request that is accepted puts its value into the file**, which is loaded next. -/
theorem fileAt?_step_of_accepts (h : Accepts disk path r) :
    ∃ (s : Setting) (x : s.Value) (c : Config), s.key = r.key ∧ s.value? r.value = .ok x ∧
      load disk path = .ok c ∧
      (step disk path r).fileAt? path = some (.text (c.put s x).render) ∧
      (IsSteady disk path → load (step disk path r) path = .ok (c.put s x)) := by
  obtain ⟨⟨⟨c, hload⟩, p, hp⟩, s, x, hkey, hx⟩ := accepts_iff.mp h
  have hset : c.set r.key r.value = .ok (c.put s x) := set_eq_ok_iff.mpr ⟨s, x, hkey, hx, rfl⟩
  have hprepare : prepare disk path = ((prepare disk path).1, .ok p) := Prod.ext rfl hp
  have hversion := (version_put c s x).trans (version_of_load hload)
  refine ⟨s, x, c, hkey, hx, hload, ?_⟩
  rw [step_of_prepare_ok hload hset hprepare]
  exact ⟨(prepare_eq_ok hprepare _).1,
    fun hsteady => load_of_prepare_eq_ok hsteady hload hversion hprepare⟩

/-- **A steady path stays steady.** -/
theorem isSteady_step (hsteady : IsSteady disk path) : IsSteady (step disk path r) path := by
  by_cases h : Accepts disk path r
  · obtain ⟨s, x, c, -, -, -, hfile, -⟩ := fileAt?_step_of_accepts h
    exact isSteady_of_prepare_fst (prepare_fst_of_fileAt? (by simp [hfile]))
  · rcases step_of_not_accepts h with hstep | ⟨dirs, e, hprepare, hstep⟩
    · rwa [hstep]
    · obtain ⟨e', hagain⟩ := exists_prepare_again hprepare
      exact hstep ▸ isSteady_of_prepare_fst (by rw [hagain])

/-- **Whether the file can be loaded and written is settled from the beginning.** -/
theorem isReady_step (hsteady : IsSteady disk path) :
    IsReady (step disk path r) path ↔ IsReady disk path := by
  rcases update_cases disk path r with
    hrefused | ⟨c, dirs, e, hload, hvalid, hprepare⟩ | ⟨c, c', dirs, p, hload, hset, hprepare⟩
  · rw [step_of_refused hrefused]
  · obtain ⟨e', hagain⟩ := exists_prepare_again hprepare
    rw [step, update_of_prepare_error hload hvalid hprepare, IsReady, IsReady, hagain, hprepare]
    simp
  · have hversion := (version_of_set_eq_ok hset).trans (version_of_load hload)
    have hagain := (prepare_eq_ok hprepare (.text c'.render)).2
    rw [step_of_prepare_ok hload hset hprepare]
    exact iff_of_true
      ⟨⟨c', load_of_prepare_eq_ok hsteady hload hversion hprepare⟩, p, by rw [hagain]⟩
      ⟨⟨c, hload⟩, p, by rw [hprepare]⟩

/-- Whether a request is accepted does not depend on those before it. -/
theorem accepts_step (hsteady : IsSteady disk path) {q : Request} :
    Accepts (step disk path q) path r ↔ Accepts disk path r := by
  rw [accepts_iff, accepts_iff, isReady_step hsteady]

/-! ### Two requests -/

/-- The second of two requests writes over what the first one wrote. -/
theorem step_step (hsteady : IsSteady disk path) {q : Request} {c'' : Config}
    (hload : load disk path = .ok c) (h : prepare disk path = (dirs, .ok p))
    (hset : c.set r.key r.value = .ok c') (hset' : c'.set q.key q.value = .ok c'') :
    step (step disk path r) path q
      = (disk.apply dirs).change ⟨p, .file (.text c''.render)⟩ := by
  have hversion := (version_of_set_eq_ok hset).trans (version_of_load hload)
  rw [step_of_prepare_ok hload hset h,
    step_of_prepare_ok (load_of_prepare_eq_ok hsteady hload hversion h) hset'
      (prepare_eq_ok h _).2]
  exact change_change _ p _ _

/-- **Requests for different keys may change places.** -/
theorem step_comm (hsteady : IsSteady disk path) {q : Request} (hkey : r.key ≠ q.key) :
    step (step disk path r) path q = step (step disk path q) path r := by
  -- an invalid request does nothing wherever it stands
  by_cases hr : r.IsValid
  case neg => rw [step_of_refused (.inr hr), step_of_refused (.inr hr)]
  by_cases hq : q.IsValid
  case neg => rw [step_of_refused (.inr hq), step_of_refused (.inr hq)]
  by_cases hload : ∀ c, load disk path ≠ .ok c
  · rw [step_of_refused (r := r) (.inl hload), step_of_refused (.inl hload),
      step_of_refused (.inl hload)]
  obtain ⟨c, hload⟩ := not_forall_not.mp hload
  cases hprepare : prepare disk path with
  | mk dirs result =>
    cases result with
    | error e =>
      -- whichever comes first makes the same directories, and the other one finds them made
      have hstep : ∀ r : Request, r.IsValid → step disk path r = disk.apply dirs := fun r hr => by
        rw [step, update_of_prepare_error hload hr hprepare]
      obtain ⟨e', hagain⟩ := exists_prepare_again hprepare
      rw [hstep r hr, hstep q hq, step_of_prepare_error hagain, step_of_prepare_error hagain]
    | ok p =>
      -- both orders end with one and the same configuration in the same place
      obtain ⟨c₁, h₁⟩ := hr.exists_set c
      obtain ⟨c₂, h₂⟩ := hq.exists_set c
      obtain ⟨c', h₁₂, h₂₁⟩ := set_comm hkey h₁ h₂
      rw [step_step hsteady hload hprepare h₁ h₁₂, step_step hsteady hload hprepare h₂ h₂₁]

/-! ### Runs -/

/-- **What a setting is after accepted requests**: the value of the last one for its key, or else
what it was. -/
def Setting.IsOutcome (s : Setting) (initial : s.Value) (requests : List Request) (x : s.Value) :
    Prop :=
  (∃ before r later, requests = before ++ r :: later ∧ r.key = s.key ∧
    (∀ q ∈ later, q.key ≠ s.key) ∧ s.value? r.value = .ok x) ∨
  ((∀ q ∈ requests, q.key ≠ s.key) ∧ x = initial)

variable {s : Setting} {initial x y : s.Value} {requests : List Request}

theorem Setting.IsOutcome.cons_same (hkey : r.key = s.key) (hx : s.value? r.value = .ok x)
    (h : s.IsOutcome x requests y) : s.IsOutcome initial (r :: requests) y := by
  rcases h with ⟨before, q, later, rfl, hq⟩ | ⟨hnone, rfl⟩
  · exact .inl ⟨r :: before, q, later, rfl, hq⟩
  · exact .inl ⟨[], r, requests, rfl, hkey, hnone, hx⟩

theorem Setting.IsOutcome.cons_other (hkey : r.key ≠ s.key) (h : s.IsOutcome initial requests x) :
    s.IsOutcome initial (r :: requests) x := by
  rcases h with ⟨before, q, later, rfl, hq⟩ | ⟨hnone, rfl⟩
  · exact .inl ⟨r :: before, q, later, rfl, hq⟩
  · exact .inr ⟨List.forall_mem_cons.mpr ⟨hkey, hnone⟩, rfl⟩

/-- A run that cannot begin does nothing. -/
theorem after_of_load_error (h : ∀ c, load disk path ≠ .ok c) (requests : List Request) :
    after disk path requests = disk ∧ accepted disk path requests = [] := by
  induction requests with
  | nil => exact ⟨rfl, rfl⟩
  | cons r rest ih =>
    have hstep : step disk path r = disk := step_of_refused (.inl h)
    have hrefused : ¬ Accepts disk path r := fun hr => by
      obtain ⟨c, hc⟩ := (accepts_iff.mp hr).1.1
      exact h c hc
    rw [after, List.foldl_cons, accepted, if_neg hrefused, hstep]
    exact ih

/-- **What is stored after a run**: each setting has the value of the last accepted request for its
key, or else the one from before the run. -/
theorem exists_stored_after (hsteady : IsSteady disk path) (h : stored disk path = .ok c)
    (requests : List Request) :
    ∃ c', stored (after disk path requests) path = .ok c' ∧
      ∀ s : Setting, s.IsOutcome (c.value s) (accepted disk path requests) (c'.value s) := by
  induction requests generalizing disk c with
  | nil => exact ⟨c, h, fun s => .inr ⟨by simp [accepted], rfl⟩⟩
  | cons r rest ih =>
    rw [after, List.foldl_cons, accepted]
    split
    · next hr =>
      obtain ⟨s, x, c₀, hkey, hx, hload, hfile, -⟩ := fileAt?_step_of_accepts hr
      obtain rfl := Except.ok.inj ((stored_of_load hload).symm.trans h)
      have hversion := (version_put c₀ s x).trans (version_of_load hload)
      have hstored : stored (step disk path r) path = .ok (c₀.put s x) := by
        rw [stored, hfile, ofFile_render hversion]
      obtain ⟨c', hc', houtcome⟩ := ih (isSteady_step hsteady) hstored
      refine ⟨c', hc', fun t => ?_⟩
      -- the request counts for its own setting until another one comes, and for no other
      by_cases hts : t = s
      · subst hts
        refine .cons_same hkey.symm hx ?_
        rw [← value_put c₀ t x]
        exact houtcome t
      · refine .cons_other (fun ht => hts (Setting.key_inj (ht.symm.trans hkey.symm))) ?_
        rw [← value_put_of_ne hts c₀ x]
        exact houtcome t
    · next hr =>
      refine ih (isSteady_step hsteady) ?_
      rw [stored, fileAt?_step hsteady hr]
      exact h

/-- A run leaves a steady path steady, and the file as ready as it was. -/
theorem isReady_after (hsteady : IsSteady disk path) (requests : List Request) :
    IsSteady (after disk path requests) path ∧
      (IsReady (after disk path requests) path ↔ IsReady disk path) := by
  induction requests generalizing disk with
  | nil => exact ⟨hsteady, .rfl⟩
  | cons r rest ih =>
    obtain ⟨hafter, hready⟩ := ih (isSteady_step hsteady)
    exact ⟨hafter, hready.trans (isReady_step hsteady)⟩

theorem after_append (disk : Disk) (path : Text) (before later : List Request) :
    after disk path (before ++ later) = after (after disk path before) path later :=
  List.foldl_append

theorem accepted_append (disk : Disk) (path : Text) (before later : List Request) :
    accepted disk path (before ++ later)
      = accepted disk path before ++ accepted (after disk path before) path later := by
  induction before generalizing disk with
  | nil => rfl
  | cons r before ih =>
    rw [List.cons_append, accepted, accepted, ih, after, after, List.foldl_cons]
    split <;> rfl

/-- Neighbouring requests for different keys may change places in a run, and the same ones are
accepted. -/
theorem after_swap {r q : Request} (hkey : r.key ≠ q.key) (hsteady : IsSteady disk path)
    (before later : List Request) :
    after disk path (before ++ r :: q :: later) = after disk path (before ++ q :: r :: later) ∧
    (accepted disk path (before ++ r :: q :: later)).Perm
      (accepted disk path (before ++ q :: r :: later)) := by
  rw [after_append, after_append, accepted_append, accepted_append]
  have hnow := (isReady_after hsteady before).1
  generalize after disk path before = now at hnow ⊢
  constructor
  · simp only [after, List.foldl_cons, step_comm hnow hkey]
  · refine List.Perm.append_left _ ?_
    simp only [accepted, accepts_step hnow, step_comm hnow hkey]
    split
    · split
      · exact .swap ..
      · exact .refl _
    · exact .refl _

/-- A disk with nothing on it. -/
def emptyDisk : Disk := .ofEntries fun _ => none

/-- A disk with a file that is no configuration. -/
def brokenDisk : Disk :=
  emptyDisk.apply [⟨["ns".toList], .directory⟩,
    ⟨["ns".toList, "config.toml".toList], .file (.text "=".toList)⟩]

end Config

end NoteSieve
