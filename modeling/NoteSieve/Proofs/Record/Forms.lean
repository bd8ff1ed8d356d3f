import Mathlib.Data.List.Duplicate
import NoteSieve.Proofs.Json.Grammar
import NoteSieve.Record.Load

/-!
# The forms of a record

A record can be written in many ways: as an object with its members in any order and with members
that are none of its fields among them, or as an array that may end before its last fields; and a
field that has its default can be left out. What is given for each field, or that nothing is, is the
part that both kinds of writing have in common (`NoteSieve.Json.HasFields`), so that the fields of a
record need to be looked at once only.

A record is read from exactly the values that are forms of it (`NoteSieve.Note.ofJson?_eq_some_iff`,
`NoteSieve.Tag.ofJson?_eq_some_iff`). Together with the grammar of JSON this says what a file has to
hold for its records: **an array of their forms, however that is spelled, and nothing else**
(`NoteSieve.load_eq_ok_iff_forms`). A key of a field that comes twice spoils the whole file.
-/

namespace NoteSieve

namespace Json

variable {α : Type} {names : List Text} {forms : List (Option Json)} {value : Json}

/-! ### One field -/

/-- The forms of a field that holds a text: left out, `null`, or the text. -/
inductive TextForm : Option Json → Option Text → Prop
  | leftOut : TextForm none none
  | null : TextForm (some .null) none
  | text (s : Text) : TextForm (some (ofText s)) (some s)

/-- The forms of a flag: left out where it is not set, or written. -/
inductive FlagForm : Option Json → Bool → Prop
  | leftOut : FlagForm none false
  | written (b : Bool) : FlagForm (some (.bool b)) b

/-- A field is read from one value at most, and is its default where there is none. -/
theorem field?_eq_some_iff {Form : Option Json → α → Prop} {default : α} {read : Json → Option α}
    (hnone : ∀ {a}, Form none a ↔ default = a) (hsome : ∀ {v a}, Form (some v) a ↔ read v = some a)
    {values : List Json} {a : α} :
    field? default read values = some a ↔ ∃ form, values = form.toList ∧ Form form a := by
  constructor
  · intro h
    match values, h with
    | [], h => exact ⟨none, rfl, hnone.mpr (Option.some.inj h)⟩
    | [v], h => exact ⟨some v, rfl, hsome.mpr h⟩
  · rintro ⟨_ | v, rfl, h⟩
    · exact congrArg some (hnone.mp h)
    · exact hsome.mp h

theorem textForm_none {s : Option Text} : TextForm none s ↔ none = s := by
  constructor
  · rintro ⟨⟩
    rfl
  · rintro rfl
    exact .leftOut

theorem textForm_some {v : Json} {s : Option Text} :
    TextForm (some v) s ↔ nullableText? v = some s := by
  constructor
  · rintro (_ | _ | _) <;> rfl
  · intro h
    match v, h with
    | .null, rfl => exact .null
    | .string (some t), rfl => exact .text t

theorem flagForm_none {b : Bool} : FlagForm none b ↔ false = b := by
  constructor
  · rintro ⟨⟩
    rfl
  · rintro rfl
    exact .leftOut

theorem flagForm_some {v : Json} {b : Bool} : FlagForm (some v) b ↔ bool? v = some b := by
  constructor
  · rintro ⟨⟩
    rfl
  · intro h
    match v, h with
    | .bool b, rfl => exact .written b

theorem textField?_eq_some_iff {values : List Json} {s : Option Text} :
    field? none nullableText? values = some s ↔ ∃ form, values = form.toList ∧ TextForm form s :=
  field?_eq_some_iff textForm_none textForm_some

theorem flagField?_eq_some_iff {values : List Json} {b : Bool} :
    field? false bool? values = some b ↔ ∃ form, values = form.toList ∧ FlagForm form b :=
  field?_eq_some_iff flagForm_none flagForm_some

/-! ### Members by their keys -/

variable {members members' : List (StringText × Json)} {key : Text}

theorem valuesOf_append (key : Text) (members members' : List (StringText × Json)) :
    valuesOf key (members ++ members') = valuesOf key members ++ valuesOf key members' := by
  rw [valuesOf, List.filter_append, List.map_append]
  rfl

theorem valuesOf_eq_nil (h : ∀ m ∈ members, m.1 ≠ some key) : valuesOf key members = [] := by
  rw [valuesOf, List.map_eq_nil_iff, List.filter_eq_nil_iff]
  intro m hm
  rw [beq_iff_eq]
  exact h m hm

theorem two_le_length_valuesOf (h : List.Duplicate (some key) (members.map Prod.fst)) :
    2 ≤ (valuesOf key members).length := by
  have htwice := (List.duplicate_iff_sublist.mp h).filter (· == some key)
  simpa [valuesOf, List.filter_map, Function.comp_def] using htwice.length_le

/-- In another order there are the same values. -/
theorem valuesOf_perm (key : Text) (h : members.Perm members') :
    (valuesOf key members).Perm (valuesOf key members') :=
  (h.filter _).map _

/-- At most one value has no other order. -/
theorem eq_toList_of_perm {form : Option Json} {values : List Json}
    (h : values.Perm form.toList) : values = form.toList := by
  cases form with
  | none => exact List.perm_nil.mp h
  | some value => exact List.perm_singleton.mp h

theorem valuesOf_map_self (key : Text) (values : List Json) :
    valuesOf key (values.map (some key, ·)) = values := by
  simp [valuesOf, List.filter_map, Function.comp_def]

/-- The members with a key are made of their values. -/
theorem filter_key_eq (key : Text) (members : List (StringText × Json)) :
    members.filter (fun m => m.1 == some key) = (valuesOf key members).map (some key, ·) := by
  rw [valuesOf, List.map_map]
  refine (List.map_id _).symm.trans (List.map_congr_left fun m hm => ?_)
  obtain ⟨-, hkey⟩ := List.mem_filter.mp hm
  exact Prod.ext (beq_iff_eq.mp hkey) rfl

/-- Members with another key may be dropped. -/
theorem valuesOf_filter_ne {other : Text} (h : key ≠ other) :
    valuesOf key (members.filter fun m => m.1 != some other) = valuesOf key members := by
  rw [valuesOf, valuesOf, List.filter_filter]
  refine congrArg (List.map Prod.snd) (List.filter_congr fun m _ => ?_)
  by_cases hm : m.1 = some key
  · simp [hm, h]
  · simp [hm]

/-! ### All fields of a record -/

/-- The members that give the fields with these names, without those that are left out. -/
def membersOf : List Text → List (Option Json) → List (StringText × Json)
  | name :: names, some value :: forms => (some name, value) :: membersOf names forms
  | _ :: names, none :: forms => membersOf names forms
  | _, _ => []

/-- **What a value gives for each field.** An object gives them in any order and may have other
members in between. An array gives them in the order of their names, and may leave out the last
ones. -/
inductive HasFields (names : List Text) (forms : List (Option Json)) : Json → Prop
  | object {members others : List (StringText × Json)} :
      forms.length = names.length → (∀ m ∈ others, ∃ key, m.1 = some key ∧ key ∉ names) →
      members.Perm (membersOf names forms ++ others) → HasFields names forms (.object members)
  | array {elements : List Json} {leftOut : Nat} :
      forms.length = names.length → forms = elements.map some ++ List.replicate leftOut none →
      HasFields names forms (.array elements)

theorem membersOf_cons (name : Text) (names : List Text) (form : Option Json)
    (forms : List (Option Json)) :
    membersOf (name :: names) (form :: forms)
      = form.toList.map (some name, ·) ++ membersOf names forms := by
  cases form <;> rfl

theorem key_of_mem_membersOf {m : StringText × Json} (hm : m ∈ membersOf names forms) :
    ∃ name ∈ names, m.1 = some name := by
  induction names, forms using membersOf.induct with
  | case1 name names value forms ih =>
    rcases List.mem_cons.mp hm with rfl | hm
    · exact ⟨name, List.mem_cons_self, rfl⟩
    · obtain ⟨name', hname', hkey⟩ := ih hm
      exact ⟨name', List.mem_cons_of_mem _ hname', hkey⟩
  | case2 name names forms ih =>
    obtain ⟨name', hname', hkey⟩ := ih hm
    exact ⟨name', List.mem_cons_of_mem _ hname', hkey⟩
  | case3 names forms h h' =>
    rw [membersOf] at hm
    · exact absurd hm List.not_mem_nil
    · exact h
    · exact h'

/-- No field has more than one value. -/
theorem exists_form_of_mem (h : names.map (valuesOf · members) = forms.map Option.toList)
    (hkey : key ∈ names) : ∃ form : Option Json, valuesOf key members = form.toList := by
  have hmem : valuesOf key members ∈ names.map (valuesOf · members) := List.mem_map_of_mem hkey
  rw [h] at hmem
  obtain ⟨form, -, hform⟩ := List.mem_map.mp hmem
  exact ⟨form, hform.symm⟩

/-- The fields are given out by their names as they are given. -/
theorem map_valuesOf_membersOf (hnames : names.Nodup) (hlength : forms.length = names.length) :
    names.map (valuesOf · (membersOf names forms)) = forms.map Option.toList := by
  induction names generalizing forms with
  | nil => simp_all
  | cons name names ih =>
    obtain ⟨form, forms, rfl⟩ := List.exists_cons_of_length_eq_add_one hlength
    obtain ⟨hname, hnames⟩ := List.nodup_cons.mp hnames
    -- No name comes twice, so the other fields have no value under this one.
    have hhead : valuesOf name (membersOf names forms) = [] := by
      refine valuesOf_eq_nil fun m hm hkey => ?_
      obtain ⟨name', hname', hkey'⟩ := key_of_mem_membersOf hm
      obtain rfl := Option.some.inj (hkey.symm.trans hkey')
      exact hname hname'
    rw [List.map_cons, List.map_cons, membersOf_cons, ← ih hnames (by simpa using hlength),
      valuesOf_append, valuesOf_map_self, hhead, List.append_nil]
    refine congrArg _ (List.map_congr_left fun name' hname' => ?_)
    rw [valuesOf_append, valuesOf_eq_nil, List.nil_append]
    intro m hm hkey
    obtain ⟨value, -, rfl⟩ := List.mem_map.mp hm
    obtain rfl := Option.some.inj hkey
    exact hname hname'

/-- **Members are those of the fields and others**, once it is known which values the fields have. -/
theorem membersOf_append_perm (hnames : names.Nodup)
    (h : names.map (valuesOf · members) = forms.map Option.toList) :
    (membersOf names forms ++ members.filter fun m => ∀ name ∈ names, m.1 ≠ some name).Perm
      members := by
  induction names generalizing forms members with
  | nil => simp [membersOf]
  | cons name names ih =>
    obtain ⟨form, forms, rfl⟩ : ∃ form forms', forms = form :: forms' := by
      cases forms with
      | nil => exact absurd h (by simp)
      | cons form forms => exact ⟨form, forms, rfl⟩
    obtain ⟨hname, hnames⟩ := List.nodup_cons.mp hnames
    obtain ⟨hhead, htail⟩ := List.cons.inj h
    -- The members that are left without those of the first field.
    have hrest : names.map (valuesOf · (members.filter fun m => m.1 != some name))
        = forms.map Option.toList := by
      rw [← htail]
      refine List.map_congr_left fun name' hname' => valuesOf_filter_ne ?_
      rintro rfl
      exact hname hname'
    have hothers : (members.filter fun m => ∀ name' ∈ name :: names, m.1 ≠ some name')
        = (members.filter fun m => m.1 != some name).filter
            fun m => ∀ name' ∈ names, m.1 ≠ some name' := by
      rw [List.filter_filter]
      refine List.filter_congr fun m _ => ?_
      rw [Bool.eq_iff_iff]
      simp [and_comm]
    rw [membersOf_cons, ← hhead, ← filter_key_eq, List.append_assoc, hothers]
    refine ((ih hnames hrest).append_left _).trans ?_
    exact List.filter_append_perm _ _

theorem fields?_array {elements : List Json} :
    (Json.array elements).fields? names = some (forms.map Option.toList) ↔
      HasFields names forms (.array elements) := by
  have htoList : Function.Injective (List.map (@Option.toList Json)) := by
    refine List.map_injective_iff.mpr fun form form' h => ?_
    cases form <;> cases form' <;> simp_all
  have hform : ∀ leftOut, elements.map (fun e => [e]) ++ List.replicate leftOut []
      = (elements.map some ++ List.replicate leftOut none).map Option.toList := by
    simp
  rw [fields?]
  constructor
  · intro h
    split at h
    · next hle =>
      rw [hform] at h
      obtain rfl := htoList (Option.some.inj h)
      exact .array (by simp; omega) rfl
    · exact absurd h (by simp)
  · rintro (_ | @⟨_, leftOut, hlength, hforms⟩)
    have hsum : elements.length + leftOut = names.length := by simpa [hforms] using hlength
    rw [if_pos (by omega), hform, hforms, ← hsum, Nat.add_sub_cancel_left]

theorem fields?_object (hnames : names.Nodup) {members : List (StringText × Json)} :
    (Json.object members).fields? names = some (forms.map Option.toList) ↔
      HasFields names forms (.object members) := by
  rw [fields?]
  constructor
  · intro h
    split at h
    · next hkeys =>
      have hforms := Option.some.inj h
      have hlength : forms.length = names.length := by
        simpa using (congrArg List.length hforms).symm
      refine .object hlength (fun m hm => ?_) (membersOf_append_perm hnames hforms).symm
      obtain ⟨hm, hother⟩ := List.mem_filter.mp hm
      obtain ⟨key, hkey⟩ := Option.isSome_iff_exists.mp (List.all_eq_true.mp hkeys m hm)
      exact ⟨key, hkey, fun hmem => of_decide_eq_true hother key hmem hkey⟩
    · exact absurd h (by simp)
  · rintro (@⟨_, others, hlength, hothers, hperm⟩ | _)
    have hkeys : members.all fun m => m.1.isSome := by
      refine List.all_eq_true.mpr fun m hm => ?_
      rcases List.mem_append.mp (hperm.subset hm) with hm | hm
      · obtain ⟨name, -, hkey⟩ := key_of_mem_membersOf hm
        rw [hkey, Option.isSome_some]
      · obtain ⟨key, hkey, -⟩ := hothers m hm
        rw [hkey, Option.isSome_some]
    rw [if_pos hkeys, ← map_valuesOf_membersOf hnames hlength]
    refine congrArg some (List.map_congr_left fun name hname => ?_)
    -- The order of the members may change the order of the values of a field, of which there is one
    -- at most.
    have hvalues := valuesOf_perm name hperm
    have hnil : valuesOf name others = [] := by
      refine valuesOf_eq_nil fun m hm hkey => ?_
      obtain ⟨key, hkey', hmem⟩ := hothers m hm
      obtain rfl := Option.some.inj (hkey.symm.trans hkey')
      exact hmem hname
    rw [valuesOf_append, hnil, List.append_nil] at hvalues
    obtain ⟨form, hform⟩ := exists_form_of_mem (map_valuesOf_membersOf hnames hlength) hname
    rw [hform] at hvalues ⊢
    exact eq_toList_of_perm hvalues

/-- **Which forms the fields of a value have.** -/
theorem fields?_eq_some_iff (hnames : names.Nodup) :
    value.fields? names = some (forms.map Option.toList) ↔ HasFields names forms value := by
  cases value with
  | array elements => exact fields?_array
  | object members => exact fields?_object hnames
  | _ =>
    refine iff_of_false (by simp [fields?]) ?_
    rintro ⟨⟩

/-- **A field that comes twice is in no form.** -/
theorem HasFields.not_duplicate (hnames : names.Nodup)
    (h : HasFields names forms (.object members)) (hkey : key ∈ names) :
    ¬ List.Duplicate (some key) (members.map Prod.fst) := by
  intro htwice
  have hfields := (fields?_object hnames).mpr h
  rw [fields?] at hfields
  split at hfields
  · obtain ⟨form, hform⟩ := exists_form_of_mem (Option.some.inj hfields) hkey
    have hlength := two_le_length_valuesOf htwice
    rw [hform] at hlength
    cases form <;> simp at hlength
  · exact absurd hfields (by simp)

end Json

/-! ### Notes and tags -/

open Json

/-- **The forms of a note.** -/
def Note.Form (value : Json) (n : Note) : Prop :=
  ∃ id content deleted systemTags tags : Option Json,
    HasFields Note.fieldNames [id, content, deleted, systemTags, tags] value ∧
      TextForm id n.id ∧ TextForm content n.content ∧ FlagForm deleted n.deleted ∧
      TextForm systemTags n.systemTags ∧ TextForm tags n.tags

/-- **The forms of a tag.** -/
def Tag.Form (value : Json) (t : Tag) : Prop :=
  ∃ name : Option Json, HasFields ["name".toList] [name] value ∧ TextForm name t.name

theorem Note.ofJson?_eq_some_iff {value : Json} {n : Note} :
    ofJson? value = some n ↔ Form value n := by
  have hnames : fieldNames.Nodup := by decide
  constructor
  · intro h
    rw [ofJson?] at h
    split at h
    · next id content deleted systemTags tags hfields =>
      simp only [bind, Option.bind_eq_some_iff, pure, Option.some.injEq, textField?_eq_some_iff,
        flagField?_eq_some_iff] at h
      obtain ⟨_, ⟨id, rfl, hid⟩, _, ⟨content, rfl, hcontent⟩, _, ⟨deleted, rfl, hdeleted⟩,
        _, ⟨systemTags, rfl, hsystemTags⟩, _, ⟨tags, rfl, htags⟩, rfl⟩ := h
      exact ⟨id, content, deleted, systemTags, tags, (fields?_eq_some_iff hnames).mp hfields,
        hid, hcontent, hdeleted, hsystemTags, htags⟩
    · exact absurd h (by simp)
  · rintro ⟨id, content, deleted, systemTags, tags, hfields, hid, hcontent, hdeleted, hsystemTags,
      htags⟩
    rw [ofJson?, (fields?_eq_some_iff hnames).mpr hfields]
    simp only [List.map_cons, List.map_nil, bind, Option.bind_eq_some_iff, pure, Option.some.injEq,
      textField?_eq_some_iff, flagField?_eq_some_iff]
    exact ⟨_, ⟨id, rfl, hid⟩, _, ⟨content, rfl, hcontent⟩, _, ⟨deleted, rfl, hdeleted⟩,
      _, ⟨systemTags, rfl, hsystemTags⟩, _, ⟨tags, rfl, htags⟩, rfl⟩

theorem Tag.ofJson?_eq_some_iff {value : Json} {t : Tag} :
    ofJson? value = some t ↔ Form value t := by
  have hnames : ["name".toList].Nodup := List.nodup_singleton _
  constructor
  · intro h
    rw [ofJson?] at h
    split at h
    · next name hfields =>
      simp only [Option.map_eq_some_iff, textField?_eq_some_iff] at h
      obtain ⟨_, ⟨name, rfl, hname⟩, rfl⟩ := h
      exact ⟨name, (fields?_eq_some_iff hnames).mp hfields, hname⟩
    · exact absurd h (by simp)
  · rintro ⟨name, hfields, hname⟩
    rw [ofJson?, (fields?_eq_some_iff hnames).mpr hfields]
    simp only [List.map_cons, List.map_nil, Option.map_eq_some_iff, textField?_eq_some_iff]
    exact ⟨_, ⟨name, rfl, hname⟩, rfl⟩

/-- A field of a note that comes twice spoils the note. -/
theorem Note.ofJson?_eq_none {members : List (StringText × Json)} {key : Text}
    (hkey : key ∈ fieldNames) (htwice : List.Duplicate (some key) (members.map Prod.fst)) :
    ofJson? (.object members) = none := by
  rw [Option.eq_none_iff_forall_ne_some]
  intro n hn
  obtain ⟨_, _, _, _, _, hfields, -⟩ := Note.ofJson?_eq_some_iff.mp hn
  exact hfields.not_duplicate (by decide) hkey htwice

/-- The name of a tag that comes twice spoils the tag. -/
theorem Tag.ofJson?_eq_none {members : List (StringText × Json)}
    (htwice : List.Duplicate (some "name".toList) (members.map Prod.fst)) :
    ofJson? (.object members) = none := by
  rw [Option.eq_none_iff_forall_ne_some]
  intro t ht
  obtain ⟨_, hfields, -⟩ := Tag.ofJson?_eq_some_iff.mp ht
  exact hfields.not_duplicate (List.nodup_singleton _) List.mem_cons_self htwice

/-! ### Files of records -/

section Files

variable {α : Type} {read : Json → Option α} {Form : Json → α → Prop} {disk : Disk} {path s : Text}
  {records : List α}

/-- Records are read from an array of values that are read one by one. -/
theorem Json.mapM_eq_some_iff (hread : ∀ {value a}, read value = some a ↔ Form value a)
    {values : List Json} : values.mapM read = some records ↔ List.Forall₂ Form values records := by
  induction values generalizing records with
  | nil => cases records <;> simp
  | cons value values ih =>
    cases records <;> simp [List.mapM_cons, Option.bind_eq_some_iff, hread, ih]

theorem Json.mapM_eq_none {values : List Json} {value : Json} (hmem : value ∈ values)
    (hvalue : read value = none) : values.mapM read = none := by
  induction hmem with
  | head values => simp [List.mapM_cons, hvalue]
  | tail v _ ih => simp [List.mapM_cons, ih]

theorem parseRecords_eq_some_iff (hread : ∀ {value a}, read value = some a ↔ Form value a) :
    parseRecords read s = some records ↔
      ∃ values, Spelled s (.array values) ∧ List.Forall₂ Form values records := by
  rw [parseRecords, Option.bind_eq_some_iff]
  constructor
  · rintro ⟨value, hvalue, h⟩
    match value, h with
    | .array values, h => exact ⟨values, read?_eq_some_iff.mp hvalue, (mapM_eq_some_iff hread).mp h⟩
  · rintro ⟨values, hvalues, h⟩
    exact ⟨_, read?_eq_some_iff.mpr hvalues, (mapM_eq_some_iff hread).mpr h⟩

/-- What is loaded from a file is decided by its text. -/
theorem loadRecords_of_readText (kind : RecordKind) (h : disk.readText path = .ok s) :
    loadRecords kind read disk path
      = (parseRecords read s).elim (.error (.malformed kind s)) .ok := by
  rw [loadRecords, h]
  simp only
  cases parseRecords read s <;> rfl

theorem loadRecords_eq_ok_iff (kind : RecordKind) (h : disk.readText path = .ok s) :
    loadRecords kind read disk path = .ok records ↔ parseRecords read s = some records := by
  rw [loadRecords_of_readText kind h]
  cases parseRecords read s <;> simp

/-- One element without a record spoils the file. -/
theorem loadRecords_eq_error (kind : RecordKind) (h : disk.readText path = .ok s)
    {values : List Json} (hs : Spelled s (.array values)) {value : Json} (hmem : value ∈ values)
    (hvalue : read value = none) :
    loadRecords kind read disk path = .error (.malformed kind s) := by
  have hnone : parseRecords read s = none := by
    rw [parseRecords, read?_eq_some_iff.mpr hs, Option.bind_some, records?,
      mapM_eq_none hmem hvalue]
  rw [loadRecords_of_readText kind h, hnone]
  rfl

/-- **What a file has to hold for its records.** Where a path is read as a text, notes are loaded
from it exactly if the text is a spelling of an array of forms of these notes, and tags are. If an
element of the array has the key of a field twice, nothing is loaded. -/
theorem load_eq_ok_iff_forms (h : disk.readText path = .ok s) :
    (∀ notes, loadNotes disk path = .ok notes ↔
      ∃ values, Spelled s (.array values) ∧ List.Forall₂ Note.Form values notes) ∧
    (∀ tags, loadTags disk path = .ok tags ↔
      ∃ values, Spelled s (.array values) ∧ List.Forall₂ Tag.Form values tags) ∧
    ∀ values members, Spelled s (.array values) → .object members ∈ values →
      (∀ key ∈ Note.fieldNames, List.Duplicate (some key) (members.map Prod.fst) →
        loadNotes disk path = .error (.malformed .notes s)) ∧
      (List.Duplicate (some "name".toList) (members.map Prod.fst) →
        loadTags disk path = .error (.malformed .tags s)) := by
  refine ⟨fun notes => ?_, fun tags => ?_, fun values members hs hmem => ⟨?_, ?_⟩⟩
  · exact (loadRecords_eq_ok_iff _ h).trans (parseRecords_eq_some_iff Note.ofJson?_eq_some_iff)
  · exact (loadRecords_eq_ok_iff _ h).trans (parseRecords_eq_some_iff Tag.ofJson?_eq_some_iff)
  · intro key hkey htwice
    exact loadRecords_eq_error _ h hs hmem (Note.ofJson?_eq_none hkey htwice)
  · intro htwice
    exact loadRecords_eq_error _ h hs hmem (Tag.ofJson?_eq_none htwice)

/-- One note is an object with its members in reverse, an escape in a key, a flag that is written
though it is not set, and a member that is no field, in whose value there are a huge number and half
of a surrogate pair. The other note is an array that ends early. The last text spells one key in two
ways. -/
theorem load_eq_ok_iff_forms_escape :
    let s := "[\x7b\"x\":[1e999, \"\\ud800\"],\"t\\u0061gs\":null ,\"deleted\":false\n,".toList
      ++ "\"content\":\"a\"\x7d,\t[\"k\",null,true]\r] ".toList
    let twice := "[\x7b\"id\":null,\"i\\u0064\":null\x7d]".toList
    let disk : Text → Disk := fun s => .ofEntries fun _ => some (.file (.text s))
    (∀ s, (disk s).readText "a".toList = .ok s) ∧
      loadNotes (disk s) "a".toList = .ok [⟨none, some "a".toList, false, none, none⟩,
        ⟨some "k".toList, none, true, none, none⟩] ∧
      loadNotes (disk twice) "a".toList = .error (.malformed .notes twice) := by
  intro s twice disk
  have hread : ∀ s, (disk s).readText "a".toList = .ok s := fun _ => rfl
  obtain ⟨hnotes, -, -⟩ := load_eq_ok_iff_forms (hread s)
  obtain ⟨-, -, hmalformed⟩ := load_eq_ok_iff_forms (hread twice)
  have hkeys : Spelled "\"id\"".toList (.string (some "id".toList)) ∧
      Spelled "\"i\\u0064\"".toList (.string (some "id".toList)) := by
    constructor
    · exact .string (.plain (by decide) (by decide) (by decide)
        (.plain (by decide) (by decide) (by decide) .nil))
    · exact @Spelled.string "i\\u0064".toList ['i'.toNat, 0x64] (.plain (by decide) (by decide)
        (by decide) (.code rfl .nil))
  have htwice : Spelled twice (.array [.object [(some "id".toList, .null),
      (some "id".toList, .null)]]) := by
    have hobject := @Spelled.object [⟨"\"id\"".toList, some "id".toList, "null".toList, .null⟩,
      ⟨"\"i\\u0064\"".toList, some "id".toList, "null".toList, .null⟩] (List.cons_ne_nil _ _)
      (List.forall_mem_cons.mpr ⟨hkeys.1, List.forall_mem_singleton.mpr hkeys.2⟩)
      (List.forall_mem_cons.mpr ⟨.null, List.forall_mem_singleton.mpr .null⟩)
    exact @Spelled.array [(_, _)] (List.cons_ne_nil _ _) (List.forall_mem_singleton.mpr hobject)
  refine ⟨hread, (hnotes _).mpr ?_, ?_⟩
  · exact (parseRecords_eq_some_iff Note.ofJson?_eq_some_iff).mp (by decide +kernel)
  · exact (hmalformed _ _ htwice List.mem_cons_self).1 "id".toList (by decide)
      List.mem_cons_self.duplicate_cons_self

end Files

end NoteSieve
