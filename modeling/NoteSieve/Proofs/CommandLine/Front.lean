import Mathlib.Logic.Basic
import NoteSieve.CommandLine.Reader

/-!
# A switch in front of a command line

Three switches say how results are presented: as documents, without color, and not at all unless
something is wrong (`NoteSieve.Switch.IsPresentation`). They may stand at every level, so at the very
front too. This file compares the reading of arguments behind such a switch with the reading of the
same arguments alone.

Behind the switch the reader keeps the same things, and the switch besides
(`NoteSieve.Given.behind`). What it does next is the same, too, with two exceptions
(`NoteSieve.Switch.IsRefused`): a switch may be given once at a level only, so the reader stops where
it comes again; and less output may not be asked for together with more. Results that are alike in
this sense (`NoteSieve.ReadAlike`) stay alike when both sides take the same further step, so the
comparison goes by the steps of the reader.

| step | theorem |
|---|---|
| a pending value | `NoteSieve.Given.alike_settle` |
| an argument | `NoteSieve.Given.alike_take` |
| the end of a level | `NoteSieve.Given.alike_finish` |
| the arguments of a level | `NoteSieve.CommandLine.alike_read` |

Both exceptions are the fault of an argument that names a switch (`NoteSieve.Switch.IsNamedBy`).
**Where none does, the command line is the same, with the switch added to it**
(`NoteSieve.CommandLine.alike_ofArguments`).
-/

namespace NoteSieve

/-! ### The switches -/

namespace Switch

/-- The switches that say how results are presented. -/
def IsPresentation (s : Switch) : Prop := s = json ∨ s = noColor ∨ s = quiet

/-- An argument names a switch: by its name after two dashes, or by its letter among those after
one. -/
def IsNamedBy (s : Switch) (argument : Text) : Prop :=
  argument = s.typed ∨ ∃ letter ∈ s.shortName?, ∃ first rest,
    argument = '-' :: first :: rest ∧ first ≠ '-' ∧ letter ∈ first :: rest

/-- **What may be wrong behind a switch**, and only there. -/
inductive IsRefused (s : Switch) (named : Switch → Prop) : UsageError → Prop
  /-- The switch is named again. -/
  | again (h : named s) : IsRefused s named (.repeated s)
  /-- Less output is asked for, and then more. -/
  | loud (hs : s = quiet) (h : named verbose) : IsRefused s named .quietAndVerbose

variable {s : Switch} {argument : Text}

/-- An argument that names a switch begins with a dash. -/
theorem IsNamedBy.head?_eq (h : s.IsNamedBy argument) : argument.head? = some '-' := by
  rcases h with rfl | ⟨_, -, _, _, rfl, -⟩ <;> rfl

theorem IsPresentation.kind?_eq (hs : s.IsPresentation) : s.kind? = none := by
  rcases hs with rfl | rfl | rfl <;> rfl

theorem IsPresentation.ne_verbose (hs : s.IsPresentation) : s ≠ .verbose := by
  rcases hs with rfl | rfl | rfl <;> exact Switch.noConfusion

end Switch

/-- What the switches that every level has ask for, with one for the presentation added. -/
def Common.adding (c : Common) (s : Switch) : Common :=
  { c with
    quiet := s == .quiet || c.quiet
    json := s == .json || c.json
    noColor := s == .noColor || c.noColor }

/-- A command line with a switch for the presentation added. -/
def CommandLine.adding (line : CommandLine) (s : Switch) : CommandLine :=
  { line with
    quiet := s == .quiet || line.quiet
    json := s == .json || line.json
    noColor := s == .noColor || line.noColor }

theorem Common.within_adding (outer inner : Common) (s : Switch) :
    (outer.adding s).within inner = (outer.within inner).adding s := by
  simp [adding, within, Bool.or_left_comm]

/-! ### Results that are alike -/

section Alike

variable {α β γ δ : Type} {Refused : UsageError → Prop} {R : α → β → Prop} {S : γ → δ → Prop}

/-- **Two results are alike**: both are values and related, or both are the same halt; or the second
one is a refusal. -/
inductive ReadAlike (Refused : UsageError → Prop) (R : α → β → Prop) :
    Except Halt α → Except Halt β → Prop
  /-- Both are values. -/
  | ok {a : α} {b : β} (h : R a b) : ReadAlike Refused R (.ok a) (.ok b)
  /-- Both are the same halt. -/
  | halt (halt : Halt) : ReadAlike Refused R (.error halt) (.error halt)
  /-- The second one is a refusal. -/
  | refused {x : Except Halt α} {cause : UsageError} (h : Refused cause) :
      ReadAlike Refused R x (.error (.error cause))

theorem ReadAlike.bind {x : Except Halt α} {y : Except Halt β} {f : α → Except Halt γ}
    {g : β → Except Halt δ} (hxy : ReadAlike Refused R x y)
    (hfg : ∀ a b, R a b → ReadAlike Refused S (f a) (g b)) :
    ReadAlike Refused S (x >>= f) (y >>= g) := by
  cases hxy with
  | ok h => exact hfg _ _ h
  | halt halt => exact .halt halt
  | refused h => exact .refused h

/-- A check that does not depend on what is compared. -/
theorem ReadAlike.bind_self {ε : Type} (x : Except Halt ε) {f : ε → Except Halt γ}
    {g : ε → Except Halt δ} (hfg : ∀ a, ReadAlike Refused S (f a) (g a)) :
    ReadAlike Refused S (x >>= f) (x >>= g) := by
  cases x with
  | ok a => exact hfg a
  | error halt => exact .halt halt

end Alike

/-! ### What is given behind a switch -/

/-- The switch whose value is pending, if there is one. -/
def Pending.switch? : Pending → Option Switch
  | awaiting s | valued s _ => some s
  | none | operand _ => Option.none

namespace Given

variable {s t : Switch} {g : Given} {level : Level} {named : Switch → Prop}

/-- What is given where a switch stands in front of everything else. -/
def behind (g : Given) (s : Switch) : Given := { g with switches := (s, []) :: g.switches }

theorem has_behind (g : Given) (s t : Switch) : (g.behind s).has t = (s == t || g.has t) := rfl

theorem value?_behind (h : s ≠ t) : (g.behind s).value? t = g.value? t := by
  rw [value?, behind, List.find?_cons_of_neg (by simpa using h), value?]

theorem count_behind (h : s ≠ t) : (g.behind s).count t = g.count t :=
  List.countP_cons_of_neg (by simpa using h)

/-- **What is given fits the switches that are named**: a switch without a value is there only if it
is named, and only the value of a switch that takes one is pending. -/
structure Fits (named : Switch → Prop) (g : Given) : Prop where
  /-- A switch without a value is named. -/
  named_of_has : ∀ t, t.kind? = none → g.has t = true → named t
  /-- What is pending for a switch is a value that it takes. -/
  kind?_ne_none : ∀ t, g.pending.switch? = some t → t.kind? ≠ none

/-- What is given with a switch in front is what is given without it, which fits. -/
def Behind (s : Switch) (named : Switch → Prop) (g g' : Given) : Prop :=
  g.Fits named ∧ g' = g.behind s

/-- Two results of a step are alike, where a switch is in front on the second side. -/
abbrev StepAlike (s : Switch) (named : Switch → Prop) :
    Except Halt Given → Except Halt Given → Prop :=
  ReadAlike (s.IsRefused named) (Behind s named)

theorem fits_start : start.Fits named where
  named_of_has _ _ h := absurd h Bool.false_ne_true
  kind?_ne_none _ h := absurd h (by simp [start, Pending.switch?])

theorem Fits.add_switch (hg : g.Fits named) (ht : t.kind? = none → named t) (value : Text) :
    Fits named { g with switches := g.switches ++ [(t, value)], pending := .none } where
  named_of_has u hu hhas := by
    have hor : g.has u = true ∨ t = u := by
      simpa only [has, List.any_append, List.any_cons, List.any_nil, Bool.or_false,
        Bool.or_eq_true, beq_iff_eq] using hhas
    rcases hor with hold | rfl
    · exact hg.named_of_has u hu hold
    · exact ht hu
  kind?_ne_none u h := absurd h (by simp [Pending.switch?])

/-- Operands do not matter, nor does what is pending, unless it is pending for a switch. -/
theorem Fits.of_switches (hg : g.Fits named) {g' : Given} (hswitches : g'.switches = g.switches)
    (hpending : ∀ t, g'.pending.switch? = some t → t.kind? ≠ none) : g'.Fits named where
  named_of_has t ht hhas := hg.named_of_has t ht (by rwa [has, ← hswitches])
  kind?_ne_none := hpending

/-! ### What is pending behind a switch -/

theorem alike_addSwitch (hs : s.IsPresentation) (hg : g.Fits named)
    (ht : t.kind? = none → named t) (value : Text) :
    StepAlike s named (g.addSwitch t value) ((g.behind s).addSwitch t value) := by
  -- Only the switch in front may be there on the second side and not on the first.
  by_cases hst : s = t
  · subst hst
    have hrepeated : s ≠ .verbose ∧ (g.behind s).has s = true :=
      ⟨hs.ne_verbose, by simp [has_behind]⟩
    rw [addSwitch, addSwitch, if_pos hrepeated]
    exact .refused (.again (ht hs.kind?_eq))
  · have hhas : (g.behind s).has t = g.has t := by simp [has_behind, hst]
    rw [addSwitch, addSwitch, hhas]
    split
    · exact .halt _
    · cases t.kind? with
      | none => exact .ok ⟨hg.add_switch ht value, rfl⟩
      | some kind => exact .bind_self _ fun _ => .ok ⟨hg.add_switch ht value, rfl⟩

theorem alike_addOperand (hg : g.Fits named) (value : Text) :
    StepAlike s named (g.addOperand level value) ((g.behind s).addOperand level value) := by
  have hfits : Fits named { g with operands := g.operands ++ [value], pending := .none } :=
    hg.of_switches rfl fun u h => absurd h (by simp [Pending.switch?])
  rw [addOperand, addOperand, behind]
  dsimp only
  cases level.operands[g.operands.length]? with
  | none => exact .ok ⟨hfits, rfl⟩
  | some operand => exact .bind_self _ fun _ => .ok ⟨hfits, rfl⟩

/-- **What is pending** is looked at in the same way. -/
theorem alike_settle (hs : s.IsPresentation) (hg : g.Fits named) :
    StepAlike s named (g.settle level) ((g.behind s).settle level) := by
  have hpending : (g.behind s).pending = g.pending := rfl
  rw [settle, settle, hpending]
  cases hp : g.pending with
  | none => exact .ok ⟨hg, rfl⟩
  | awaiting t => exact .halt _
  | valued t value =>
    have ht : t.kind? ≠ none := hg.kind?_ne_none t (by rw [hp]; rfl)
    exact alike_addSwitch hs hg (fun h => absurd h ht) value
  | operand value => exact alike_addOperand hg value

/-- What is pending is looked at, and then the same is done. -/
theorem alike_settle_bind (hs : s.IsPresentation) (hg : g.Fits named)
    {α β : Type} {R : α → β → Prop} {f : Given → Except Halt α} {f' : Given → Except Halt β}
    (hf : ∀ g : Given, g.Fits named → ReadAlike (s.IsRefused named) R (f g) (f' (g.behind s))) :
    ReadAlike (s.IsRefused named) R (g.settle level >>= f) ((g.behind s).settle level >>= f') := by
  refine (alike_settle hs hg).bind fun g g' hgg' => ?_
  obtain ⟨hg, rfl⟩ := hgg'
  exact hf g hg

/-! ### One argument behind a switch -/

theorem alike_takeFlag (hs : s.IsPresentation) (hg : g.Fits named)
    (ht : t.kind? = none → named t) :
    StepAlike s named (g.takeFlag level t) ((g.behind s).takeFlag level t) := by
  refine alike_settle_bind hs hg fun g hg => ?_
  cases t with
  | help | version => exact .halt _
  | _ => exact alike_addSwitch hs hg ht []

/-- Two dashes and a name without a value name the switch that has it. -/
theorem isNamedBy_of_longSwitch? {rest name : Text} (hsplit : splitLong rest = (name, none))
    (ht : level.longSwitch? name = some t) : t.IsNamedBy ('-' :: '-' :: rest) := by
  have hname : t.longName = name := beq_iff_eq.mp (List.find?_some ht :)
  have hrest : rest.takeWhile (· != '=') = name := congrArg Prod.fst hsplit
  have hnil : rest.dropWhile (· != '=') = [] := by
    have hnone := congrArg Prod.snd hsplit
    dsimp only [splitLong] at hnone
    split at hnone
    · next h => exact h
    · exact absurd hnone (by simp)
  have happend := List.takeWhile_append_dropWhile (p := (· != '=')) (l := rest)
  rw [hrest, hnil, List.append_nil] at happend
  exact .inl (by rw [Switch.typed, hname, happend]; rfl)

theorem alike_takeLong (hs : s.IsPresentation) (hg : g.Fits named) {rest : Text}
    (hnamed : ∀ t : Switch, t.IsNamedBy ('-' :: '-' :: rest) → named t) :
    StepAlike s named (g.takeLong level rest) ((g.behind s).takeLong level rest) := by
  obtain ⟨name, value?, hsplit⟩ : ∃ name value?, splitLong rest = (name, value?) := ⟨_, _, rfl⟩
  rw [takeLong, takeLong, hsplit]
  dsimp only
  cases ht : level.longSwitch? name with
  | none => exact .halt _
  | some t =>
    dsimp only
    cases hkind : t.kind? with
    | none =>
      cases value? with
      | some value => exact .halt _
      | none => exact alike_takeFlag hs hg fun _ => hnamed t (isNamedBy_of_longSwitch? hsplit ht)
    | some kind =>
      have hvalue : t.kind? ≠ none := by simp [hkind]
      cases value? with
      | some value =>
        exact alike_settle_bind hs hg fun g hg =>
          alike_addSwitch hs hg (fun h => absurd h hvalue) value
      | none =>
        refine alike_settle_bind hs hg fun g hg => .ok ⟨hg.of_switches rfl fun u hu => ?_, rfl⟩
        exact Option.some.inj hu ▸ hvalue

theorem alike_takeShort (hs : s.IsPresentation) (hg : g.Fits named) {letters : Text}
    (hnamed : ∀ t : Switch, ∀ letter ∈ t.shortName?, letter ∈ letters → named t) :
    StepAlike s named (takeShort level g letters) (takeShort level (g.behind s) letters) := by
  induction letters generalizing g with
  | nil => exact .ok ⟨hg, rfl⟩
  | cons letter letters ih =>
    rw [takeShort, takeShort]
    cases hswitch : level.shortSwitch? letter with
    | none => exact .halt _
    | some t =>
      have hletter : t.shortName? = some letter := beq_iff_eq.mp (List.find?_some hswitch :)
      have ht : named t := hnamed t letter hletter List.mem_cons_self
      refine (alike_takeFlag hs hg fun _ => ht).bind fun g g' hgg' => ?_
      obtain ⟨hg, rfl⟩ := hgg'
      exact ih hg fun u l hu hl => hnamed u l hu (List.mem_cons_of_mem _ hl)

theorem alike_takeOperand (hs : s.IsPresentation) (hg : g.Fits named) (argument : Text) :
    StepAlike s named (g.takeOperand level argument)
      ((g.behind s).takeOperand level argument) := by
  have hcount : (g.behind s).operandCount = g.operandCount := rfl
  have honly : (g.behind s).operandsOnly = g.operandsOnly := rfl
  rw [takeOperand, takeOperand, hcount, honly]
  split
  · refine alike_settle_bind hs hg fun g hg => .ok ⟨hg.of_switches rfl fun u h => ?_, rfl⟩
    exact absurd h (by simp [Pending.switch?])
  · split <;> exact .halt _

theorem alike_takePlain (hs : s.IsPresentation) (hg : g.Fits named) (argument : Text) :
    StepAlike s named (g.takePlain level argument) ((g.behind s).takePlain level argument) := by
  have hpending : (g.behind s).pending = g.pending := rfl
  rw [takePlain, takePlain, hpending]
  split
  · next t hp =>
    refine .ok ⟨hg.of_switches rfl fun u hu => ?_, rfl⟩
    exact hg.kind?_ne_none u (hp ▸ hu)
  · exact alike_takeOperand hs hg argument

/-- **One argument** is taken in the same way, or names a switch that is refused. -/
theorem alike_take (hs : s.IsPresentation) (hg : g.Fits named) {argument : Text}
    (hnamed : ∀ t : Switch, t.IsNamedBy argument → named t) :
    StepAlike s named (g.take level argument) ((g.behind s).take level argument) := by
  have honly : (g.behind s).operandsOnly = g.operandsOnly := rfl
  rw [take.eq_def, take.eq_def, honly]
  split
  · exact alike_takeOperand hs hg argument
  · split
    · exact .ok ⟨hg.of_switches rfl hg.kind?_ne_none, rfl⟩
    · exact alike_takeLong hs hg hnamed
    · next first rest _ hfirst =>
      refine alike_takeShort hs hg fun t letter ht hletter => hnamed t ?_
      exact .inr ⟨letter, ht, first, rest, rfl, hfirst, hletter⟩
    · exact alike_takePlain hs hg argument

/-! ### The end of a level behind a switch -/

theorem common_behind (hs : s.IsPresentation) (g : Given) :
    (g.behind s).common = g.common.adding s := by
  rcases hs with rfl | rfl | rfl <;>
    simp [common, Common.adding, has_behind, count_behind, value?_behind]

theorem command_behind (hs : s.IsPresentation) (level : Level) (g : Given) :
    (g.behind s).command level = g.command level := by
  have hoperand (i : Nat) (o : Operand) : (g.behind s).operand i o = g.operand i o := rfl
  have hoperand? (i : Nat) : (g.behind s).operand? i = g.operand? i := rfl
  have hlimit : (g.behind s).limit = g.limit := by
    rcases hs with rfl | rfl | rfl <;> simp [limit, value?_behind]
  have hoptions : (g.behind s).noteOptions = g.noteOptions := by
    rcases hs with rfl | rfl | rfl <;> simp [noteOptions, has_behind, value?_behind]
  have htag : (g.behind s).has .asTag = g.has .asTag := by
    rcases hs with rfl | rfl | rfl <;> simp [has_behind]
  cases level <;> simp only [command, hoperand, hoperand?, hlimit, hoptions, htag]

/-- What a level asks for with a switch added, and the same command. -/
def Adding (s : Switch) (x y : Common × Option Command) : Prop := y = (x.1.adding s, x.2)

/-- Asking for less output and for more is noticed in the same way, unless the switch asks for less
and is the only one that does. -/
theorem quiet_and_verbose_behind (hs : s.IsPresentation)
    (h : ¬(s = .quiet ∧ g.has .verbose = true)) :
    ((g.behind s).has .quiet && (g.behind s).has .verbose)
      = (g.has .quiet && g.has .verbose) := by
  rcases hs with rfl | rfl | rfl
  · rfl
  · rfl
  · have hverbose : g.has .verbose = false := by simpa using h
    simp [has_behind, hverbose]

/-- The environment may not name an empty file, whatever comes after that. -/
theorem alike_after_check {α β : Type} {Refused : UsageError → Prop} {R : α → β → Prop}
    {x : Except Halt α} {y : Except Halt β} (fromEnvironment : Option Text) (check : Bool)
    (hxy : ReadAlike Refused R x y) :
    ReadAlike Refused R
      (if check then
        match fromEnvironment with
        | some value => do ValueKind.path.check value; x
        | none => x
      else x)
      (if check then
        match fromEnvironment with
        | some value => do ValueKind.path.check value; y
        | none => y
      else y) := by
  split
  · cases fromEnvironment with
    | none => exact hxy
    | some value => exact .bind_self _ fun _ => hxy
  · exact hxy

/-- **The end of a level** is the same, with the switch added. -/
theorem alike_finish (hs : s.IsPresentation) (hg : g.Fits named)
    (fromEnvironment : Option Text) (level : Level) (inner : Option (Common × Option Command)) :
    ReadAlike (s.IsRefused named) (Adding s) (g.finish fromEnvironment level inner)
      ((g.behind s).finish fromEnvironment level inner) := by
  refine alike_settle_bind hs hg fun g hg => ?_
  have hconfig : (g.behind s).has .config = g.has .config := by
    rcases hs with rfl | rfl | rfl <;> rfl
  rw [hconfig]
  refine alike_after_check fromEnvironment (!g.has .config) ?_
  by_cases hloud : s = .quiet ∧ g.has .verbose = true
  · obtain ⟨rfl, hverbose⟩ := hloud
    have hboth : ((g.behind .quiet).has .quiet && (g.behind .quiet).has .verbose) = true := by
      simp [has_behind, hverbose]
    rw [if_pos hboth]
    exact .refused (.loud rfl (hg.named_of_has .verbose rfl hverbose))
  · rw [quiet_and_verbose_behind hs hloud, command_behind hs, common_behind hs]
    split
    · exact .halt _
    · cases inner with
      | some inner => exact .ok (by rw [Adding, Common.within_adding])
      | none => exact .bind_self _ fun _ => .ok rfl

end Given

/-! ### All arguments behind a switch -/

namespace CommandLine

open Given

variable {s : Switch} {g : Given} {level : Level} {named : Switch → Prop}

/-- **The arguments of a level** are read in the same way, unless they name a switch that is
refused. What the levels within it ask for has nothing to do with what is given here. -/
theorem alike_read (hs : s.IsPresentation) (hg : g.Fits named) (fromEnvironment : Option Text)
    {arguments : List Text} (hnamed : ∀ a ∈ arguments, ∀ t : Switch, t.IsNamedBy a → named t) :
    ReadAlike (s.IsRefused named) (Adding s) (read fromEnvironment level g arguments)
      (read fromEnvironment level (g.behind s) arguments) := by
  -- The level stays the same, and what is given grows: an inner level has an end of its own.
  induction arguments generalizing g with
  | nil =>
    rw [read, read]
    exact alike_finish hs hg fromEnvironment level none
  | cons argument rest ih =>
    obtain ⟨hargument, hrest⟩ := List.forall_mem_cons.mp hnamed
    have hnext : (g.behind s).next? level argument = g.next? level argument := rfl
    rw [read, read, hnext]
    split
    · exact .halt _
    · split
      · exact alike_finish hs hg fromEnvironment level _
      · exact .halt _
    · have htake : StepAlike s named (g.take level argument) ((g.behind s).take level argument) :=
        alike_take hs hg hargument
      generalize g.take level argument = x, (g.behind s).take level argument = y at htake ⊢
      cases htake with
      | ok h =>
        obtain ⟨hg, rfl⟩ := h
        exact ih hg hrest
      | halt halt => exact .halt halt
      | refused h => exact .refused h

/-- The first argument is read as the switch that it is. -/
theorem read_cons_typed (hs : s.IsPresentation) (fromEnvironment : Option Text)
    (arguments : List Text) : read fromEnvironment .program .start (s.typed :: arguments)
      = read fromEnvironment .program (Given.start.behind s) arguments := by
  rcases hs with rfl | rfl | rfl <;> rfl

/-- **A switch for the presentation in front of a command line** is added to it. The arguments are
not read otherwise than without it, unless they name it again, or ask for more output where it asks
for less. -/
theorem alike_ofArguments (hs : s.IsPresentation) (fromEnvironment : Option Text)
    (arguments : List Text) :
    ReadAlike (s.IsRefused fun t => ∃ a ∈ arguments, t.IsNamedBy a)
      (fun line line' => line' = line.adding s) (ofArguments fromEnvironment arguments)
      (ofArguments fromEnvironment (s.typed :: arguments)) := by
  rw [ofArguments, ofArguments, read_cons_typed hs]
  refine (alike_read hs fits_start fromEnvironment fun a ha t ht => ⟨a, ha, ht⟩).bind ?_
  rintro ⟨common, command⟩ _ rfl
  exact .ok rfl

end CommandLine

end NoteSieve
