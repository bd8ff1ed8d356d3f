import NoteSieve.Output.Style
import NoteSieve.Proofs.Text.Digits
import NoteSieve.Proofs.Text.Lines

/-!
# Taking colors off

A style is two codes put around a text, and each code begins with an escape character. Cut at the
escape characters, a text has at most one code in each fragment, right at its front; taking the
codes off is dropping those fronts (`NoteSieve.Text.withoutCodes`). So what happens in a fragment
does not depend on the others: **a code is taken off whatever stands in front of it and behind it**
(`NoteSieve.Text.withoutCodes_append_code`).

What a text shows can then be put together from what its parts show (`NoteSieve.Text.Shows`), rows
and tables included. An escape character that was there before is no obstacle: it is kept unless it
begins a code itself, and **where none is taken off, nothing is**
(`NoteSieve.Text.count_withoutCodes`).
-/

namespace NoteSieve

open Text Unicode

/-- The character that begins every code of the terminal. -/
def Style.escape : Char := '\x1b'

open Style (escape)

namespace Text

variable {r s t u v : Text}

/-! ### Taking codes off -/

/-- What follows the code at the front of a text, whose escape character has been read: a bracket,
numbers with semicolons, and an `m`. -/
def afterCode? : Text → Option Text
  | '[' :: rest =>
    match rest.dropWhile fun c => isDigit c || c == ';' with
    | 'm' :: rest => some rest
    | _ => none
  | _ => none

/-- What is left of an escape character and of the text behind it, up to the next one. -/
def dropCode (fragment : Text) : Text := (afterCode? fragment).getD (escape :: fragment)

/-- **A text without the codes of colors.** An escape character that begins no such code stays. -/
def withoutCodes (s : Text) : Text :=
  match fragments (· == escape) s with
  | [] => []
  | first :: rest => first ++ rest.flatMap dropCode

theorem withoutCodes_of_fragments {first : Text} {rest : List Text}
    (h : fragments (· == escape) s = first :: rest) :
    withoutCodes s = first ++ rest.flatMap dropCode := by
  rw [withoutCodes, h]

theorem exists_fragments (s : Text) :
    ∃ first rest, fragments (· == escape) s = first :: rest :=
  List.exists_cons_of_ne_nil (fragments_ne_nil _ s)

theorem withoutCodes_escape (s : Text) :
    withoutCodes (escape :: s) = (fragments (· == escape) s).flatMap dropCode := by
  have hcut : fragments (· == escape) (escape :: s) = [] :: fragments (· == escape) s := by
    rw [fragments, if_pos (by decide)]
  exact withoutCodes_of_fragments hcut

theorem beq_escape_of_not_mem (h : escape ∉ s) : ∀ c ∈ s, (c == escape) = false := fun c hc => by
  rw [beq_eq_false_iff_ne]
  rintro rfl
  exact h hc

theorem withoutCodes_append (h : escape ∉ s) (t : Text) :
    withoutCodes (s ++ t) = s ++ withoutCodes t := by
  obtain ⟨first, rest, ht⟩ := exists_fragments t
  rw [withoutCodes_of_fragments (fragments_append (beq_escape_of_not_mem h) ht),
    withoutCodes_of_fragments ht, List.append_assoc]

/-- No code goes on behind an escape character. -/
theorem withoutCodes_append_escape (s t : Text) :
    withoutCodes (s ++ escape :: t) = withoutCodes s ++ withoutCodes (escape :: t) := by
  obtain ⟨first, rest, hs⟩ := exists_fragments s
  have hcut : fragments (· == escape) (s ++ escape :: t)
      = first :: (rest ++ fragments (· == escape) t) := by
    rw [fragments_append_cons (by decide), hs, List.cons_append]
  rw [withoutCodes_of_fragments hcut, withoutCodes_of_fragments hs, withoutCodes_escape,
    List.flatMap_append, List.append_assoc]

theorem afterCode?_numbers {digits : Text} (h : ∀ c ∈ digits, isDigit c = true) (rest : Text) :
    afterCode? ('[' :: (digits ++ 'm' :: rest)) = some rest := by
  have hdigits : ∀ c ∈ digits, (isDigit c || c == ';') = true := fun c hc => by simp [h c hc]
  rw [afterCode?, List.dropWhile_append_of_pos hdigits, List.dropWhile_cons_of_neg (by decide)]
  rfl

/-- **A code is taken off**, whatever stands in front of it and behind it. -/
theorem withoutCodes_append_code (s : Text) (n : Nat) (t : Text) :
    withoutCodes (s ++ (Style.code n ++ t)) = withoutCodes s ++ withoutCodes t := by
  obtain ⟨first, rest, ht⟩ := exists_fragments t
  have hsplit : Style.code n ++ t = escape :: ('[' :: (ofNat n ++ ['m']) ++ t) := by
    simp [Style.code, escape]
  have hcode : escape ∉ '[' :: (ofNat n ++ ['m']) := fun h => by
    have hdigit : '\x1b' ∉ ofNat n := not_mem_ofNat (by decide)
    simp [escape, hdigit] at h
  have hdrop : dropCode ('[' :: (ofNat n ++ ['m']) ++ first) = first := by
    have hafter := afterCode?_numbers (fun c hc => isDigit_of_mem_ofNat (n := n) hc) first
    simp [dropCode, hafter]
  rw [hsplit, withoutCodes_append_escape, withoutCodes_escape,
    fragments_append (beq_escape_of_not_mem hcode) ht, List.flatMap_cons, hdrop,
    withoutCodes_of_fragments ht]

/-! ### Counting escape characters -/

/-- A text is its fragments, with an escape character in front of each but the first. -/
theorem flatMap_cons_fragments (s : Text) :
    (fragments (· == escape) s).flatMap (escape :: ·) = escape :: s := by
  induction s with
  | nil => rfl
  | cons c s ih =>
    obtain ⟨first, rest, hs⟩ := exists_fragments s
    rw [hs, List.flatMap_cons, List.cons_append, List.cons.injEq] at ih
    by_cases hc : c = escape
    · rw [fragments, if_pos (by rwa [beq_iff_eq]), hs, List.flatMap_cons, List.flatMap_cons, hc,
        List.cons_append, List.cons_append, ih.2]
      rfl
    · rw [fragments, if_neg (by rwa [beq_iff_eq]), hs, consFirst, List.flatMap_cons,
        List.cons_append, List.cons_append, ih.2]

theorem afterCode?_suffix (h : afterCode? s = some t) : t <:+ s := by
  rw [afterCode?.eq_def] at h
  split at h
  · next rest =>
    split at h
    · next rest' hrest =>
      obtain rfl := Option.some.inj h
      have hsuffix := List.dropWhile_suffix (fun c => isDigit c || c == ';') (l := rest)
      rw [hrest] at hsuffix
      exact ((List.suffix_cons 'm' _).trans hsuffix).trans (List.suffix_cons '[' rest)
    · exact absurd h (by simp)
  · exact absurd h (by simp)

/-- A code that is taken off takes its escape character along. -/
theorem dropCode_eq_or (h : escape ∉ s) : dropCode s = escape :: s ∨ escape ∉ dropCode s := by
  rw [dropCode]
  cases hafter : afterCode? s with
  | none => exact Or.inl rfl
  | some t => exact Or.inr fun hmem => h ((afterCode?_suffix hafter).subset hmem)

theorem count_dropCode_le (h : escape ∉ s) : (dropCode s).count escape ≤ 1 := by
  rcases dropCode_eq_or h with hs | hs
  · rw [hs, List.count_cons_self, List.count_eq_zero_of_not_mem h]
  · rw [List.count_eq_zero_of_not_mem hs]
    exact Nat.zero_le 1

/-- A text keeps an escape character for each of its parts only if it keeps the parts. -/
theorem flatMap_dropCode {parts : List Text} (h : ∀ s ∈ parts, escape ∉ s) :
    (parts.flatMap dropCode).count escape ≤ parts.length ∧
      ((parts.flatMap dropCode).count escape = parts.length →
        parts.flatMap dropCode = parts.flatMap (escape :: ·)) := by
  induction parts with
  | nil => exact ⟨Nat.le_refl 0, fun _ => rfl⟩
  | cons s parts ih =>
    obtain ⟨hs, h⟩ := List.forall_mem_cons.mp h
    obtain ⟨hle, heq⟩ := ih h
    have hone := count_dropCode_le hs
    rw [List.flatMap_cons, List.flatMap_cons, List.count_append, List.length_cons]
    refine ⟨by omega, fun hcount => ?_⟩
    have hkept : escape ∈ dropCode s := List.count_pos_iff.mp (by omega)
    rw [(dropCode_eq_or hs).resolve_right (not_not.mpr hkept), heq (by omega)]

/-- **Where no escape character is taken off, nothing is.** -/
theorem count_withoutCodes (s : Text) : (withoutCodes s).count escape ≤ s.count escape ∧
    ((withoutCodes s).count escape = s.count escape → withoutCodes s = s) := by
  obtain ⟨first, rest, hs⟩ := exists_fragments s
  have hparts : ∀ part ∈ first :: rest, escape ∉ part := fun part hpart hmem => by
    have hne := (mem_and_not_of_mem_fragments (hs ▸ hpart) hmem).2
    simp at hne
  obtain ⟨hfirst, hrest⟩ := List.forall_mem_cons.mp hparts
  have hlength : s.count escape = rest.length := by
    have hfragments := length_fragments escape s
    rw [hs, List.length_cons] at hfragments
    omega
  have hself : first ++ rest.flatMap (escape :: ·) = s := by
    have hcons := flatMap_cons_fragments s
    rw [hs, List.flatMap_cons, List.cons_append] at hcons
    exact (List.cons.inj hcons).2
  obtain ⟨hle, heq⟩ := flatMap_dropCode hrest
  rw [withoutCodes_of_fragments hs, List.count_append, List.count_eq_zero_of_not_mem hfirst,
    Nat.zero_add, hlength]
  exact ⟨hle, fun hcount => by rw [heq hcount, hself]⟩

/-! ### Texts that show another one -/

/-- **What a text shows**: codes put around its parts are all that is taken off, whatever
follows. -/
def Shows (r s : Text) : Prop := ∀ rest, withoutCodes (r ++ rest) = s ++ withoutCodes rest

theorem Shows.eq (h : Shows r s) : withoutCodes r = s := by
  have hr := h []
  rwa [List.append_nil, show withoutCodes [] = [] from rfl, List.append_nil] at hr

theorem shows_self (h : escape ∉ s) : Shows s s := withoutCodes_append h

theorem withoutCodes_eq_self (h : escape ∉ s) : withoutCodes s = s := (shows_self h).eq

theorem Shows.append (h : Shows r s) (h' : Shows u v) : Shows (r ++ u) (s ++ v) := fun rest => by
  rw [List.append_assoc, h, h', List.append_assoc]

/-- A text in a style shows what it shows on its own. -/
theorem shows_paint (style : Style) (s : Text) : Shows (style.paint true s) (withoutCodes s) :=
  fun rest => by
    rw [Style.paint, if_pos rfl, List.append_assoc, List.append_assoc, ← List.nil_append (_ ++ _),
      withoutCodes_append_code, withoutCodes_append_code]
    rfl

theorem shows_paint_self (h : escape ∉ s) (style : Style) : Shows (style.paint true s) s := by
  have hpaint := shows_paint style s
  rwa [withoutCodes_eq_self h] at hpaint

/-- A text in a style ends in a code. -/
theorem getLast?_paint (style : Style) (s : Text) : (style.paint true s).getLast? = some 'm' := by
  rw [Style.paint, if_pos rfl, Style.code, Style.code, ← List.append_assoc, List.getLast?_concat]

theorem endsInBlank_paint (style : Style) (s : Text) :
    endsInBlank (style.paint true s) = false := by
  rw [endsInBlank, getLast?_paint]
  decide

theorem paint_ne_nil (style : Style) (s : Text) : style.paint true s ≠ [] := fun h => by
  have hend := getLast?_paint style s
  simp [h] at hend

theorem count_escape_trimEnd (s : Text) : (s.trimEnd isBlank).count escape = s.count escape := by
  have hcut : (s.rtakeWhile isBlank).count escape = 0 :=
    List.count_eq_zero_of_not_mem fun h => absurd (List.mem_rtakeWhile_imp h) (by decide)
  conv_rhs => rw [← List.rdropWhile_append_rtakeWhile (p := isBlank) (l := s)]
  rw [List.count_append, hcut, trimEnd_eq_rdropWhile, Nat.add_zero]

theorem Shows.unlines_cons {rs ss : List Text} (h : Shows r s)
    (h' : Shows (unlines rs) (unlines ss)) : Shows (unlines (r :: rs)) (unlines (s :: ss)) := by
  have hfeed : Shows ['\n'] ['\n'] := shows_self (by decide)
  simpa [Text.unlines_cons] using h.append (hfeed.append h')

theorem shows_unlines_map {α : Type} {f g : α → Text} {l : List α}
    (h : ∀ a ∈ l, Shows (f a) (g a)) : Shows (unlines (l.map f)) (unlines (l.map g)) := by
  induction l with
  | nil => exact fun _ => rfl
  | cons a l ih =>
    obtain ⟨ha, h⟩ := List.forall_mem_cons.mp h
    exact ha.unlines_cons (ih h)

end Text

end NoteSieve
