import Mathlib.Data.List.Basic
import NoteSieve.Text.Basic

/-!
# Codes

What is written for two values can be told apart by what follows only if neither text begins the
other. A way of writing values for which this never happens is a code
(`NoteSieve.Text.IsCode`): whatever follows, a text shows which value it begins with and what is
left.

A way of writing is a code if there is a reader for it (`NoteSieve.Text.isCode_of_read`), and a code
with a mark for the end is a code for lists as well (`NoteSieve.Text.IsCode.closed`). Words of one
class of characters are no code by themselves, but each ends at the first character of another class
(`NoteSieve.Text.cut_inj`).
-/

namespace NoteSieve.Text

variable {α : Type} {f : α → Text}

/-- **A code**: a text shows which value it begins with, and what follows it. -/
def IsCode (f : α → Text) : Prop :=
  ∀ ⦃a b : α⦄ ⦃s t : Text⦄, f a ++ s = f b ++ t → a = b ∧ s = t

theorem isCode_of_read {read : Text → Option (α × Text)}
    (h : ∀ a s, read (f a ++ s) = some (a, s)) : IsCode f := by
  intro a b s t heq
  have hread : some (a, s) = some (b, t) := by rw [← h a s, heq, h b t]
  exact Prod.mk.inj (Option.some.inj hread)

/-- Two codes in a row are a code for pairs. -/
theorem IsCode.append {β : Type} {g : β → Text} (hf : IsCode f) (hg : IsCode g) :
    IsCode fun x : α × β => f x.1 ++ g x.2 := by
  rintro ⟨a, b⟩ ⟨a', b'⟩ s t heq
  rw [List.append_assoc, List.append_assoc] at heq
  obtain ⟨rfl, htail⟩ := hf heq
  obtain ⟨rfl, rfl⟩ := hg htail
  exact ⟨rfl, rfl⟩

/-- **A code with a mark for the end** is a code for lists. -/
theorem IsCode.closed {g : Option α → Text} (h : IsCode g) :
    IsCode fun as : List α => as.flatMap (fun a => g (some a)) ++ g none := by
  intro as bs s t heq
  induction as generalizing bs with
  | nil =>
    cases bs with
    | nil => exact ⟨rfl, (h heq).2⟩
    | cons b bs =>
      have hne := (h (a := none) (b := some b) (by simpa using heq)).1
      exact absurd hne (Option.some_ne_none b).symm
  | cons a as ih =>
    cases bs with
    | nil =>
      have hne := (h (a := some a) (b := none) (by simpa using heq)).1
      exact absurd hne (Option.some_ne_none a)
    | cons b bs =>
      simp only [List.flatMap_cons, List.append_assoc] at heq
      obtain ⟨hab, htail⟩ := h heq
      obtain rfl := Option.some.inj hab
      obtain ⟨rfl, rfl⟩ := ih (by simpa using htail)
      exact ⟨rfl, rfl⟩

/-- **A word ends at the first character of another class.** -/
theorem cut_inj {p : Char → Bool} {u v s t : Text} {c d : Char} (hu : ∀ x ∈ u, p x = true)
    (hv : ∀ x ∈ v, p x = true) (hc : ¬p c = true) (hd : ¬p d = true)
    (h : u ++ c :: s = v ++ d :: t) : u = v ∧ c = d ∧ s = t := by
  have hword := congrArg (List.takeWhile p) h
  have hrest := congrArg (List.dropWhile p) h
  rw [List.takeWhile_append_of_pos hu, List.takeWhile_append_of_pos hv,
    List.takeWhile_cons_of_neg hc, List.takeWhile_cons_of_neg hd, List.append_nil,
    List.append_nil] at hword
  rw [List.dropWhile_append_of_pos hu, List.dropWhile_append_of_pos hv,
    List.dropWhile_cons_of_neg hc, List.dropWhile_cons_of_neg hd] at hrest
  exact ⟨hword, List.cons.inj hrest⟩

end NoteSieve.Text
