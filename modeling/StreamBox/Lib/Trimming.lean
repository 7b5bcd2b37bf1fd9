import Mathlib.Data.List.DropRight

/-!
# Trimming

What is left of a list when the elements with a property are dropped from both its ends.
-/

namespace StreamBox.Lib

variable {α : Type*} {p : α → Bool} {l : List α}

/-- The list without the elements of `p` at its ends. -/
def trimEnds (p : α → Bool) (l : List α) : List α := (l.dropWhile p).rdropWhile p

theorem trimEnds_infix : trimEnds p l <:+: l :=
  (List.rdropWhile_prefix p _).isInfix.trans (List.dropWhile_suffix p).isInfix

theorem trimEnds_head {a : α} (h : a ∈ (trimEnds p l).head?) : p a = false := by
  obtain ⟨more, hmore⟩ := List.rdropWhile_prefix p (l.dropWhile p)
  have hhead : a ∈ (l.dropWhile p).head? := by
    rw [← hmore]
    change a ∈ (trimEnds p l ++ more).head?
    rw [List.head?_append, h]
    rfl
  have hnot := List.head?_dropWhile_not p l
  rw [hhead] at hnot
  simpa using hnot

theorem trimEnds_last {a : α} (h : a ∈ (trimEnds p l).getLast?) : p a = false := by
  have hne : trimEnds p l ≠ [] := by
    rintro hnil
    rw [hnil] at h
    cases h
  rw [List.getLast?_eq_some_getLast hne] at h
  cases h
  exact eq_false_of_ne_true (List.rdropWhile_last_not p _ hne)

/-- A list is trimmed if it has such an element at neither end. -/
theorem trimEnds_eq_self_iff :
    trimEnds p l = l ↔ (∀ a ∈ l.head?, p a = false) ∧ ∀ a ∈ l.getLast?, p a = false := by
  constructor
  · intro h
    rw [← h]
    exact ⟨fun _ => trimEnds_head, fun _ => trimEnds_last⟩
  · rintro ⟨hhead, hlast⟩
    have hdrop : l.dropWhile p = l := by
      cases l with
      | nil => rfl
      | cons a l => rw [List.dropWhile_cons_of_neg (by simp [hhead a rfl])]
    rw [trimEnds, hdrop, List.rdropWhile_eq_self_iff]
    intro hne
    rw [hlast _ (List.getLast?_eq_some_getLast hne)]
    exact Bool.false_ne_true

end StreamBox.Lib
