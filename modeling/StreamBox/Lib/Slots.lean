import Mathlib.Data.List.Basic

/-!
# Lists of slots

A list whose elements are known by their places: the calls, tasks or requests of a system, one of
which changes or is added at a time.
-/

namespace StreamBox.Lib

variable {α : Type*} {l : List α} {i j : Nat} {a b : α}

/-- The slots after a change of one. -/
theorem getElem?_set_cases (h : (l.set i a)[j]? = some b) :
    j = i ∧ b = a ∨ j ≠ i ∧ l[j]? = some b := by
  rw [List.getElem?_set] at h
  split at h
  · rename_i hij
    split at h <;> cases h
    exact .inl ⟨hij.symm, rfl⟩
  · rename_i hij
    exact .inr ⟨Ne.symm hij, h⟩

theorem getElem?_set_changed (h : l[i]? = some b) (a : α) : (l.set i a)[i]? = some a :=
  List.getElem?_set_self (List.getElem?_eq_some_iff.mp h).1

theorem getElem?_set_kept (h : l[j]? = some b) (hij : j ≠ i) : (l.set i a)[j]? = some b :=
  (List.getElem?_set_ne (Ne.symm hij)).trans h

/-- The slots with one more. -/
theorem getElem?_concat_cases (h : (l ++ [a])[i]? = some b) :
    i = l.length ∧ b = a ∨ l[i]? = some b := by
  rcases Nat.lt_or_ge i l.length with hlt | hge
  · exact .inr ((List.getElem?_append_left hlt).symm.trans h)
  · rw [List.getElem?_append_right hge] at h
    obtain ⟨hlast, hb⟩ := List.getElem?_eq_some_iff.mp h
    have hsub : i - l.length = 0 := Nat.lt_one_iff.mp hlast
    exact .inl ⟨by omega, by simpa [hsub] using hb.symm⟩

theorem getElem?_append_kept {more : List α} (h : l[i]? = some b) : (l ++ more)[i]? = some b :=
  (List.getElem?_append_left (List.getElem?_eq_some_iff.mp h).1).trans h

theorem getElem?_append_cases {more : List α} (h : (l ++ more)[i]? = some b) :
    l[i]? = some b ∨ b ∈ more := by
  rw [List.getElem?_append] at h
  split at h
  · exact .inl h
  · exact .inr (List.mem_of_getElem? h)

end StreamBox.Lib
