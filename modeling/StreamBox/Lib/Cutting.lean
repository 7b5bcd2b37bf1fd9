import Mathlib.Data.List.Infix

/-!
# Cutting at a pattern

A list is cut at the first place where a pattern stands: what is before it, and what is after it.
-/

namespace StreamBox.Lib

variable {α : Type*}

/-- What is before the first place of the pattern, and what is after it. -/
def cut [BEq α] (pat : List α) : List α → Option (List α × List α)
  | [] => if pat.isEmpty then some ([], []) else none
  | a :: l =>
    if pat.isPrefixOf (a :: l) then some ([], (a :: l).drop pat.length)
    else (cut pat l).map fun (head, rest) => (a :: head, rest)

/-- The pattern stands between the two lists, and at no place before. -/
structure IsFirst (pat l head rest : List α) : Prop where
  eq : l = head ++ pat ++ rest
  first : ∀ k < head.length, ¬ pat <+: l.drop k

section Cut

variable [BEq α] [LawfulBEq α] {pat l head rest : List α}

theorem cut_of_isFirst (h : IsFirst pat l head rest) : cut pat l = some (head, rest) := by
  induction head generalizing l with
  | nil =>
    obtain ⟨rfl, -⟩ := h
    rw [List.nil_append]
    cases hl : pat ++ rest with
    | nil =>
      obtain ⟨rfl, rfl⟩ := List.append_eq_nil_iff.mp hl
      rfl
    | cons a more =>
      rw [cut, ← hl, if_pos (List.isPrefixOf_iff_prefix.mpr (List.prefix_append pat rest)),
        List.drop_left]
  | cons a head ih =>
    obtain ⟨rfl, hfirst⟩ := h
    have hnot : ¬ pat <+: a :: (head ++ pat ++ rest) := hfirst 0 (Nat.zero_lt_succ _)
    have hrest : cut pat (head ++ pat ++ rest) = some (head, rest) :=
      ih ⟨rfl, fun k hk => hfirst (k + 1) (Nat.succ_lt_succ hk)⟩
    rw [List.cons_append, List.cons_append, cut,
      if_neg fun h => hnot (List.isPrefixOf_iff_prefix.mp h), hrest]
    rfl

end Cut

end StreamBox.Lib
