import Mathlib.Algebra.BigOperators.Group.List.Basic
import Mathlib.Algebra.GroupWithZero.Nat

/-!
# Totals

What the entries of a list have of something in all. A change of one entry changes the total by
what the entry gains or loses, so that a quantity which only moves between entries is kept.
-/

namespace StreamBox.Lib

variable {α : Type*}

def total (f : α → Nat) (l : List α) : Nat := (l.map f).sum

variable (f : α → Nat) {l : List α} {i : Nat} {a : α}

@[simp] theorem total_nil : total f [] = 0 := rfl

@[simp] theorem total_cons (a : α) (l : List α) : total f (a :: l) = f a + total f l := by
  simp [total]

@[simp] theorem total_append (l l' : List α) : total f (l ++ l') = total f l + total f l' := by
  simp [total]

theorem total_map {β : Type*} (g : β → α) (l : List β) :
    total f (l.map g) = total (fun b => f (g b)) l := by
  simp [total, Function.comp_def]

theorem total_congr {f g : α → Nat} {l : List α} (h : ∀ a ∈ l, f a = g a) :
    total f l = total g l := by
  rw [total, total, List.map_congr_left h]

theorem total_add (f g : α → Nat) (l : List α) :
    total (fun a => f a + g a) l = total f l + total g l := by
  induction l with
  | nil => rfl
  | cons a l ih =>
    rw [total_cons, total_cons, total_cons, ih]
    omega

theorem total_eq_zero {f : α → Nat} {l : List α} (h : ∀ a ∈ l, f a = 0) : total f l = 0 := by
  induction l with
  | nil => rfl
  | cons a l ih =>
    rw [total_cons, h a List.mem_cons_self, ih fun b hb => h b (List.mem_cons_of_mem a hb)]

/-- Somebody has what there is. -/
theorem exists_of_total_pos {f : α → Nat} {l : List α} (h : 0 < total f l) :
    ∃ a ∈ l, 0 < f a := by
  by_contra hnone
  have hzero : total f l = 0 := by
    refine total_eq_zero fun a ha => ?_
    by_contra hpos
    exact hnone ⟨a, ha, Nat.pos_of_ne_zero hpos⟩
  omega

/-- An entry is taken out. -/
theorem total_eraseIdx (h : l[i]? = some a) : f a + total f (l.eraseIdx i) = total f l := by
  obtain ⟨hi, rfl⟩ := List.getElem?_eq_some_iff.mp h
  have hlen : i < (l.map f).length := by
    rw [List.length_map]
    exact hi
  have hsum := List.CommMonoid.add_sum_eraseIdx hlen
  rw [List.getElem_map, List.eraseIdx_map] at hsum
  exact hsum

/-- An entry is replaced. -/
theorem total_set (h : l[i]? = some a) (b : α) : total f (l.set i b) + f a = total f l + f b := by
  have hi := (List.getElem?_eq_some_iff.mp h).1
  have hold := total_eraseIdx f h
  have hnew := total_eraseIdx f (List.getElem?_set_self (a := b) hi)
  rw [List.eraseIdx_set_eq] at hnew
  omega

end StreamBox.Lib
