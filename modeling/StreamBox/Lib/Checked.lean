import Mathlib.Algebra.Group.Nat.Defs

/-!
# Checked fixed-width arithmetic

A machine-integer program read twice at once: the value the wrapping machine
computes, and whether every narrowing cast and subtraction on the way kept the
exact mathematical value.

* **Values** — `Checked.val` is what a build without overflow checks returns.
* **Losses** — `Checked.lossless` is `true` when no cast truncated and no
  subtraction underflowed.
* **Composition** — a `do` block is lossless exactly when all of its steps are.
-/

namespace StreamBox

/-- A value of a wrapping computation, with whether it was computed without loss. -/
@[ext]
structure Checked (α : Type) where
  val : α
  lossless : Bool
  deriving DecidableEq, Repr

namespace Checked

variable {α β : Type}

instance : Monad Checked where
  pure a := ⟨a, true⟩
  bind x f := ⟨(f x.val).val, x.lossless && (f x.val).lossless⟩

/-- Narrowing cast to a `w`-bit unsigned integer. -/
def cast (w n : Nat) : Checked Nat := ⟨n % 2 ^ w, decide (n < 2 ^ w)⟩

/-- Subtraction of `w`-bit unsigned integers. -/
def sub (w a b : Nat) : Checked Nat := ⟨(a + (2 ^ w - b)) % 2 ^ w, decide (b ≤ a)⟩

@[simp] theorem val_pure (a : α) : (pure a : Checked α).val = a := rfl

@[simp] theorem lossless_pure (a : α) : (pure a : Checked α).lossless = true := rfl

@[simp] theorem val_bind (x : Checked α) (f : α → Checked β) :
    (x >>= f).val = (f x.val).val := rfl

@[simp] theorem lossless_bind (x : Checked α) (f : α → Checked β) :
    (x >>= f).lossless = (x.lossless && (f x.val).lossless) := rfl

@[simp] theorem lossless_cast (w n : Nat) : (cast w n).lossless = decide (n < 2 ^ w) := rfl

@[simp] theorem lossless_sub (w a b : Nat) : (sub w a b).lossless = decide (b ≤ a) := rfl

@[simp] theorem pure_bind (a : α) (f : α → Checked β) : (pure a >>= f) = f a := by
  ext <;> simp

/-- A cast that loses nothing is the identity. -/
theorem cast_eq_pure {w n : Nat} (h : n < 2 ^ w) : cast w n = pure n := by
  simp only [cast, Nat.mod_eq_of_lt h, h, decide_true]
  rfl

/-- A subtraction that does not underflow is the one of the naturals. -/
theorem sub_eq_pure {w a b : Nat} (ha : a < 2 ^ w) (hb : b ≤ a) : sub w a b = pure (a - b) := by
  have hsum : a + (2 ^ w - b) = (a - b) + 2 ^ w := by omega
  have hlt : a - b < 2 ^ w := by omega
  simp only [sub, hsum, Nat.add_mod_right, Nat.mod_eq_of_lt hlt, hb, decide_true]
  rfl

end Checked

end StreamBox
