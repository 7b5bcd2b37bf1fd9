import Mathlib.Data.List.GetD
import Mathlib.Data.Nat.Bitwise

/-!
# Bit sets in byte strings

Bit `i` of a byte string is bit `i % 8` of byte `i / 8`; there is none beyond its
end.

* **Test** — a bit beyond the end reads as clear.
* **Assign** — setting or clearing a bit changes that bit alone, and none beyond
  the end.
-/

namespace StreamBox.Bitmap

/-- Test a bit. -/
def test (bitmap : List UInt8) (i : Nat) : Bool :=
  if bitmap.length ≤ i / 8 then false
  else (bitmap.getD (i / 8) 0 &&& (1 <<< UInt8.ofNat (i % 8))) != 0

/-- Set or clear a bit. -/
def assign (bitmap : List UInt8) (i : Nat) (value : Bool) : List UInt8 :=
  bitmap.modify (i / 8) fun byte =>
    if value then byte ||| (1 <<< UInt8.ofNat (i % 8)) else byte &&& ~~~(1 <<< UInt8.ofNat (i % 8))

@[simp] theorem length_assign (bitmap : List UInt8) (i : Nat) (value : Bool) :
    (assign bitmap i value).length = bitmap.length := by
  simp [assign]

/-- The one-bit mask of a byte. -/
theorem toNat_mask {k : Nat} (hk : k < 8) : ((1 : UInt8) <<< UInt8.ofNat k).toNat = 2 ^ k := by
  have : ∀ k < 8, ((1 : UInt8) <<< UInt8.ofNat k).toNat = 2 ^ k := by decide
  exact this k hk

/-- Masking one bit of a byte tests it. -/
theorem and_mask_ne_zero (byte : UInt8) {k : Nat} (hk : k < 8) :
    ((byte &&& (1 <<< UInt8.ofNat k)) != 0) = byte.toNat.testBit k := by
  have hand : (byte &&& (1 <<< UInt8.ofNat k)).toNat = byte.toNat &&& 2 ^ k := by
    rw [UInt8.toNat_and, toNat_mask hk]
  have hzero : byte &&& (1 <<< UInt8.ofNat k) = 0 ↔ byte.toNat.testBit k = false := by
    rw [← UInt8.toNat_inj, hand, Nat.and_two_pow]
    cases byte.toNat.testBit k <;> simp
  cases hbit : byte.toNat.testBit k
  · rw [hzero.mpr hbit]
    rfl
  · have hne : byte &&& (1 <<< UInt8.ofNat k) ≠ 0 := fun h => by
      rw [hzero.mp h] at hbit
      cases hbit
    simpa using hne

theorem testBit_or_mask (byte : UInt8) {k j : Nat} (hk : k < 8) :
    (byte ||| (1 <<< UInt8.ofNat k)).toNat.testBit j = (byte.toNat.testBit j || decide (k = j)) := by
  rw [UInt8.toNat_or, toNat_mask hk, Nat.testBit_or, Nat.testBit_two_pow]

theorem testBit_and_not_mask (byte : UInt8) {k j : Nat} (hk : k < 8) (hj : j < 8) :
    (byte &&& ~~~(1 <<< UInt8.ofNat k)).toNat.testBit j
      = (byte.toNat.testBit j && !decide (k = j)) := by
  have hmask : ∀ k < 8, ∀ j < 8,
      (~~~((1 : UInt8) <<< UInt8.ofNat k)).toNat.testBit j = !decide (k = j) := by decide
  rw [UInt8.toNat_and, Nat.testBit_and, hmask k hk j hj]

/-- A bit inside the string is the bit of its byte. -/
theorem test_of_lt {bitmap : List UInt8} {i : Nat} (h : i / 8 < bitmap.length) :
    test bitmap i = (bitmap.getD (i / 8) 0).toNat.testBit (i % 8) := by
  rw [test, if_neg (Nat.not_le.mpr h), and_mask_ne_zero _ (Nat.mod_lt _ (by decide))]

theorem test_of_le {bitmap : List UInt8} {i : Nat} (h : bitmap.length ≤ i / 8) :
    test bitmap i = false := by
  rw [test, if_pos h]

/-- The assigned bit reads back, if the string has it. -/
theorem test_assign_self {bitmap : List UInt8} {i : Nat} (h : i / 8 < bitmap.length)
    (value : Bool) : test (assign bitmap i value) i = value := by
  have hi : i % 8 < 8 := Nat.mod_lt _ (by decide)
  have hlen : i / 8 < (assign bitmap i value).length := by rwa [length_assign]
  rw [test_of_lt hlen, List.getD_eq_getElem _ _ hlen]
  simp only [assign, List.getElem_modify_eq]
  cases value with
  | true => rw [if_pos rfl, testBit_or_mask _ hi, decide_eq_true rfl, Bool.or_true]
  | false =>
    rw [if_neg (by decide), testBit_and_not_mask _ hi hi, decide_eq_true rfl, Bool.not_true,
      Bool.and_false]

/-- Every other bit reads as before. -/
theorem test_assign_of_ne (bitmap : List UInt8) {i j : Nat} (hne : i ≠ j) (value : Bool) :
    test (assign bitmap i value) j = test bitmap j := by
  have hi : i % 8 < 8 := Nat.mod_lt _ (by decide)
  have hj : j % 8 < 8 := Nat.mod_lt _ (by decide)
  by_cases h : j / 8 < bitmap.length
  · have hlen : j / 8 < (assign bitmap i value).length := by rwa [length_assign]
    rw [test_of_lt hlen, test_of_lt h, List.getD_eq_getElem _ _ hlen, List.getD_eq_getElem _ _ h]
    by_cases hbyte : i / 8 = j / 8
    · have hbit : i % 8 ≠ j % 8 := by omega
      simp only [assign, hbyte, List.getElem_modify_eq]
      cases value with
      | true => rw [if_pos rfl, testBit_or_mask _ hi, decide_eq_false hbit, Bool.or_false]
      | false =>
        rw [if_neg (by decide), testBit_and_not_mask _ hi hj, decide_eq_false hbit, Bool.not_false,
          Bool.and_true]
    · simp only [assign, List.getElem_modify, if_neg hbyte]
  · have hle : bitmap.length ≤ j / 8 := Nat.not_lt.mp h
    rw [test_of_le hle, test_of_le (by rwa [length_assign])]

end StreamBox.Bitmap
