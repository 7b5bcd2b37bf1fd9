import Mathlib.Algebra.Group.Nat.Defs

/-!
# Little-endian byte strings

The fixed-width encodings `to_le_bytes` and `from_le_bytes`, for any number of
bytes.
-/

namespace StreamBox

/-- The `k` low bytes of `n`, least significant first. -/
def leBytes : Nat → Nat → List UInt8
  | 0, _ => []
  | k + 1, n => UInt8.ofNat n :: leBytes k (n / 256)

/-- The number a little-endian byte string stands for. -/
def ofLeBytes : List UInt8 → Nat
  | [] => 0
  | b :: bs => b.toNat + 256 * ofLeBytes bs

@[simp] theorem length_leBytes (k n : Nat) : (leBytes k n).length = k := by
  induction k generalizing n with
  | zero => rfl
  | succ k ih => simp [leBytes, ih]

/-- Decoding what `k` bytes encode gives the number modulo `256 ^ k`. -/
theorem ofLeBytes_leBytes (k n : Nat) : ofLeBytes (leBytes k n) = n % 256 ^ k := by
  induction k generalizing n with
  | zero => simp [leBytes, ofLeBytes, Nat.mod_one]
  | succ k ih =>
    have hstep : n % 256 ^ (k + 1) = n % 256 + 256 * (n / 256 % 256 ^ k) := by
      rw [Nat.pow_succ', Nat.mod_mul]
    simp [leBytes, ofLeBytes, ih, hstep]

/-- A number that fits in `k` bytes survives the round trip. -/
theorem ofLeBytes_leBytes_of_lt {k n : Nat} (h : n < 256 ^ k) : ofLeBytes (leBytes k n) = n := by
  rw [ofLeBytes_leBytes, Nat.mod_eq_of_lt h]

/-- Bytes are what encodes their number. -/
theorem leBytes_ofLeBytes (bs : List UInt8) : leBytes bs.length (ofLeBytes bs) = bs := by
  induction bs with
  | nil => rfl
  | cons b bs ih =>
    have hb := b.toNat_lt
    have hhead : UInt8.ofNat (b.toNat + 256 * ofLeBytes bs) = b := by
      rw [← UInt8.toNat_inj, UInt8.toNat_ofNat']
      omega
    have htail : (b.toNat + 256 * ofLeBytes bs) / 256 = ofLeBytes bs := by omega
    rw [ofLeBytes, List.length_cons, leBytes, hhead, htail, ih]

/-- High zero bytes add nothing. -/
theorem ofLeBytes_append_zeros (bs : List UInt8) (n : Nat) :
    ofLeBytes (bs ++ List.replicate n 0) = ofLeBytes bs := by
  induction bs with
  | nil =>
    induction n with
    | zero => rfl
    | succ n ih =>
      have hzeros : ofLeBytes (List.replicate n 0) = 0 := ih
      show 0 + 256 * ofLeBytes (List.replicate n 0) = 0
      rw [hzeros]
  | cons b bs ih => rw [List.cons_append, ofLeBytes, ofLeBytes, ih]

/-- `k` bytes stand for a number below `256 ^ k`. -/
theorem ofLeBytes_lt (bs : List UInt8) : ofLeBytes bs < 256 ^ bs.length := by
  induction bs with
  | nil => simp [ofLeBytes]
  | cons b bs ih =>
    have hb := b.toNat_lt
    simp only [ofLeBytes, List.length_cons, Nat.pow_succ']
    omega

end StreamBox
