import Mathlib.Data.List.GetD

/-!
# Byte images

A file of a given size, read and written at byte offsets.

* **Read after write** — a range reads back what was written to it.
* **Frame** — a range disjoint from the written one reads as before.
-/

namespace StreamBox

/-- A file: its size, and the byte at every offset. -/
@[ext]
structure Image where
  size : Nat
  byte : Nat → UInt8

namespace Image

/-- The bytes of a range. -/
def slice (img : Image) (offset len : Nat) : List UInt8 :=
  (List.range len).map fun k => img.byte (offset + k)

/-- Seek and `read_exact`: fails beyond the end of the file. -/
def read (img : Image) (offset len : Nat) : Option (List UInt8) :=
  if offset + len ≤ img.size then some (img.slice offset len) else none

/-- Seek and `write_all`: writing beyond the end extends the file. -/
def write (img : Image) (offset : Nat) (data : List UInt8) : Image where
  size := if data = [] then img.size else max img.size (offset + data.length)
  byte p := if offset ≤ p ∧ p < offset + data.length then data.getD (p - offset) 0 else img.byte p

@[simp] theorem length_slice (img : Image) (offset len : Nat) :
    (img.slice offset len).length = len := by
  simp [slice]

/-- A range reads back what was written to it. -/
theorem slice_write (img : Image) (offset : Nat) (data : List UInt8) :
    (img.write offset data).slice offset data.length = data := by
  apply List.ext_getElem
  · simp
  · intro k hk hk'
    have hin : offset ≤ offset + k ∧ offset + k < offset + data.length := by omega
    simp [slice, write, hk']

/-- A range disjoint from the written one reads as before. -/
theorem slice_write_of_disjoint (img : Image) {offset offset' len : Nat} {data : List UInt8}
    (h : offset' + len ≤ offset ∨ offset + data.length ≤ offset') :
    (img.write offset data).slice offset' len = img.slice offset' len := by
  apply List.map_congr_left
  intro k hk
  have hk := List.mem_range.mp hk
  have hout : ¬ (offset ≤ offset' + k ∧ offset' + k < offset + data.length) := by omega
  simp only [write, hout, if_false]

/-- Part of a range is the corresponding part of its bytes. -/
theorem slice_inside (img : Image) {offset k len total : Nat} (h : k + len ≤ total) :
    img.slice (offset + k) len = ((img.slice offset total).drop k).take len := by
  apply List.ext_getElem
  · simp
    omega
  · intro j hj hj'
    simp [slice, Nat.add_assoc]

/-- What is read in the middle of a range. -/
theorem read_inside {img : Image} {offset total k len : Nat} {buffer : List UInt8}
    (hread : img.read offset total = some buffer) (h : k + len ≤ total) :
    img.read (offset + k) len = some ((buffer.drop k).take len) := by
  rw [read] at hread
  split at hread
  · rename_i hend
    rw [read, if_pos (by omega), ← Option.some.inj hread, img.slice_inside h]
  · cases hread

/-- Two writes in a row are one write of the concatenation. -/
theorem write_append (img : Image) (offset : Nat) (a b : List UInt8) :
    (img.write offset a).write (offset + a.length) b = img.write offset (a ++ b) := by
  ext p
  · by_cases ha : a = [] <;> by_cases hb : b = [] <;> simp [write, ha, hb] <;> omega
  · simp only [write, List.length_append]
    by_cases hb : offset + a.length ≤ p ∧ p < offset + a.length + b.length
    · have hab : offset ≤ p ∧ p < offset + (a.length + b.length) := by omega
      have hge : a.length ≤ p - offset := by omega
      rw [if_pos hb, if_pos hab, List.getD_append_right _ _ _ _ hge, Nat.sub_add_eq]
    · rw [if_neg hb]
      by_cases ha : offset ≤ p ∧ p < offset + a.length
      · have hab : offset ≤ p ∧ p < offset + (a.length + b.length) := by omega
        have hlt : p - offset < a.length := by omega
        rw [if_pos ha, if_pos hab, List.getD_append _ _ _ _ hlt]
      · have hab : ¬ (offset ≤ p ∧ p < offset + (a.length + b.length)) := by omega
        rw [if_neg ha, if_neg hab]

/-- Writing inside the file keeps its size. -/
theorem size_write {img : Image} {offset : Nat} {data : List UInt8}
    (h : offset + data.length ≤ img.size) : (img.write offset data).size = img.size := by
  simp only [write]
  split
  · rfl
  · omega

end Image

end StreamBox
