import StreamBox.Lib.Image

/-!
# Rows of writes

One write after the other to an image: a range reads back what the last write that reached it has
put there.
-/

namespace StreamBox.Image

/-- Write after write, each at its offset. -/
def writeRow (img : Image) (writes : List (Nat × List UInt8)) : Image :=
  writes.foldl (fun img w => img.write w.1 w.2) img

/-- A write does not reach a range. -/
def Misses (offset len : Nat) (w : Nat × List UInt8) : Prop :=
  offset + len ≤ w.1 ∨ w.1 + w.2.length ≤ offset

instance (offset len : Nat) (w : Nat × List UInt8) : Decidable (Misses offset len w) :=
  inferInstanceAs (Decidable (_ ∨ _))

/-- A range that no write reaches reads as before. -/
theorem slice_writeRow_of_misses (img : Image) {writes : List (Nat × List UInt8)}
    {offset len : Nat} (h : ∀ w ∈ writes, Misses offset len w) :
    (img.writeRow writes).slice offset len = img.slice offset len := by
  induction writes generalizing img with
  | nil => rfl
  | cons w rest ih =>
    have hw := h w List.mem_cons_self
    show ((img.write w.1 w.2).writeRow rest).slice offset len = _
    rw [ih _ fun w' hw' => h w' (List.mem_cons_of_mem _ hw'), slice_write_of_disjoint _ hw]

/-- A byte that no write reaches. -/
theorem byte_writeRow_of_misses (img : Image) {writes : List (Nat × List UInt8)} {p : Nat}
    (h : ∀ w ∈ writes, Misses p 1 w) : (img.writeRow writes).byte p = img.byte p := by
  have hslice := slice_writeRow_of_misses img h
  simpa [slice] using hslice

/-- Part of a write that no later write reaches. -/
theorem slice_writeRow (img : Image) {writes : List (Nat × List UInt8)} {n offset k len : Nat}
    {data : List UInt8} (hn : writes[n]? = some (offset, data)) (hk : k + len ≤ data.length)
    (h : ∀ w ∈ writes.drop (n + 1), Misses (offset + k) len w) :
    (img.writeRow writes).slice (offset + k) len = (data.drop k).take len := by
  obtain ⟨hlt, hget⟩ := List.getElem?_eq_some_iff.mp hn
  have hsplit : writes = writes.take n ++ (offset, data) :: writes.drop (n + 1) := by
    rw [← hget, List.getElem_cons_drop, List.take_append_drop]
  rw [hsplit, writeRow, List.foldl_append, List.foldl_cons]
  show (Image.writeRow _ (writes.drop (n + 1))).slice (offset + k) len = _
  rw [slice_writeRow_of_misses _ h, slice_inside _ hk, slice_write]

/-- Writes inside the file keep its size. -/
theorem size_writeRow {img : Image} {writes : List (Nat × List UInt8)}
    (h : ∀ w ∈ writes, w.1 + w.2.length ≤ img.size) : (img.writeRow writes).size = img.size := by
  induction writes generalizing img with
  | nil => rfl
  | cons w rest ih =>
    have hsize : (img.write w.1 w.2).size = img.size := size_write (h w List.mem_cons_self)
    show ((img.write w.1 w.2).writeRow rest).size = _
    rw [ih fun w' hw' => hsize ▸ h w' (List.mem_cons_of_mem _ hw'), hsize]

end StreamBox.Image
