import StreamBox.Exfat.Chains
import StreamBox.Exfat.Geometry
import StreamBox.Exfat.Operations

/-!
# The formatter's bitmap and that of the operations

The operations keep the mark of cluster `c` in bit `c - 2`; the formatter sets bit `c`.

* **Marks** — after formatting, the operations see the clusters from 4 to two beyond the
  root directory as allocated (`formatted_marks`).
* **Disagreement** — so the bitmap is wrong on every size: cluster 2, the bitmap itself,
  has no mark (`bitmap_never_agrees`).
-/

namespace StreamBox.Exfat

/-! ## Live clusters -/

/-- `c` is on the chain that starts at `first`. -/
inductive Disk.Chained (d : Disk) (first : Nat) : Nat → Prop
  | first : isLink first = true → Chained d first first
  | next {c} : Chained d first c → isLink (d.fat c) = true → Chained d first (d.fat c)

/-- There is a file entry at this place of a directory cluster. -/
def FileEntryAt (data : List UInt8) (offset : Nat) : Prop :=
  offset % 32 = 0 ∧ offset < data.length ∧ byteAt data offset = entryTypeFile

/-- The directories that the root directory leads to, by their first clusters. -/
inductive Disk.LiveDirectory (root : Nat) (d : Disk) : Nat → Prop
  | root : LiveDirectory root d root
  | entry {dir c offset} : LiveDirectory root d dir → d.Chained dir c →
      FileEntryAt (d.cluster c) offset → isDirectoryAt (d.cluster c) offset = true →
      LiveDirectory root d (parseEntrySet (d.cluster c) offset).firstCluster

/-- The first clusters of the live chains: the bitmap's, the up-case table's, the root
directory's, and those of the entries of live directories. -/
inductive Disk.LiveChain (root : Nat) (d : Disk) : Nat → Prop
  | bitmap : LiveChain root d 2
  | upcase : LiveChain root d 3
  | root : LiveChain root d root
  | entry {dir c offset} : d.LiveDirectory root dir → d.Chained dir c →
      FileEntryAt (d.cluster c) offset →
      LiveChain root d (parseEntrySet (d.cluster c) offset).firstCluster

/-- A cluster of a live chain. -/
def ExfatFs.Live (fs : ExfatFs) (c : Nat) : Prop :=
  ∃ first, fs.disk.LiveChain fs.firstClusterOfRoot first ∧ fs.disk.Chained first c

/-! ## Operations -/

/-- How a streaming writer is created. -/
inductive Target
  | root (name : String) (overwrite : Bool)
  | path (path : String) (createParents overwrite : Bool)
  deriving DecidableEq, Repr

/-- The operations that change the filesystem. -/
inductive Operation
  | writeFilePath (path : String) (data : List UInt8) (createParents overwrite : Bool)
  | stream (target : Target) (totalSize : Nat) (chunks : List (List UInt8))
  | createDirectory (path : String) (createParents : Bool)
  | deletePath (path : String)
  | deleteRecursive (depth : Nat) (path : String)

section

variable [Lowercase]

def Target.writer (totalSize : Nat) : Target → ExfatM ExfatFileWriter
  | .root name overwrite => ExfatFileWriter.createOverwrite name totalSize overwrite
  | .path target createParents overwrite =>
    ExfatFileWriter.createAtPath target totalSize createParents overwrite

def Operation.run : Operation → ExfatM Unit
  | writeFilePath path data createParents overwrite =>
    Exfat.writeFilePath path data createParents overwrite
  | stream target totalSize chunks => do
    let writer ← target.writer totalSize
    let writer ← ExfatFileWriter.writeAll writer chunks
    ExfatFileWriter.finish writer
  | createDirectory path createParents => Exfat.createDirectory path createParents
  | deletePath path => Exfat.deletePath path
  | deleteRecursive depth path => Exfat.deleteRecursive depth path

/-- A run of successful operations. -/
inductive Succeeds (fs : ExfatFs) : ExfatFs → Prop
  | nil : Succeeds fs fs
  | step {t u} (op : Operation) : Succeeds fs t → op.run t = .ok () u → Succeeds fs u

end

/-! ## The property -/

/-- The writes of the formatter, on a file of any contents. -/
def writeSegments (file : Image) (segments : List Segment) : Image :=
  segments.foldl (fun file s => file.write s.offset s.data) file

/-- The bitmap agrees with the clusters in use: as the formatter writes it, with the
clusters of the bitmap, the up-case table and the root directory, which are those from 2
to the root directory's; and after every run of successful operations, with the clusters
of the live chains. -/
structure BitmapAgreement [Lowercase] (totalSize : Nat) (layout : PartitionLayout)
    (label : String) (now : Option Nat) : Prop where
  formatted : ∀ boot segments,
    (formatExfat layout.dataOffset layout.dataSize label now).val = (boot, segments) →
    ∀ s ∈ segments, s.region = .bitmap → ∀ c, 2 ≤ c → c < 2 ^ 32 →
      (isClusterAllocated s.data c = true ↔ c ≤ boot.firstClusterOfRoot)
  kept : ∀ boot segments,
    (formatExfat layout.dataOffset layout.dataSize label now).val = (boot, segments) →
    ∀ file : Image, file.size = totalSize → ∀ clock fs fs',
      ExfatFs.openImage (writeSegments file segments) layout clock = .ok fs →
      Succeeds fs fs' → ∀ c, 2 ≤ c → c < 2 ^ 32 →
        (fs'.disk.allocated c = true ↔ fs'.Live c)

/-! ## The marks of the formatter -/

/-- Marking sets one bit, if the bitmap has it. -/
theorem test_markUsed (bitmap : List UInt8) {c i : Nat} (hi : i / 8 < bitmap.length) :
    Bitmap.test (markUsed bitmap c) i = (decide (i = c) || Bitmap.test bitmap i) := by
  by_cases h : i = c
  · subst h
    rw [markUsed, Bitmap.test_assign_self hi, decide_eq_true rfl, Bool.true_or]
  · rw [markUsed, Bitmap.test_assign_of_ne _ (Ne.symm h), decide_eq_false h, Bool.false_or]

/-- Mark the `n` clusters from 3 on. -/
def markRow (bitmap : List UInt8) (n : Nat) : List UInt8 :=
  (List.range n).foldl (fun bitmap k => markUsed bitmap (3 + k)) bitmap

theorem markRow_succ (bitmap : List UInt8) (n : Nat) :
    markRow bitmap (n + 1) = markUsed (markRow bitmap n) (3 + n) := by
  rw [markRow, List.range_succ, List.foldl_concat, markRow]

@[simp] theorem length_markRow (bitmap : List UInt8) (n : Nat) :
    (markRow bitmap n).length = bitmap.length := by
  induction n with
  | zero => rfl
  | succ n ih => rw [markRow_succ, length_markUsed, ih]

/-- Marking a row of clusters sets their bits. -/
theorem test_markRow (bitmap : List UInt8) (n : Nat) {i : Nat} (hi : i / 8 < bitmap.length) :
    Bitmap.test (markRow bitmap n) i =
      (decide (3 ≤ i ∧ i < 3 + n) || Bitmap.test bitmap i) := by
  induction n with
  | zero =>
    have hnone : ¬ (3 ≤ i ∧ i < 3 + 0) := by omega
    rw [decide_eq_false hnone, Bool.false_or]
    rfl
  | succ n ih =>
    rw [markRow_succ, test_markUsed _ (by rwa [length_markRow]), ih, ← Bool.or_assoc,
      ← Bool.decide_or]
    congr 2
    exact propext (by omega)

theorem test_blank (n i : Nat) : Bitmap.test (List.replicate n 0) i = false := by
  unfold Bitmap.test
  split
  · rfl
  · rename_i h
    rw [List.length_replicate] at h
    simp [Nat.not_le.mp h]

/-- The bits the formatter sets. -/
theorem test_formatBitmap (clusterSize upcase root : Nat) {i : Nat} (hi : i / 8 < clusterSize) :
    Bitmap.test (formatBitmap clusterSize upcase root) i =
      decide (i = root ∨ (3 ≤ i ∧ i < 3 + upcase) ∨ i = 2) := by
  have hblank : i / 8 < (List.replicate clusterSize (0 : UInt8)).length := by
    rwa [List.length_replicate]
  have htwo : i / 8 < (markUsed (List.replicate clusterSize 0) 2).length := by
    rwa [length_markUsed]
  have hrow : i / 8 < (markRow (markUsed (List.replicate clusterSize 0) 2) upcase).length := by
    rwa [length_markRow]
  change Bitmap.test (markUsed (markRow (markUsed _ 2) upcase) root) i = _
  rw [test_markUsed _ hrow, test_markRow _ _ htwo, test_markUsed _ hblank, test_blank,
    Bool.or_false, Bool.decide_or, Bool.decide_or]

/-- The operations see the clusters from 4 to two beyond the root directory as allocated,
and no other. -/
theorem formatted_marks (sectors : Nat) {c : Nat} (hlo : 2 ≤ c) (hhi : c < 2 ^ 32) :
    isClusterAllocated (Volume.bitmapData sectors) c = true ↔
      4 ≤ c ∧ c ≤ Volume.rootCluster sectors + 2 := by
  obtain ⟨-, hsize, -⟩ := Volume.sectorsPerCluster_mul sectors
  obtain ⟨-, -, hup⟩ := Volume.upcaseClusters_mul sectors
  unfold isClusterAllocated
  rw [wrappingSub32_of_le hhi hlo]
  by_cases hin : (c - 2) / 8 < getClusterSize sectors
  · rw [Volume.bitmapData, test_formatBitmap _ _ _ hin, decide_eq_true_iff]
    unfold Volume.rootCluster
    omega
  · rw [Bitmap.test_of_le (by rw [Volume.length_bitmapData]; omega)]
    unfold Volume.rootCluster
    simp only [Bool.false_eq_true, false_iff]
    omega

/-- Whatever the size, one write of the formatter is the bitmap's. -/
theorem bitmap_written (base size : Nat) (label : String) (now : Option Nat) :
    ⟨.bitmap, base + (formatExfat base size label now).val.1.clusterHeapOffset * 512,
      Volume.bitmapData (size / 512)⟩ ∈ (formatExfat base size label now).val.2 := by
  have hroot : wrap32 (3 + Volume.upcaseClusters (size / 512)) = Volume.rootCluster (size / 512) := by
    have hup := (Volume.upcaseClusters_mul (size / 512)).2.2
    exact wrap32_of_lt (by omega)
  simp only [formatExfat, upcaseClusters_eq, Checked.pure_bind, hroot, Checked.val_bind,
    Checked.val_pure]
  exact List.mem_cons_of_mem _ (List.mem_cons_of_mem _ (List.mem_cons_of_mem _
    (List.mem_cons_self ..)))

/-- Whatever the size, the root directory is behind the up-case table. -/
theorem formatted_root (base size : Nat) (label : String) (now : Option Nat) :
    (formatExfat base size label now).val.1.firstClusterOfRoot
      = Volume.rootCluster (size / 512) := by
  have hup := (Volume.upcaseClusters_mul (size / 512)).2.2
  simp only [formatExfat, ExfatBootSector.new, upcaseClusters_eq, Checked.pure_bind,
    Checked.val_bind, Checked.val_pure]
  exact wrap32_of_lt (by omega)

/-- What the formatter writes contradicts the agreement at cluster 2. -/
theorem BitmapAgreement.absurd_two [Lowercase] {totalSize : Nat} {layout : PartitionLayout}
    {label : String} {now : Option Nat} (h : BitmapAgreement totalSize layout label now) :
    False := by
  have hwritten := bitmap_written layout.dataOffset layout.dataSize label now
  have hmark := h.formatted (formatExfat layout.dataOffset layout.dataSize label now).val.1 _ rfl
    _ hwritten rfl 2 (Nat.le_refl 2) (by decide)
  rw [formatted_root, formatted_marks _ (Nat.le_refl 2) (by decide)] at hmark
  have hroot : 2 ≤ Volume.rootCluster (layout.dataSize / 512) :=
    Nat.le_add_right_of_le (by decide)
  have hmarked := hmark.mpr hroot
  omega

/-- **Bitmap agreement.** On no image size does the bitmap agree with the clusters in use:
cluster 2, the bitmap's own, is free to the operations as soon as the volume is formatted. -/
theorem bitmap_never_agrees [Lowercase] (totalSize : Nat) (layout : PartitionLayout)
    (label : String) (now : Option Nat) : ¬ BitmapAgreement totalSize layout label now :=
  fun h => h.absurd_two

/-- A 64MB image is accepted, and its bitmap does not agree. -/
theorem bitmap_disagrees_64MB :
    ∃ layout, (PartitionLayout.calculate (64 * 1024 * 1024)).val = .ok layout ∧
      ∀ lowercase : Lowercase,
        ¬ @BitmapAgreement lowercase (64 * 1024 * 1024) layout "Ventoy" none := by
  refine ⟨_, (PartitionLayout.calculate_eq_ok (by decide) _).mpr ⟨by decide, rfl⟩, ?_⟩
  intro lowercase h
  exact h.absurd_two

end StreamBox.Exfat
