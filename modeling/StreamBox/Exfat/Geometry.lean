import StreamBox.Exfat.Format

/-!
# Geometry of a formatted volume

FAT length, heap offset and cluster count of `ExfatBootSector::new` in exact
arithmetic, and from them where `format_exfat` puts each structure.

* **Exactness** — on a volume of at least the smallest accepted size and less
  than `2 ^ 32` sectors, no cast or subtraction of the formatter loses anything.
* **Layout** — the six segments follow each other inside the data partition, and
  the FAT has an entry for every cluster.
* **Bitmap** — one cluster is reserved for the allocation bitmap whatever its
  size, so the bitmap of a volume with too many clusters does not fit.
-/

namespace StreamBox.Exfat

/-! ## Exact geometry -/

namespace Volume

/-- Sectors per cluster of a volume of `sectors` sectors. -/
def sectorsPerCluster (sectors : Nat) : Nat := getClusterSize sectors / 512

/-- FAT length in sectors. -/
def fatLength (sectors : Nat) : Nat :=
  max ((((sectors - 24 - 32) / sectorsPerCluster sectors + 2) * 4 + 512 - 1) / 512) 1

/-- First sector of the cluster heap. -/
def heapOffset (sectors : Nat) : Nat := 24 + fatLength sectors

/-- Clusters of the heap. -/
def clusterCount (sectors : Nat) : Nat :=
  (sectors - heapOffset sectors) / sectorsPerCluster sectors

/-- Clusters of the up-case table. -/
def upcaseClusters (sectors : Nat) : Nat :=
  (upcaseTableSize + getClusterSize sectors - 1) / getClusterSize sectors

/-- First cluster of the root directory. -/
def rootCluster (sectors : Nat) : Nat := 3 + upcaseClusters sectors

/-- The volumes `calculate` and a 32-bit sector count allow. -/
structure Sized (sectors : Nat) : Prop where
  atLeast : 63488 ≤ sectors
  lt32 : sectors < 2 ^ 32

/-- The three cluster sizes, each with the sizes it is chosen for. -/
theorem clusterSize_cases (sectors : Nat) :
    (getClusterSize sectors = 4096 ∧ sectors < 524288) ∨
    (getClusterSize sectors = 32768 ∧ 524288 ≤ sectors ∧ sectors < 16777216) ∨
    (getClusterSize sectors = 131072 ∧ 16777216 ≤ sectors) := by
  unfold getClusterSize
  dsimp only
  split
  · left; omega
  · split
    · right; left; omega
    · right; right; omega

/-- A whole number of sectors makes a cluster, and a cluster holds a kilobyte or more. -/
theorem sectorsPerCluster_mul (sectors : Nat) :
    sectorsPerCluster sectors * 512 = getClusterSize sectors ∧ 4096 ≤ getClusterSize sectors ∧
      getClusterSize sectors ≤ 131072 := by
  unfold sectorsPerCluster
  obtain ⟨h, -⟩ | ⟨h, -⟩ | ⟨h, -⟩ := clusterSize_cases sectors <;> simp [h]

/-- The up-case table fills its clusters. -/
theorem upcaseClusters_mul (sectors : Nat) :
    upcaseClusters sectors * getClusterSize sectors = upcaseTableSize ∧
      1 ≤ upcaseClusters sectors ∧ upcaseClusters sectors ≤ 32 := by
  unfold upcaseClusters upcaseTableSize
  obtain ⟨h, -⟩ | ⟨h, -⟩ | ⟨h, -⟩ := clusterSize_cases sectors <;> simp [h]

/-- The FAT has room for the entries of all clusters, ends inside the volume, and
leaves room for the formatter's own clusters. -/
theorem fat_bounds {sectors : Nat} (h : Sized sectors) :
    (clusterCount sectors + 2) * 4 ≤ fatLength sectors * 512 ∧
    32 ≤ fatLength sectors ∧ heapOffset sectors + 256 * 3 ≤ sectors ∧
    upcaseClusters sectors + 2 ≤ clusterCount sectors := by
  obtain ⟨hlo, hhi⟩ := h
  unfold clusterCount heapOffset fatLength sectorsPerCluster upcaseClusters upcaseTableSize
  obtain ⟨hc, hs⟩ | ⟨hc, hs⟩ | ⟨hc, hs⟩ := clusterSize_cases sectors <;> rw [hc] <;> omega

/-- The clusters of the heap end inside the volume. -/
theorem heap_end (sectors : Nat) (h : Sized sectors) :
    heapOffset sectors * 512 + clusterCount sectors * getClusterSize sectors ≤ sectors * 512 := by
  have hbounds := (fat_bounds h).2.2.1
  have hmul := (sectorsPerCluster_mul sectors).1
  have hdiv : clusterCount sectors * sectorsPerCluster sectors ≤ sectors - heapOffset sectors :=
    Nat.div_mul_le_self _ _
  rw [← hmul, ← Nat.mul_assoc]
  omega

end Volume

/-! ## The formatter in exact arithmetic -/

/-- The up-case cluster count is computed without loss. -/
theorem upcaseClusters_eq (sectors : Nat) :
    upcaseClusters (getClusterSize sectors) = pure (Volume.upcaseClusters sectors) := by
  have hsize := (Volume.sectorsPerCluster_mul sectors).2
  have hup := (Volume.upcaseClusters_mul sectors).2
  have hsub : Checked.sub 64 (upcaseTableSize + getClusterSize sectors) 1
      = pure (upcaseTableSize + getClusterSize sectors - 1) :=
    Checked.sub_eq_pure (by simp only [upcaseTableSize]; omega) (by omega)
  have hcast : Checked.cast 32
      ((upcaseTableSize + getClusterSize sectors - 1) / getClusterSize sectors)
      = pure (Volume.upcaseClusters sectors) :=
    Checked.cast_eq_pure (by unfold Volume.upcaseClusters at hup; omega)
  simp only [upcaseClusters, hsub, Checked.pure_bind, hcast]

/-- The boot sector of a volume of `sectors` sectors. -/
def Volume.bootSector (sectors serial : Nat) : ExfatBootSector :=
  .ofGeometry sectors (getClusterSize sectors) (fatLength sectors) (heapOffset sectors)
    (clusterCount sectors) (rootCluster sectors) serial

/-- `ExfatBootSector::new` loses nothing on a volume of admissible size. -/
theorem ExfatBootSector.new_eq {sectors : Nat} (h : Volume.Sized sectors) (serial : Nat) :
    ExfatBootSector.new sectors (getClusterSize sectors) serial
      = pure (Volume.bootSector sectors serial) := by
  obtain ⟨hlo, hhi⟩ := h
  have hfat := (Volume.fat_bounds ⟨hlo, hhi⟩).2.2.1
  have hup := (Volume.upcaseClusters_mul sectors).2
  have hest : (sectors - 24 - 32) / (getClusterSize sectors / 512) ≤ sectors / 8 := by
    obtain ⟨hc, -⟩ | ⟨hc, -⟩ | ⟨hc, -⟩ := Volume.clusterSize_cases sectors <;> rw [hc] <;> omega
  have hcast : Checked.cast 32 sectors = pure sectors := Checked.cast_eq_pure hhi
  have husable : Checked.sub 32 sectors 24 = pure (sectors - 24) :=
    Checked.sub_eq_pure hhi (by omega)
  have hestimable : Checked.sub 32 (sectors - 24) 32 = pure (sectors - 24 - 32) :=
    Checked.sub_eq_pure (by omega) (by omega)
  have hentries : wrap32 (wrap32 (wrap32
      ((sectors - 24 - 32) / (getClusterSize sectors / 512) + 2) * 4) + 512)
      = ((sectors - 24 - 32) / (getClusterSize sectors / 512) + 2) * 4 + 512 := by
    unfold wrap32
    omega
  have hbytes : Checked.sub 32 (((sectors - 24 - 32) / (getClusterSize sectors / 512) + 2) * 4 + 512) 1
      = pure (((sectors - 24 - 32) / (getClusterSize sectors / 512) + 2) * 4 + 512 - 1) :=
    Checked.sub_eq_pure (by omega) (by omega)
  have hheap : wrap32 (24 + Volume.fatLength sectors) = Volume.heapOffset sectors :=
    Nat.mod_eq_of_lt (by unfold Volume.heapOffset at hfat; omega)
  have hsectors : Checked.sub 32 sectors (Volume.heapOffset sectors)
      = pure (sectors - Volume.heapOffset sectors) :=
    Checked.sub_eq_pure hhi (by omega)
  have hroot : wrap32 (3 + Volume.upcaseClusters sectors) = Volume.rootCluster sectors :=
    Nat.mod_eq_of_lt (by omega)
  unfold ExfatBootSector.new
  simp only [hcast, husable, hestimable, hentries, hbytes, Checked.pure_bind]
  change (do
    let heapSectors ← Checked.sub 32 sectors (wrap32 (24 + Volume.fatLength sectors))
    let upcase ← upcaseClusters (getClusterSize sectors)
    pure (ExfatBootSector.ofGeometry sectors (getClusterSize sectors) (Volume.fatLength sectors)
      (wrap32 (24 + Volume.fatLength sectors)) (heapSectors / (getClusterSize sectors / 512))
      (wrap32 (3 + upcase)) serial)) = _
  simp only [hheap, hsectors, upcaseClusters_eq, hroot, Checked.pure_bind]
  rfl

/-- A boot sector is 512 bytes. -/
theorem ExfatBootSector.length_toBytes (v c f h n r s : Nat) :
    (ExfatBootSector.ofGeometry v c f h n r s).toBytes.length = 512 := by
  simp only [ExfatBootSector.toBytes, ExfatBootSector.ofGeometry, List.length_append,
    List.length_replicate, List.length_cons, List.length_nil, length_leBytes]

/-- Marking a cluster keeps the bitmap's length. -/
@[simp] theorem length_markUsed (bitmap : List UInt8) (cluster : Nat) :
    (markUsed bitmap cluster).length = bitmap.length := by
  simp [markUsed]

/-- The bitmap is written as one whole cluster. -/
@[simp] theorem length_formatBitmap (clusterSize upcase root : Nat) :
    (formatBitmap clusterSize upcase root).length = clusterSize := by
  have hfold : ∀ (l : List Nat) (bitmap : List UInt8),
      (l.foldl (fun bitmap i => markUsed bitmap (3 + i)) bitmap).length = bitmap.length := by
    intro l
    induction l with
    | nil => intro _; rfl
    | cons i l ih => intro bitmap; rw [List.foldl_cons, ih, length_markUsed]
  simp [formatBitmap, hfold]

@[simp] theorem length_formatFat (upcase last : Nat) :
    (formatFat upcase last).length = upcase + 4 := by
  simp [formatFat]

/-- Directory entries of the formatter are 32 bytes. -/
@[simp] theorem length_createVolumeLabelEntry (label : String) :
    (createVolumeLabelEntry label).length = 32 := by
  have htake : ((encodeUtf16 label).take 11).length ≤ 11 := List.length_take_le ..
  have hflat : (((encodeUtf16 label).take 11).flatMap (leBytes 2)).length
      = ((encodeUtf16 label).take 11).length * 2 := by
    simp only [List.length_flatMap, length_leBytes, List.map_const', List.sum_replicate_nat]
  simp only [createVolumeLabelEntry, padEntry, List.length_append, List.length_replicate, hflat,
    List.length_cons, List.length_nil]
  omega

@[simp] theorem length_createBitmapEntry (start size : Nat) :
    (createBitmapEntry start size).length = 32 := by
  simp [createBitmapEntry]

@[simp] theorem length_createUpcaseEntry (start size checksum : Nat) :
    (createUpcaseEntry start size checksum).length = 32 := by
  simp [createUpcaseEntry]

namespace Volume

/-- The boot region: eleven sectors and the checksum sector. -/
def bootData (sectors serial : Nat) : List UInt8 :=
  let region := (bootSector sectors serial).toBytes :: List.replicate 10 (List.replicate 512 0)
  region.flatten ++ (List.replicate 128 (leBytes 4 (calculateBootChecksum region))).flatten

/-- The whole FAT. -/
def fatData (sectors : Nat) : List UInt8 :=
  (formatFat (upcaseClusters sectors) (upcaseClusters sectors - 1)).flatMap (leBytes 4) ++
  List.replicate (fatLength sectors * 512 - (upcaseClusters sectors + 4) * 4) 0

/-- The bitmap cluster. -/
def bitmapData (sectors : Nat) : List UInt8 :=
  formatBitmap (getClusterSize sectors) (upcaseClusters sectors) (rootCluster sectors)

/-- The root directory cluster. -/
def rootData (sectors : Nat) (label : String) : List UInt8 :=
  createVolumeLabelEntry label ++ createBitmapEntry 2 (bitmapSize (clusterCount sectors)) ++
  createUpcaseEntry 3 generateUpcaseTable.length (calculateUpcaseChecksum generateUpcaseTable) ++
  List.replicate (getClusterSize sectors - 96) 0

/-- The writes of the formatter, from the partition's first byte on. -/
def segments (base sectors serial : Nat) (label : String) : List Segment :=
  [⟨.mainBoot, base, bootData sectors serial⟩,
   ⟨.backupBoot, base + 12 * 512, bootData sectors serial⟩,
   ⟨.fat, base + 24 * 512, fatData sectors⟩,
   ⟨.bitmap, base + heapOffset sectors * 512, bitmapData sectors⟩,
   ⟨.upcase, base + heapOffset sectors * 512 + getClusterSize sectors, generateUpcaseTable⟩,
   ⟨.root, base + heapOffset sectors * 512 + (1 + upcaseClusters sectors) * getClusterSize sectors,
     rootData sectors label⟩]

@[simp] theorem length_bootData (sectors serial : Nat) :
    (bootData sectors serial).length = 12 * 512 := by
  simp only [bootData, bootSector, List.length_append, List.length_flatten, List.map_cons,
    ExfatBootSector.length_toBytes, List.map_replicate, List.length_replicate, List.sum_cons,
    List.sum_replicate_nat, length_leBytes]

theorem length_fatData {sectors : Nat} (h : Sized sectors) :
    (fatData sectors).length = fatLength sectors * 512 := by
  have hfat := fat_bounds h
  simp only [fatData, List.length_append, List.length_flatMap, length_leBytes, List.map_const',
    List.sum_replicate_nat, length_formatFat, List.length_replicate]
  omega

@[simp] theorem length_bitmapData (sectors : Nat) :
    (bitmapData sectors).length = getClusterSize sectors := by
  simp [bitmapData]

@[simp] theorem length_rootData (sectors : Nat) (label : String) :
    (rootData sectors label).length = getClusterSize sectors := by
  have hsize := (sectorsPerCluster_mul sectors).2.1
  simp only [rootData, List.length_append, length_createVolumeLabelEntry,
    length_createBitmapEntry, length_createUpcaseEntry, List.length_replicate]
  omega

/-- The volume serial: the clock's seconds, or a constant. -/
def serial (now : Option Nat) : Nat := now.getD 0x12345678

end Volume

/-- On a volume of admissible size and with a clock before `2 ^ 32` seconds the
formatter loses nothing, and writes the exact segments. -/
theorem formatExfat_eq {sectors : Nat} (h : Volume.Sized sectors) {now : Option Nat}
    (hnow : ∀ secs, now = some secs → secs < 2 ^ 32) (base : Nat) (label : String) :
    formatExfat base (sectors * 512) label now
      = pure (Volume.bootSector sectors (Volume.serial now),
          Volume.segments base sectors (Volume.serial now) label) := by
  have hfat := Volume.fat_bounds h
  have hsize := (Volume.sectorsPerCluster_mul sectors).2
  have hup := Volume.upcaseClusters_mul sectors
  have hlt := h.lt32
  have hsectors : sectors * 512 / 512 = sectors := Nat.mul_div_cancel _ (by decide)
  have hserial : volumeSerial now = pure (Volume.serial now) := by
    cases now with
    | none => rfl
    | some secs => exact Checked.cast_eq_pure (hnow secs rfl)
  have hlast : Checked.sub 32 (Volume.upcaseClusters sectors) 1
      = pure (Volume.upcaseClusters sectors - 1) :=
    Checked.sub_eq_pure (by omega) hup.2.1
  have hremaining : Checked.sub 64 ((Volume.bootSector sectors (Volume.serial now)).fatLength * 512)
      ((Volume.upcaseClusters sectors + 4) * 4)
      = pure (Volume.fatLength sectors * 512 - (Volume.upcaseClusters sectors + 4) * 4) :=
    Checked.sub_eq_pure
      (by
        have : Volume.fatLength sectors ≤ sectors := by
          have := hfat.2.2.1
          unfold Volume.heapOffset at this
          omega
        simp only [Volume.bootSector, ExfatBootSector.ofGeometry]
        omega)
      (by
        simp only [Volume.bootSector, ExfatBootSector.ofGeometry]
        omega)
  have hpadding : Checked.sub 64 (Volume.upcaseClusters sectors * getClusterSize sectors)
      generateUpcaseTable.length = pure 0 := by
    rw [hup.1, length_generateUpcaseTable]
    exact Checked.sub_eq_pure (by decide) (Nat.le_refl _)
  have hroot : Checked.sub 64 (getClusterSize sectors) (32 * 3)
      = pure (getClusterSize sectors - 96) :=
    Checked.sub_eq_pure (by omega) (by omega)
  have hrootCluster : wrap32 (3 + Volume.upcaseClusters sectors) = Volume.rootCluster sectors :=
    Nat.mod_eq_of_lt (by omega)
  unfold formatExfat
  simp only [hsectors, hserial, ExfatBootSector.new_eq h, upcaseClusters_eq, hlast,
    length_formatFat, hremaining, hpadding, hroot, hrootCluster, Checked.pure_bind]
  simp only [Volume.segments, ← Volume.length_bootData sectors (Volume.serial now)]
  simp only [Volume.bootData, Volume.fatData, Volume.bitmapData, Volume.rootData,
    List.replicate_zero, List.append_nil]
  rfl

/-- A sector count of 33 bits or more is truncated. -/
theorem formatExfat_lossy_of_sectors {sectors : Nat} (h : ¬ sectors < 2 ^ 32) (base : Nat)
    (label : String) (now : Option Nat) :
    (formatExfat base (sectors * 512) label now).lossless = false := by
  have hsectors : sectors * 512 / 512 = sectors := Nat.mul_div_cancel _ (by decide)
  simp only [formatExfat, hsectors, ExfatBootSector.new, Checked.lossless_bind,
    Checked.lossless_cast, h, decide_false, Bool.false_and, Bool.and_false]

/-- A clock of 33 bits or more is truncated. -/
theorem formatExfat_lossy_of_clock {secs : Nat} (h : ¬ secs < 2 ^ 32) (base size : Nat)
    (label : String) : (formatExfat base size label (some secs)).lossless = false := by
  simp only [formatExfat, volumeSerial, Checked.lossless_bind, Checked.lossless_cast, h,
    decide_false, Bool.false_and]

/-! ## What the layout has to satisfy -/

/-- The layout properties of a formatted partition of `size` bytes at `base`. -/
structure LaidOut (base size : Nat) (boot : ExfatBootSector) (segments : List Segment) : Prop where
  disjoint : segments.Pairwise fun s t => s.stop ≤ t.offset ∨ t.stop ≤ s.offset
  inside : ∀ s ∈ segments, base ≤ s.offset ∧ s.stop ≤ base + size
  fatRoom : (boot.clusterCount + 2) * 4 ≤ boot.fatLength * 512
  bitmapRoom : ∀ s ∈ segments, s.region = .bitmap → bitmapSize boot.clusterCount ≤ s.data.length
  heapEnd : boot.clusterHeapOffset * 512 +
    boot.clusterCount * getClusterSize (size / 512) ≤ size

/-- The formatter's own clusters lie inside the heap. -/
theorem Volume.formatted_clusters {sectors : Nat} (h : Sized sectors) :
    (1 + upcaseClusters sectors) * getClusterSize sectors
        = getClusterSize sectors + upcaseTableSize ∧
      getClusterSize sectors + upcaseTableSize + getClusterSize sectors
        ≤ clusterCount sectors * getClusterSize sectors := by
  have hup := upcaseClusters_mul sectors
  have hfat := fat_bounds h
  refine ⟨by rw [Nat.add_mul, hup.1, Nat.one_mul], ?_⟩
  calc getClusterSize sectors + upcaseTableSize + getClusterSize sectors
      = (upcaseClusters sectors + 2) * getClusterSize sectors := by
        rw [Nat.add_mul, hup.1]
        omega
    _ ≤ clusterCount sectors * getClusterSize sectors := Nat.mul_le_mul_right _ hfat.2.2.2

/-- The segments do not overlap, whatever the size. -/
theorem Volume.segments_disjoint {sectors : Nat} (h : Sized sectors) (base serial : Nat)
    (label : String) : (segments base sectors serial label).Pairwise fun s t =>
      s.stop ≤ t.offset ∨ t.stop ≤ s.offset := by
  obtain ⟨hclusters, hheap⟩ := formatted_clusters h
  have hfat := fat_bounds h
  have hfatLength := length_fatData h
  unfold heapOffset at hfat
  simp only [segments, List.pairwise_cons, List.mem_cons, List.not_mem_nil, or_false,
    forall_eq_or_imp, forall_eq, Segment.stop, length_bootData, hfatLength, length_bitmapData,
    length_generateUpcaseTable, length_rootData, hclusters, heapOffset, false_implies,
    implies_true, List.Pairwise.nil, and_true]
  simp only [upcaseTableSize] at hclusters hheap ⊢
  omega

/-- The segments lie inside the partition, whatever the size. -/
theorem Volume.segments_inside {sectors : Nat} (h : Sized sectors) (base serial : Nat)
    (label : String) : ∀ s ∈ segments base sectors serial label,
      base ≤ s.offset ∧ s.stop ≤ base + sectors * 512 := by
  obtain ⟨hclusters, hheap⟩ := formatted_clusters h
  have hfat := fat_bounds h
  have hend := heap_end sectors h
  have hfatLength := length_fatData h
  unfold heapOffset at hfat hend
  simp only [segments, List.mem_cons, List.not_mem_nil, or_false, forall_eq_or_imp, forall_eq,
    Segment.stop, length_bootData, hfatLength, length_bitmapData, length_generateUpcaseTable,
    length_rootData, hclusters, heapOffset]
  simp only [upcaseTableSize] at hclusters hheap ⊢
  omega

/-- The bitmap of the volume fits in its one cluster. -/
def Volume.BitmapFits (sectors : Nat) : Prop :=
  clusterCount sectors ≤ 8 * getClusterSize sectors

/-- The segments are laid out as they should be exactly when the bitmap fits in
its cluster. -/
theorem laidOut_iff {sectors : Nat} (h : Volume.Sized sectors) (base serial : Nat)
    (label : String) :
    LaidOut base (sectors * 512) (Volume.bootSector sectors serial)
      (Volume.segments base sectors serial label) ↔ Volume.BitmapFits sectors := by
  have hcount : Volume.clusterCount sectors + 7 < 2 ^ 32 := by
    have hlt := h.lt32
    have hsize := (Volume.sectorsPerCluster_mul sectors).2
    have hend := Volume.heap_end sectors h
    have hmul : Volume.clusterCount sectors * 4096 ≤
      Volume.clusterCount sectors * getClusterSize sectors := Nat.mul_le_mul_left _ hsize.1
    omega
  have hbitmap : bitmapSize (Volume.clusterCount sectors) = (Volume.clusterCount sectors + 7) / 8 := by
    rw [bitmapSize, wrap32, Nat.mod_eq_of_lt hcount]
  constructor
  · intro hlaid
    have hroom := hlaid.bitmapRoom ⟨.bitmap, base + Volume.heapOffset sectors * 512,
      Volume.bitmapData sectors⟩ (by simp [Volume.segments]) rfl
    rw [Volume.length_bitmapData] at hroom
    change bitmapSize (Volume.clusterCount sectors) ≤ _ at hroom
    unfold Volume.BitmapFits
    omega
  · intro hfits
    unfold Volume.BitmapFits at hfits
    refine ⟨Volume.segments_disjoint h base serial label, Volume.segments_inside h base serial label,
      (Volume.fat_bounds h).1, ?_, ?_⟩
    · simp only [Volume.segments, List.mem_cons, List.not_mem_nil, or_false]
      rintro s (rfl | rfl | rfl | rfl | rfl | rfl) hregion <;> simp only [reduceCtorEq] at hregion
      rw [Volume.length_bitmapData]
      change bitmapSize (Volume.clusterCount sectors) ≤ _
      omega
    · rw [Nat.mul_div_cancel _ (by decide)]
      exact Volume.heap_end sectors h

/-! ## Image sizes -/

/-- The one-cluster bitmap is too small from 262440 sectors of 4KB clusters on, and
again from 268443936 sectors of 128KB clusters on. -/
theorem Volume.bitmapFits_iff {sectors : Nat} (h : Sized sectors) (haligned : sectors % 8 = 0) :
    BitmapFits sectors ↔
      sectors ≤ 262432 ∨ (524288 ≤ sectors ∧ sectors ≤ 268443928) := by
  obtain ⟨hlo, hhi⟩ := h
  unfold BitmapFits clusterCount heapOffset fatLength sectorsPerCluster
  obtain ⟨hc, hs⟩ | ⟨hc, hs⟩ | ⟨hc, hs⟩ := clusterSize_cases sectors <;> rw [hc] <;> omega

namespace PartitionLayout

/-- The sectors of the data partition, a multiple of eight that the smallest image
already makes large enough. -/
theorem dataSizeSectors_ofSize {totalSize : Nat} (hmin : minImageSize ≤ totalSize) :
    63488 ≤ (ofSize totalSize).dataSizeSectors ∧ (ofSize totalSize).dataSizeSectors % 8 = 0 ∧
    (ofSize totalSize).dataSizeSectors + 67584 ≤ totalSize / 512 ∧
    totalSize / 512 < (ofSize totalSize).dataSizeSectors + 67592 := by
  simp only [ofSize, sectorSize, efiPartSizeSectors, dataPartStartSector]
  simp only [minImageSize] at hmin
  omega

/-- The data partition of an image of this size has room for its bitmap. -/
def BitmapFits (totalSize : Nat) : Prop :=
  totalSize < 330024 * 512 ∨ (591872 * 512 ≤ totalSize ∧ totalSize < 268511520 * 512)

instance (totalSize : Nat) : Decidable (BitmapFits totalSize) :=
  inferInstanceAs (Decidable (_ ∨ _))

/-- The size ranges in bytes are those of the data partition in sectors. -/
theorem bitmapFits_iff {totalSize : Nat} (hmin : minImageSize ≤ totalSize) :
    BitmapFits totalSize ↔
      Volume.Sized (ofSize totalSize).dataSizeSectors ∧
      Volume.BitmapFits (ofSize totalSize).dataSizeSectors := by
  obtain ⟨hlo, haligned, htop, hbottom⟩ := dataSizeSectors_ofSize hmin
  unfold BitmapFits
  constructor
  · intro hfits
    have hsized : Volume.Sized (ofSize totalSize).dataSizeSectors := ⟨hlo, by omega⟩
    refine ⟨hsized, (Volume.bitmapFits_iff hsized haligned).mpr ?_⟩
    omega
  · rintro ⟨hsized, hfits⟩
    have := (Volume.bitmapFits_iff hsized haligned).mp hfits
    omega

end PartitionLayout

/-- What formatting an image of `totalSize` bytes with this layout has to achieve:
neither function loses a value, and the segments are laid out as they should be. -/
def FormatSound (totalSize : Nat) (layout : PartitionLayout) (label : String)
    (now : Option Nat) : Prop :=
  (PartitionLayout.calculate totalSize).lossless = true ∧
  (formatExfat layout.dataOffset layout.dataSize label now).lossless = true ∧
  LaidOut layout.dataOffset layout.dataSize
    (formatExfat layout.dataOffset layout.dataSize label now).val.1
    (formatExfat layout.dataOffset layout.dataSize label now).val.2

/-- Formatting a layout of admissible size succeeds when its bitmap fits and the
clock does. -/
theorem formatSound_of_layout {totalSize : Nat} (hsize : totalSize < 2 ^ 64)
    (hmin : minImageSize ≤ totalSize) (label : String) (now : Option Nat) :
    FormatSound totalSize (.ofSize totalSize) label now ↔
      (Volume.Sized (PartitionLayout.ofSize totalSize).dataSizeSectors ∧
        Volume.BitmapFits (PartitionLayout.ofSize totalSize).dataSizeSectors) ∧
      ∀ secs, now = some secs → secs < 2 ^ 32 := by
  have hlo := (PartitionLayout.dataSizeSectors_ofSize hmin).1
  generalize hlayout : PartitionLayout.ofSize totalSize = layout at hlo
  have hdata : layout.dataSize = layout.dataSizeSectors * 512 := rfl
  unfold FormatSound
  rw [PartitionLayout.calculate_eq hsize, hdata]
  constructor
  · rintro ⟨-, hlossless, hlaid⟩
    have hclock : ∀ secs, now = some secs → secs < 2 ^ 32 := by
      rintro secs rfl
      refine Decidable.byContradiction fun hsecs => ?_
      rw [formatExfat_lossy_of_clock hsecs] at hlossless
      cases hlossless
    have hsized : Volume.Sized layout.dataSizeSectors := by
      refine ⟨hlo, Decidable.byContradiction fun hsectors => ?_⟩
      rw [formatExfat_lossy_of_sectors hsectors] at hlossless
      cases hlossless
    rw [formatExfat_eq hsized hclock] at hlaid
    exact ⟨⟨hsized, (laidOut_iff hsized _ _ _).mp hlaid⟩, hclock⟩
  · rintro ⟨⟨hsized, hfits⟩, hclock⟩
    rw [formatExfat_eq hsized hclock]
    exact ⟨rfl, rfl, (laidOut_iff hsized _ _ _).mpr hfits⟩

/-- **Format geometry.** On an image size that `calculate` accepts, the formatter
lays its structures out disjointly inside the data partition, with room for every
FAT entry and every bitmap bit and without losing a value, exactly when the size is
in one of the two ranges whose bitmap fits in one cluster and the clock is below
`2 ^ 32` seconds. -/
theorem formatSound_iff {totalSize : Nat} {layout : PartitionLayout} (hsize : totalSize < 2 ^ 64)
    (haccepted : (PartitionLayout.calculate totalSize).val = .ok layout) (label : String)
    (now : Option Nat) :
    FormatSound totalSize layout label now ↔
      PartitionLayout.BitmapFits totalSize ∧ ∀ secs, now = some secs → secs < 2 ^ 32 := by
  obtain ⟨hmin, rfl⟩ := (PartitionLayout.calculate_eq_ok hsize layout).mp haccepted
  rw [formatSound_of_layout hsize hmin, PartitionLayout.bitmapFits_iff hmin]

/-- A 1GB image is laid out as it should be. -/
theorem formatSound_one_gigabyte :
    FormatSound (1024 * 1024 * 1024) (.ofSize (1024 * 1024 * 1024)) "Ventoy" (some 1750000000) :=
  (formatSound_iff (by decide)
    ((PartitionLayout.calculate_eq_ok (by decide) _).mpr ⟨by decide, rfl⟩) _ _).mpr
    ⟨by decide, fun _ h => by cases h; decide⟩

/-- A 256MB image is accepted, but its bitmap needs more than the 4KB cluster it has. -/
theorem bitmap_overflows_256MB :
    (PartitionLayout.calculate (256 * 1024 * 1024)).val
      = .ok (.ofSize (256 * 1024 * 1024)) ∧
    ¬ FormatSound (256 * 1024 * 1024) (.ofSize (256 * 1024 * 1024)) "Ventoy" none := by
  refine ⟨(PartitionLayout.calculate_eq_ok (by decide) _).mpr ⟨by decide, rfl⟩, fun hsound => ?_⟩
  have hfits := ((formatSound_of_layout (by decide) (by decide) _ _).mp hsound).1
  exact absurd ((PartitionLayout.bitmapFits_iff (by decide)).mpr hfits) (by decide)

end StreamBox.Exfat
