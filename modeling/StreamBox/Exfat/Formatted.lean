import StreamBox.Exfat.BitmapAgreement
import StreamBox.Exfat.TreeWrites

/-!
# The freshly formatted volume

What opening the formatter's image gives: the volume's parameters, and a tree of the
root directory alone.
-/

namespace StreamBox.Exfat

/-! ## Writing segments -/

/-- A range that no segment touches reads as before. -/
theorem slice_writeSegments_of_disjoint (file : Image) {segments : List Segment} {offset len : Nat}
    (h : ∀ s ∈ segments, offset + len ≤ s.offset ∨ s.stop ≤ offset) :
    (writeSegments file segments).slice offset len = file.slice offset len := by
  induction segments generalizing file with
  | nil => rfl
  | cons s rest ih =>
    have hs := h s List.mem_cons_self
    unfold Segment.stop at hs
    show (writeSegments (file.write s.offset s.data) rest).slice offset len = _
    rw [ih _ fun s' hs' => h s' (List.mem_cons_of_mem _ hs'), Image.slice_write_of_disjoint _ hs]

/-- Each of disjoint segments reads back. -/
theorem slice_writeSegments (file : Image) {segments : List Segment}
    (hdisjoint : segments.Pairwise fun s t => s.stop ≤ t.offset ∨ t.stop ≤ s.offset) {s : Segment}
    (hs : s ∈ segments) :
    (writeSegments file segments).slice s.offset s.data.length = s.data := by
  induction segments generalizing file with
  | nil => cases hs
  | cons first rest ih =>
    obtain ⟨hfirst, hrest⟩ := List.pairwise_cons.mp hdisjoint
    show (writeSegments (file.write first.offset first.data) rest).slice _ _ = _
    rcases List.mem_cons.mp hs with rfl | hs
    · rw [slice_writeSegments_of_disjoint _ hfirst, Image.slice_write]
    · exact ih _ hrest hs

theorem size_writeSegments (file : Image) {segments : List Segment}
    (h : ∀ s ∈ segments, s.stop ≤ file.size) : (writeSegments file segments).size = file.size := by
  induction segments generalizing file with
  | nil => rfl
  | cons s rest ih =>
    have hsize : (file.write s.offset s.data).size = file.size :=
      Image.size_write (h s List.mem_cons_self)
    show (writeSegments (file.write s.offset s.data) rest).size = _
    rw [ih _ fun s' hs' => hsize ▸ h s' (List.mem_cons_of_mem _ hs'), hsize]

/-! ## The boot sector -/

/-- Reading behind some bytes. -/
theorem leAt_skip {a b : List UInt8} {o k n : Nat} (h : a.length = o) :
    leAt (a ++ b) (o + k) n = leAt b k n := by
  rw [leAt, leAt, ← List.drop_drop, List.drop_left' h]

/-- Reading the number written at the start. -/
theorem leAt_head (k n : Nat) (b : List UInt8) : leAt (leBytes k n ++ b) 0 k = n % 256 ^ k := by
  rw [leAt, List.drop_zero, List.take_left' (length_leBytes k n), ofLeBytes_leBytes]

/-- The fields of a boot sector that opening a volume reads. -/
theorem ExfatBootSector.fields (sector : ExfatBootSector)
    (hfront : (sector.jumpBoot ++ sector.fsName ++ sector.mustBeZero ++
      leBytes 8 sector.partitionOffset ++ leBytes 8 sector.volumeLength).length = 80) :
    leAt sector.toBytes 80 4 = sector.fatOffset % 256 ^ 4 ∧
      leAt sector.toBytes 84 4 = sector.fatLength % 256 ^ 4 ∧
      leAt sector.toBytes 88 4 = sector.clusterHeapOffset % 256 ^ 4 ∧
      leAt sector.toBytes 92 4 = sector.clusterCount % 256 ^ 4 ∧
      leAt sector.toBytes 96 4 = sector.firstClusterOfRoot % 256 ^ 4 ∧
      leAt sector.toBytes 108 1 = sector.bytesPerSectorShift.toNat ∧
      leAt sector.toBytes 109 1 = sector.sectorsPerClusterShift.toNat := by
  have hsplit : sector.toBytes = (sector.jumpBoot ++ sector.fsName ++ sector.mustBeZero ++
      leBytes 8 sector.partitionOffset ++ leBytes 8 sector.volumeLength) ++
      (leBytes 4 sector.fatOffset ++ (leBytes 4 sector.fatLength ++
        (leBytes 4 sector.clusterHeapOffset ++ (leBytes 4 sector.clusterCount ++
          (leBytes 4 sector.firstClusterOfRoot ++ (leBytes 4 sector.volumeSerialNumber ++
            (leBytes 2 sector.fsRevision ++ (leBytes 2 sector.volumeFlags ++
              ([sector.bytesPerSectorShift, sector.sectorsPerClusterShift, sector.numberOfFats,
                sector.driveSelect, sector.percentInUse] ++ (sector.reserved ++
                  (sector.bootCode ++ leBytes 2 sector.bootSignature))))))))))) := by
    simp only [toBytes, List.append_assoc]
  have hfour : ∀ (n : Nat) (b : List UInt8) (k m : Nat),
      leAt (leBytes 4 n ++ b) (4 + k) m = leAt b k m := fun n b k m =>
    leAt_skip (length_leBytes 4 n)
  have htwo : ∀ (n : Nat) (b : List UInt8) (k m : Nat),
      leAt (leBytes 2 n ++ b) (2 + k) m = leAt b k m := fun n b k m =>
    leAt_skip (length_leBytes 2 n)
  rw [hsplit]
  refine ⟨?_, ?_, ?_, ?_, ?_, ?_, ?_⟩
  · rw [leAt_skip (k := 0) hfront, leAt_head]
  · rw [leAt_skip (k := 4 + 0) hfront, hfour, leAt_head]
  · rw [leAt_skip (k := 4 + (4 + 0)) hfront, hfour, hfour, leAt_head]
  · rw [leAt_skip (k := 4 + (4 + (4 + 0))) hfront, hfour, hfour, hfour, leAt_head]
  · rw [leAt_skip (k := 4 + (4 + (4 + (4 + 0)))) hfront, hfour, hfour, hfour, hfour, leAt_head]
  · rw [leAt_skip (k := 4 + (4 + (4 + (4 + (4 + (4 + (2 + (2 + 0)))))))) hfront, hfour, hfour, hfour,
      hfour, hfour, hfour, htwo, htwo]
    show sector.bytesPerSectorShift.toNat + 256 * 0 = _
    omega
  · rw [leAt_skip (k := 4 + (4 + (4 + (4 + (4 + (4 + (2 + (2 + 1)))))))) hfront, hfour, hfour, hfour,
      hfour, hfour, hfour, htwo, htwo]
    show sector.sectorsPerClusterShift.toNat + 256 * 0 = _
    omega

theorem ExfatBootSector.signature (sector : ExfatBootSector) (hjump : sector.jumpBoot.length = 3)
    (hname : sector.fsName.length = 8) : (sector.toBytes.drop 3).take 8 = sector.fsName := by
  simp only [toBytes, List.append_assoc]
  rw [List.drop_left' hjump, List.take_left' hname]

/-- The parameters of a formatted volume. -/
def Volume.params (base sectors : Nat) : VolumeParams where
  partitionOffset := base
  bytesPerSector := 512
  sectorsPerCluster := sectorsPerCluster sectors
  clusterSize := getClusterSize sectors
  fatOffset := 24
  fatLength := fatLength sectors
  clusterHeapOffset := heapOffset sectors
  clusterCount := clusterCount sectors
  firstClusterOfRoot := rootCluster sectors

/-- The image after formatting. -/
def formattedImage (file : Image) (base sectors serial : Nat) (label : String) : Image :=
  writeSegments file (Volume.segments base sectors serial label)

section

variable {file : Image} {base sectors : Nat} (serial : Nat) (label : String)

theorem formattedImage_size (h : Volume.Sized sectors) (hroom : base + sectors * 512 ≤ file.size) :
    (formattedImage file base sectors serial label).size = file.size :=
  size_writeSegments file fun s hs =>
    Nat.le_trans (Volume.segments_inside h base serial label s hs).2 hroom

/-- Part of a segment reads back. -/
theorem formattedImage_slice (file : Image) (h : Volume.Sized sectors) {s : Segment}
    (hs : s ∈ Volume.segments base sectors serial label) {k len : Nat}
    (hk : k + len ≤ s.data.length) :
    (formattedImage file base sectors serial label).slice (s.offset + k) len
      = (s.data.drop k).take len := by
  rw [Image.slice_inside _ hk]
  exact congrArg (fun data => (data.drop k).take len)
    (slice_writeSegments file (Volume.segments_disjoint h base serial label) hs)

/-- The boot sector reads back. -/
theorem formattedImage_bootSector (file : Image) (h : Volume.Sized sectors) :
    (formattedImage file base sectors serial label).slice base 512
      = (Volume.bootSector sectors serial).toBytes := by
  have hmain : Segment.mk .mainBoot base (Volume.bootData sectors serial)
      ∈ Volume.segments base sectors serial label := List.mem_cons_self
  have hlen : 0 + 512 ≤ (Volume.bootData sectors serial).length := by
    rw [Volume.length_bootData]
    decide
  have hslice := formattedImage_slice serial label file h hmain hlen
  have hboot : (Volume.bootData sectors serial).take 512
      = (Volume.bootSector sectors serial).toBytes := by
    simp only [Volume.bootData, List.flatten_cons, List.append_assoc]
    exact List.take_left' (ExfatBootSector.length_toBytes ..)
  exact hslice.trans hboot

/-- Opening the formatted image. -/
theorem openImage_formatted (h : Volume.Sized sectors) {layout : PartitionLayout}
    (hbase : layout.dataOffset = base) (hroom : base + sectors * 512 ≤ file.size)
    (clock : List Nat) :
    ExfatFs.openImage (formattedImage file base sectors serial label) layout clock
      = .ok { toVolumeParams := Volume.params base sectors
              file := formattedImage file base sectors serial label
              clock := clock } := by
  have hread : (formattedImage file base sectors serial label).read base 512
      = some (Volume.bootSector sectors serial).toBytes := by
    have hsize := formattedImage_size serial label h hroom
    have hlo := h.atLeast
    rw [Image.read, if_pos (by omega), formattedImage_bootSector serial label file h]
  have hlt := h.lt32
  have hbounds := (Volume.fat_bounds h).2.2
  have hup := (Volume.upcaseClusters_mul sectors).2
  have hend := Volume.heap_end sectors h
  have hsize := (Volume.sectorsPerCluster_mul sectors).2
  have hcount : Volume.clusterCount sectors * 4096 ≤
      Volume.clusterCount sectors * getClusterSize sectors := Nat.mul_le_mul_left _ hsize.1
  obtain ⟨hfatOffset, hfatLength, hheap, hclusters, hroot, hsector, hcluster⟩ :=
    ExfatBootSector.fields (Volume.bootSector sectors serial) rfl
  have hfatLength : leAt (Volume.bootSector sectors serial).toBytes 84 4 = Volume.fatLength sectors :=
    hfatLength.trans (Nat.mod_eq_of_lt (by
      show Volume.fatLength sectors < _
      unfold Volume.heapOffset at hbounds
      omega))
  have hheap : leAt (Volume.bootSector sectors serial).toBytes 88 4 = Volume.heapOffset sectors :=
    hheap.trans (Nat.mod_eq_of_lt (by show Volume.heapOffset sectors < _; omega))
  have hclusters : leAt (Volume.bootSector sectors serial).toBytes 92 4
      = Volume.clusterCount sectors :=
    hclusters.trans (Nat.mod_eq_of_lt (by show Volume.clusterCount sectors < _; omega))
  have hroot : leAt (Volume.bootSector sectors serial).toBytes 96 4 = Volume.rootCluster sectors :=
    hroot.trans (Nat.mod_eq_of_lt (by show 3 + Volume.upcaseClusters sectors < _; omega))
  have hshift : wrap32 (2 ^ (leAt (Volume.bootSector sectors serial).toBytes 109 1 % 32))
      = Volume.sectorsPerCluster sectors := by
    rw [hcluster]
    show wrap32 (2 ^ ((UInt8.ofNat (sectorsPerClusterShift (getClusterSize sectors))).toNat % 32)) = _
    unfold Volume.sectorsPerCluster
    obtain ⟨hc, -⟩ | ⟨hc, -⟩ | ⟨hc, -⟩ := Volume.clusterSize_cases sectors <;> rw [hc] <;> rfl
  have hmul : wrap32 (512 * Volume.sectorsPerCluster sectors) = getClusterSize sectors := by
    rw [Nat.mul_comm, (Volume.sectorsPerCluster_mul sectors).1]
    exact wrap32_of_lt (by omega)
  have hname : ((Volume.bootSector sectors serial).toBytes.drop 3).take 8
      = [0x45, 0x58, 0x46, 0x41, 0x54, 0x20, 0x20, 0x20] :=
    ExfatBootSector.signature (Volume.bootSector sectors serial) rfl rfl
  have hnot : ¬ ((Volume.bootSector sectors serial).toBytes.drop 3).take 8
      ≠ [0x45, 0x58, 0x46, 0x41, 0x54, 0x20, 0x20, 0x20] := not_ne_iff.mpr hname
  have hshift9 : wrap32 (2 ^ (leAt (Volume.bootSector sectors serial).toBytes 108 1 % 32)) = 512 := by
    rw [hsector]
    rfl
  simp only [ExfatFs.openImage, hbase, hread, if_neg hnot, hshift9, hshift, hmul, hfatLength, hheap,
    hclusters, hroot, hfatOffset]
  rfl

/-! ## The disk -/

/-- The opened volume, with empty caches. -/
def formattedFs (file : Image) (base sectors serial : Nat) (label : String) (clock : List Nat) :
    ExfatFs where
  toVolumeParams := Volume.params base sectors
  file := formattedImage file base sectors serial label
  clock := clock

/-- The parameters of a formatted volume leave room for its FAT and heap. -/
theorem Volume.params_valid (h : Sized sectors) {size : Nat} (hroom : base + sectors * 512 ≤ size) :
    (params base sectors).Valid size := by
  have hlt := h.lt32
  have hbounds := fat_bounds h
  have hup := (upcaseClusters_mul sectors).2
  have hend := heap_end sectors h
  have hsize := (sectorsPerCluster_mul sectors).2
  have hcount : clusterCount sectors * 4096 ≤ clusterCount sectors * getClusterSize sectors :=
    Nat.mul_le_mul_left _ hsize.1
  refine ⟨?_, ?_, ?_, ?_, ?_, hsize.1, ?_⟩
  · show base + 24 * 512 + (clusterCount sectors + 2) * 4 ≤ base + heapOffset sectors * 512
    unfold heapOffset
    omega
  · show base + heapOffset sectors * 512 + clusterCount sectors * getClusterSize sectors ≤ size
    omega
  · show clusterCount sectors + 2 < 0xFFFFFFF8
    omega
  · show 3 < 3 + upcaseClusters sectors
    omega
  · show 3 + upcaseClusters sectors < clusterCount sectors + 2
    omega
  · show 32 ∣ getClusterSize sectors
    obtain ⟨hc, -⟩ | ⟨hc, -⟩ | ⟨hc, -⟩ := clusterSize_cases sectors <;> rw [hc] <;> decide

theorem formatted_represents (h : Volume.Sized sectors)
    (hroom : base + sectors * 512 ≤ file.size) (clock : List Nat) :
    Represents (Volume.params base sectors)
      (formattedFs file base sectors serial label clock).disk
      (formattedFs file base sectors serial label clock) := by
  refine ⟨rfl, ?_, rfl, fun c entry hget => ?_, Or.inl rfl, ?_⟩
  · refine Volume.params_valid h ?_
    show base + sectors * 512 ≤ (formattedImage file base sectors serial label).size
    rw [formattedImage_size serial label h hroom]
    exact hroom
  · have hnone : (formattedFs file base sectors serial label clock).fatCache.get c = none := by
      simp [formattedFs, FatCache.get, FatCache.contains]
    rw [hnone] at hget
    cases hget
  · intro bitmap hbitmap
    cases hbitmap

/-- The FAT entries the formatter writes. -/
theorem formatted_fat (h : Volume.Sized sectors) (clock : List Nat) {c : Nat}
    (hc : c < Volume.upcaseClusters sectors + 4) :
    (formattedFs file base sectors serial label clock).disk.fat c
      = (formatFat (Volume.upcaseClusters sectors) (Volume.upcaseClusters sectors - 1)).getD c 0
        % 256 ^ 4 := by
  have hcount := (Volume.fat_bounds h).2.2.2
  have hlen := length_formatFat (Volume.upcaseClusters sectors) (Volume.upcaseClusters sectors - 1)
  have hin : c < (Volume.params base sectors).clusterCount + 2 := by
    show c < Volume.clusterCount sectors + 2
    omega
  have hfat : Segment.mk .fat (base + 24 * 512) (Volume.fatData sectors)
      ∈ Volume.segments base sectors serial label :=
    List.mem_cons_of_mem _ (List.mem_cons_of_mem _ List.mem_cons_self)
  have hroom : 4 * c + 4 ≤ (Volume.fatData sectors).length := by
    rw [Volume.length_fatData h]
    have := (Volume.fat_bounds h).1
    omega
  have hslice := formattedImage_slice serial label file h hfat hroom
  have hentry : ((Volume.fatData sectors).drop (4 * c)).take 4
      = leBytes 4 ((formatFat (Volume.upcaseClusters sectors)
          (Volume.upcaseClusters sectors - 1)).getD c 0) := by
    have hflat := length_flatMap_leBytes 4
      (formatFat (Volume.upcaseClusters sectors) (Volume.upcaseClusters sectors - 1))
    rw [Volume.fatData, List.drop_append_of_le_length (by omega),
      List.take_append_of_le_length (by rw [List.length_drop]; omega),
      take_drop_flatMap_leBytes 4 _ (by omega), List.getD_eq_getElem _ _ (by omega)]
  have hdisk : (formattedFs file base sectors serial label clock).disk.fat c
      = ofLeBytes ((formattedImage file base sectors serial label).slice
          (base + 24 * 512 + c * 4) 4) := if_pos hin
  rw [hdisk, Nat.mul_comm c 4, hslice]
  show ofLeBytes (((Volume.fatData sectors).drop (4 * c)).take 4) = _
  rw [hentry, ofLeBytes_leBytes]

/-- The entries of the up-case table. -/
theorem formatFat_upcase {upcase last i : Nat} (hi : i < upcase) :
    (formatFat upcase last).getD (3 + i) 0
      = if i = last then 0xFFFFFFFF else wrap32 (wrap32 (3 + i) + 1) := by
  have hlen := length_formatFat upcase last
  rw [List.getD_eq_getElem _ _ (by omega)]
  unfold formatFat
  rw [List.getElem_append_left (by simp; omega), List.getElem_append_right (by simp)]
  simp

/-- The entry of the root directory. -/
theorem formatFat_root (upcase last : Nat) :
    (formatFat upcase last).getD (3 + upcase) 0 = 0xFFFFFFFF := by
  have hlen := length_formatFat upcase last
  rw [List.getD_eq_getElem _ _ (by omega)]
  unfold formatFat
  rw [List.getElem_append_right (by simp; omega)]
  simp

/-- Consecutive indices linked one to the next are a chain. -/
theorem linked_range' {next : Nat → Nat} {link : Nat → Bool} {start len : Nat}
    (hnext : ∀ i, i + 1 < len → next (start + i) = start + i + 1)
    (hlast : ∀ i, i + 1 = len → link (next (start + i)) = false) :
    Linked next link (List.range' start len) := by
  induction len generalizing start with
  | zero => trivial
  | succ len ih =>
    rw [List.range'_succ]
    cases len with
    | zero => exact hlast 0 rfl
    | succ len =>
      have htail : Linked next link (List.range' (start + 1) (len + 1)) := by
        refine ih (fun i hi => ?_) (fun i hi => ?_)
        · have := hnext (i + 1) (by omega)
          rw [show start + 1 + i = start + (i + 1) by omega]
          exact this
        · have := hlast (i + 1) (by omega)
          rw [show start + 1 + i = start + (i + 1) by omega]
          exact this
      rw [List.range'_succ] at htail ⊢
      exact ⟨hnext 0 (by omega), htail⟩

/-! ## The tree -/

/-- The items of the new root directory: the formatter's three entries, and blank slots. -/
def Volume.rootItems (sectors : Nat) (label : String) : List Item :=
  .slot (createVolumeLabelEntry label) ::
  .slot (createBitmapEntry 2 (bitmapSize (clusterCount sectors))) ::
  .slot (createUpcaseEntry 3 generateUpcaseTable.length
    (calculateUpcaseChecksum generateUpcaseTable)) ::
  blankSlots (getClusterSize sectors - 96)

/-- The clusters of the up-case table. -/
def Volume.upcaseRows (sectors : Nat) (d : Disk) : List (Nat × List UInt8) :=
  (List.range' 3 (upcaseClusters sectors)).map fun c => (c, d.cluster c)

/-- The objects of a new volume: the up-case table and the root directory. -/
def Volume.table (sectors : Nat) (label : String) (d : Disk) : Table :=
  Function.update (Function.update (fun _ => none) 3 (some (.file (upcaseRows sectors d))))
    (rootCluster sectors) (some (.dir [(rootCluster sectors, rootItems sectors label)]))

@[simp] theorem Volume.sets_rootItems (sectors : Nat) (label : String) :
    sets (rootItems sectors label) = [] := sets_blankSlots _

theorem Volume.render_rootItems (sectors : Nat) (label : String) :
    render (rootItems sectors label) = rootData sectors label := by
  have hentries : 32 ∣ getClusterSize sectors - 96 := by
    obtain ⟨hc, -⟩ | ⟨hc, -⟩ | ⟨hc, -⟩ := clusterSize_cases sectors <;> rw [hc] <;> decide
  simp only [rootItems, render_cons, render_blankSlots hentries, Item.bytes, rootData,
    List.append_assoc]

theorem Volume.shaped_root (sectors : Nat) (label : String) :
    Shaped [(rootCluster sectors, rootItems sectors label)] := by
  have hblank := blankSlots_ok (getClusterSize sectors - 96)
  refine ⟨?_, by simp, ?_⟩
  · intro row hrow item hitem
    rw [List.mem_singleton.mp hrow] at hitem
    rcases List.mem_cons.mp hitem with rfl | hitem
    · exact ⟨length_createVolumeLabelEntry label, by show (0x83 : UInt8) ≠ 0x85; decide⟩
    · rcases List.mem_cons.mp hitem with rfl | hitem
      · exact ⟨length_createBitmapEntry .., by show (0x81 : UInt8) ≠ 0x85; decide⟩
      · rcases List.mem_cons.mp hitem with rfl | hitem
        · exact ⟨length_createUpcaseEntry .., by show (0x82 : UInt8) ≠ 0x85; decide⟩
        · exact (hblank item hitem).1
  · intro row hrow
    rw [List.mem_singleton.mp hrow]
    have hend : ∀ (raw : List UInt8) (l : List Item), byteAt raw 0 ≠ entryTypeEnd →
        l.Pairwise (fun a b => a.isEnd = true → b.isEnd = true) →
        (Item.slot raw :: l).Pairwise fun a b => a.isEnd = true → b.isEnd = true := by
      intro raw l hraw hl
      refine List.pairwise_cons.mpr ⟨fun b _ hraw' => ?_, hl⟩
      exact absurd (by simpa [Item.isEnd] using hraw') hraw
    refine hend _ _ (by show (0x83 : UInt8) ≠ 0; decide) (hend _ _ (by show (0x81 : UInt8) ≠ 0; decide)
      (hend _ _ (by show (0x82 : UInt8) ≠ 0; decide) ?_))
    exact List.pairwise_of_forall_mem_list fun a _ b hb _ => (hblank b hb).2

/-- The directories of a new volume. -/
theorem Volume.table_dir {sectors : Nat} {label : String} {d : Disk} {k : Nat} {rows : Rows}
    (h : table sectors label d k = some (.dir rows)) :
    k = rootCluster sectors ∧ rows = [(rootCluster sectors, rootItems sectors label)] := by
  by_cases hk : k = rootCluster sectors
  · subst hk
    rw [table, Function.update_self] at h
    cases h
    exact ⟨rfl, rfl⟩
  · rw [table, Function.update_of_ne hk] at h
    by_cases hk3 : k = 3
    · subst hk3
      rw [Function.update_self] at h
      cases h
    · rw [Function.update_of_ne hk3] at h
      cases h

/-- A new volume is a tree of an empty root directory. -/
theorem Volume.table_wf [Lowercase] (base sectors : Nat) (label : String) (d : Disk) :
    Wf (params base sectors) (table sectors label d) fun _ => [] := by
  have hnone : ∀ k rows, table sectors label d k = some (.dir rows) → rowSets rows = [] := by
    intro k rows h
    obtain ⟨-, rfl⟩ := table_dir h
    simp
  have hup := (upcaseClusters_mul sectors).2.1
  have hroot : 3 ≠ rootCluster sectors := by
    unfold rootCluster
    omega
  refine ⟨⟨_, Function.update_self ..⟩, rfl, ⟨.file (upcaseRows sectors d), ?_⟩, rfl, ?_, ?_, ?_, ?_, ?_⟩
  · rw [table, Function.update_of_ne hroot, Function.update_self]
  · intro k rows h
    obtain ⟨-, rfl⟩ := table_dir h
    exact shaped_root sectors label
  · intro k rows h e he
    rw [hnone k rows h] at he
    cases he
  · intro k rows h
    rw [hnone k rows h]
    exact List.Pairwise.nil
  · intro k k' rows rows' _ h _ e he
    rw [hnone k rows h] at he
    cases he
  · intro k rows h _ e he
    rw [hnone k rows h] at he
    cases he

/-- The root directory's cluster. -/
theorem formatted_root_cluster (h : Volume.Sized sectors)
    (hroom : base + sectors * 512 ≤ file.size) (clock : List Nat) :
    (formattedFs file base sectors serial label clock).disk.cluster (Volume.rootCluster sectors)
      = Volume.rootData sectors label := by
  have hvalid : (Volume.params base sectors).Valid file.size := Volume.params_valid h hroom
  have hrep := formatted_represents serial label h hroom clock
  have hin : (Volume.params base sectors).InHeap (Volume.rootCluster sectors) :=
    ⟨by have := hvalid.rootLo; show 2 ≤ (Volume.params base sectors).firstClusterOfRoot; omega,
      hvalid.rootHi⟩
  have hoffset : (Volume.params base sectors).clusterToOffset (Volume.rootCluster sectors)
      = base + Volume.heapOffset sectors * 512 +
        (1 + Volume.upcaseClusters sectors) * getClusterSize sectors := by
    have hindex : Volume.rootCluster sectors - 2 = 1 + Volume.upcaseClusters sectors := by
      unfold Volume.rootCluster
      omega
    rw [VolumeParams.clusterToOffset_eq hvalid hin, hindex]
    rfl
  have hsegment := slice_writeSegments file (Volume.segments_disjoint h base serial label)
    (s := ⟨.root, base + Volume.heapOffset sectors * 512 +
      (1 + Volume.upcaseClusters sectors) * getClusterSize sectors, Volume.rootData sectors label⟩)
    (by simp [Volume.segments])
  rw [Volume.length_rootData] at hsegment
  rw [← hrep.cluster_eq hin, hoffset]
  exact hsegment

/-- The formatted image holds the objects of a new volume. -/
theorem formatted_holds (h : Volume.Sized sectors) (hroom : base + sectors * 512 ≤ file.size)
    (clock : List Nat) :
    Holds (Volume.params base sectors) (formattedFs file base sectors serial label clock).disk
      (Volume.table sectors label (formattedFs file base sectors serial label clock).disk) := by
  have hup := (Volume.upcaseClusters_mul sectors).2
  have hcount := (Volume.fat_bounds h).2.2.2
  have hvalid : (Volume.params base sectors).Valid file.size := Volume.params_valid h hroom
  generalize hd : (formattedFs file base sectors serial label clock).disk = d
  have hfat : ∀ c, c < Volume.upcaseClusters sectors + 4 → d.fat c
      = (formatFat (Volume.upcaseClusters sectors) (Volume.upcaseClusters sectors - 1)).getD c 0
        % 256 ^ 4 := by
    intro c hc
    rw [← hd]
    exact formatted_fat serial label h clock hc
  have hempty : Holds (Volume.params base sectors) d fun _ => none := by
    refine ⟨?_, ?_, ?_, ?_, ?_, ?_⟩ <;> try (intros; contradiction)
    rw [hfat 2 (by omega)]
    rfl
  -- the chain of the up-case table
  have hupcase : (Obj.file (Volume.upcaseRows sectors d)).chain
      = List.range' 3 (Volume.upcaseClusters sectors) := by
    rw [Obj.chain_file, Volume.upcaseRows, List.map_map]
    exact List.map_id _
  have hwith := hempty.put (k := 3) (o := .file (Volume.upcaseRows sectors d)) ?_ ?_ ?_ ?_ ?_
  · have hrootChain : (Obj.dir [(Volume.rootCluster sectors, Volume.rootItems sectors label)]).chain
        = [Volume.rootCluster sectors] := by
      rw [Obj.chain_dir]
      rfl
    refine hwith.put ?_ ⟨[], hrootChain⟩ ?_ ?_ ?_
    · intro row hrow
      rw [List.mem_singleton.mp hrow]
      show d.cluster (Volume.rootCluster sectors) = render (Volume.rootItems sectors label)
      rw [Volume.render_rootItems, ← hd]
      exact formatted_root_cluster serial label h hroom clock
    · rw [hrootChain]
      refine ⟨?_, ?_, List.pairwise_singleton ..⟩
      · show isLink (d.fat (3 + Volume.upcaseClusters sectors)) = false
        rw [hfat _ (by omega), formatFat_root]
        rfl
      · intro c hc
        rw [List.mem_singleton.mp hc]
        exact ⟨by show 2 ≤ 3 + _; omega, hvalid.rootHi⟩
    · rw [hrootChain]
      intro c hc
      rw [List.mem_singleton.mp hc]
      exact ⟨by show 3 + _ ≠ 2; omega, fun hlt => absurd hlt (Nat.lt_irrefl _)⟩
    · intro k o hk ho c hc
      by_cases hk3 : k = 3
      · subst hk3
        rw [Function.update_self] at ho
        cases ho
        rw [hupcase, List.mem_range'_1] at hc
        rw [hrootChain, List.mem_singleton]
        show c ≠ 3 + Volume.upcaseClusters sectors
        omega
      · rw [Function.update_of_ne hk3] at ho
        cases ho
  · intro row hrow
    obtain ⟨c, -, rfl⟩ := List.mem_map.mp hrow
    rfl
  · rw [hupcase]
    obtain ⟨n, hn⟩ : ∃ n, Volume.upcaseClusters sectors = n + 1 :=
      ⟨Volume.upcaseClusters sectors - 1, by omega⟩
    exact ⟨_, by rw [hn, List.range'_succ]⟩
  · rw [hupcase]
    refine ⟨linked_range' (fun i hi => ?_) (fun i hi => ?_), ?_, List.nodup_range'⟩
    · rw [hfat _ (by omega), formatFat_upcase (by omega), if_neg (by omega), wrap32, wrap32]
      omega
    · rw [hfat _ (by omega), formatFat_upcase (by omega), if_pos (by omega)]
      rfl
    · intro c hc
      rw [List.mem_range'_1] at hc
      exact ⟨by omega, by show c < Volume.clusterCount sectors + 2; omega⟩
  · rw [hupcase]
    intro c hc
    rw [List.mem_range'_1] at hc
    refine ⟨by omega, fun hroot => ?_⟩
    have : 3 + Volume.upcaseClusters sectors < c := hroot
    omega
  · intro k o _ ho
    cases ho

/-- The formatted image stores the objects of a new volume. -/
theorem formatted_stores (h : Volume.Sized sectors) (hroom : base + sectors * 512 ≤ file.size)
    (clock : List Nat) :
    Stores (Volume.params base sectors)
      (Volume.table sectors label (formattedFs file base sectors serial label clock).disk)
      (formattedFs file base sectors serial label clock) :=
  ⟨_, formatted_represents serial label h hroom clock, formatted_holds serial label h hroom clock⟩

end

/-- Only the low 32 bits of the clock reach the formatter. -/
theorem formatExfat_congr (base size : Nat) (label : String) {now now' : Option Nat}
    (h : (volumeSerial now).val = (volumeSerial now').val) :
    (formatExfat base size label now).val = (formatExfat base size label now').val := by
  obtain ⟨rest, hrest⟩ : ∃ rest : Nat → Checked (ExfatBootSector × List Segment),
      ∀ now, formatExfat base size label now = volumeSerial now >>= rest := ⟨_, fun _ => rfl⟩
  rw [hrest, hrest, Checked.val_bind, Checked.val_bind, h]

/-- Whatever the clock, the formatter writes the exact segments. -/
theorem formatExfat_val {sectors : Nat} (h : Volume.Sized sectors) (base : Nat) (label : String)
    (now : Option Nat) :
    (formatExfat base (sectors * 512) label now).val
      = (Volume.bootSector sectors (volumeSerial now).val,
          Volume.segments base sectors (volumeSerial now).val label) := by
  obtain ⟨serial, hserial⟩ : ∃ serial, (volumeSerial now).val = serial := ⟨_, rfl⟩
  have hlt : serial < 2 ^ 32 := by
    rw [← hserial]
    cases now with
    | none => exact (by decide : 0x12345678 < 2 ^ 32)
    | some secs => exact Nat.mod_lt _ (by decide)
  have hclock : (volumeSerial now).val = (volumeSerial (some serial)).val := by
    rw [hserial]
    exact (Nat.mod_eq_of_lt hlt).symm
  have hsome : Volume.serial (some serial) = serial := rfl
  have hexact := formatExfat_eq h (fun secs hsecs => Option.some.inj hsecs ▸ hlt) base label
  rw [formatExfat_congr _ _ _ hclock, hserial, hexact, hsome, Checked.val_pure]

/-- Opening an image just formatted, of an accepted size below `2 ^ 32` sectors. -/
theorem opened_formatted {totalSize : Nat} {layout : PartitionLayout} {label : String}
    {now : Option Nat} {boot : ExfatBootSector} {segments : List Segment} {file : Image}
    {clock : List Nat} {fs : ExfatFs} (hsize : totalSize < 2 ^ 64)
    (haccepted : (PartitionLayout.calculate totalSize).val = .ok layout)
    (hsectors : layout.dataSizeSectors < 2 ^ 32)
    (hformat : (formatExfat layout.dataOffset layout.dataSize label now).val = (boot, segments))
    (hfile : file.size = totalSize)
    (hopen : ExfatFs.openImage (writeSegments file segments) layout clock = .ok fs) :
    Volume.Sized layout.dataSizeSectors ∧
      layout.dataOffset + layout.dataSizeSectors * 512 ≤ file.size ∧
      fs = formattedFs file layout.dataOffset layout.dataSizeSectors (volumeSerial now).val label
        clock := by
  obtain ⟨hmin, rfl⟩ := (PartitionLayout.calculate_eq_ok hsize layout).mp haccepted
  obtain ⟨hlo, -, hhi, -⟩ := PartitionLayout.dataSizeSectors_ofSize hmin
  have hsized : Volume.Sized (PartitionLayout.ofSize totalSize).dataSizeSectors := ⟨hlo, hsectors⟩
  have hoffset : (PartitionLayout.ofSize totalSize).dataOffset = 2048 * 512 := rfl
  have hroom : (PartitionLayout.ofSize totalSize).dataOffset +
      (PartitionLayout.ofSize totalSize).dataSizeSectors * 512 ≤ file.size := by
    rw [hfile, hoffset]
    omega
  have hdata : (PartitionLayout.ofSize totalSize).dataSize
      = (PartitionLayout.ofSize totalSize).dataSizeSectors * 512 := rfl
  rw [hdata, formatExfat_val hsized] at hformat
  cases hformat
  have hopened := openImage_formatted (volumeSerial now).val label hsized rfl hroom clock
  rw [formattedImage, hopen] at hopened
  exact ⟨hsized, hroom, Except.ok.inj hopened⟩

/-- The formatter's image opens as a new volume. -/
theorem openImage_formatExfat {totalSize : Nat} (hmin : minImageSize ≤ totalSize)
    (h : Volume.Sized (PartitionLayout.ofSize totalSize).dataSizeSectors) {file : Image}
    (hfile : file.size = totalSize) (label : String) (now : Option Nat) (clock : List Nat) :
    (PartitionLayout.ofSize totalSize).dataOffset +
        (PartitionLayout.ofSize totalSize).dataSizeSectors * 512 ≤ file.size ∧
      ExfatFs.openImage (writeSegments file
          (formatExfat (PartitionLayout.ofSize totalSize).dataOffset
            (PartitionLayout.ofSize totalSize).dataSize label now).val.2)
          (.ofSize totalSize) clock
        = .ok (formattedFs file (PartitionLayout.ofSize totalSize).dataOffset
            (PartitionLayout.ofSize totalSize).dataSizeSectors (volumeSerial now).val label clock) := by
  obtain ⟨-, -, hhi, -⟩ := PartitionLayout.dataSizeSectors_ofSize hmin
  have hoffset : (PartitionLayout.ofSize totalSize).dataOffset = 2048 * 512 := rfl
  have hroom : (PartitionLayout.ofSize totalSize).dataOffset +
      (PartitionLayout.ofSize totalSize).dataSizeSectors * 512 ≤ file.size := by
    rw [hfile, hoffset]
    omega
  have hdata : (PartitionLayout.ofSize totalSize).dataSize
      = (PartitionLayout.ofSize totalSize).dataSizeSectors * 512 := rfl
  rw [hdata, formatExfat_val h]
  exact ⟨hroom, openImage_formatted (volumeSerial now).val label h rfl hroom clock⟩

end StreamBox.Exfat
