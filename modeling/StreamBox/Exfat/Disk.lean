import StreamBox.Exfat.Volume
import Mathlib.Logic.Function.Basic

/-!
# The volume as FAT entries and clusters

What the operations below the directory level do, read on the two arrays the
volume consists of: the FAT and the cluster contents.

* **Disk** — the FAT entry of every cluster number and the bytes of every cluster.
* **Represents** — an open filesystem stores a disk: the parameters leave the two
  regions room, and the caches agree with the file.
* **Operations** — each operation succeeds inside the volume, and its effect is
  the update of one entry or one cluster.
-/

namespace StreamBox.Exfat

theorem wrappingSub32_of_le {a b : Nat} (ha : a < 2 ^ 32) (h : b ≤ a) :
    wrappingSub32 a b = a - b := by
  rw [wrappingSub32, Checked.sub_eq_pure ha h, Checked.val_pure]

theorem wrap32_of_lt {n : Nat} (h : n < 2 ^ 32) : wrap32 n = n := Nat.mod_eq_of_lt h

theorem wrap32_le (n : Nat) : wrap32 n ≤ n := Nat.mod_le n _

/-- The FAT entries and the cluster contents of a volume. -/
@[ext]
structure Disk where
  fat : Nat → Nat
  cluster : Nat → List UInt8

namespace Disk

/-- Set one FAT entry. -/
def setFat (d : Disk) (c value : Nat) : Disk := { d with fat := Function.update d.fat c value }

/-- Set the contents of one cluster. -/
def setCluster (d : Disk) (c : Nat) (data : List UInt8) : Disk :=
  { d with cluster := Function.update d.cluster c data }

@[simp] theorem cluster_setFat (d : Disk) (c v : Nat) : (d.setFat c v).cluster = d.cluster := rfl

@[simp] theorem fat_setCluster (d : Disk) (c : Nat) (data : List UInt8) :
    (d.setCluster c data).fat = d.fat := rfl

@[simp] theorem fat_setFat_self (d : Disk) (c v : Nat) : (d.setFat c v).fat c = v := by
  simp [setFat]

theorem fat_setFat_of_ne (d : Disk) {c c' : Nat} (v : Nat) (h : c' ≠ c) :
    (d.setFat c v).fat c' = d.fat c' := by
  simp [setFat, h]

@[simp] theorem cluster_setCluster_self (d : Disk) (c : Nat) (data : List UInt8) :
    (d.setCluster c data).cluster c = data := by
  simp [setCluster]

theorem cluster_setCluster_of_ne (d : Disk) {c c' : Nat} (data : List UInt8) (h : c' ≠ c) :
    (d.setCluster c data).cluster c' = d.cluster c' := by
  simp [setCluster, h]

end Disk

namespace VolumeParams

/-- First byte of the FAT. -/
def fatStart (g : VolumeParams) : Nat := g.partitionOffset + g.fatOffset * g.bytesPerSector

/-- First byte of the cluster heap. -/
def heapStart (g : VolumeParams) : Nat := g.partitionOffset + g.clusterHeapOffset * g.bytesPerSector

/-- A cluster number of the heap. -/
def InHeap (g : VolumeParams) (c : Nat) : Prop := 2 ≤ c ∧ c < g.clusterCount + 2

/-- Parameters that leave room for the FAT and the heap in a file of this size. -/
structure Valid (g : VolumeParams) (size : Nat) : Prop where
  fatRoom : g.fatStart + (g.clusterCount + 2) * 4 ≤ g.heapStart
  heapRoom : g.heapStart + g.clusterCount * g.clusterSize ≤ size
  countLt : g.clusterCount + 2 < 0xFFFFFFF8
  rootLo : 3 < g.firstClusterOfRoot
  rootHi : g.firstClusterOfRoot < g.clusterCount + 2
  sizeLo : 4096 ≤ g.clusterSize
  sizeEntries : 32 ∣ g.clusterSize

/-- Where a cluster of the heap starts. -/
theorem clusterToOffset_eq {g : VolumeParams} {size c : Nat} (h : g.Valid size) (hc : g.InHeap c) :
    g.clusterToOffset c = g.heapStart + (c - 2) * g.clusterSize := by
  have hcount := h.countLt
  have hlt : c < 2 ^ 32 := by
    obtain ⟨-, hc⟩ := hc
    omega
  rw [clusterToOffset, wrappingSub32_of_le hlt hc.1, heapStart]

/-- A cluster lies inside the heap. -/
theorem cluster_end {g : VolumeParams} {size c : Nat} (h : g.Valid size) (hc : g.InHeap c) :
    g.clusterToOffset c + g.clusterSize ≤ g.heapStart + g.clusterCount * g.clusterSize := by
  obtain ⟨hlo, hhi⟩ := hc
  rw [clusterToOffset_eq h ⟨hlo, hhi⟩]
  have hmul : (c - 2 + 1) * g.clusterSize ≤ g.clusterCount * g.clusterSize :=
    Nat.mul_le_mul_right _ (by omega)
  rw [Nat.add_mul, Nat.one_mul] at hmul
  omega

/-- Different clusters have disjoint ranges. -/
theorem cluster_disjoint {g : VolumeParams} {size c c' : Nat} (h : g.Valid size) (hc : g.InHeap c)
    (hc' : g.InHeap c') (hne : c ≠ c') :
    g.clusterToOffset c + g.clusterSize ≤ g.clusterToOffset c' ∨
      g.clusterToOffset c' + g.clusterSize ≤ g.clusterToOffset c := by
  rw [clusterToOffset_eq h hc, clusterToOffset_eq h hc']
  obtain ⟨hlo, -⟩ := hc
  obtain ⟨hlo', -⟩ := hc'
  have hstep : ∀ a b : Nat, a < b → a * g.clusterSize + g.clusterSize ≤ b * g.clusterSize := by
    intro a b hab
    have := Nat.mul_le_mul_right g.clusterSize (Nat.succ_le_of_lt hab)
    rw [Nat.succ_mul] at this
    exact this
  rcases Nat.lt_or_gt_of_ne hne with hlt | hgt
  · have := hstep (c - 2) (c' - 2) (by omega)
    omega
  · have := hstep (c' - 2) (c - 2) (by omega)
    omega

/-- FAT entries lie before the heap. -/
theorem fatEntry_end {g : VolumeParams} {size c : Nat} (h : g.Valid size)
    (hc : c < g.clusterCount + 2) : g.fatEntryOffset c + 4 ≤ g.heapStart := by
  have := h.fatRoom
  simp only [fatEntryOffset, fatStart] at *
  omega

end VolumeParams

/-! ## The disk of a filesystem -/

/-- The disk stored in the file, blank outside the volume. -/
def ExfatFs.disk (fs : ExfatFs) : Disk where
  fat c :=
    if c < fs.clusterCount + 2 then ofLeBytes (fs.file.slice (fs.fatEntryOffset c) 4) else 0
  cluster c :=
    if 2 ≤ c ∧ c < fs.clusterCount + 2 then fs.file.slice (fs.clusterToOffset c) fs.clusterSize
    else []

/-- The filesystem stores the disk `d` under the parameters `g`. -/
structure Represents (g : VolumeParams) (d : Disk) (fs : ExfatFs) : Prop where
  params : fs.toVolumeParams = g
  valid : g.Valid fs.file.size
  disk : fs.disk = d
  fatCached : ∀ c entry, fs.fatCache.get c = some entry → entry = d.fat c
  cacheEnd : fs.fatCache.entries = [] ∨
    fs.fatCache.startCluster + fs.fatCache.entries.length ≤ g.clusterCount + 2
  bitmapCached : ∀ bitmap, fs.bitmapCache = some bitmap → bitmap = d.cluster 2

namespace Represents

variable {g : VolumeParams} {d : Disk} {fs : ExfatFs}

/-- The stored bytes of a FAT entry. -/
theorem fat_eq (h : Represents g d fs) {c : Nat} (hc : c < g.clusterCount + 2) :
    ofLeBytes (fs.file.slice (g.fatEntryOffset c) 4) = d.fat c := by
  have hparams := h.params
  subst hparams
  rw [← h.disk]
  simp only [ExfatFs.disk, if_pos hc]

/-- The stored bytes of a cluster. -/
theorem cluster_eq (h : Represents g d fs) {c : Nat} (hc : g.InHeap c) :
    fs.file.slice (g.clusterToOffset c) g.clusterSize = d.cluster c := by
  have hparams := h.params
  subst hparams
  rw [← h.disk]
  unfold VolumeParams.InHeap at hc
  simp only [ExfatFs.disk, if_pos hc]

/-- A cluster holds `cluster_size` bytes. -/
theorem length_cluster (h : Represents g d fs) {c : Nat} (hc : g.InHeap c) :
    (d.cluster c).length = g.clusterSize := by
  rw [← h.cluster_eq hc, Image.length_slice]

theorem bitmap_inHeap (h : Represents g d fs) : g.InHeap 2 := by
  have hlo := h.valid.rootLo
  have hhi := h.valid.rootHi
  unfold VolumeParams.InHeap
  omega

/-- The clock plays no part in what is stored. -/
theorem of_clock (h : Represents g d fs) (clock : List Nat) :
    Represents g d { fs with clock := clock } :=
  ⟨h.params, h.valid, h.disk, h.fatCached, h.cacheEnd, h.bitmapCached⟩

end Represents

/-! ## Reading and writing clusters -/

variable {g : VolumeParams} {d : Disk} {fs : ExfatFs}

theorem readAt_eq {offset len : Nat} (h : offset + len ≤ fs.file.size) :
    (readAt offset len).run fs = .ok (fs.file.slice offset len) fs := by
  simp only [readAt, run_get_bind, Image.read, if_pos h, run_pure]

/-- Reading a cluster of the heap gives its contents and changes nothing. -/
theorem readCluster_eq (h : Represents g d fs) {c : Nat} (hc : g.InHeap c) :
    (readCluster c).run fs = .ok (d.cluster c) fs := by
  have hparams := h.params
  subst hparams
  have hend := VolumeParams.cluster_end h.valid hc
  have hroom := h.valid.heapRoom
  simp only [readCluster, run_get_bind]
  rw [readAt_eq (by omega), h.cluster_eq hc]

/-- Pad with zeros to a whole cluster. -/
def VolumeParams.pad (g : VolumeParams) (data : List UInt8) : List UInt8 :=
  data ++ List.replicate (g.clusterSize - data.length) 0

theorem VolumeParams.length_pad {data : List UInt8} (h : data.length ≤ g.clusterSize) :
    (g.pad data).length = g.clusterSize := by
  simp only [pad, List.length_append, List.length_replicate]
  omega

theorem VolumeParams.pad_of_full {data : List UInt8} (h : data.length = g.clusterSize) :
    g.pad data = data := by
  simp [pad, h]

/-- The two writes of `write_cluster` are one write of the padded data. -/
theorem writeCluster_eq (fs : ExfatFs) (c : Nat) {data : List UInt8}
    (h : data.length ≤ fs.clusterSize) :
    (writeCluster c data).run fs
      = .ok () { fs with file := fs.file.write (fs.clusterToOffset c) (fs.pad data) } := by
  simp only [writeCluster, run_get_bind, gt_iff_lt, if_neg (Nat.not_lt.mpr h), writeAt,
    run_modify_bind]
  by_cases hlt : data.length < fs.clusterSize
  · rw [if_pos hlt, run_modify, Image.write_append]
    rfl
  · have hfull : data.length = fs.clusterSize := by omega
    rw [if_neg hlt, run_pure, VolumeParams.pad_of_full hfull]

/-- Writing the range of one cluster changes that cluster, and no other and no FAT entry. -/
theorem disk_write_cluster (h : Represents g d fs) {c : Nat} (hc : g.InHeap c) {data : List UInt8}
    (hlen : data.length = g.clusterSize) (cache : FatCache) (bitmap : Option (List UInt8)) :
    ExfatFs.disk { fs with
      file := fs.file.write (g.clusterToOffset c) data
      fatCache := cache
      bitmapCache := bitmap } = d.setCluster c data := by
  have hparams := h.params
  subst hparams
  refine Disk.ext (funext fun x => ?_) (funext fun x => ?_)
  · simp only [ExfatFs.disk, Disk.fat_setCluster]
    by_cases hx : x < fs.clusterCount + 2
    · have hfat := VolumeParams.fatEntry_end h.valid hx
      have hstart := VolumeParams.clusterToOffset_eq h.valid hc
      rw [if_pos hx, Image.slice_write_of_disjoint _ (by omega), h.fat_eq hx]
    · rw [if_neg hx, ← h.disk]
      simp only [ExfatFs.disk, if_neg hx]
  · by_cases hx : 2 ≤ x ∧ x < fs.clusterCount + 2
    · by_cases hxc : x = c
      · subst hxc
        rw [Disk.cluster_setCluster_self]
        simp only [ExfatFs.disk]
        rw [if_pos hx, ← hlen, Image.slice_write]
      · rw [Disk.cluster_setCluster_of_ne _ _ hxc, ← h.cluster_eq hx]
        simp only [ExfatFs.disk]
        have hdisjoint := VolumeParams.cluster_disjoint h.valid hx hc hxc
        rw [if_pos hx, Image.slice_write_of_disjoint _ (by omega)]
    · have hxc : x ≠ c := by
        rintro rfl
        exact hx hc
      rw [Disk.cluster_setCluster_of_ne _ _ hxc, ← h.disk]
      simp only [ExfatFs.disk, if_neg hx]

/-- Writing one cluster keeps the filesystem consistent, if the bitmap cache follows a
write of the bitmap's own cluster. -/
theorem Represents.write_cluster (h : Represents g d fs) {c : Nat} (hc : g.InHeap c)
    {data : List UInt8} (hlen : data.length = g.clusterSize) {bitmap : Option (List UInt8)}
    (hbitmap : ∀ b, bitmap = some b → b = (d.setCluster c data).cluster 2) :
    Represents g (d.setCluster c data)
      { fs with file := fs.file.write (g.clusterToOffset c) data, bitmapCache := bitmap } := by
  have hend := VolumeParams.cluster_end h.valid hc
  have hroom := h.valid.heapRoom
  have hsize : (fs.file.write (g.clusterToOffset c) data).size = fs.file.size :=
    Image.size_write (by omega)
  refine ⟨h.params, ?_, disk_write_cluster h hc hlen _ _, h.fatCached, h.cacheEnd, hbitmap⟩
  show g.Valid (fs.file.write (g.clusterToOffset c) data).size
  rw [hsize]
  exact h.valid

/-- `write_cluster` outside the bitmap sets one cluster. -/
theorem writeCluster_returns (h : Represents g d fs) {c : Nat} (hc : g.InHeap c) (hne : c ≠ 2)
    {data : List UInt8} (hlen : data.length ≤ g.clusterSize) :
    Returns (writeCluster c data) fs fun _ fs' =>
      Represents g (d.setCluster c (g.pad data)) fs' := by
  have hparams := h.params
  subst hparams
  refine Returns.of_eq (writeCluster_eq fs c hlen) ?_
  refine h.write_cluster hc (VolumeParams.length_pad hlen) fun b hb => ?_
  rw [Disk.cluster_setCluster_of_ne _ _ (Ne.symm hne)]
  exact h.bitmapCached b hb

/-! ## The bitmap -/

/-- Reading the bitmap gives cluster 2. -/
theorem readBitmap_eq (h : Represents g d fs) :
    readBitmap.run fs = .ok (d.cluster 2) { fs with bitmapCache := some (d.cluster 2) } := by
  simp only [readBitmap, run_get_bind]
  cases hcache : fs.bitmapCache with
  | some bitmap =>
    have hb := h.bitmapCached bitmap hcache
    subst hb
    simp only [run_pure, ← hcache]
  | none =>
    simp only [bind_of_ok (readCluster_eq h h.bitmap_inHeap), run_modify_bind, run_pure]

theorem Represents.cache_bitmap (h : Represents g d fs) :
    Represents g d { fs with bitmapCache := some (d.cluster 2) } :=
  ⟨h.params, h.valid, h.disk, h.fatCached, h.cacheEnd, fun b hb => by cases hb; rfl⟩

/-- Changing the cached bitmap and flushing it changes cluster 2. -/
theorem updateBitmap_returns (h : Represents g d fs) {f : List UInt8 → List UInt8}
    (hf : ∀ bitmap, (f bitmap).length = bitmap.length) :
    Returns (modifyBitmap f >>= fun _ => flushBitmapNow) fs fun _ fs' =>
      Represents g (d.setCluster 2 (f (d.cluster 2))) fs' := by
  have hlen : (f (d.cluster 2)).length = g.clusterSize := by
    rw [hf, h.length_cluster h.bitmap_inHeap]
  have hparams := h.params
  have hmodify : (modifyBitmap f).run fs
      = .ok () { fs with bitmapCache := some (f (d.cluster 2)) } := by
    simp only [modifyBitmap, bind_of_ok (readBitmap_eq h), run_modify]
  subst hparams
  have hwrite : (writeCluster 2 (f (d.cluster 2))).run { fs with bitmapCache := none }
      = .ok () { fs with
          file := fs.file.write (fs.clusterToOffset 2) (f (d.cluster 2))
          bitmapCache := none } := by
    rw [writeCluster_eq { fs with bitmapCache := none } 2 (Nat.le_of_eq hlen)]
    simp only [VolumeParams.pad_of_full hlen]
  refine Returns.of_eq (a := ()) (t := { fs with
      file := fs.file.write (fs.clusterToOffset 2) (f (d.cluster 2))
      bitmapCache := some (f (d.cluster 2)) }) ?_ ?_
  · simp only [bind_of_ok hmodify, flushBitmapNow, run_get_bind, run_modify_bind,
      bind_of_ok hwrite, run_modify]
  · refine h.write_cluster h.bitmap_inHeap hlen fun b hb => ?_
    cases hb
    rw [Disk.cluster_setCluster_self]

/-! ## FAT entries -/

/-- A cluster that is found in the cache is one of its segment. -/
theorem FatCache.get_eq_some {cache : FatCache} {c entry : Nat} (h : cache.get c = some entry) :
    cache.startCluster ≤ c ∧ c < cache.startCluster + cache.entries.length ∧
      cache.entries.getD (c - cache.startCluster) 0 = entry := by
  rw [FatCache.get] at h
  split at h
  · rename_i hcontains
    simp only [FatCache.contains, Bool.and_eq_true, decide_eq_true_eq] at hcontains
    obtain ⟨⟨-, hlo⟩, hhi⟩ := hcontains
    have hsum := wrap32_le (cache.startCluster + wrap32 cache.entries.length)
    have hlen := wrap32_le cache.entries.length
    exact ⟨hlo, by omega, Option.some.inj h⟩
  · cases h

/-- A cluster of a segment that stays inside the FAT is found in the cache. -/
theorem FatCache.contains_iff (cache : FatCache) (top : Nat) {c : Nat} (htop : top < 2 ^ 32)
    (hend : cache.startCluster + cache.entries.length ≤ top) :
    cache.contains c = true ↔
      cache.startCluster ≤ c ∧ c < cache.startCluster + cache.entries.length := by
  have hwrap : wrap32 (cache.startCluster + wrap32 cache.entries.length)
      = cache.startCluster + cache.entries.length := by
    rw [wrap32_of_lt (by omega : cache.entries.length < 2 ^ 32), wrap32_of_lt (by omega)]
  simp only [FatCache.contains, hwrap, Bool.and_eq_true, Bool.not_eq_true',
    List.isEmpty_eq_false_iff, decide_eq_true_eq]
  constructor
  · rintro ⟨⟨-, hlo⟩, hhi⟩
    exact ⟨hlo, hhi⟩
  · rintro ⟨hlo, hhi⟩
    refine ⟨⟨?_, hlo⟩, hhi⟩
    intro hnil
    simp only [hnil, List.length_nil] at hhi
    omega

/-- No cluster behind such a segment is found in the cache. -/
theorem FatCache.get_beyond {cache : FatCache} {top c : Nat}
    (hend : cache.entries = [] ∨ cache.startCluster + cache.entries.length ≤ top) (hc : top ≤ c) :
    cache.get c = none := by
  cases hget : cache.get c with
  | none => rfl
  | some entry =>
    obtain ⟨hlo, hhi, -⟩ := FatCache.get_eq_some hget
    rcases hend with hnil | hend
    · simp only [hnil, List.length_nil] at hhi
      omega
    · omega

/-- The segment loaded on a miss: the entries from `c` on. -/
def segmentAt (g : VolumeParams) (d : Disk) (c : Nat) : FatCache where
  startCluster := c
  entries := (List.range (min fatCacheEntries (g.clusterCount + 2 - c))).map fun k => d.fat (c + k)

/-- A load does not depend on what the cache held. -/
theorem loadFatSegment_eq (h : Represents g d fs) {c : Nat} (hc : c < g.clusterCount + 2)
    (cache : FatCache) : (loadFatSegment c).run { fs with fatCache := cache }
      = .ok () { fs with fatCache := segmentAt g d c } := by
  have hparams := h.params
  subst hparams
  have hcount := h.valid.countLt
  have hfat := h.valid.fatRoom
  have hheap := h.valid.heapRoom
  have hmax : wrap32 (fs.clusterCount + 2) = fs.clusterCount + 2 := wrap32_of_lt (by omega)
  have hleft : wrappingSub32 (fs.clusterCount + 2) c = fs.clusterCount + 2 - c :=
    wrappingSub32_of_le (by omega) (by omega)
  generalize hn : min fatCacheEntries (fs.clusterCount + 2 - c) = n
  have hpos : n ≠ 0 := by
    have : 0 < fatCacheEntries := by decide
    omega
  have hle : n ≤ fs.clusterCount + 2 - c := by omega
  have hread : (readAt (fs.fatEntryOffset c) (n * 4)).run { fs with fatCache := cache }
      = .ok (fs.file.slice (fs.fatEntryOffset c) (n * 4)) { fs with fatCache := cache } := by
    refine readAt_eq ?_
    simp only [VolumeParams.fatEntryOffset, VolumeParams.fatStart] at *
    omega
  have hentries : (List.range n).map (fun k =>
      leAt (fs.file.slice (fs.fatEntryOffset c) (n * 4)) (k * 4) 4)
      = (List.range n).map fun k => d.fat (c + k) := by
    refine List.map_congr_left fun k hk => ?_
    have hk := List.mem_range.mp hk
    have hoffset : fs.fatEntryOffset (c + k) = fs.fatEntryOffset c + k * 4 := by
      simp only [VolumeParams.fatEntryOffset]
      omega
    rw [leAt, ← Image.slice_inside _ (by omega : k * 4 + 4 ≤ n * 4), ← hoffset,
      h.fat_eq (by omega)]
  simp only [loadFatSegment, run_get_bind, hmax, hleft, hn, if_neg hpos, bind_of_ok hread,
    run_modify, hentries, segmentAt]

/-- The loaded segment agrees with the FAT. -/
theorem Represents.cache_segment (h : Represents g d fs) {c : Nat} (hc : c < g.clusterCount + 2) :
    Represents g d { fs with fatCache := segmentAt g d c } := by
  have hend : (segmentAt g d c).startCluster + (segmentAt g d c).entries.length
      ≤ g.clusterCount + 2 := by
    simp only [segmentAt, List.length_map, List.length_range]
    omega
  have hcount := h.valid.countLt
  refine ⟨h.params, h.valid, h.disk, fun c' entry hget => ?_, Or.inr hend, h.bitmapCached⟩
  obtain ⟨hlo, hhi, hentry⟩ := FatCache.get_eq_some hget
  simp only [segmentAt, List.length_map, List.length_range] at hlo hhi hentry
  rw [← hentry, List.getD_eq_getElem _ _ (by simp; omega), List.getElem_map, List.getElem_range]
  congr 1
  omega

/-- Reading a FAT entry gives it, from the cache or the file. -/
theorem readFatEntry_returns (h : Represents g d fs) {c : Nat} (hc : c < g.clusterCount + 2) :
    Returns (readFatEntry c) fs fun entry fs' => entry = d.fat c ∧ Represents g d fs' := by
  cases hget : fs.fatCache.get c with
  | some entry =>
    refine Returns.of_eq (a := entry) (t := fs) ?_ ⟨h.fatCached c entry hget, h⟩
    simp only [readFatEntry, run_get_bind, hget, run_pure]
  | none =>
    have hrep := h.cache_segment hc
    have hcount := h.valid.countLt
    have hlen : 0 < (segmentAt g d c).entries.length := by
      simp only [segmentAt, List.length_map, List.length_range]
      have : 0 < fatCacheEntries := by decide
      omega
    have hcontains : (segmentAt g d c).contains c = true := by
      refine (FatCache.contains_iff _ (g.clusterCount + 2) (by omega) ?_).mpr ⟨Nat.le_refl _, ?_⟩
      · exact (hrep.cacheEnd.resolve_left (List.ne_nil_of_length_pos hlen))
      · show c < c + _
        omega
    have hentry : (segmentAt g d c).get c = some (d.fat c) := by
      have hfirst : (segmentAt g d c).get c = some ((segmentAt g d c).entries.getD (c - c) 0) := by
        rw [FatCache.get, if_pos hcontains]
        rfl
      rw [hfirst]
      exact congrArg some (hrep.fatCached c _ hfirst)
    refine Returns.of_eq (a := d.fat c) (t := { fs with fatCache := segmentAt g d c }) ?_
      ⟨rfl, hrep⟩
    simp only [readFatEntry, run_get_bind, hget, bind_of_ok (loadFatSegment_eq h hc fs.fatCache), hentry,
      run_pure]

/-- Writing the bytes of one FAT entry changes that entry, and no other and no cluster. -/
theorem disk_write_fat (h : Represents g d fs) {c : Nat} (hc : c < g.clusterCount + 2)
    {value : Nat} (hvalue : value < 2 ^ 32) (cache : FatCache) :
    ExfatFs.disk { fs with
      file := fs.file.write (g.fatEntryOffset c) (leBytes 4 value)
      fatCache := cache } = d.setFat c value := by
  have hparams := h.params
  subst hparams
  have hc4 := VolumeParams.fatEntry_end h.valid hc
  refine Disk.ext (funext fun x => ?_) (funext fun x => ?_)
  · by_cases hx : x < fs.clusterCount + 2
    · simp only [ExfatFs.disk, if_pos hx]
      by_cases hxc : x = c
      · subst hxc
        have hslice := Image.slice_write fs.file (fs.fatEntryOffset x) (leBytes 4 value)
        rw [length_leBytes] at hslice
        rw [hslice, ofLeBytes_leBytes_of_lt hvalue, Disk.fat_setFat_self]
      · have hdisjoint : fs.fatEntryOffset x + 4 ≤ fs.fatEntryOffset c ∨
            fs.fatEntryOffset c + (leBytes 4 value).length ≤ fs.fatEntryOffset x := by
          simp only [VolumeParams.fatEntryOffset, length_leBytes]
          omega
        rw [Image.slice_write_of_disjoint _ hdisjoint, h.fat_eq hx, Disk.fat_setFat_of_ne _ _ hxc]
    · have hxc : x ≠ c := by
        rintro rfl
        exact hx hc
      rw [Disk.fat_setFat_of_ne _ _ hxc, ← h.disk]
      simp only [ExfatFs.disk, if_neg hx]
  · simp only [Disk.cluster_setFat]
    by_cases hx : 2 ≤ x ∧ x < fs.clusterCount + 2
    · have hstart := VolumeParams.clusterToOffset_eq h.valid (show fs.InHeap x from hx)
      have hdisjoint : fs.clusterToOffset x + fs.clusterSize ≤ fs.fatEntryOffset c ∨
          fs.fatEntryOffset c + (leBytes 4 value).length ≤ fs.clusterToOffset x := by
        rw [length_leBytes]
        omega
      rw [← h.cluster_eq hx]
      simp only [ExfatFs.disk, if_pos hx]
      rw [Image.slice_write_of_disjoint _ hdisjoint]
    · rw [← h.disk]
      simp only [ExfatFs.disk, if_neg hx]

/-- An updated segment agrees with the updated FAT. -/
theorem FatCache.get_update {cache : FatCache} (top : Nat) {c value c' entry : Nat} (htop : top < 2 ^ 32)
    (hend : cache.entries = [] ∨ cache.startCluster + cache.entries.length ≤ top)
    (h : (cache.update c value).get c' = some entry) :
    (c' = c ∧ entry = value) ∨ (c' ≠ c ∧ cache.get c' = some entry) := by
  unfold FatCache.update at h
  split at h
  · rename_i hcontains
    have hne : cache.entries ≠ [] := by
      intro hnil
      simp [FatCache.contains, hnil] at hcontains
    have hle := hend.resolve_left hne
    have hin := (FatCache.contains_iff cache top htop hle).mp hcontains
    obtain ⟨hlo, hhi, hentry⟩ := FatCache.get_eq_some h
    simp only [List.length_set] at hlo hhi hentry
    by_cases hcc : c' = c
    · subst hcc
      left
      refine ⟨rfl, ?_⟩
      rw [← hentry, List.getD_eq_getElem _ _ (by simp; omega), List.getElem_set_self]
    · right
      refine ⟨hcc, ?_⟩
      have hcontains' : cache.contains c' = true := (FatCache.contains_iff cache top htop hle).mpr ⟨hlo, hhi⟩
      rw [FatCache.get, if_pos hcontains', ← hentry,
        List.getD_eq_getElem _ _ (by omega), List.getD_eq_getElem _ _ (by rw [List.length_set]; omega),
        List.getElem_set_ne (by omega)]
  · rename_i hcontains
    right
    refine ⟨?_, h⟩
    rintro rfl
    rw [FatCache.get, if_neg hcontains] at h
    cases h

/-- Writing a FAT entry sets it, in the file and in the cache. -/
theorem writeFatEntry_returns (h : Represents g d fs) {c : Nat} (hc : c < g.clusterCount + 2)
    (value : Nat) (hvalue : value < 2 ^ 32) :
    Returns (writeFatEntry c value) fs fun _ fs' => Represents g (d.setFat c value) fs' := by
  have hparams := h.params
  subst hparams
  have hcount := h.valid.countLt
  have hfat := VolumeParams.fatEntry_end h.valid hc
  have hheap := h.valid.heapRoom
  refine Returns.of_eq (a := ()) (t := { fs with
      file := fs.file.write (fs.fatEntryOffset c) (leBytes 4 value)
      fatCache := fs.fatCache.update c value }) ?_ ?_
  · simp only [writeFatEntry, run_get_bind, writeAt, run_modify_bind, run_modify]
  · refine ⟨rfl, ?_, disk_write_fat h hc hvalue _, fun c' entry hget => ?_, ?_, ?_⟩
    · show fs.Valid (fs.file.write _ _).size
      rw [Image.size_write (by rw [length_leBytes]; omega)]
      exact h.valid
    · rcases FatCache.get_update (fs.clusterCount + 2) (by omega) h.cacheEnd hget with
        ⟨rfl, rfl⟩ | ⟨hne, hold⟩
      · rw [Disk.fat_setFat_self]
      · rw [Disk.fat_setFat_of_ne _ _ hne]
        exact h.fatCached c' entry hold
    · show (fs.fatCache.update c value).entries = [] ∨ _
      have hend := h.cacheEnd
      unfold FatCache.update
      split
      · simpa using hend
      · exact hend
    · rw [Disk.cluster_setFat]
      exact h.bitmapCached

end StreamBox.Exfat
