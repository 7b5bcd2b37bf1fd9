import StreamBox.Config.Schema
import StreamBox.Exfat.Creations
import StreamBox.Lib.Decimal
import StreamBox.Lib.ImageWrites
import StreamBox.Lib.Trimming

/-!
# Ventoy images

The file around the volume: boot code, partition table, signature and EFI partition.

* **Created** — every region of a created image holds what belongs there, none has been written
  over by another one, and the image opens (`create_writes`).
* **Partition table** — it locates the partitions exactly up to 32-bit sector numbers
  (`table_locates_iff`).
* **Failures** — a size that is refused leaves the file, missing resources replace it by zeros
  (`create_fails`).
-/

namespace StreamBox.Exfat

open StreamBox.Lib
open StreamBox.Config (isWhitespace)

/-! ## Sizes -/

/-- `str::to_uppercase`, which maps ASCII characters one by one. -/
class Uppercase where
  toUppercase : List Char → List Char
  ascii : ∀ text, (∀ c ∈ text, c.toNat < 128) → toUppercase text = text.map Char.toUpper

export Uppercase (toUppercase)

/-- A number and the unit behind it. -/
def splitUnit (s : List Char) : List Char × Nat :=
  match s.getLast? with
  | some 'G' => (s.dropLast, 1024 * 1024 * 1024)
  | some 'M' => (s.dropLast, 1024 * 1024)
  | some 'K' => (s.dropLast, 1024)
  | _ => (s, 1)

/-- Parse size string like "8G", "1024M" into bytes; the product wraps. -/
def parseSize [Uppercase] (s : List Char) : Except VentoyError Nat :=
  let s := toUppercase (trimEnds isWhitespace s)
  let (numStr, multiplier) := splitUnit s
  match parseU64 numStr with
  | .error _ => .error (.sizeParseError (String.ofList s))
  | .ok num => .ok (num * multiplier % 2 ^ 64)

/-! ## Resources -/

/-- Ventoy signature (16 bytes at MBR offset 0x190). -/
def ventoySignature : List UInt8 :=
  [0x56, 0x54, 0x00, 0x47, 0x65, 0x00, 0x48, 0x44, 0x00, 0x52, 0x64, 0x00, 0x20, 0x45, 0x72, 0x0D]

/-- Ventoy signature offset in MBR. -/
def ventoySigOffset : Nat := 0x190

/-- Cached resources loaded from disk. -/
structure ResourceCache where
  bootImg : List UInt8
  coreImg : List UInt8
  ventoyDiskImg : List UInt8
  boot_size : bootImg.length = 512

/-- A resource file that exists, and what reading it gives. -/
def readResource (display : String → String) (name : String) :
    Except String (List UInt8) → Except VentoyError (List UInt8)
  | .error reason => .error (.resourceNotFound s!"Failed to read {display name}: {reason}")
  | .ok data => .ok data

def missingResource (display : String → String) (name : String) : VentoyError :=
  .resourceNotFound s!"{name} not found at {display name}"

/-- Initialize resources from a directory, whose files are displayed as `display` says and of which
some may not exist; once they are loaded, nothing is loaded again. -/
def initResources (cache : Option ResourceCache) (display : String → String)
    (boot core disk : Option (Except String (List UInt8))) : Except VentoyError ResourceCache :=
  match cache with
  | some cache => .ok cache
  | none =>
    match boot, core, disk with
    | none, _, _ => .error (missingResource display "boot.img")
    | _, none, _ => .error (missingResource display "core.img")
    | _, _, none => .error (missingResource display "ventoy.disk.img")
    | some boot, some core, some disk => do
      let bootImg ← readResource display "boot.img" boot
      let coreImg ← readResource display "core.img" core
      let ventoyDiskImg ← readResource display "ventoy.disk.img" disk
      if h : bootImg.length = 512 then .ok ⟨bootImg, coreImg, ventoyDiskImg, h⟩
      else
        .error (.resourceNotFound
          s!"boot.img has invalid size: {bootImg.length} bytes (expected 512)")

/-! ## The partition table -/

/-- MBR partition type: NTFS/exFAT. -/
def mbrTypeExfat : UInt8 := 0x07

/-- MBR partition type: EFI System. -/
def mbrTypeEfi : UInt8 := 0xEF

/-- MBR partition entry (16 bytes). -/
structure MbrPartitionEntry where
  bootIndicator : UInt8
  startChs : List UInt8
  partitionType : UInt8
  endChs : List UInt8
  startLba : Nat
  sizeSectors : Nat
  deriving DecidableEq, Repr

namespace MbrPartitionEntry

/-- `as u32` cuts the two sector numbers off. -/
def new (bootable : Bool) (partitionType : UInt8) (startLba sizeSectors : Nat) :
    MbrPartitionEntry where
  bootIndicator := if bootable then 0x80 else 0x00
  startChs := [0xFE, 0xFF, 0xFF]
  partitionType := partitionType
  endChs := [0xFE, 0xFF, 0xFF]
  startLba := wrap32 startLba
  sizeSectors := wrap32 sizeSectors

def toBytes (entry : MbrPartitionEntry) : List UInt8 :=
  [entry.bootIndicator] ++ entry.startChs ++ [entry.partitionType] ++ entry.endChs ++
    leBytes 4 entry.startLba ++ leBytes 4 entry.sizeSectors

/-- What a firmware reads from the bytes of an entry. -/
def ofBytes (bytes : List UInt8) : MbrPartitionEntry where
  bootIndicator := bytes.getD 0 0
  startChs := (bytes.drop 1).take 3
  partitionType := bytes.getD 4 0
  endChs := (bytes.drop 5).take 3
  startLba := leAt bytes 8 4
  sizeSectors := leAt bytes 12 4

end MbrPartitionEntry

/-! ## The image -/

/-- What the library finds outside itself: the file at the image's path, and the clock. -/
structure Host where
  file : Option Image
  clock : List Nat

/-- Operations on the image file. -/
abbrev VentoyM := EStateM VentoyError Host

/-- `?` -/
def orFail {α : Type} : Except VentoyError α → VentoyM α
  | .ok a => pure a
  | .error e => throw e

/-- Seek and `write_all` on the file that is open. -/
def writeImage (offset : Nat) (data : List UInt8) : VentoyM Unit :=
  modify fun host => { host with file := host.file.map fun file => file.write offset data }

/-- Write MBR partition table to image. -/
def writeMbrPartitionTable (layout : PartitionLayout) : VentoyM Unit := do
  let part1 := MbrPartitionEntry.new true mbrTypeExfat layout.dataStartSector layout.dataSizeSectors
  let part2 := MbrPartitionEntry.new false mbrTypeEfi layout.efiStartSector layout.efiSizeSectors
  writeImage 446 part1.toBytes
  writeImage 462 part2.toBytes
  writeImage 478 (List.replicate 32 0)
  writeImage 510 [0x55, 0xAA]

/-- EFI partition offset in bytes. -/
def PartitionLayout.efiOffset (layout : PartitionLayout) : Nat := layout.efiStartSector * sectorSize

/-- Ventoy image builder and manager. -/
structure VentoyImage where
  layout : PartitionLayout
  deriving DecidableEq, Repr

namespace VentoyImage

/-- `get_boot_img` and its siblings. -/
def getResources : Option ResourceCache → Except VentoyError ResourceCache
  | some cache => .ok cache
  | none => .error (.resourceNotFound "Resources not initialized. Call init_resources() first.")

/-- Write boot code (boot.img + core.img). -/
def writeBootCode (resources : Option ResourceCache) : VentoyM Unit := do
  let cache ← orFail (getResources resources)
  writeImage 0 (cache.bootImg.take 440)
  let writeSize := min cache.coreImg.length (2047 * sectorSize)
  writeImage sectorSize (cache.coreImg.take writeSize)

/-- Write Ventoy signature. -/
def writeVentoySignature : VentoyM Unit := writeImage ventoySigOffset ventoySignature

/-- Write EFI partition content. -/
def writeEfiPartition (resources : Option ResourceCache) (layout : PartitionLayout) :
    VentoyM Unit := do
  let cache ← orFail (getResources resources)
  let writeSize := min cache.ventoyDiskImg.length (layout.efiSizeSectors * sectorSize)
  writeImage layout.efiOffset (cache.ventoyDiskImg.take writeSize)

/-- Format data partition as exFAT; the serial number is taken from the clock. -/
def formatData (layout : PartitionLayout) (label : String) : VentoyM Unit := do
  let host ← get
  let segments := (formatExfat layout.dataOffset layout.dataSize label host.clock.head?).val.2
  set { file := host.file.map fun file => writeSegments file segments,
        clock := host.clock.tail : Host }

/-- Create a new Ventoy IMG file. -/
def create [Uppercase] (resources : Option ResourceCache) (sizeStr : List Char) (label : String) :
    VentoyM VentoyImage := do
  let size ← orFail (parseSize sizeStr)
  let layout ← orFail (PartitionLayout.calculate size).val
  modify fun host => { host with file := some { size := size, byte := fun _ => 0 } }
  writeBootCode resources
  writeMbrPartitionTable layout
  writeVentoySignature
  writeEfiPartition resources layout
  formatData layout label
  pure { layout := layout }

/-- Open an existing Ventoy IMG file. -/
def «open» (path : String) : VentoyM VentoyImage := do
  let host ← get
  match host.file with
  | none => throw (.io "No such file or directory (os error 2)")
  | some file =>
    match file.read ventoySigOffset 16 with
    | none => throw (.io "failed to fill whole buffer")
    | some sig =>
      if sig ≠ ventoySignature then throw (.imageError s!"Invalid Ventoy signature in {path}")
      else do
        let layout ← orFail (PartitionLayout.calculate file.size).val
        pure { layout := layout }

end VentoyImage

/-! ## Created images -/

/-- The writes of `write_mbr_partition_table`. -/
def tableWrites (layout : PartitionLayout) : List (Nat × List UInt8) :=
  [(446, (MbrPartitionEntry.new true mbrTypeExfat layout.dataStartSector
      layout.dataSizeSectors).toBytes),
    (462, (MbrPartitionEntry.new false mbrTypeEfi layout.efiStartSector
      layout.efiSizeSectors).toBytes),
    (478, List.replicate 32 0), (510, [0x55, 0xAA])]

/-- The writes of `create` in front of the data partition and into the EFI partition. -/
def bootWrites (cache : ResourceCache) (layout : PartitionLayout) : List (Nat × List UInt8) :=
  [(0, cache.bootImg.take 440),
    (sectorSize, cache.coreImg.take (min cache.coreImg.length (2047 * sectorSize)))] ++
  tableWrites layout ++
  [(ventoySigOffset, ventoySignature),
    (layout.efiOffset,
      cache.ventoyDiskImg.take
        (min cache.ventoyDiskImg.length (layout.efiSizeSectors * sectorSize)))]

/-- The file before its data partition is formatted. -/
def unformatted (cache : ResourceCache) (size : Nat) : Image :=
  Image.writeRow { size := size, byte := fun _ => 0 } (bootWrites cache (.ofSize size))

/-- A created image. -/
def createdImage (cache : ResourceCache) (size : Nat) (label : String) (now : Option Nat) : Image :=
  writeSegments (unformatted cache size)
    (formatExfat (PartitionLayout.ofSize size).dataOffset (PartitionLayout.ofSize size).dataSize
      label now).val.2

/-- A size from the least one on is accepted. -/
theorem PartitionLayout.calculate_of_le {size : Nat} (hlt : size < 2 ^ 64)
    (hmin : minImageSize ≤ size) : (calculate size).val = .ok (ofSize size) :=
  (calculate_eq_ok hlt _).mpr ⟨hmin, rfl⟩

section

variable [Uppercase] {sizeStr : List Char} {size : Nat} {cache : ResourceCache} {label : String}
  {host : Host}

theorem parseSize_lt (h : parseSize sizeStr = .ok size) : size < 2 ^ 64 := by
  unfold parseSize at h
  dsimp only at h
  split at h
  · cases h
  · rw [← Except.ok.inj h]
    exact Nat.mod_lt _ (by decide)

/-- What `create` does from an accepted size on. -/
theorem create_eq (hsize : parseSize sizeStr = .ok size) (hmin : minImageSize ≤ size) :
    (VentoyImage.create (some cache) sizeStr label).run host
      = .ok ⟨.ofSize size⟩
          { file := some (createdImage cache size label host.clock.head?)
            clock := host.clock.tail } := by
  have hlayout := PartitionLayout.calculate_of_le (parseSize_lt hsize) hmin
  unfold VentoyImage.create
  rw [hsize]
  show ((orFail (PartitionLayout.calculate size).val) >>= _ : VentoyM VentoyImage).run host = _
  rw [hlayout]
  rfl

end

section

variable {size : Nat} (cache : ResourceCache) (label : String)

/-- Where the partitions of an image of an accepted size lie. -/
theorem PartitionLayout.ofSize_bounds (hmin : minImageSize ≤ size) :
    (ofSize size).dataOffset = 1048576 ∧ (ofSize size).efiStartSector
      = 2048 + (ofSize size).dataSizeSectors ∧
      (ofSize size).efiOffset = 1048576 + (ofSize size).dataSizeSectors * 512 ∧
      (ofSize size).efiOffset + 33554432 ≤ size := by
  simp only [minImageSize] at hmin
  refine ⟨show 2048 * 512 = 1048576 from rfl, ?_⟩
  simp only [efiOffset, ofSize, sectorSize, dataPartStartSector, efiPartSizeSectors]
  omega

@[simp] theorem MbrPartitionEntry.length_toBytes (bootable : Bool) (partitionType : UInt8)
    (startLba sizeSectors : Nat) : (new bootable partitionType startLba sizeSectors).toBytes.length
      = 16 := by
  simp [toBytes, new]

/-- The regions of an image hold what belongs there. -/
structure Regions (cache : ResourceCache) (layout : PartitionLayout) (file : Image) : Prop where
  bootCode : file.slice 0 400 = cache.bootImg.take 400
  signature : file.slice ventoySigOffset 16 = ventoySignature
  bootRest : file.slice 416 24 = (cache.bootImg.drop 416).take 24
  data : file.slice 446 16 = (MbrPartitionEntry.new true mbrTypeExfat layout.dataStartSector
    layout.dataSizeSectors).toBytes
  system : file.slice 462 16 = (MbrPartitionEntry.new false mbrTypeEfi layout.efiStartSector
    layout.efiSizeSectors).toBytes
  unused : file.slice 478 32 = List.replicate 32 0
  mark : file.slice 510 2 = [0x55, 0xAA]
  core : file.slice sectorSize (min cache.coreImg.length (2047 * sectorSize))
    = cache.coreImg.take (min cache.coreImg.length (2047 * sectorSize))
  efi : file.slice layout.efiOffset
      (min cache.ventoyDiskImg.length (layout.efiSizeSectors * sectorSize))
    = cache.ventoyDiskImg.take (min cache.ventoyDiskImg.length (layout.efiSizeSectors * sectorSize))

/-- A created image is the file before the formatting with the segments of a new volume. -/
theorem createdImage_eq (h : Volume.Sized (PartitionLayout.ofSize size).dataSizeSectors)
    (now : Option Nat) :
    createdImage cache size label now = writeSegments (unformatted cache size)
      (Volume.segments (PartitionLayout.ofSize size).dataOffset
        (PartitionLayout.ofSize size).dataSizeSectors (volumeSerial now).val label) := by
  have hdata : (PartitionLayout.ofSize size).dataSize
      = (PartitionLayout.ofSize size).dataSizeSectors * 512 := rfl
  rw [createdImage, hdata, formatExfat_val h]

/-- Part of a write of `create` that no later one reaches. -/
theorem createdImage_slice (hmin : minImageSize ≤ size)
    (h : Volume.Sized (PartitionLayout.ofSize size).dataSizeSectors) (now : Option Nat)
    (n k len : Nat) {offset : Nat} {data : List UInt8}
    (hn : (bootWrites cache (.ofSize size))[n]? = some (offset, data)) (hk : k + len ≤ data.length)
    (hafter : ∀ w ∈ (bootWrites cache (.ofSize size)).drop (n + 1), Image.Misses (offset + k) len w)
    (houtside : offset + k + len ≤ 1048576 ∨ (PartitionLayout.ofSize size).efiOffset ≤ offset + k) :
    (createdImage cache size label now).slice (offset + k) len = (data.drop k).take len := by
  obtain ⟨hoffset, -, hefi, -⟩ := PartitionLayout.ofSize_bounds hmin
  rw [createdImage_eq cache label h, slice_writeSegments_of_disjoint]
  · exact Image.slice_writeRow _ hn hk hafter
  · intro s hs
    obtain ⟨hlo, hhi⟩ := Volume.segments_inside h _ _ _ s hs
    omega

/-- **Regions.** Nothing that is written to a created image is written over, but for the bytes of
the boot code where the signature lies. -/
theorem createdImage_regions (hmin : minImageSize ≤ size)
    (h : Volume.Sized (PartitionLayout.ofSize size).dataSizeSectors) (now : Option Nat) :
    Regions cache (.ofSize size) (createdImage cache size label now) := by
  obtain ⟨-, -, hefi, -⟩ := PartitionLayout.ofSize_bounds hmin
  have hboot := cache.boot_size
  have hlo := h.atLeast
  -- the boot code is cut in two by the signature, which is written behind it
  have hcode : ∀ k len, k + len ≤ 440 → k + len ≤ 400 ∨ 416 ≤ k →
      (createdImage cache size label now).slice (0 + k) len
        = ((cache.bootImg.take 440).drop k).take len := by
    intro k len hend hclear
    refine createdImage_slice cache label hmin h now 0 k len rfl (by simp; omega) ?_ (by omega)
    simp [bootWrites, tableWrites, Image.Misses, sectorSize, ventoySigOffset, ventoySignature, hefi]
    omega
  have hwhole : ∀ n offset data, (bootWrites cache (.ofSize size))[n]? = some (offset, data) →
      offset + data.length ≤ 1048576 ∨ (PartitionLayout.ofSize size).efiOffset ≤ offset →
      (∀ w ∈ (bootWrites cache (.ofSize size)).drop (n + 1), Image.Misses offset data.length w) →
      (createdImage cache size label now).slice offset data.length = data := by
    intro n offset data hn houtside hafter
    have hslice := createdImage_slice cache label hmin h now n 0 data.length hn (by omega)
      hafter (by omega)
    rw [List.drop_zero, List.take_length] at hslice
    exact hslice
  constructor
  · have hfirst := hcode 0 400 (by omega) (by omega)
    rw [List.drop_zero, List.take_take] at hfirst
    exact hfirst
  · refine hwhole 6 ventoySigOffset ventoySignature rfl (Or.inl (by decide)) ?_
    simp [bootWrites, tableWrites, Image.Misses, ventoySigOffset, ventoySignature, hefi]
    omega
  · have hrest := hcode 416 24 (by omega) (by omega)
    rw [List.drop_take, List.take_take] at hrest
    exact hrest
  · refine hwhole 2 446 (MbrPartitionEntry.toBytes _) rfl (by simp) ?_
    simp [bootWrites, tableWrites, Image.Misses, ventoySigOffset, ventoySignature, hefi]
    omega
  · refine hwhole 3 462 (MbrPartitionEntry.toBytes _) rfl (by simp) ?_
    simp [bootWrites, tableWrites, Image.Misses, ventoySigOffset, ventoySignature, hefi]
    omega
  · refine hwhole 4 478 (List.replicate 32 0) rfl (by simp) ?_
    simp [bootWrites, tableWrites, Image.Misses, ventoySigOffset, ventoySignature, hefi]
    omega
  · refine hwhole 5 510 [0x55, 0xAA] rfl (by simp) ?_
    simp [bootWrites, tableWrites, Image.Misses, ventoySigOffset, ventoySignature, hefi]
    omega
  · have hcore := hwhole 1 sectorSize _ rfl (by simp [sectorSize]; omega) (by
      simp [bootWrites, tableWrites, Image.Misses, sectorSize, ventoySigOffset, ventoySignature, hefi]
      omega)
    rw [List.length_take, Nat.min_eq_left (Nat.min_le_left _ _)] at hcore
    exact hcore
  · have hsystem := hwhole 7 (PartitionLayout.ofSize size).efiOffset _ rfl (Or.inr (Nat.le_refl _))
      fun w hw => absurd hw List.not_mem_nil
    rw [List.length_take, Nat.min_eq_left (Nat.min_le_left _ _)] at hsystem
    exact hsystem

/-- A created image is as long as it was to be. -/
theorem createdImage_size (hmin : minImageSize ≤ size)
    (h : Volume.Sized (PartitionLayout.ofSize size).dataSizeSectors) (now : Option Nat) :
    (unformatted cache size).size = size ∧ (createdImage cache size label now).size = size := by
  obtain ⟨hoffset, -, hefi, hend⟩ := PartitionLayout.ofSize_bounds hmin
  have hsystem : (PartitionLayout.ofSize size).efiSizeSectors * 512 = 33554432 :=
    show 65536 * 512 = 33554432 from rfl
  have hsize : (unformatted cache size).size = size := by
    refine Image.size_writeRow ?_
    simp only [bootWrites, tableWrites, List.cons_append, List.nil_append, List.mem_cons,
      List.not_mem_nil, or_false, forall_eq_or_imp, forall_eq, List.length_take,
      MbrPartitionEntry.length_toBytes, List.length_replicate, sectorSize, hsystem,
      ventoySigOffset, ventoySignature, List.length_cons, List.length_nil]
    omega
  refine ⟨hsize, ?_⟩
  rw [createdImage_eq cache label h]
  refine (size_writeSegments _ fun s hs => ?_).trans hsize
  have hinside := (Volume.segments_inside h _ _ _ s hs).2
  omega

/-- Opening the volume of a created image. -/
theorem createdImage_opens (hmin : minImageSize ≤ size)
    (h : Volume.Sized (PartitionLayout.ofSize size).dataSizeSectors) (now : Option Nat)
    (clock : List Nat) :
    ExfatFs.openImage (createdImage cache size label now) (.ofSize size) clock
      = .ok (formattedFs (unformatted cache size) (PartitionLayout.ofSize size).dataOffset
          (PartitionLayout.ofSize size).dataSizeSectors (volumeSerial now).val label clock) :=
  (openImage_formatExfat hmin h (createdImage_size cache label hmin h now).1 label now clock).2

/-- An image opens when it has the signature and its size is accepted. -/
theorem VentoyImage.open_eq {file : Image} (hlt : file.size < 2 ^ 64)
    (hmin : minImageSize ≤ file.size) (hsig : file.slice ventoySigOffset 16 = ventoySignature)
    (path : String) (clock : List Nat) :
    (VentoyImage.open path).run { file := some file, clock := clock }
      = .ok ⟨.ofSize file.size⟩ { file := some file, clock := clock } := by
  have hlayout := PartitionLayout.calculate_of_le hlt hmin
  have hread : file.read ventoySigOffset 16 = some ventoySignature := by
    rw [Image.read, if_pos (Nat.le_trans (by decide) hmin), hsig]
  unfold VentoyImage.open
  rw [run_get_bind]
  dsimp only
  rw [hread]
  dsimp only
  rw [if_neg (not_not_intro rfl), hlayout]
  rfl

end

section

variable [Uppercase] {sizeStr : List Char} {size : Nat} {cache : ResourceCache} {label : String}
  {host : Host}

/-- A size is refused before the file at the path is touched. -/
theorem create_refused {resources : Option ResourceCache} {e : VentoyError}
    (h : parseSize sizeStr = .error e ∨ ∃ size, parseSize sizeStr = .ok size ∧
      size < minImageSize ∧ e = .invalidSize s!"{size / (1024 * 1024)}MB (minimum 64MB)") :
    (VentoyImage.create resources sizeStr label).run host = .error e host := by
  unfold VentoyImage.create
  rcases h with hparse | ⟨size, hsize, hsmall, rfl⟩
  · rw [hparse]
    rfl
  · have hlayout := PartitionLayout.calculate_eq (parseSize_lt hsize)
    rw [if_pos hsmall] at hlayout
    rw [hsize]
    show ((orFail (PartitionLayout.calculate size).val) >>= _ : VentoyM VentoyImage).run host = _
    rw [hlayout]
    rfl

/-- Without resources the file is replaced before they are missed. -/
theorem create_without_resources (hsize : parseSize sizeStr = .ok size)
    (hmin : minImageSize ≤ size) :
    (VentoyImage.create none sizeStr label).run host
      = .error (.resourceNotFound "Resources not initialized. Call init_resources() first.")
          { host with file := some { size := size, byte := fun _ => 0 } } := by
  have hlayout := PartitionLayout.calculate_of_le (parseSize_lt hsize) hmin
  unfold VentoyImage.create
  rw [hsize]
  show ((orFail (PartitionLayout.calculate size).val) >>= _ : VentoyM VentoyImage).run host = _
  rw [hlayout]
  rfl

end

/-! ## What the table says -/

namespace MbrPartitionEntry

/-- The entry of a partition, whose sector numbers are not cut off. -/
def locating (bootable : Bool) (partitionType : UInt8) (startLba sizeSectors : Nat) :
    MbrPartitionEntry :=
  { new bootable partitionType startLba sizeSectors with
    startLba := startLba, sizeSectors := sizeSectors }

/-- An entry is read as it was made. -/
theorem ofBytes_toBytes (bootable : Bool) (partitionType : UInt8) (startLba sizeSectors : Nat) :
    ofBytes (new bootable partitionType startLba sizeSectors).toBytes
      = new bootable partitionType startLba sizeSectors := by
  have hsplit : (new bootable partitionType startLba sizeSectors).toBytes
      = [if bootable then 0x80 else 0x00, 0xFE, 0xFF, 0xFF, partitionType, 0xFE, 0xFF, 0xFF] ++
        (leBytes 4 (wrap32 startLba) ++ (leBytes 4 (wrap32 sizeSectors) ++ [])) := by
    simp [toBytes, new]
  have hfront : [if bootable then 0x80 else 0x00, 0xFE, 0xFF, 0xFF, partitionType, 0xFE, 0xFF,
      0xFF].length = 8 := rfl
  have hstart : leAt (new bootable partitionType startLba sizeSectors).toBytes 8 4
      = wrap32 startLba := by
    rw [hsplit, leAt_skip (k := 0) hfront, leAt_head]
    exact Nat.mod_mod _ _
  have hsize : leAt (new bootable partitionType startLba sizeSectors).toBytes 12 4
      = wrap32 sizeSectors := by
    rw [hsplit, leAt_skip (k := 4 + 0) hfront, leAt_skip (length_leBytes 4 _), leAt_head]
    exact Nat.mod_mod _ _
  unfold ofBytes
  rw [hstart, hsize, hsplit]
  rfl

theorem new_eq_locating_iff {bootable : Bool} {partitionType : UInt8} {startLba sizeSectors : Nat} :
    new bootable partitionType startLba sizeSectors
        = locating bootable partitionType startLba sizeSectors ↔
      startLba < 2 ^ 32 ∧ sizeSectors < 2 ^ 32 := by
  simp only [new, locating, mk.injEq, true_and, wrap32, Nat.mod_eq_iff_lt (by decide : 2 ^ 32 ≠ 0)]

end MbrPartitionEntry

/-- What a firmware finds in the partition table: the partitions of the layout, and no other one. -/
structure TableLocates (layout : PartitionLayout) (file : Image) : Prop where
  data : MbrPartitionEntry.ofBytes (file.slice 446 16)
    = .locating true mbrTypeExfat layout.dataStartSector layout.dataSizeSectors
  system : MbrPartitionEntry.ofBytes (file.slice 462 16)
    = .locating false mbrTypeEfi layout.efiStartSector layout.efiSizeSectors
  unused : file.slice 478 32 = List.replicate 32 0
  mark : file.slice 510 2 = [0x55, 0xAA]

/-- **Partition table.** The table of an accepted size locates the partitions of its layout exactly
if the EFI partition starts at a 32-bit sector number, and nothing in front of it is written. -/
theorem table_locates_iff {totalSize : Nat} {layout : PartitionLayout} (hsize : totalSize < 2 ^ 64)
    (haccepted : (PartitionLayout.calculate totalSize).val = .ok layout) (file : Image)
    (clock : List Nat) :
    ∃ file', (writeMbrPartitionTable layout).run { file := some file, clock := clock }
        = .ok () { file := some file', clock := clock } ∧
      (TableLocates layout file' ↔ layout.efiStartSector < 2 ^ 32) ∧
      ∀ p < 446, file'.byte p = file.byte p := by
  obtain ⟨hmin, rfl⟩ := (PartitionLayout.calculate_eq_ok hsize layout).mp haccepted
  obtain ⟨-, hstart, -, -⟩ := PartitionLayout.ofSize_bounds hmin
  generalize hlayout : PartitionLayout.ofSize totalSize = layout at hstart
  have hfixed : layout.dataStartSector = 2048 ∧ layout.efiSizeSectors = 65536 := by
    rw [← hlayout]
    exact ⟨rfl, rfl⟩
  have hslice : ∀ (n : Nat) {offset : Nat} {data : List UInt8},
      (tableWrites layout)[n]? = some (offset, data) →
      (∀ w ∈ (tableWrites layout).drop (n + 1), Image.Misses offset data.length w) →
      (file.writeRow (tableWrites layout)).slice offset data.length = data := by
    intro n offset data hn hafter
    have hwhole := file.slice_writeRow (k := 0) hn (by omega) hafter
    rw [List.drop_zero, List.take_length] at hwhole
    exact hwhole
  have hdata := hslice 0 rfl (by simp [tableWrites, Image.Misses])
  have hsystem := hslice 1 rfl (by simp [tableWrites, Image.Misses])
  have hunused := hslice 2 rfl (by simp [tableWrites, Image.Misses])
  have hmark := hslice 3 rfl (by simp [tableWrites, Image.Misses])
  rw [MbrPartitionEntry.length_toBytes] at hdata hsystem
  rw [List.length_replicate] at hunused
  refine ⟨file.writeRow (tableWrites layout), rfl, ?_, fun p hp => ?_⟩
  · constructor
    · rintro ⟨-, hlocated, -, -⟩
      rw [hsystem, MbrPartitionEntry.ofBytes_toBytes] at hlocated
      exact (MbrPartitionEntry.new_eq_locating_iff.mp hlocated).1
    · intro hlt
      refine ⟨?_, ?_, hunused, hmark⟩
      · rw [hdata, MbrPartitionEntry.ofBytes_toBytes, MbrPartitionEntry.new_eq_locating_iff]
        omega
      · rw [hsystem, MbrPartitionEntry.ofBytes_toBytes, MbrPartitionEntry.new_eq_locating_iff]
        omega
  · refine Image.byte_writeRow_of_misses file ?_
    simp [tableWrites, Image.Misses]
    omega

/-! ## A small image -/

/-- Resource files of few bytes. -/
def smallCache : ResourceCache := ⟨List.replicate 512 0x90, [0x52], [0xEB], List.length_replicate⟩

/-- The table of an image of 64 MB locates its partitions. -/
theorem small_table : ∃ file', TableLocates (.ofSize (64 * 1024 * 1024)) file' := by
  have haccepted : (PartitionLayout.calculate (64 * 1024 * 1024)).val
      = .ok (.ofSize (64 * 1024 * 1024)) :=
    (PartitionLayout.calculate_eq_ok (by decide) _).mpr ⟨by decide, rfl⟩
  obtain ⟨file', -, hlocates, -⟩ := table_locates_iff (by decide) haccepted ⟨1024, fun _ => 0⟩ []
  exact ⟨file', hlocates.mpr (by decide)⟩

end StreamBox.Exfat
