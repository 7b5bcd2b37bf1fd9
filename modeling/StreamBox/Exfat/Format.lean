import StreamBox.Exfat.Partition
import StreamBox.Exfat.Unicode
import StreamBox.Lib.Bitmap

/-!
# Formatting the data partition

`format_exfat` writes, in this order, the two boot regions, the FAT, the
allocation bitmap, the up-case table and the root directory, seeking to a
computed offset before each. It is modelled as the list of these writes.

* **Widths** — `u32` sums and products wrap; narrowing casts and subtractions
  are checked (`Checked`).
* **Clock** — the volume serial is the current time, an argument here: the
  seconds since the epoch, or `none` for a clock set before it.
-/

namespace StreamBox.Exfat

/-- Wrap to a `u32`. -/
def wrap32 (n : Nat) : Nat := n % 2 ^ 32

/-- exFAT cluster size based on volume size. -/
def getClusterSize (totalSectors : Nat) : Nat :=
  let volumeSize := totalSectors * 512
  -- < 256MB, < 8GB, and everything above
  if volumeSize < 256 * 1024 * 1024 then 4096
  else if volumeSize < 8 * 1024 * 1024 * 1024 then 32768
  else 128 * 1024

/-- `u32::trailing_zeros`, counted up to `fuel` bits. -/
def trailingZeros : Nat → Nat → Nat
  | 0, _ => 0
  | fuel + 1, n => if n % 2 = 0 then trailingZeros fuel (n / 2) + 1 else 0

/-- Sectors per cluster shift of the boot sector. -/
def sectorsPerClusterShift (clusterSize : Nat) : Nat :=
  match clusterSize with
  | 4096 => 3
  | 8192 => 4
  | 16384 => 5
  | 32768 => 6
  | 65536 => 7
  | 131072 => 8
  | 262144 => 9
  | _ => min (max (trailingZeros 32 (clusterSize / 512)) 3) 9

/-- Size of the up-case table in bytes. -/
def upcaseTableSize : Nat := 128 * 1024

/-- Clusters the up-case table spans. -/
def upcaseClusters (clusterSize : Nat) : Checked Nat := do
  let top ← Checked.sub 64 (upcaseTableSize + clusterSize) 1
  Checked.cast 32 (top / clusterSize)

/-- exFAT boot sector (512 bytes). -/
structure ExfatBootSector where
  jumpBoot : List UInt8
  fsName : List UInt8
  mustBeZero : List UInt8
  partitionOffset : Nat
  volumeLength : Nat
  fatOffset : Nat
  fatLength : Nat
  clusterHeapOffset : Nat
  clusterCount : Nat
  firstClusterOfRoot : Nat
  volumeSerialNumber : Nat
  fsRevision : Nat
  volumeFlags : Nat
  bytesPerSectorShift : UInt8
  sectorsPerClusterShift : UInt8
  numberOfFats : UInt8
  driveSelect : UInt8
  percentInUse : UInt8
  reserved : List UInt8
  bootCode : List UInt8
  bootSignature : Nat
  deriving DecidableEq, Repr

namespace ExfatBootSector

/-- The boot sector with the given geometry, and the fixed contents of every other field. -/
def ofGeometry (volumeLength clusterSize fatLength clusterHeapOffset clusterCount
    firstClusterOfRoot volumeSerial : Nat) : ExfatBootSector :=
  { jumpBoot := [0xEB, 0x76, 0x90]
    fsName := [0x45, 0x58, 0x46, 0x41, 0x54, 0x20, 0x20, 0x20] -- "EXFAT   "
    mustBeZero := List.replicate 53 0
    partitionOffset := 0
    volumeLength := volumeLength
    fatOffset := 24
    fatLength := fatLength
    clusterHeapOffset := clusterHeapOffset
    clusterCount := clusterCount
    firstClusterOfRoot := firstClusterOfRoot
    volumeSerialNumber := volumeSerial
    fsRevision := 0x0100
    volumeFlags := 0
    bytesPerSectorShift := 9
    sectorsPerClusterShift := UInt8.ofNat (Exfat.sectorsPerClusterShift clusterSize)
    numberOfFats := 1
    driveSelect := 0x80
    percentInUse := 0xFF
    reserved := List.replicate 7 0
    bootCode := List.replicate 390 0
    bootSignature := 0xAA55 }

/-- `ExfatBootSector::new`. -/
def new (volumeLength clusterSize volumeSerial : Nat) : Checked ExfatBootSector := do
  let sectorsPerCluster := clusterSize / 512
  let fatOffset := 24
  -- a rough estimate of the cluster count sizes the FAT
  let volumeLength32 ← Checked.cast 32 volumeLength
  let usableSectors ← Checked.sub 32 volumeLength32 fatOffset
  let estimable ← Checked.sub 32 usableSectors 32
  let fatEntries := wrap32 (estimable / sectorsPerCluster + 2)
  let fatBytes ← Checked.sub 32 (wrap32 (wrap32 (fatEntries * 4) + 512)) 1
  let fatLength := max (fatBytes / 512) 1
  let clusterHeapOffset := wrap32 (fatOffset + fatLength)
  -- and the FAT's length fixes the cluster count
  let heapSectors ← Checked.sub 32 volumeLength32 clusterHeapOffset
  let clusterCount := heapSectors / sectorsPerCluster
  let upcaseClusters ← upcaseClusters clusterSize
  pure (ofGeometry volumeLength clusterSize fatLength clusterHeapOffset clusterCount
    (wrap32 (3 + upcaseClusters)) volumeSerial)

/-- The 512 bytes on disk. -/
def toBytes (sector : ExfatBootSector) : List UInt8 :=
  sector.jumpBoot ++ sector.fsName ++ sector.mustBeZero ++
  leBytes 8 sector.partitionOffset ++ leBytes 8 sector.volumeLength ++
  leBytes 4 sector.fatOffset ++ leBytes 4 sector.fatLength ++
  leBytes 4 sector.clusterHeapOffset ++ leBytes 4 sector.clusterCount ++
  leBytes 4 sector.firstClusterOfRoot ++ leBytes 4 sector.volumeSerialNumber ++
  leBytes 2 sector.fsRevision ++ leBytes 2 sector.volumeFlags ++
  [sector.bytesPerSectorShift, sector.sectorsPerClusterShift, sector.numberOfFats,
    sector.driveSelect, sector.percentInUse] ++
  sector.reserved ++ sector.bootCode ++ leBytes 2 sector.bootSignature

end ExfatBootSector

/-! ## Checksums -/

/-- One rotate-and-add step of the 32-bit checksums. -/
def addRotated32 (checksum : Nat) (byte : UInt8) : Nat :=
  let rotated := if checksum % 2 = 1 then 0x80000000 + checksum / 2 else checksum / 2
  wrap32 (rotated + byte.toNat)

/-- Boot checksum, over the eleven sectors but for VolumeFlags and PercentInUse. -/
def calculateBootChecksum (sectors : List (List UInt8)) : Nat :=
  sectors.zipIdx.foldl (fun checksum (sector, sectorIdx) =>
    sector.zipIdx.foldl (fun checksum (byte, byteIdx) =>
      if sectorIdx = 0 ∧ (byteIdx = 106 ∨ byteIdx = 107 ∨ byteIdx = 112) then checksum
      else addRotated32 checksum byte) checksum) 0

/-- Up-case table checksum. -/
def calculateUpcaseChecksum (data : List UInt8) : Nat := data.foldl addRotated32 0

/-! ## Root directory entries -/

/-- Pad an entry with zeros to its 32 bytes. -/
def padEntry (bytes : List UInt8) : List UInt8 := bytes ++ List.replicate (32 - bytes.length) 0

/-- Volume label directory entry. -/
def createVolumeLabelEntry (label : String) : List UInt8 :=
  let labelChars := (encodeUtf16 label).take 11
  padEntry ([0x83, UInt8.ofNat labelChars.length] ++ labelChars.flatMap (leBytes 2))

/-- Bitmap directory entry. -/
def createBitmapEntry (startCluster size : Nat) : List UInt8 :=
  [0x81, 0] ++ List.replicate 18 0 ++ leBytes 4 startCluster ++ leBytes 8 size

/-- Up-case table directory entry. -/
def createUpcaseEntry (startCluster size checksum : Nat) : List UInt8 :=
  [0x82] ++ List.replicate 3 0 ++ leBytes 4 checksum ++ List.replicate 12 0 ++
  leBytes 4 startCluster ++ leBytes 8 size

/-! ## Formatting -/

/-- What a write of the formatter lays down. -/
inductive Region where
  | mainBoot
  | backupBoot
  | fat
  | bitmap
  | upcase
  | root
  deriving DecidableEq, Repr

/-- One seek and the bytes written from there. -/
structure Segment where
  region : Region
  offset : Nat
  data : List UInt8
  deriving DecidableEq, Repr

/-- The byte after the last one written. -/
def Segment.stop (s : Segment) : Nat := s.offset + s.data.length

/-- Mark a cluster as used in the bitmap being built: bit `cluster`, if it is there. -/
def markUsed (bitmap : List UInt8) (cluster : Nat) : List UInt8 :=
  Bitmap.assign bitmap cluster true

/-- The allocation bitmap after formatting. -/
def formatBitmap (clusterSize upcaseClusters rootCluster : Nat) : List UInt8 :=
  let bitmap := markUsed (List.replicate clusterSize 0) 2
  let bitmap := (List.range upcaseClusters).foldl (fun bitmap i => markUsed bitmap (3 + i)) bitmap
  markUsed bitmap rootCluster

/-- The FAT entries of the formatter's chains, the one-cluster bitmap first. -/
def formatFat (upcaseClusters lastUpcase : Nat) : List Nat :=
  [0xFFFFFFF8, 0xFFFFFFFF, 0xFFFFFFFF] ++
  (List.range upcaseClusters).map (fun i =>
    if i = lastUpcase then 0xFFFFFFFF else wrap32 (wrap32 (3 + i) + 1)) ++
  [0xFFFFFFFF]

/-- Bytes of the allocation bitmap. -/
def bitmapSize (clusterCount : Nat) : Nat := wrap32 (clusterCount + 7) / 8

/-- Volume serial from the current time. -/
def volumeSerial (now : Option Nat) : Checked Nat :=
  match now with
  | some secs => Checked.cast 32 secs
  | none => pure 0x12345678

/-- Format a partition as exFAT: the boot sector, and the writes in their order. -/
def formatExfat (partitionOffset partitionSize : Nat) (label : String) (now : Option Nat) :
    Checked (ExfatBootSector × List Segment) := do
  let volumeSectors := partitionSize / 512
  let clusterSize := getClusterSize volumeSectors
  let serial ← volumeSerial now
  let bootSector ← ExfatBootSector.new volumeSectors clusterSize serial
  let bootRegion := bootSector.toBytes :: List.replicate 10 (List.replicate 512 0)
  let checksum := calculateBootChecksum bootRegion
  let bootData := bootRegion.flatten ++ (List.replicate 128 (leBytes 4 checksum)).flatten
  -- FAT
  let fatOffset := partitionOffset + bootSector.fatOffset * 512
  let upcaseClusters ← upcaseClusters clusterSize
  let rootCluster := wrap32 (3 + upcaseClusters)
  let lastUpcase ← Checked.sub 32 upcaseClusters 1
  let fatEntries := formatFat upcaseClusters lastUpcase
  let fatRemaining ← Checked.sub 64 (bootSector.fatLength * 512) (fatEntries.length * 4)
  -- cluster heap: bitmap, up-case table, root directory
  let heapOffset := partitionOffset + bootSector.clusterHeapOffset * 512
  let bitmap := formatBitmap clusterSize upcaseClusters rootCluster
  let upcaseData := generateUpcaseTable
  let upcaseChecksum := calculateUpcaseChecksum upcaseData
  let upcasePadding ← Checked.sub 64 (upcaseClusters * clusterSize) upcaseData.length
  let rootEntries := createVolumeLabelEntry label ++
    createBitmapEntry 2 (bitmapSize bootSector.clusterCount) ++
    createUpcaseEntry 3 upcaseData.length upcaseChecksum
  let rootPadding ← Checked.sub 64 clusterSize (32 * 3)
  pure (bootSector,
    [⟨.mainBoot, partitionOffset, bootData⟩,
     ⟨.backupBoot, partitionOffset + bootData.length, bootData⟩,
     ⟨.fat, fatOffset, fatEntries.flatMap (leBytes 4) ++ List.replicate fatRemaining 0⟩,
     ⟨.bitmap, heapOffset, bitmap⟩,
     ⟨.upcase, heapOffset + clusterSize, upcaseData ++ List.replicate upcasePadding 0⟩,
     ⟨.root, heapOffset + (1 + upcaseClusters) * clusterSize,
       rootEntries ++ List.replicate rootPadding 0⟩])

end StreamBox.Exfat
