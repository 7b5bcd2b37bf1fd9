import StreamBox.Lib.Checked

/-!
# MBR partition layout of a Ventoy image

`PartitionLayout::calculate` places the data partition at sector 2048 and a
32MB EFI partition at the end. Sizes and sector numbers are `u64` values; the
subtractions are checked ones.
-/

namespace StreamBox.Exfat

/-- Errors of the image library. -/
inductive VentoyError where
  | io (reason : String)
  | invalidSize (size : String)
  | sizeParseError (text : String)
  | partitionError (reason : String)
  | filesystemError (reason : String)
  | imageError (reason : String)
  | fileNotFound (path : String)
  | resourceNotFound (name : String)
  deriving DecidableEq, Repr

/-- Sector size in bytes. -/
def sectorSize : Nat := 512

/-- Data partition starts at sector 2048 (1MB aligned). -/
def dataPartStartSector : Nat := 2048

/-- EFI partition size: 32MB = 65536 sectors. -/
def efiPartSizeSectors : Nat := 65536

/-- Minimum image size: 64MB. -/
def minImageSize : Nat := 64 * 1024 * 1024

/-- Partition layout information. -/
structure PartitionLayout where
  totalSectors : Nat
  dataStartSector : Nat
  dataSizeSectors : Nat
  efiStartSector : Nat
  efiSizeSectors : Nat
  deriving DecidableEq, Repr

namespace PartitionLayout

/-- Calculate partition layout for given image size. -/
def calculate (totalSize : Nat) : Checked (Except VentoyError PartitionLayout) :=
  if totalSize < minImageSize then
    pure (.error (.invalidSize s!"{totalSize / (1024 * 1024)}MB (minimum 64MB)"))
  else do
    let totalSectors := totalSize / sectorSize
    let room ← Checked.sub 64 totalSectors efiPartSizeSectors
    let efiStart := room / 8 * 8
    let dataSize ← Checked.sub 64 efiStart dataPartStartSector
    pure (.ok
      { totalSectors := totalSectors
        dataStartSector := dataPartStartSector
        dataSizeSectors := dataSize
        efiStartSector := efiStart
        efiSizeSectors := efiPartSizeSectors })

/-- Data partition offset in bytes. -/
def dataOffset (layout : PartitionLayout) : Nat := layout.dataStartSector * sectorSize

/-- Data partition size in bytes. -/
def dataSize (layout : PartitionLayout) : Nat := layout.dataSizeSectors * sectorSize

/-- The layout of an image of `totalSize` bytes, in exact arithmetic. -/
def ofSize (totalSize : Nat) : PartitionLayout :=
  { totalSectors := totalSize / sectorSize
    dataStartSector := dataPartStartSector
    dataSizeSectors := (totalSize / sectorSize - efiPartSizeSectors) / 8 * 8 - dataPartStartSector
    efiStartSector := (totalSize / sectorSize - efiPartSizeSectors) / 8 * 8
    efiSizeSectors := efiPartSizeSectors }

/-- The two subtractions of `calculate`, from 64MB on. -/
theorem sub_efi {totalSize : Nat} (hsize : totalSize < 2 ^ 64) (hmin : minImageSize ≤ totalSize) :
    Checked.sub 64 (totalSize / sectorSize) efiPartSizeSectors
      = pure (totalSize / sectorSize - efiPartSizeSectors) := by
  have hroom : efiPartSizeSectors ≤ totalSize / sectorSize := by
    simp only [minImageSize, sectorSize, efiPartSizeSectors] at hmin ⊢
    omega
  exact Checked.sub_eq_pure (Nat.lt_of_le_of_lt (Nat.div_le_self _ _) hsize) hroom

theorem sub_dataStart {totalSize : Nat} (hsize : totalSize < 2 ^ 64)
    (hmin : minImageSize ≤ totalSize) :
    Checked.sub 64 ((totalSize / sectorSize - efiPartSizeSectors) / 8 * 8) dataPartStartSector
      = pure ((totalSize / sectorSize - efiPartSizeSectors) / 8 * 8 - dataPartStartSector) := by
  simp only [minImageSize] at hmin
  have hlt : (totalSize / sectorSize - efiPartSizeSectors) / 8 * 8 < 2 ^ 64 := by
    simp only [sectorSize]
    omega
  have hdata : dataPartStartSector ≤ (totalSize / sectorSize - efiPartSizeSectors) / 8 * 8 := by
    simp only [sectorSize, efiPartSizeSectors, dataPartStartSector]
    omega
  exact Checked.sub_eq_pure hlt hdata

/-- `calculate` rejects the sizes below 64MB, accepts the others with the exact
layout, and no subtraction of it underflows. -/
theorem calculate_eq {totalSize : Nat} (hsize : totalSize < 2 ^ 64) :
    calculate totalSize =
      pure (if totalSize < minImageSize then
        .error (.invalidSize s!"{totalSize / (1024 * 1024)}MB (minimum 64MB)")
      else .ok (ofSize totalSize)) := by
  unfold calculate
  by_cases hmin : totalSize < minImageSize
  · simp only [if_pos hmin]
  · simp only [if_neg hmin, sub_efi hsize (Nat.le_of_not_lt hmin),
      sub_dataStart hsize (Nat.le_of_not_lt hmin), Checked.pure_bind, ofSize]

/-- A size is accepted exactly when it is at least 64MB. -/
theorem calculate_eq_ok {totalSize : Nat} (hsize : totalSize < 2 ^ 64) (layout : PartitionLayout) :
    (calculate totalSize).val = .ok layout ↔
      minImageSize ≤ totalSize ∧ layout = ofSize totalSize := by
  rw [calculate_eq hsize, Checked.val_pure]
  by_cases hmin : totalSize < minImageSize
  · simp only [if_pos hmin, reduceCtorEq, false_iff]
    omega
  · simp only [if_neg hmin, Except.ok.injEq]
    exact ⟨fun h => ⟨Nat.le_of_not_lt hmin, h.symm⟩, fun h => h.2.symm⟩

end PartitionLayout

end StreamBox.Exfat
