import StreamBox.Lib.Image
import StreamBox.Lib.Run
import StreamBox.Exfat.Format

/-!
# The open volume: clusters, FAT and bitmap

`ExfatFs` and the operations below the directory level.

* **State** — the image file, the parameters read from the boot sector, the FAT
  segment cache and the bitmap cache. The readings the system clock will give
  are part of the state, so that a run is determined by it.
* **Errors** — an operation that fails keeps the state it has reached.
* **Widths** — cluster numbers are `u32`: sums and differences wrap.
-/

namespace StreamBox.Exfat

/-- `FAT_ENTRY_FREE`. -/
def fatEntryFree : Nat := 0

/-- `FAT_ENTRY_END_OF_CHAIN`. -/
def fatEntryEndOfChain : Nat := 0xFFFFFFFF

/-- FAT cache size in entries. -/
def fatCacheEntries : Nat := 8192

/-- Wrapping `u32` difference. -/
def wrappingSub32 (a b : Nat) : Nat := (Checked.sub 32 a b).val

/-- FAT table segment cache. -/
structure FatCache where
  startCluster : Nat := 0
  entries : List Nat := []
  deriving DecidableEq, Repr

namespace FatCache

/-- Check if a cluster is in the cache. -/
def contains (cache : FatCache) (cluster : Nat) : Bool :=
  !cache.entries.isEmpty && cache.startCluster ≤ cluster &&
    cluster < wrap32 (cache.startCluster + wrap32 cache.entries.length)

/-- Get a FAT entry from cache (if present). -/
def get (cache : FatCache) (cluster : Nat) : Option Nat :=
  if cache.contains cluster then some (cache.entries.getD (cluster - cache.startCluster) 0)
  else none

/-- Update a single entry in the cache. -/
def update (cache : FatCache) (cluster value : Nat) : FatCache :=
  if cache.contains cluster then
    { cache with entries := cache.entries.set (cluster - cache.startCluster) value }
  else cache

end FatCache

/-- Parameters of an open volume, from the partition layout and the boot sector. -/
structure VolumeParams where
  partitionOffset : Nat
  bytesPerSector : Nat
  sectorsPerCluster : Nat
  clusterSize : Nat
  fatOffset : Nat
  fatLength : Nat
  clusterHeapOffset : Nat
  clusterCount : Nat
  firstClusterOfRoot : Nat
  deriving DecidableEq, Repr

namespace VolumeParams

/-- Convert cluster number to absolute byte offset. -/
def clusterToOffset (params : VolumeParams) (cluster : Nat) : Nat :=
  params.partitionOffset + params.clusterHeapOffset * params.bytesPerSector +
    wrappingSub32 cluster 2 * params.clusterSize

/-- Byte offset of a FAT entry. -/
def fatEntryOffset (params : VolumeParams) (cluster : Nat) : Nat :=
  params.partitionOffset + params.fatOffset * params.bytesPerSector + cluster * 4

end VolumeParams

/-- An exFAT filesystem opened for reading and writing. -/
structure ExfatFs extends VolumeParams where
  file : Image
  fatCache : FatCache := {}
  bitmapCache : Option (List UInt8) := none
  /-- What the clock reads from now on, in seconds since the epoch. -/
  clock : List Nat := []

/-- Operations on an open filesystem. -/
abbrev ExfatM := EStateM VentoyError ExfatFs

/-- A little-endian number at a byte offset. -/
def leAt (data : List UInt8) (offset len : Nat) : Nat := ofLeBytes ((data.drop offset).take len)

/-- Seek and `read_exact`. -/
def readAt (offset len : Nat) : ExfatM (List UInt8) := do
  let fs ← get
  match fs.file.read offset len with
  | some data => pure data
  | none => throw (.io "failed to fill whole buffer")

/-- Seek and `write_all`. -/
def writeAt (offset : Nat) (data : List UInt8) : ExfatM Unit :=
  modify fun fs => { fs with file := fs.file.write offset data }

/-- Open an exFAT filesystem from an image. -/
def ExfatFs.openImage (file : Image) (layout : PartitionLayout) (clock : List Nat) :
    Except VentoyError ExfatFs :=
  let partitionOffset := layout.dataOffset
  match file.read partitionOffset 512 with
  | none => .error (.io "failed to fill whole buffer")
  | some bootSector =>
    if (bootSector.drop 3).take 8 ≠ [0x45, 0x58, 0x46, 0x41, 0x54, 0x20, 0x20, 0x20] then
      .error (.filesystemError "Invalid exFAT signature")
    else
      let bytesPerSector := wrap32 (2 ^ (leAt bootSector 108 1 % 32))
      let sectorsPerCluster := wrap32 (2 ^ (leAt bootSector 109 1 % 32))
      .ok
        { partitionOffset := partitionOffset
          bytesPerSector := bytesPerSector
          sectorsPerCluster := sectorsPerCluster
          clusterSize := wrap32 (bytesPerSector * sectorsPerCluster)
          fatOffset := leAt bootSector 80 4
          fatLength := leAt bootSector 84 4
          clusterHeapOffset := leAt bootSector 88 4
          clusterCount := leAt bootSector 92 4
          firstClusterOfRoot := leAt bootSector 96 4
          file := file
          clock := clock }

/-! ## Cluster I/O -/

/-- Read a cluster's data. -/
def readCluster (cluster : Nat) : ExfatM (List UInt8) := do
  let fs ← get
  readAt (fs.clusterToOffset cluster) fs.clusterSize

/-- Write data to a cluster, padding it with zeros. -/
def writeCluster (cluster : Nat) (data : List UInt8) : ExfatM Unit := do
  let fs ← get
  if data.length > fs.clusterSize then
    throw (.filesystemError "Data exceeds cluster size")
  else do
    writeAt (fs.clusterToOffset cluster) data
    if data.length < fs.clusterSize then
      writeAt (fs.clusterToOffset cluster + data.length)
        (List.replicate (fs.clusterSize - data.length) 0)
    else pure ()

/-! ## FAT -/

/-- Load a FAT segment into cache starting from the given cluster. -/
def loadFatSegment (startCluster : Nat) : ExfatM Unit := do
  let fs ← get
  let maxCluster := wrap32 (fs.clusterCount + 2)
  let entriesToRead := min fatCacheEntries (wrappingSub32 maxCluster startCluster)
  if entriesToRead = 0 then pure ()
  else do
    let buffer ← readAt (fs.fatEntryOffset startCluster) (entriesToRead * 4)
    let entries := (List.range entriesToRead).map fun k => leAt buffer (k * 4) 4
    modify fun fs => { fs with fatCache := { startCluster := startCluster, entries := entries } }

/-- Read a FAT entry (with caching). -/
def readFatEntry (cluster : Nat) : ExfatM Nat := do
  let fs ← get
  match fs.fatCache.get cluster with
  | some entry => pure entry
  | none => do
    loadFatSegment cluster
    let fs ← get
    match fs.fatCache.get cluster with
    | some entry => pure entry
    | none => throw (.filesystemError s!"Failed to cache FAT entry for cluster {cluster}")

/-- Write a FAT entry (updates cache if present). -/
def writeFatEntry (cluster value : Nat) : ExfatM Unit := do
  let fs ← get
  writeAt (fs.fatEntryOffset cluster) (leBytes 4 value)
  modify fun fs => { fs with fatCache := fs.fatCache.update cluster value }

/-- A FAT entry that the chain walk follows. -/
def isLink (entry : Nat) : Bool := 2 ≤ entry && entry < 0xFFFFFFF8

/-- The walk of `read_cluster_chain`; more than `cluster_count` clusters are an error, so
the fuel of `cluster_count + 1` steps is never used up. -/
def readClusterChainFrom : Nat → List Nat → Nat → ExfatM (List Nat)
  | 0, _, _ => throw (.filesystemError "FAT chain too long, possible corruption")
  | fuel + 1, chain, current =>
    if isLink current then do
      let chain := chain ++ [current]
      let next ← readFatEntry current
      let fs ← get
      if chain.length > fs.clusterCount then
        throw (.filesystemError "FAT chain too long, possible corruption")
      else readClusterChainFrom fuel chain next
    else pure chain

/-- Read the entire cluster chain starting from a cluster. -/
def readClusterChain (firstCluster : Nat) : ExfatM (List Nat) := do
  let fs ← get
  readClusterChainFrom (fs.clusterCount + 1) [] firstCluster

/-! ## Allocation bitmap -/

/-- Read the allocation bitmap (with caching). -/
def readBitmap : ExfatM (List UInt8) := do
  let fs ← get
  match fs.bitmapCache with
  | some bitmap => pure bitmap
  | none => do
    let bitmap ← readCluster 2
    modify fun fs => { fs with bitmapCache := some bitmap }
    pure bitmap

/-- Change the cached bitmap in place, loading it if necessary. -/
def modifyBitmap (f : List UInt8 → List UInt8) : ExfatM Unit := do
  let bitmap ← readBitmap
  modify fun fs => { fs with bitmapCache := some (f bitmap) }

/-- Check if a cluster is allocated; beyond the bitmap's end it is not. -/
def isClusterAllocated (bitmap : List UInt8) (cluster : Nat) : Bool :=
  Bitmap.test bitmap (wrappingSub32 cluster 2)

/-- Set cluster allocation status in bitmap; beyond its end nothing happens. -/
def setClusterAllocated (bitmap : List UInt8) (cluster : Nat) (allocated : Bool) : List UInt8 :=
  Bitmap.assign bitmap (wrappingSub32 cluster 2) allocated

/-- The scan of `find_free_clusters`, stopped once `count` clusters are found. -/
def collectFree (bitmap : List UInt8) (count : Nat) : List Nat → List Nat → List Nat
  | free, [] => free
  | free, cluster :: rest =>
    if isClusterAllocated bitmap cluster then collectFree bitmap count free rest
    else
      let free := free ++ [cluster]
      if free.length ≥ count then free else collectFree bitmap count free rest

/-- Find free clusters. -/
def findFreeClusters (count : Nat) : ExfatM (List Nat) := do
  let bitmap ← readBitmap
  let fs ← get
  let startCluster := wrap32 (fs.firstClusterOfRoot + 1)
  let endCluster := wrap32 (fs.clusterCount + 2)
  let free := collectFree bitmap count [] (List.range' startCluster (endCluster - startCluster))
  if free.length < count then
    throw (.filesystemError
      s!"Not enough free space: need {count} clusters, found {free.length}")
  else pure free

/-- Flush bitmap to disk immediately. -/
def flushBitmapNow : ExfatM Unit := do
  let fs ← get
  match fs.bitmapCache with
  | some bitmap => do
    modify fun fs => { fs with bitmapCache := none }
    writeCluster 2 bitmap
    modify fun fs => { fs with bitmapCache := some bitmap }
  | none => pure ()

/-- Write the FAT links of a chain, each cluster to the next and the last to the end mark. -/
def writeFatChain : List Nat → ExfatM Unit
  | [] => pure ()
  | [cluster] => writeFatEntry cluster fatEntryEndOfChain
  | cluster :: next :: rest => do
    writeFatEntry cluster next
    writeFatChain (next :: rest)

/-- Allocate clusters and create a chain. -/
def allocateClusters (count : Nat) : ExfatM Nat :=
  if count = 0 then throw (.filesystemError "Cannot allocate 0 clusters")
  else do
    let clusters ← findFreeClusters count
    modifyBitmap fun bitmap =>
      clusters.foldl (fun bitmap cluster => setClusterAllocated bitmap cluster true) bitmap
    flushBitmapNow
    writeFatChain clusters
    pure (clusters.getD 0 0)

/-- Free a cluster chain. -/
def freeClusterChain (firstCluster : Nat) : ExfatM Unit := do
  let chain ← readClusterChain firstCluster
  modifyBitmap fun bitmap =>
    chain.foldl (fun bitmap cluster => setClusterAllocated bitmap cluster false) bitmap
  flushBitmapNow
  chain.forM fun cluster => writeFatEntry cluster fatEntryFree

/-- Extend a cluster chain by appending one new cluster. -/
def extendClusterChain (firstCluster : Nat) : ExfatM Nat := do
  let chain ← readClusterChain firstCluster
  match chain.getLast? with
  | none => throw (.filesystemError "Empty cluster chain")
  | some lastCluster => do
    let newCluster ← allocateClusters 1
    writeFatEntry lastCluster newCluster
    let fs ← get
    writeCluster newCluster (List.replicate fs.clusterSize 0)
    pure newCluster

end StreamBox.Exfat
