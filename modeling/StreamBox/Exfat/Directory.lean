import StreamBox.Exfat.Volume

/-!
# Directory entries

A directory is a chain of clusters, each a row of 32-byte entries. A file or
directory has an entry set: a File entry, a Stream Extension entry and one Name
entry for every 15 UTF-16 units of its name.

* **Scans** — the three scans of a directory (lookup, listing, free slot) stay
  within one cluster at a time; a loop over byte offsets takes fuel, and the
  cluster's length is enough of it.
* **Lookup** — names are compared by their lower-case forms.
-/

namespace StreamBox.Exfat

def entryTypeEnd : UInt8 := 0x00
def entryTypeFile : UInt8 := 0x85
def entryTypeStream : UInt8 := 0xC0
def entryTypeFileName : UInt8 := 0xC1
def entryTypeDeletedFile : UInt8 := 0x05
def entryTypeDeletedStream : UInt8 := 0x40
def entryTypeDeletedName : UInt8 := 0x41

def attrDirectory : Nat := 0x10
def attrArchive : Nat := 0x20

/-- File information. -/
structure FileInfo where
  name : String
  size : Nat
  isDirectory : Bool
  path : String
  deriving DecidableEq, Repr

/-- Location of a file entry in the directory. -/
structure FileEntryLocation where
  directoryCluster : Nat
  entryOffset : Nat
  firstCluster : Nat
  dataLength : Nat
  secondaryCount : Nat
  isDirectory : Bool
  deriving DecidableEq, Repr

/-! ## Entry sets -/

/-- The current time in seconds; 0 for a clock set before the epoch. -/
def readClock : ExfatM Nat := do
  let fs ← get
  modify fun fs => { fs with clock := fs.clock.tail }
  pure (wrap32 (fs.clock.headD 0))

/-- DOS timestamp of a time of day, with a fixed date. -/
def dosTimestamp (now : Nat) : Nat :=
  let dosTime := ((now / 2) &&& 0x1F) ||| (((now / 60) &&& 0x3F) <<< 5) |||
    (((now / 3600) &&& 0x1F) <<< 11)
  let dosDate := 1 ||| (1 <<< 5) ||| (45 <<< 9)
  wrap32 (dosDate ||| (dosTime <<< 16))

/-- Entry set checksum, over all bytes but the checksum field itself. -/
def calculateEntrySetChecksum (entries : List (List UInt8)) : Nat :=
  entries.zipIdx.foldl (fun checksum (entry, entryIdx) =>
    entry.zipIdx.foldl (fun checksum (byte, byteIdx) =>
      if entryIdx = 0 ∧ (byteIdx = 2 ∨ byteIdx = 3) then checksum
      else addRotated checksum byte.toNat) checksum) 0

/-- File directory entry. -/
def fileEntry (secondaryCount attrs stamp checksum : Nat) : List UInt8 :=
  [entryTypeFile, UInt8.ofNat secondaryCount] ++ leBytes 2 checksum ++ leBytes 2 attrs ++ [0, 0] ++
  leBytes 4 stamp ++ leBytes 4 stamp ++ leBytes 4 stamp ++ List.replicate 12 0

/-- Stream Extension entry; the flags say `NoFatChain` for an empty file. -/
def streamEntry (nameLength nameHash firstCluster size : Nat) : List UInt8 :=
  [entryTypeStream, if size > 0 then 0x01 else 0x03, 0, UInt8.ofNat nameLength] ++
  leBytes 2 nameHash ++ [0, 0] ++ leBytes 8 size ++ List.replicate 4 0 ++
  leBytes 4 firstCluster ++ leBytes 8 size

/-- File Name entry with up to 15 code units. -/
def nameEntry (units : List Nat) : List UInt8 :=
  padEntry ([entryTypeFileName, 0] ++ units.flatMap (leBytes 2))

/-- The code units of a name, 15 to an entry. -/
def nameChunks (units : List Nat) : List (List Nat) :=
  (List.range ((units.length + 14) / 15)).map fun k => (units.drop (15 * k)).take 15

/-- Create file directory entries for a new file. -/
def createFileEntries (name : String) (firstCluster size : Nat) (isDir : Bool) (now : Nat) :
    List (List UInt8) :=
  let nameUtf16 := encodeUtf16 name
  let chunks := nameChunks nameUtf16
  let secondaryCount := 1 + chunks.length
  let attrs := if isDir then attrDirectory else attrArchive
  let entries := fun checksum =>
    [fileEntry secondaryCount attrs (dosTimestamp now) checksum,
      streamEntry nameUtf16.length (calculateNameHash name) firstCluster size] ++
    chunks.map nameEntry
  entries (calculateEntrySetChecksum (entries 0))

/-! ## Reading entry sets -/

/-- A byte of the cluster data. -/
def byteAt (data : List UInt8) (offset : Nat) : UInt8 := data.getD offset 0

/-- The code units of a Name entry, up to a null. -/
def nameCharsAt (data : List UInt8) (offset : Nat) : List Nat :=
  ((List.range 15).map fun k => leAt data (offset + (2 + 2 * k)) 2).takeWhile (· ≠ 0)

/-- What the secondary entries of a set say. -/
structure SecondaryEntries where
  fileName : List Char := []
  firstCluster : Nat := 0
  dataLength : Nat := 0
  deriving DecidableEq, Repr

/-- Parse the secondary entries with the given indices of the set at `offset`. -/
def parseSecondaryEntries (data : List UInt8) (offset : Nat) :
    List Nat → SecondaryEntries → SecondaryEntries
  | [], parsed => parsed
  | j :: rest, parsed =>
    let entryOffset := offset + j * 32
    if entryOffset + 32 > data.length then parsed
    else
      let secType := byteAt data entryOffset
      if secType = entryTypeStream then
        parseSecondaryEntries data offset rest
          { parsed with
            firstCluster := leAt data (entryOffset + 20) 4
            dataLength := leAt data (entryOffset + 24) 8 }
      else if secType = entryTypeFileName then
        parseSecondaryEntries data offset rest
          { parsed with
            fileName := parsed.fileName ++ decodeUtf16 (nameCharsAt data entryOffset) }
      else parseSecondaryEntries data offset rest parsed

/-- The secondary count of a File entry. -/
def secondaryCountAt (data : List UInt8) (offset : Nat) : Nat := (byteAt data (offset + 1)).toNat

/-- The directory attribute of a File entry. -/
def isDirectoryAt (data : List UInt8) (offset : Nat) : Bool :=
  (leAt data (offset + 4) 2 &&& attrDirectory) != 0

/-- Parse the entry set at an offset. -/
def parseEntrySet (data : List UInt8) (offset : Nat) : SecondaryEntries :=
  parseSecondaryEntries data offset (List.range' 1 (secondaryCountAt data offset)) {}

variable [Lowercase]

/-! ## Finding an entry -/

/-- How the scan of one cluster ended. -/
inductive FindResult where
  | found (location : FileEntryLocation)
  | endMarker
  | exhausted
  deriving DecidableEq, Repr

/-- The scan of one cluster for a name, from an offset on. -/
def findInCluster (targetLower : String) (cluster : Nat) (data : List UInt8) :
    Nat → Nat → FindResult
  | 0, _ => .exhausted
  | fuel + 1, i =>
    if i < data.length then
      let entryType := byteAt data i
      if entryType = entryTypeEnd then .endMarker
      else if entryType = entryTypeFile then
        let secondaryCount := secondaryCountAt data i
        let set := parseEntrySet data i
        if toLowercase (String.ofList set.fileName) = targetLower then
          .found
            { directoryCluster := cluster
              entryOffset := i
              firstCluster := set.firstCluster
              dataLength := set.dataLength
              secondaryCount := secondaryCount
              isDirectory := isDirectoryAt data i }
        else findInCluster targetLower cluster data fuel (i + (1 + secondaryCount) * 32)
      else findInCluster targetLower cluster data fuel (i + 32)
    else .exhausted

/-- The scan of a directory's clusters: an END marker ends it in any cluster. -/
def findInClusters (targetLower : String) : List Nat → ExfatM (Option FileEntryLocation)
  | [] => pure none
  | cluster :: rest => do
    let data ← readCluster cluster
    match findInCluster targetLower cluster data data.length 0 with
    | .found location => pure (some location)
    | .endMarker => pure none
    | .exhausted => findInClusters targetLower rest

/-- Find a file entry in a specific directory. -/
def findEntryInDirectory (dirCluster : Nat) (name : String) :
    ExfatM (Option FileEntryLocation) := do
  let dirClusters ← readClusterChain dirCluster
  findInClusters (toLowercase name) dirClusters

omit [Lowercase]

/-! ## Free slots -/

/-- Entry types that a new entry set may overwrite. -/
def isFreeType (entryType : UInt8) : Bool :=
  entryType == entryTypeEnd || entryType == entryTypeDeletedFile ||
    entryType == entryTypeDeletedStream || entryType == entryTypeDeletedName

/-- The scan of one cluster for a run of free slots. -/
def freeSlotInCluster (data : List UInt8) (needed : Nat) : Nat → Nat → Nat → Nat → Option Nat
  | 0, _, _, _ => none
  | fuel + 1, i, consecutiveFree, slotStart =>
    if i < data.length then
      let entryType := byteAt data i
      if isFreeType entryType then
        let slotStart := if consecutiveFree = 0 then i else slotStart
        if consecutiveFree + 1 ≥ needed then some slotStart
        else freeSlotInCluster data needed fuel (i + 32) (consecutiveFree + 1) slotStart
      else if entryType = entryTypeFile then
        freeSlotInCluster data needed fuel (i + (1 + secondaryCountAt data i) * 32) 0 slotStart
      else freeSlotInCluster data needed fuel (i + 32) 0 slotStart
    else if consecutiveFree ≥ needed then some slotStart
    else none

/-- The scan of a directory's clusters for a run of free slots. -/
def freeSlotInClusters (needed : Nat) : List Nat → ExfatM (Option (Nat × Nat))
  | [] => pure none
  | cluster :: rest => do
    let data ← readCluster cluster
    match freeSlotInCluster data needed data.length 0 0 0 with
    | some slotStart => pure (some (cluster, slotStart))
    | none => freeSlotInClusters needed rest

/-- Replace the END markers of a cluster by invalid entries. -/
def clearEndMarkers (data : List UInt8) : List UInt8 :=
  data.mapIdx fun i byte => if i % 32 = 0 ∧ byte = entryTypeEnd then 0xFF else byte

/-- Find a free slot in a directory, extending the directory if there is none. -/
def findFreeSlotInDirectory (dirCluster entriesNeeded : Nat) : ExfatM (Nat × Nat) := do
  let dirClusters ← readClusterChain dirCluster
  match ← freeSlotInClusters entriesNeeded dirClusters with
  | some slot => pure slot
  | none => do
    let newCluster ← extendClusterChain dirCluster
    let dirClusters ← readClusterChain dirCluster
    dirClusters.dropLast.forM fun cluster => do
      let data ← readCluster cluster
      writeCluster cluster (clearEndMarkers data)
    pure (newCluster, 0)

/-! ## Creating and deleting entries -/

/-- Copy bytes over the data at an offset. -/
def copyAt (data : List UInt8) (offset : Nat) (bytes : List UInt8) : List UInt8 :=
  data.take offset ++ bytes ++ data.drop (offset + bytes.length)

/-- Write entries one behind the other. -/
def copyEntries (data : List UInt8) (offset : Nat) : List (List UInt8) → List UInt8
  | [] => data
  | entry :: rest => copyEntries (copyAt data offset entry) (offset + 32) rest

/-- Create an entry in a specific directory. -/
def createEntryInDirectory (dirCluster : Nat) (name : String) (firstCluster size : Nat)
    (isDir : Bool) : ExfatM Unit := do
  let now ← readClock
  let entries := createFileEntries name firstCluster size isDir now
  let (slotCluster, slotOffset) ← findFreeSlotInDirectory dirCluster entries.length
  let data ← readCluster slotCluster
  writeCluster slotCluster (copyEntries data slotOffset entries)

/-- The type of a secondary entry once deleted. -/
def deletedType (entryType : UInt8) : UInt8 :=
  if entryType = entryTypeStream then entryTypeDeletedStream
  else if entryType = entryTypeFileName then entryTypeDeletedName
  else entryType &&& 0x7F

/-- Mark the entry set at an offset as deleted. -/
def markDeleted (data : List UInt8) (offset secondaryCount : Nat) : List UInt8 :=
  (List.range' 1 secondaryCount).foldl (fun data i =>
    if offset + i * 32 < data.length then data.modify (offset + i * 32) deletedType else data)
    (data.set offset entryTypeDeletedFile)

/-- Delete a file entry (mark as deleted). -/
def deleteFileEntry (location : FileEntryLocation) : ExfatM Unit := do
  let data ← readCluster location.directoryCluster
  writeCluster location.directoryCluster
    (markDeleted data location.entryOffset location.secondaryCount)

/-! ## Listing -/

/-- The scan of one cluster for all names. Only in the first cluster of a directory does
an END marker end the listing, and then the answer says so. -/
def listInCluster (isFirst : Bool) (currentPath : String) (data : List UInt8) :
    Nat → Nat → List FileInfo → List FileInfo × Bool
  | 0, _, files => (files, false)
  | fuel + 1, i, files =>
    if i < data.length then
      let entryType := byteAt data i
      if entryType = entryTypeEnd ∧ isFirst then (files, true)
      else if entryType = entryTypeFile then
        let set := parseEntrySet data i
        let fileName := String.ofList set.fileName
        let files :=
          if set.fileName = [] then files
          else files ++
            [{ name := fileName
               size := set.dataLength
               isDirectory := isDirectoryAt data i
               path := if currentPath = "" then fileName else currentPath ++ "/" ++ fileName }]
        listInCluster isFirst currentPath data fuel (i + (1 + secondaryCountAt data i) * 32) files
      else listInCluster isFirst currentPath data fuel (i + 32) files
    else (files, false)

/-- The listing of a directory's clusters. -/
def listInClusters (currentPath : String) :
    Bool → List Nat → List FileInfo → ExfatM (List FileInfo)
  | _, [], files => pure files
  | isFirst, cluster :: rest, files => do
    let data ← readCluster cluster
    match listInCluster isFirst currentPath data data.length 0 files with
    | (files, true) => pure files
    | (files, false) => listInClusters currentPath false rest files

/-- List files in a specific directory cluster. -/
def listFilesInDirectory (dirCluster : Nat) (currentPath : String) : ExfatM (List FileInfo) := do
  let dirClusters ← readClusterChain dirCluster
  listInClusters currentPath true dirClusters []

end StreamBox.Exfat
