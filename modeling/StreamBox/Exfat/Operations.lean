import StreamBox.Exfat.Directory

/-!
# File operations

The public operations of the filesystem: paths, whole-file reads and writes,
deletion, directories, and the streaming writer.

* **Flushing** — `File::flush` does nothing and is left out.
* **Recursion** — `delete_recursive` follows the directory tree; its call depth is
  an argument, and a run that would go deeper fails.
* **Writer** — the writer borrows the filesystem, so a session is one operation:
  create, any number of writes, finish.
-/

namespace StreamBox.Exfat

/-! ## Paths -/

/-- `trim_matches('/')`. -/
def trimSlashes (path : List Char) : List Char :=
  ((path.dropWhile (· = '/')).reverse.dropWhile (· = '/')).reverse

/-- Parse a path into components. -/
def parsePath (path : String) : List String :=
  (((trimSlashes path.toList).splitOn '/').filter (· ≠ [])).map String.ofList

/-- Result of resolving a path. -/
structure ResolvedPath where
  parentCluster : Nat
  name : String
  location : Option FileEntryLocation
  deriving DecidableEq, Repr

section

variable [Lowercase]

/-- Create a directory in a specific parent directory. -/
def createDirectoryIn (parentCluster : Nat) (name : String) : ExfatM Nat :=
  if name = "" ∨ utf8Len name > 255 then
    throw (.filesystemError "Invalid directory name length")
  else do
    match ← findEntryInDirectory parentCluster name with
    | some _ => throw (.filesystemError s!"Entry '{name}' already exists")
    | none => do
      let dirCluster ← allocateClusters 1
      let fs ← get
      writeCluster dirCluster (List.replicate fs.clusterSize 0)
      createEntryInDirectory parentCluster name dirCluster 0 true
      pure dirCluster

/-- Follow the components of a path from a directory on; `followed` are the ones already
passed. -/
def resolveParents (createParents : Bool) :
    List String → Nat → List String → ExfatM Nat
  | _, currentCluster, [] => pure currentCluster
  | followed, currentCluster, component :: rest => do
    match ← findEntryInDirectory currentCluster component with
    | some entry =>
      if !entry.isDirectory then
        throw (.filesystemError s!"'{component}' is not a directory")
      else resolveParents createParents (followed ++ [component]) entry.firstCluster rest
    | none =>
      if createParents then do
        let newCluster ← createDirectoryIn currentCluster component
        resolveParents createParents (followed ++ [component]) newCluster rest
      else
        let partialPath := String.intercalate "/" (followed ++ [component])
        throw (.filesystemError s!"Directory '{partialPath}' not found")

/-- Resolve a path to its parent directory cluster and target name. -/
def resolvePath (path : String) (createParents : Bool) : ExfatM ResolvedPath := do
  let fs ← get
  match (parsePath path).getLast? with
  | none => throw (.filesystemError "Empty path")
  | some name => do
    let parent ← resolveParents createParents [] fs.firstClusterOfRoot (parsePath path).dropLast
    let location ← findEntryInDirectory parent name
    pure { parentCluster := parent, name := name, location := location }

end

/-! ## Writing and reading whole files -/

/-- Clusters needed for this many bytes. -/
def clustersNeeded (size clusterSize : Nat) : Nat :=
  if size = 0 then 0 else (size + clusterSize - 1) / clusterSize

/-- Write file data to the clusters of a chain. -/
def writeChunks (clusterSize : Nat) : List Nat → List UInt8 → ExfatM Unit
  | [], _ => pure ()
  | cluster :: rest, data => do
    writeCluster cluster (data.take clusterSize)
    writeChunks clusterSize rest (data.drop clusterSize)

/-- Write file data to allocated clusters and create directory entry. -/
def writeFileDataAndEntry (dirCluster : Nat) (name : String) (data : List UInt8) :
    ExfatM Unit := do
  let fs ← get
  if clustersNeeded data.length fs.clusterSize > 0 then do
    let first ← allocateClusters (clustersNeeded data.length fs.clusterSize)
    let chain ← readClusterChain first
    writeChunks fs.clusterSize chain data
    createEntryInDirectory dirCluster name first data.length false
  else createEntryInDirectory dirCluster name 0 data.length false

/-- Read the clusters of a chain, as many bytes as are missing. -/
def readChunks (clusterSize dataLength : Nat) : List Nat → List UInt8 → ExfatM (List UInt8)
  | [], data => pure data
  | cluster :: rest, data => do
    let clusterData ← readCluster cluster
    let remaining := dataLength - data.length
    readChunks clusterSize dataLength rest (data ++ clusterData.take (min remaining clusterSize))

/-- Read file data from a location. -/
def readFileFromLocation (location : FileEntryLocation) : ExfatM (List UInt8) :=
  if location.dataLength = 0 then pure []
  else do
    let fs ← get
    let chain ← readClusterChain location.firstCluster
    readChunks fs.clusterSize location.dataLength chain []

/-- Free the clusters of an entry, if it has any, and delete it. -/
def removeLocation (location : FileEntryLocation) : ExfatM Unit := do
  if location.firstCluster ≥ 2 then do
    freeClusterChain location.firstCluster
    deleteFileEntry location
  else deleteFileEntry location

/-- Remove the file a path resolved to, if it may be overwritten. -/
def replaceFile (path : String) (location : Option FileEntryLocation) (overwrite : Bool) :
    ExfatM Unit :=
  match location with
  | none => pure ()
  | some location =>
    if location.isDirectory then throw (.filesystemError s!"'{path}' is a directory")
    else if overwrite then removeLocation location
    else throw (.filesystemError s!"File '{path}' already exists")

/-- The path of an item of the directory at `path`. -/
def itemPath (path name : String) : String :=
  if path.toList.getLast? = some '/' then path ++ name else path ++ "/" ++ name

section

variable [Lowercase]

/-- Write a file to a specific path. -/
def writeFilePath (path : String) (data : List UInt8) (createParents overwrite : Bool) :
    ExfatM Unit := do
  let resolved ← resolvePath path createParents
  if resolved.name = "" ∨ utf8Len resolved.name > 255 then
    throw (.filesystemError "Invalid filename length")
  else do
    replaceFile path resolved.location overwrite
    writeFileDataAndEntry resolved.parentCluster resolved.name data

/-- Write a file to the filesystem (root directory, no overwrite). -/
def writeFile (name : String) (data : List UInt8) : ExfatM Unit :=
  if name = "" ∨ utf8Len name > 255 then
    throw (.filesystemError "Invalid filename length")
  else do
    let fs ← get
    match ← findEntryInDirectory fs.firstClusterOfRoot name with
    | some _ => throw (.filesystemError s!"File '{name}' already exists")
    | none => writeFileDataAndEntry fs.firstClusterOfRoot name data

/-- Read a file from the filesystem (root directory). -/
def readFile (name : String) : ExfatM (List UInt8) := do
  let fs ← get
  match ← findEntryInDirectory fs.firstClusterOfRoot name with
  | none => throw (.filesystemError s!"File '{name}' not found")
  | some location => readFileFromLocation location

/-- Read a file from a specific path. -/
def readFilePath (path : String) : ExfatM (List UInt8) := do
  let resolved ← resolvePath path false
  match resolved.location with
  | none => throw (.filesystemError s!"File '{path}' not found")
  | some location =>
    if location.isDirectory then throw (.filesystemError s!"'{path}' is a directory")
    else readFileFromLocation location

/-! ## Deleting -/

/-- Delete a file or directory at a specific path. -/
def deletePath (path : String) : ExfatM Unit := do
  let resolved ← resolvePath path false
  match resolved.location with
  | none => throw (.filesystemError s!"'{path}' not found")
  | some location =>
    if location.isDirectory then do
      let contents ← listFilesInDirectory location.firstCluster ""
      if contents ≠ [] then throw (.filesystemError s!"Directory '{path}' is not empty")
      else removeLocation location
    else removeLocation location

/-- Delete a directory and all its contents recursively. -/
def deleteRecursive : Nat → String → ExfatM Unit
  | 0, _ => throw (.filesystemError "call depth exceeded")
  | depth + 1, path => do
    let resolved ← resolvePath path false
    match resolved.location with
    | none => throw (.filesystemError s!"'{path}' not found")
    | some location =>
      if location.isDirectory then do
        let contents ← listFilesInDirectory location.firstCluster ""
        contents.forM fun item => deleteRecursive depth (itemPath path item.name)
        removeLocation location
      else removeLocation location

/-- Create a directory at a specific path. -/
def createDirectory (path : String) (createParents : Bool) : ExfatM Unit := do
  let resolved ← resolvePath path createParents
  match resolved.location with
  | some _ => throw (.filesystemError s!"'{path}' already exists")
  | none => do
    let _ ← createDirectoryIn resolved.parentCluster resolved.name
    pure ()

end

/-! ## Streaming writer -/

/-- Streaming file writer for large files. -/
structure ExfatFileWriter where
  name : String
  dirCluster : Nat
  totalSize : Nat
  allocatedClusters : List Nat
  currentClusterIndex : Nat := 0
  clusterBuffer : List UInt8 := []
  bytesWritten : Nat := 0
  deriving DecidableEq, Repr

namespace ExfatFileWriter

section

variable [Lowercase]

/-- Create a file writer in a specific directory; this overwrites a directory as well. -/
def createInDirectory (dirCluster : Nat) (name : String) (totalSize : Nat) (overwrite : Bool) :
    ExfatM ExfatFileWriter :=
  if name = "" ∨ utf8Len name > 255 then
    throw (.filesystemError "Invalid filename length")
  else do
    match ← findEntryInDirectory dirCluster name with
    | some location =>
      if overwrite then removeLocation location
      else throw (.filesystemError s!"File '{name}' already exists")
    | none => pure ()
    let fs ← get
    if clustersNeeded totalSize fs.clusterSize > 0 then do
      let first ← allocateClusters (clustersNeeded totalSize fs.clusterSize)
      let allocated ← readClusterChain first
      pure
        { name := name, dirCluster := dirCluster, totalSize := totalSize
          allocatedClusters := allocated }
    else
      pure
        { name := name, dirCluster := dirCluster, totalSize := totalSize
          allocatedClusters := [] }

/-- Create a new file writer (writes to root directory). -/
def create (name : String) (totalSize : Nat) : ExfatM ExfatFileWriter := do
  let fs ← get
  createInDirectory fs.firstClusterOfRoot name totalSize false

/-- Create a new file writer with overwrite option. -/
def createOverwrite (name : String) (totalSize : Nat) (overwrite : Bool) :
    ExfatM ExfatFileWriter := do
  let fs ← get
  createInDirectory fs.firstClusterOfRoot name totalSize overwrite

/-- Create a file writer for a specific path. -/
def createAtPath (path : String) (totalSize : Nat) (createParents overwrite : Bool) :
    ExfatM ExfatFileWriter := do
  let resolved ← resolvePath path createParents
  replaceFile path resolved.location overwrite
  createInDirectory resolved.parentCluster resolved.name totalSize false

end

/-- The buffer loop of `write`; every pass takes at least one byte of the data while clusters
are left, so as many passes as there are bytes are enough. The data not taken is returned. -/
def writeLoop (clusterSize : Nat) :
    Nat → ExfatFileWriter → List UInt8 → ExfatM (ExfatFileWriter × List UInt8)
  | 0, writer, data => pure (writer, data)
  | fuel + 1, writer, data =>
    if data ≠ [] ∧ writer.bytesWritten < writer.totalSize then
      let spaceInBuffer := clusterSize - writer.clusterBuffer.length
      let remainingToWrite := writer.totalSize - writer.bytesWritten
      let chunkSize := min (min spaceInBuffer data.length) remainingToWrite
      let writer :=
        { writer with
          clusterBuffer := writer.clusterBuffer ++ data.take chunkSize
          bytesWritten := writer.bytesWritten + chunkSize }
      if writer.clusterBuffer.length ≥ clusterSize then
        match writer.allocatedClusters[writer.currentClusterIndex]? with
        | some cluster => do
          writeCluster cluster writer.clusterBuffer
          writeLoop clusterSize fuel
            { writer with
              currentClusterIndex := writer.currentClusterIndex + 1
              clusterBuffer := [] } (data.drop chunkSize)
        | none => writeLoop clusterSize fuel writer (data.drop chunkSize)
      else writeLoop clusterSize fuel writer (data.drop chunkSize)
    else pure (writer, data)

/-- Write data to the file, with the number of bytes written. -/
def write (writer : ExfatFileWriter) (data : List UInt8) : ExfatM (ExfatFileWriter × Nat) := do
  let fs ← get
  let (writer, rest) ← writeLoop fs.clusterSize data.length writer data
  pure (writer, data.length - rest.length)

/-- Write one chunk after the other. -/
def writeAll : ExfatFileWriter → List (List UInt8) → ExfatM ExfatFileWriter
  | writer, [] => pure writer
  | writer, data :: rest => do
    let (writer, _) ← write writer data
    writeAll writer rest

/-- Finish writing and create the directory entry. -/
def finish (writer : ExfatFileWriter) : ExfatM Unit := do
  let createEntry :=
    createEntryInDirectory writer.dirCluster writer.name (writer.allocatedClusters.headD 0)
      writer.totalSize false
  match writer.clusterBuffer, writer.allocatedClusters[writer.currentClusterIndex]? with
  | _ :: _, some cluster => do
    writeCluster cluster writer.clusterBuffer
    createEntry
  | _, _ => createEntry

end ExfatFileWriter

/-- What the successive calls of a reader return: an error, or the bytes read; empty bytes are the
end of the stream, and so is the end of the list. -/
abbrev Answers := List (Except String (List UInt8))

/-- Stream write from reader to writer. -/
def doStreamWrite : ExfatFileWriter → Answers → ExfatM ExfatFileWriter
  | writer, [] => pure writer
  | _, .error reason :: _ => throw (.io reason)
  | writer, .ok data :: rest =>
    if data = [] then pure writer
    else do
      let (writer, _) ← writer.write data
      doStreamWrite writer rest

/-- Write a file from a reader to a specific path. -/
def writeFileFromReaderPath [Lowercase] (path : String) (reader : Answers) (size : Nat)
    (createParents overwrite : Bool) : ExfatM Unit := do
  let writer ← ExfatFileWriter.createAtPath path size createParents overwrite
  let writer ← doStreamWrite writer reader
  writer.finish

end StreamBox.Exfat
