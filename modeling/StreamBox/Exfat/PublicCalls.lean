import StreamBox.Exfat.Reader

/-!
# Public calls

The public operations that are left, and a program that uses the filesystem.

* **Listing** — `list_files_recursive` keeps a stack of directories; how many of them it
  takes from the stack is an argument, and a run that would take more fails.
* **Sinks** — a sink is what its calls of `write_all` answer; from the end of the list on it
  takes all it is given.
* **Sessions** — a writer or a reader borrows the filesystem until it is finished or dropped, so
  the calls on one come in sessions.
-/

namespace StreamBox.Exfat

section

variable [Lowercase]

/-! ## Listing -/

/-- List files in root directory. -/
def listFiles : ExfatM (List FileInfo) := do
  let fs ← get
  listFilesInDirectory fs.firstClusterOfRoot ""

/-- List files in a specific directory path. -/
def listFilesAt (path : String) : ExfatM (List FileInfo) :=
  if path = "" ∨ path = "/" then listFiles
  else do
    let resolved ← resolvePath path false
    match resolved.location with
    | none => throw (.filesystemError s!"Directory '{path}' not found")
    | some location =>
      if location.isDirectory then
        listFilesInDirectory location.firstCluster (String.ofList (trimSlashes path.toList))
      else throw (.filesystemError s!"'{path}' is not a directory")

/-- Push the directories among the files of a directory; each is looked up by its name, and the
first entry of the name is taken, whatever it is. -/
def pushDirectories (dirCluster : Nat) :
    List FileInfo → List (Nat × String) → ExfatM (List (Nat × String))
  | [], dirsToVisit => pure dirsToVisit
  | file :: rest, dirsToVisit =>
    if file.isDirectory then do
      match ← findEntryInDirectory dirCluster file.name with
      | some location =>
        pushDirectories dirCluster rest ((location.firstCluster, file.path) :: dirsToVisit)
      | none => pushDirectories dirCluster rest dirsToVisit
    else pushDirectories dirCluster rest dirsToVisit

/-- The loop of `list_files_recursive`. -/
def listDirectories :
    Nat → List (Nat × String) → List FileInfo → ExfatM (List FileInfo)
  | _, [], allFiles => pure allFiles
  | 0, _ :: _, _ => throw (.filesystemError "passes exceeded")
  | passes + 1, (dirCluster, currentPath) :: dirsToVisit, allFiles => do
    let files ← listFilesInDirectory dirCluster currentPath
    let dirsToVisit ← pushDirectories dirCluster files dirsToVisit
    listDirectories passes dirsToVisit (allFiles ++ files)

/-- List all files recursively. -/
def listFilesRecursive (passes : Nat) : ExfatM (List FileInfo) := do
  let fs ← get
  listDirectories passes [(fs.firstClusterOfRoot, "")] []

/-- Get file information at a specific path without reading content. -/
def getFileInfoPath (path : String) : ExfatM (Option FileInfo) := do
  let resolved ← resolvePath path false
  pure (resolved.location.map fun location =>
    { name := String.ofList ((path.toList.splitOn '/').getLastD [])
      size := location.dataLength
      isDirectory := location.isDirectory
      path := path })

/-! ## Files of the root directory -/

/-- Delete a file from the filesystem (root directory). -/
def deleteFile (name : String) : ExfatM Unit := do
  let fs ← get
  match ← findEntryInDirectory fs.firstClusterOfRoot name with
  | none => throw (.filesystemError s!"File '{name}' not found")
  | some location => removeLocation location

/-- Write a file to the filesystem with overwrite option. -/
def writeFileOverwrite (name : String) (data : List UInt8) (overwrite : Bool) : ExfatM Unit :=
  if name = "" ∨ utf8Len name > 255 then
    throw (.filesystemError "Invalid filename length")
  else do
    let fs ← get
    match ← findEntryInDirectory fs.firstClusterOfRoot name with
    | none => writeFileDataAndEntry fs.firstClusterOfRoot name data
    | some _ =>
      if overwrite then do
        deleteFile name
        writeFileDataAndEntry fs.firstClusterOfRoot name data
      else throw (.filesystemError s!"File '{name}' already exists")

end

/-! ## Streams -/

/-- `map_err(VentoyError::Io)`. -/
def ioErr {α : Type} (op : EStateM IoError ExfatFileReader α) :
    EStateM VentoyError ExfatFileReader α := fun reader =>
  match op.run reader with
  | .ok a reader => .ok a reader
  | .error (.other text) reader => .error (.io text) reader
  | .error (.invalidInput text) reader => .error (.io text) reader

/-- What the successive calls of `write_all` answer: an error, or nothing. -/
abbrev Sink := List (Option String)

/-- The loop of `do_stream_read`; every pass but the last reads a byte, so a pass more than the file
has bytes is enough. -/
def streamReadLoop : Nat → Nat → Sink → EStateM VentoyError ExfatFileReader Nat
  | 0, totalBytes, _ => pure totalBytes
  | fuel + 1, totalBytes, sink => do
    let data ← ioErr (ExfatFileReader.read (64 * 1024))
    if data = [] then pure totalBytes
    else
      match sink.headD none with
      | some reason => throw (.io reason)
      | none => streamReadLoop fuel (totalBytes + data.length) sink.tail

/-- Stream read from reader to writer; the reader is dropped behind it. -/
def doStreamRead (reader : ExfatFileReader) (sink : Sink) : ExfatM Nat := fun _ =>
  match (streamReadLoop (reader.fileSize + 1) 0 sink).run reader with
  | .ok totalBytes reader => .ok totalBytes reader.fs
  | .error e reader => .error e reader.fs

section

variable [Lowercase]

/-- Read a file to a writer (streaming). -/
def readFileToWriter (name : String) (sink : Sink) : ExfatM Nat := do
  let reader ← ExfatFileReader.open name
  doStreamRead reader sink

/-- Read a file from a path to a writer (streaming). -/
def readFilePathToWriter (path : String) (sink : Sink) : ExfatM Nat := do
  let reader ← ExfatFileReader.openPath path
  doStreamRead reader sink

/-- Write a file from a reader (streaming). -/
def writeFileFromReader (name : String) (reader : Answers) (size : Nat) : ExfatM Unit := do
  let writer ← ExfatFileWriter.create name size
  let writer ← doStreamWrite writer reader
  writer.finish

/-- Write a file from a reader with overwrite option. -/
def writeFileFromReaderOverwrite (name : String) (reader : Answers) (size : Nat) (overwrite : Bool) :
    ExfatM Unit := do
  let writer ← ExfatFileWriter.createOverwrite name size overwrite
  let writer ← doStreamWrite writer reader
  writer.finish

end

/-! ## Calls -/

/-- The public operations that have the filesystem for one call. -/
inductive PublicCall
  | listFiles
  | listFilesAt (path : String)
  | listFilesRecursive (passes : Nat)
  | writeFile (name : String) (data : List UInt8)
  | writeFileOverwrite (name : String) (data : List UInt8) (overwrite : Bool)
  | writeFilePath (path : String) (data : List UInt8) (createParents overwrite : Bool)
  | readFile (name : String)
  | readFilePath (path : String)
  | getFileInfoPath (path : String)
  | deleteFile (name : String)
  | deletePath (path : String)
  | deleteRecursive (depth : Nat) (path : String)
  | createDirectory (path : String) (createParents : Bool)
  | readFileToWriter (name : String) (sink : Sink)
  | readFilePathToWriter (path : String) (sink : Sink)
  | writeFileFromReader (name : String) (reader : Answers) (size : Nat)
  | writeFileFromReaderOverwrite (name : String) (reader : Answers) (size : Nat) (overwrite : Bool)
  | writeFileFromReaderPath (path : String) (reader : Answers) (size : Nat)
      (createParents overwrite : Bool)

/-- The calls that may write to the image. -/
def PublicCall.writes : PublicCall → Bool
  | writeFile _ _ | writeFileOverwrite _ _ _ | writeFilePath _ _ _ _ => true
  | deleteFile _ | deletePath _ | deleteRecursive _ _ | createDirectory _ _ => true
  | writeFileFromReader _ _ _ | writeFileFromReaderOverwrite _ _ _ _ => true
  | writeFileFromReaderPath _ _ _ _ _ => true
  | _ => false

/-- The public constructors of a writer. -/
inductive Opening
  | create (name : String) (totalSize : Nat)
  | createOverwrite (name : String) (totalSize : Nat) (overwrite : Bool)
  | createAtPath (path : String) (totalSize : Nat) (createParents overwrite : Bool)

section

variable [Lowercase]

/-- A call, whose answer is dropped. -/
def PublicCall.run : PublicCall → ExfatM Unit
  | listFiles => discard Exfat.listFiles
  | listFilesAt path => discard (Exfat.listFilesAt path)
  | listFilesRecursive passes => discard (Exfat.listFilesRecursive passes)
  | writeFile name data => Exfat.writeFile name data
  | writeFileOverwrite name data overwrite => Exfat.writeFileOverwrite name data overwrite
  | writeFilePath path data createParents overwrite =>
    Exfat.writeFilePath path data createParents overwrite
  | readFile name => discard (Exfat.readFile name)
  | readFilePath path => discard (Exfat.readFilePath path)
  | getFileInfoPath path => discard (Exfat.getFileInfoPath path)
  | deleteFile name => Exfat.deleteFile name
  | deletePath path => Exfat.deletePath path
  | deleteRecursive depth path => Exfat.deleteRecursive depth path
  | createDirectory path createParents => Exfat.createDirectory path createParents
  | readFileToWriter name sink => discard (Exfat.readFileToWriter name sink)
  | readFilePathToWriter path sink => discard (Exfat.readFilePathToWriter path sink)
  | writeFileFromReader name reader size => Exfat.writeFileFromReader name reader size
  | writeFileFromReaderOverwrite name reader size overwrite =>
    Exfat.writeFileFromReaderOverwrite name reader size overwrite
  | writeFileFromReaderPath path reader size createParents overwrite =>
    Exfat.writeFileFromReaderPath path reader size createParents overwrite

def Opening.run : Opening → ExfatM ExfatFileWriter
  | create name totalSize => ExfatFileWriter.create name totalSize
  | createOverwrite name totalSize overwrite =>
    ExfatFileWriter.createOverwrite name totalSize overwrite
  | createAtPath path totalSize createParents overwrite =>
    ExfatFileWriter.createAtPath path totalSize createParents overwrite

end

/-! ## Sessions -/

/-- Who has the filesystem: the program, or a writer or a reader that borrows it. -/
inductive Session
  | idle (fs : ExfatFs)
  | writing (writer : ExfatFileWriter) (fs : ExfatFs)
  | reading (reader : ExfatFileReader)

/-- What a program asks for. -/
inductive Request
  | call (call : PublicCall)
  | openWriter (opening : Opening)
  | write (data : List UInt8)
  | finish
  | openReader (source : Source)
  | read (call : ReaderCall)
  | drop

namespace Session

def fs : Session → ExfatFs
  | idle fs => fs
  | writing _ fs => fs
  | reading reader => reader.fs

variable [Lowercase]

/-- One request. A constructor that fails gives the filesystem back, and a writer whose
write fails is dropped; what the borrow does not admit is no request. -/
def next : Session → Request → Session
  | idle fs, .call call => .idle (endState (call.run.run fs))
  | idle fs, .openWriter opening =>
    match opening.run.run fs with
    | .ok writer fs => .writing writer fs
    | .error _ fs => .idle fs
  | idle fs, .openReader source =>
    match source.open.run fs with
    | .ok reader _ => .reading reader
    | .error _ fs => .idle fs
  | writing writer fs, .write data =>
    match (writer.write data).run fs with
    | .ok (writer, _) fs => .writing writer fs
    | .error _ fs => .idle fs
  | writing writer fs, .finish => .idle (endState (writer.finish.run fs))
  | writing _ fs, .drop => .idle fs
  | reading reader, .read call => .reading (call.run reader).2
  | reading reader, .drop => .idle reader.fs
  | session, _ => session

/-- What a row of requests leads to. -/
def after (session : Session) (requests : List Request) : Session := requests.foldl next session

end Session

end StreamBox.Exfat
