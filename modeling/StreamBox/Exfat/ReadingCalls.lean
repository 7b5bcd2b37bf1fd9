import StreamBox.Exfat.PublicCalls
import StreamBox.Exfat.Reading

/-!
# Calls that only read

The listings, the readers and the streams out of the filesystem.

* **Readers** — a reader has loaded what it needs of the FAT when it is open; its calls read
  clusters, and leave the filesystem it borrows as it was.
* **Calls** — so a public operation that does not write preserves what a load of a FAT segment
  preserves (`PublicCall.reads`).
-/

namespace StreamBox.Exfat

/-! ## Readers -/

namespace ExfatFileReader

theorem fromLocation_reads (location : FileEntryLocation) : Reads (fromLocation location) := by
  unfold fromLocation
  split
  · exact (readClusterChain_reads _).bind fun chain => .get_bind fun fs => .pure
  · exact Reads.pure.bind fun chain => .get_bind fun fs => .pure

/-- A reader takes the filesystem as it is. -/
theorem fromLocation_fs (location : FileEntryLocation) (fs : ExfatFs) :
    Ensures (fromLocation location) fs fun reader fs' => reader.fs = fs' := by
  unfold fromLocation
  split
  · exact Ensures.bind_each fun chain fs₁ => Ensures.of_run (x := get) rfl (Ensures.pure rfl)
  · exact Ensures.bind_each fun chain fs₁ => Ensures.of_run (x := get) rfl (Ensures.pure rfl)

section

variable [Lowercase]

theorem open_reads (name : String) : Reads (ExfatFileReader.open name) := by
  refine .get_bind fun fs => (findEntryInDirectory_reads _ name).bind fun found => ?_
  cases found with
  | none => exact .throw
  | some location =>
    dsimp only
    split
    · exact .throw
    · exact fromLocation_reads location

theorem openPath_reads (path : String) : Reads (openPath path) := by
  refine (resolvePath_reads path).bind fun resolved => ?_
  cases resolved.location with
  | none => exact .throw
  | some location =>
    dsimp only
    split
    · exact .throw
    · exact fromLocation_reads location

theorem open_fs (name : String) (fs : ExfatFs) :
    Ensures (ExfatFileReader.open name) fs fun reader fs' => reader.fs = fs' := by
  refine Ensures.of_run (x := get) rfl (Ensures.bind_each fun found fs₁ => ?_)
  cases found with
  | none => exact Ensures.throw
  | some location =>
    dsimp only
    split
    · exact Ensures.throw
    · exact fromLocation_fs location fs₁

theorem openPath_fs (path : String) (fs : ExfatFs) :
    Ensures (openPath path) fs fun reader fs' => reader.fs = fs' := by
  refine Ensures.bind_each fun resolved fs₁ => ?_
  cases resolved.location with
  | none => exact Ensures.throw
  | some location =>
    dsimp only
    split
    · exact Ensures.throw
    · exact fromLocation_fs location fs₁

end

/-- What an operation of the filesystem preserves, it preserves for the reader. -/
theorem onFs_preserves {α : Type} {inv : ExfatFs → Prop} {op : ExfatM α} (h : Preserves inv op) :
    Preserves (fun reader => inv reader.fs) (onFs op) := by
  intro reader hreader
  have hend : endState ((onFs op).run reader)
      = { reader with fs := endState (op.run reader.fs) } := by
    show endState (onFs op reader) = _
    unfold onFs
    cases op.run reader.fs <;> rfl
  rw [settles_iff, hend]
  exact settles_iff.mp (h reader.fs hreader)

theorem mapErr_preserves {α : Type} {inv : ExfatFileReader → Prop}
    {op : EStateM VentoyError ExfatFileReader α} (h : Preserves inv op) :
    Preserves inv (mapErr op) := by
  intro reader hreader
  have hend : endState ((mapErr op).run reader) = endState (op.run reader) := by
    show endState (mapErr op reader) = _
    unfold mapErr
    cases op.run reader <;> rfl
  rw [settles_iff, hend]
  exact settles_iff.mp (h reader hreader)

/-- A cluster that is read leaves the filesystem as it was. -/
theorem readClusterCached_fs (fs : ExfatFs) (clusterIndex : Nat) :
    Preserves (fun reader => reader.fs = fs) (readClusterCached clusterIndex) := by
  refine Preserves.get.bind fun reader => ?_
  cases reader.clusterChain[clusterIndex]? with
  | none => exact .throw
  | some clusterNum =>
    dsimp only
    split
    · exact .pure
    · refine (onFs_preserves (readCluster_preserves (· = fs) clusterNum)).bind fun data => ?_
      refine Preserves.bind (.modify ?_) fun _ => .pure
      exact fun _ hreader => hreader

theorem readLoop_fs (fs : ExfatFs) (clusterSize fileSize fuel : Nat) : ∀ remainingInBuf : Nat,
    Preserves (fun reader => reader.fs = fs) (readLoop clusterSize fileSize fuel remainingInBuf) := by
  induction fuel with
  | zero => exact fun _ => .pure
  | succ fuel ih =>
    intro remainingInBuf
    refine Preserves.get.bind fun reader => ?_
    split
    · refine (mapErr_preserves (readClusterCached_fs fs _)).bind fun data => ?_
      refine Preserves.bind (.modify fun _ hreader => ?_) fun _ => (ih _).bind fun more => .pure
      exact hreader
    · exact .pure

theorem read_fs (fs : ExfatFs) (len : Nat) :
    Preserves (fun reader => reader.fs = fs) (ExfatFileReader.read len) := by
  refine Preserves.get.bind fun reader => ?_
  split
  · exact .pure
  · exact readLoop_fs fs _ _ _ _

theorem seek_fs (fs : ExfatFs) (pos : SeekFrom) :
    Preserves (fun reader => reader.fs = fs) (ExfatFileReader.seek pos) := by
  refine Preserves.get.bind fun reader => ?_
  dsimp only
  split
  · exact .throw
  · refine Preserves.bind (.modify fun _ hreader => ?_) fun _ => .pure
    exact hreader

end ExfatFileReader

/-- A call on a reader leaves the filesystem as it was. -/
theorem ReaderCall.run_fs (call : ReaderCall) (reader : ExfatFileReader) :
    (call.run reader).2.fs = reader.fs := by
  cases call with
  | read len =>
    have hfs := settles_iff.mp (ExfatFileReader.read_fs reader.fs len reader rfl)
    rw [run]
    cases hrun : (ExfatFileReader.read len).run reader with
    | ok data reader' =>
      rw [hrun] at hfs
      exact hfs
    | error e reader' =>
      rw [hrun] at hfs
      exact hfs
  | seek pos =>
    have hfs := settles_iff.mp (ExfatFileReader.seek_fs reader.fs pos reader rfl)
    rw [run]
    cases hrun : (ExfatFileReader.seek pos).run reader with
    | ok p reader' =>
      rw [hrun] at hfs
      exact hfs
    | error e reader' =>
      rw [hrun] at hfs
      exact hfs

theorem ioErr_preserves {α : Type} {inv : ExfatFileReader → Prop}
    {op : EStateM IoError ExfatFileReader α} (h : Preserves inv op) : Preserves inv (ioErr op) := by
  intro reader hreader
  have hend : endState ((ioErr op).run reader) = endState (op.run reader) := by
    show endState (ioErr op reader) = _
    unfold ioErr
    cases op.run reader with
    | ok a reader' => rfl
    | error e reader' => cases e <;> rfl
  rw [settles_iff, hend]
  exact settles_iff.mp (h reader hreader)

theorem streamReadLoop_fs (fs : ExfatFs) (fuel : Nat) : ∀ (totalBytes : Nat) (sink : Sink),
    Preserves (fun reader => reader.fs = fs) (streamReadLoop fuel totalBytes sink) := by
  induction fuel with
  | zero => exact fun _ _ => .pure
  | succ fuel ih =>
    intro totalBytes sink
    refine (ioErr_preserves (ExfatFileReader.read_fs fs _)).bind fun data => ?_
    split
    · exact .pure
    · split
      · exact .throw
      · exact ih _ _

/-- Streaming to a sink gives the filesystem back as the reader took it. -/
theorem doStreamRead_settles (reader : ExfatFileReader) (sink : Sink) (fs : ExfatFs) :
    Settles (doStreamRead reader sink) fs (· = reader.fs) := by
  have hloop := settles_iff.mp
    (streamReadLoop_fs reader.fs (reader.fileSize + 1) 0 sink reader rfl)
  rw [settles_iff]
  show endState (doStreamRead reader sink fs) = _
  unfold doStreamRead
  cases hrun : (streamReadLoop (reader.fileSize + 1) 0 sink).run reader with
  | ok totalBytes reader' =>
    rw [hrun] at hloop
    exact hloop
  | error e reader' =>
    rw [hrun] at hloop
    exact hloop

/-! ## Listings -/

theorem listFiles_reads : Reads listFiles := .get_bind fun _ => listFilesInDirectory_reads _ _

section

variable [Lowercase]

theorem listFilesAt_reads (path : String) : Reads (listFilesAt path) := by
  unfold listFilesAt
  split
  · exact listFiles_reads
  · refine (resolvePath_reads path).bind fun resolved => ?_
    cases resolved.location with
    | none => exact .throw
    | some location =>
      dsimp only
      split
      · exact listFilesInDirectory_reads _ _
      · exact .throw

theorem pushDirectories_reads (dirCluster : Nat) (files : List FileInfo) :
    ∀ dirsToVisit : List (Nat × String), Reads (pushDirectories dirCluster files dirsToVisit) := by
  induction files with
  | nil => exact fun _ => .pure
  | cons file rest ih =>
    intro dirsToVisit
    rw [pushDirectories]
    split
    · refine (findEntryInDirectory_reads dirCluster file.name).bind fun found => ?_
      cases found with
      | none => exact ih _
      | some location => exact ih _
    · exact ih _

theorem listDirectories_reads (passes : Nat) : ∀ (dirsToVisit : List (Nat × String))
    (allFiles : List FileInfo), Reads (listDirectories passes dirsToVisit allFiles) := by
  induction passes with
  | zero =>
    intro dirsToVisit allFiles
    cases dirsToVisit with
    | nil => exact .pure
    | cons dir rest => exact .throw
  | succ passes ih =>
    intro dirsToVisit allFiles
    cases dirsToVisit with
    | nil => exact .pure
    | cons dir rest =>
      exact (listFilesInDirectory_reads _ _).bind fun files =>
        (pushDirectories_reads _ files rest).bind fun more => ih _ _

theorem getFileInfoPath_reads (path : String) : Reads (getFileInfoPath path) :=
  (resolvePath_reads path).bind fun _ => .pure


/-! ## Calls -/

omit [Lowercase] in
theorem Reads.discard {α : Type} {op : ExfatM α} (h : Reads op) : Reads (discard op) := by
  intro inv hload fs hfs
  have hend : endState ((Functor.discard op).run fs) = endState (op.run fs) := by
    show endState (EStateM.map _ op fs) = endState (op fs)
    unfold EStateM.map
    cases op fs <;> rfl
  rw [settles_iff, hend]
  exact settles_iff.mp (h inv hload fs hfs)

omit [Lowercase] in
/-- A stream out of a reader that may be opened. -/
theorem Reads.stream {opening : ExfatM ExfatFileReader} (hreads : Reads opening)
    (hfs : ∀ fs, Ensures opening fs fun reader fs' => reader.fs = fs') (sink : Sink) :
    Reads (do
      let reader ← opening
      doStreamRead reader sink) := by
  intro inv hload fs hinv
  have hopening := hreads inv hload fs hinv
  refine Settles.bind hopening.error (hopening.ok.and (hfs fs)) ?_
  rintro reader fs₁ ⟨hinv₁, rfl⟩
  refine (doStreamRead_settles reader sink reader.fs).mono ?_
  rintro fs₂ rfl
  exact hinv₁

/-- **Reading calls.** What a load of a FAT segment preserves, a call that does not write preserves. -/
theorem PublicCall.reads (call : PublicCall) (hreads : call.writes = false) : Reads call.run := by
  cases call with
  | listFiles => exact listFiles_reads.discard
  | listFilesAt path => exact (listFilesAt_reads path).discard
  | listFilesRecursive passes =>
    exact Reads.discard (.get_bind fun _ => listDirectories_reads passes _ _)
  | readFile name => exact (readFile_reads name).discard
  | readFilePath path => exact (readFilePath_reads path).discard
  | getFileInfoPath path => exact (getFileInfoPath_reads path).discard
  | readFileToWriter name sink =>
    exact (Reads.stream (ExfatFileReader.open_reads name) (ExfatFileReader.open_fs name) sink).discard
  | readFilePathToWriter path sink =>
    exact (Reads.stream (ExfatFileReader.openPath_reads path) (ExfatFileReader.openPath_fs path)
      sink).discard
  | writeFile | writeFileOverwrite | writeFilePath | deleteFile | deletePath | deleteRecursive
  | createDirectory | writeFileFromReader | writeFileFromReaderOverwrite
  | writeFileFromReaderPath => cases hreads

/-- A reader is opened on the filesystem as it is left. -/
theorem Source.open_reads (source : Source) : Reads source.open := by
  cases source with
  | root name => exact ExfatFileReader.open_reads name
  | path file => exact ExfatFileReader.openPath_reads file

theorem Source.open_fs (source : Source) (fs : ExfatFs) :
    Ensures source.open fs fun reader fs' => reader.fs = fs' := by
  cases source with
  | root name => exact ExfatFileReader.open_fs name fs
  | path file => exact ExfatFileReader.openPath_fs file fs

end

end StreamBox.Exfat
