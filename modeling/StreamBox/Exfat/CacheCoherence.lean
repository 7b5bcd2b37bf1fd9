import StreamBox.Exfat.KeptTree
import StreamBox.Exfat.ReadingCalls

/-!
# Cache coherence

What the FAT cache and the bitmap cache say is what the image holds.

* **Loads** — a segment of the FAT is loaded as it is stored, wherever it starts, so every
  operation that only reads keeps the caches coherent on any image (`Coherent.load`).
* **Segments** — a listing may follow a file as if it were a directory and load a segment that
  starts behind the FAT; an operation that writes first looks up an entry of the root directory,
  which is not in such a segment (`Starts`).
* **Sessions** — on a well-formed volume the caches are coherent after every request, whether it
  succeeds or not (`caches_coherent`).
-/

namespace StreamBox.Exfat

/-! ## Coherent caches -/

/-- The caches agree with the image. -/
structure Coherent (fs : ExfatFs) : Prop where
  fat : ∀ c entry, fs.fatCache.get c = some entry →
    (fs.file.read (fs.fatEntryOffset c) 4).map ofLeBytes = some entry
  bitmap : ∀ bitmap, fs.bitmapCache = some bitmap →
    fs.file.read (fs.clusterToOffset 2) fs.clusterSize = some bitmap

/-- The number of entries of a segment that is loaded. -/
def segmentLength (g : VolumeParams) (c : Nat) : Nat :=
  min fatCacheEntries (wrappingSub32 (wrap32 (g.clusterCount + 2)) c)

/-- The segment of these entries. -/
def readSegment (c len : Nat) (buffer : List UInt8) : FatCache where
  startCluster := c
  entries := (List.range len).map fun k => leAt buffer (k * 4) 4

@[simp] theorem length_readSegment (c len : Nat) (buffer : List UInt8) :
    (readSegment c len buffer).entries.length = len := by simp [readSegment]

/-- A load does nothing, or it caches the entries that the image holds. -/
theorem loadFatSegment_settles (fs : ExfatFs) (c : Nat) :
    Settles (loadFatSegment c) fs fun fs' => fs' = fs ∨ ∃ buffer,
      fs.file.read (fs.fatEntryOffset c) (segmentLength fs.toVolumeParams c * 4) = some buffer ∧
      fs' = { fs with fatCache := readSegment c (segmentLength fs.toVolumeParams c) buffer } := by
  refine Settles.of_run (x := get) rfl ?_
  dsimp only [segmentLength]
  generalize min fatCacheEntries (wrappingSub32 (wrap32 (fs.clusterCount + 2)) c) = len
  split
  · exact Settles.pure (Or.inl rfl)
  · cases hread : fs.file.read (fs.fatEntryOffset c) (len * 4) with
    | none =>
      have hrun : (readAt (fs.fatEntryOffset c) (len * 4)).run fs
          = .error (.io "failed to fill whole buffer") fs := by
        simp only [readAt, run_get_bind, hread, run_throw]
      exact Settles.of_failed hrun (Or.inl rfl)
    | some buffer =>
      have hrun : (readAt (fs.fatEntryOffset c) (len * 4)).run fs = .ok buffer fs := by
        simp only [readAt, run_get_bind, hread, run_pure]
      exact Settles.of_run hrun
        (Settles.of_returns (Returns.of_eq (run_modify _ fs) (Or.inr ⟨buffer, rfl, rfl⟩)))

/-- A segment that has been read is what the image holds. -/
theorem Coherent.load {fs : ExfatFs} (h : Coherent fs) {c len : Nat} {buffer : List UInt8}
    (hread : fs.file.read (fs.fatEntryOffset c) (len * 4) = some buffer) :
    Coherent { fs with fatCache := readSegment c len buffer } := by
  refine ⟨fun c' entry hget => ?_, h.bitmap⟩
  obtain ⟨hlo, hhi, rfl⟩ := FatCache.get_eq_some hget
  rw [length_readSegment] at hhi
  dsimp only [readSegment] at hlo hhi ⊢
  have hoffset : fs.fatEntryOffset c' = fs.fatEntryOffset c + (c' - c) * 4 := by
    simp only [VolumeParams.fatEntryOffset]
    omega
  rw [List.getD_eq_getElem _ _ (by simp; omega), List.getElem_map, List.getElem_range, hoffset,
    Image.read_inside hread (by omega)]
  rfl

/-- The caches of a filesystem that stores a disk. -/
theorem Represents.coherent {g : VolumeParams} {d : Disk} {fs : ExfatFs} (h : Represents g d fs) :
    Coherent fs := by
  obtain rfl := h.params
  have hcount := h.valid.countLt
  have hheap := h.valid.heapRoom
  constructor
  · intro c entry hget
    have hc : c < fs.clusterCount + 2 := by
      refine Nat.lt_of_not_le fun hle => ?_
      rw [FatCache.get_beyond h.cacheEnd hle] at hget
      cases hget
    have hentry := VolumeParams.fatEntry_end h.valid hc
    rw [Image.read, if_pos (by omega), Option.map_some, h.fat_eq hc, h.fatCached c entry hget]
  · intro bitmap hbitmap
    have hbytes := VolumeParams.cluster_end h.valid h.bitmap_inHeap
    rw [Image.read, if_pos (by omega), h.cluster_eq h.bitmap_inHeap, h.bitmapCached bitmap hbitmap]

section

variable [Lowercase]

/-! ## Sound caches -/

/-- The filesystem with no FAT entries cached. -/
def ExfatFs.uncached (fs : ExfatFs) : ExfatFs := { fs with fatCache := {} }

/-- A segment inside the FAT, or one behind it. -/
def FatCache.Apart (cache : FatCache) (top : Nat) : Prop :=
  cache.entries = [] ∨ cache.startCluster + cache.entries.length ≤ top ∨ top ≤ cache.startCluster

/-- A volume that stores a tree, with coherent caches. -/
structure Sound (fs : ExfatFs) : Prop where
  tree : StoresTree fs.uncached
  coherent : Coherent fs
  apart : fs.fatCache.Apart (fs.clusterCount + 2)

variable {fs : ExfatFs}

theorem StoresTree.sound (h : StoresTree fs) : Sound fs := by
  obtain ⟨g, hg, t, label, ⟨d, hrep, hholds⟩, hwf⟩ := h
  refine ⟨⟨g, hg, t, label, ⟨d, ?_, hholds⟩, hwf⟩, hrep.coherent, ?_⟩
  · refine ⟨hrep.params, hrep.valid, hrep.disk, fun c entry hget => ?_, Or.inl rfl,
      hrep.bitmapCached⟩
    cases hget
  · rw [hrep.params]
    exact hrep.cacheEnd.imp_right Or.inl

/-- A segment inside the FAT is one of the tree's. -/
theorem Sound.storesTree (h : Sound fs) (hend : fs.fatCache.entries = [] ∨
    fs.fatCache.startCluster + fs.fatCache.entries.length ≤ fs.clusterCount + 2) :
    StoresTree fs := by
  obtain ⟨g, hg, t, label, ⟨d, hrep, hholds⟩, hwf⟩ := h.tree
  refine ⟨g, hg, t, label, ⟨d, ?_, hholds⟩, hwf⟩
  obtain rfl : fs.toVolumeParams = g := hrep.params
  refine ⟨rfl, hrep.valid, hrep.disk, fun c entry hget => ?_, hend, hrep.bitmapCached⟩
  have hstored := h.coherent.fat c entry hget
  have hc : c < fs.clusterCount + 2 := by
    refine Nat.lt_of_not_le fun hle => ?_
    rw [FatCache.get_beyond hend hle] at hget
    cases hget
  rw [Image.read] at hstored
  split at hstored
  · rw [← Option.some.inj hstored]
    exact hrep.fat_eq hc
  · cases hstored

/-- A load keeps the caches sound, whatever cluster it starts at. -/
theorem loadFatSegment_sound (c : Nat) : Preserves Sound (loadFatSegment c) := by
  intro fs h
  refine (loadFatSegment_settles fs c).mono ?_
  rintro fs' (rfl | ⟨buffer, hread, rfl⟩)
  · exact h
  · refine ⟨h.tree, h.coherent.load hread, Or.inr ?_⟩
    obtain ⟨g, -, t, label, ⟨d, hrep, -⟩, -⟩ := h.tree
    obtain rfl : fs.toVolumeParams = g := hrep.params
    have hcount : fs.clusterCount + 2 < 0xFFFFFFF8 := hrep.valid.countLt
    rw [length_readSegment, segmentLength, wrap32_of_lt (by omega)]
    dsimp only [readSegment]
    by_cases hc : c < fs.clusterCount + 2
    · rw [wrappingSub32_of_le (by omega) (by omega)]
      omega
    · omega

/-- An operation that only reads keeps the caches sound. -/
theorem Reads.sound {α : Type} {op : ExfatM α} (h : Reads op) : Preserves Sound op :=
  h Sound loadFatSegment_sound

/-! ## Segments behind the FAT -/

/-- The operation runs as with nothing cached, or it fails at once. -/
def Starts {α : Type} (op : ExfatM α) (fs : ExfatFs) : Prop :=
  op.run fs = op.run fs.uncached ∨ ∃ e, op.run fs = .error e fs

/-- The segment that is cached starts behind the FAT. -/
structure Behind (fs : ExfatFs) : Prop where
  represents : ∃ g d, Represents g d fs.uncached
  start : fs.clusterCount + 2 ≤ fs.fatCache.startCluster

namespace Starts

variable {α β : Type}

omit [Lowercase] in
theorem throw {e : VentoyError} : Starts (throw e : ExfatM α) fs := Or.inr ⟨e, rfl⟩

omit [Lowercase] in
theorem bind {x : ExfatM α} {f : α → ExfatM β} (h : Starts x fs) : Starts (x >>= f) fs := by
  rcases h with heq | ⟨e, herror⟩
  · exact Or.inl (bind_of_eq heq)
  · exact Or.inr ⟨e, bind_of_error herror⟩

omit [Lowercase] in
/-- A program that reads a parameter of the volume. -/
theorem of_get {f : ExfatFs → ExfatM α} (hsame : f fs = f fs.uncached) (h : Starts (f fs) fs) :
    Starts (get >>= f) fs := by
  rcases h with heq | ⟨e, herror⟩
  · refine Or.inl ?_
    rw [run_get_bind, run_get_bind, ← hsame, heq]
  · refine Or.inr ⟨e, ?_⟩
    rw [run_get_bind, herror]

end Starts

namespace Behind

omit [Lowercase] in
theorem readFatEntry_eq (h : Behind fs) {c : Nat} (hc : c < fs.clusterCount + 2) :
    (readFatEntry c).run fs = (readFatEntry c).run fs.uncached := by
  obtain ⟨g, d, hrep⟩ := h.represents
  obtain rfl : fs.toVolumeParams = g := hrep.params
  have hmiss : fs.fatCache.get c = none := by
    cases hget : fs.fatCache.get c with
    | none => rfl
    | some entry =>
      obtain ⟨hlo, -⟩ := FatCache.get_eq_some hget
      have hstart := h.start
      omega
  have hmiss' : fs.uncached.fatCache.get c = none := rfl
  have hload : (loadFatSegment c).run fs = (loadFatSegment c).run fs.uncached :=
    (loadFatSegment_eq hrep hc fs.fatCache).trans (loadFatSegment_eq hrep hc {}).symm
  simp only [readFatEntry, run_get_bind, hmiss, hmiss']
  exact bind_of_eq hload

omit [Lowercase] in
/-- The chain of the root directory does not depend on the segment. -/
theorem readClusterChain_eq (h : Behind fs) :
    (readClusterChain fs.firstClusterOfRoot).run fs
      = (readClusterChain fs.firstClusterOfRoot).run fs.uncached := by
  obtain ⟨g, d, hrep⟩ := h.represents
  obtain rfl : fs.toVolumeParams = g := hrep.params
  have hlo := hrep.valid.rootLo
  have hhi := hrep.valid.rootHi
  have hcount := hrep.valid.countLt
  have hlink : isLink fs.firstClusterOfRoot = true := by
    simp only [isLink, Bool.and_eq_true, decide_eq_true_eq]
    omega
  rw [readClusterChain, run_get_bind, run_get_bind]
  show (readClusterChainFrom (fs.clusterCount + 1) [] _).run fs
    = (readClusterChainFrom (fs.clusterCount + 1) [] _).run fs.uncached
  rw [readClusterChainFrom, if_pos hlink]
  exact bind_of_eq (h.readFatEntry_eq hhi)

theorem findEntry_eq (h : Behind fs) (name : String) :
    (findEntryInDirectory fs.firstClusterOfRoot name).run fs
      = (findEntryInDirectory fs.firstClusterOfRoot name).run fs.uncached :=
  bind_of_eq h.readClusterChain_eq

/-- The first component of a path is looked up in the root directory. -/
theorem resolvePath_starts (h : Behind fs) (path : String) (createParents : Bool) :
    Starts (resolvePath path createParents) fs := by
  refine Starts.of_get rfl ?_
  cases (parsePath path).getLast? with
  | none => exact Starts.throw
  | some name =>
    cases (parsePath path).dropLast with
    | nil =>
      show Starts ((pure fs.firstClusterOfRoot : ExfatM Nat) >>= _) fs
      rw [pure_bind]
      exact Starts.bind (Or.inl (h.findEntry_eq name))
    | cons component rest =>
      exact Starts.bind (Starts.bind (Or.inl (h.findEntry_eq component)))

theorem writer_starts (h : Behind fs) (target : Target) (totalSize : Nat) :
    Starts (target.writer totalSize) fs := by
  cases target with
  | root name overwrite =>
    refine Starts.of_get rfl ?_
    unfold ExfatFileWriter.createInDirectory
    split
    · exact Starts.throw
    · exact Starts.bind (Or.inl (h.findEntry_eq name))
  | path path createParents overwrite => exact Starts.bind (h.resolvePath_starts path createParents)

/-- A call that writes first looks up an entry of the root directory. -/
theorem call_starts (h : Behind fs) (call : PublicCall) (hwrites : call.writes = true) :
    Starts call.run fs := by
  cases call with
  | writeFile name data =>
    show Starts (Exfat.writeFile name data) fs
    unfold Exfat.writeFile
    split
    · exact Starts.throw
    · exact Starts.of_get rfl (Starts.bind (Or.inl (h.findEntry_eq name)))
  | writeFileOverwrite name data overwrite =>
    show Starts (Exfat.writeFileOverwrite name data overwrite) fs
    unfold Exfat.writeFileOverwrite
    split
    · exact Starts.throw
    · exact Starts.of_get rfl (Starts.bind (Or.inl (h.findEntry_eq name)))
  | writeFilePath path data createParents overwrite =>
    exact Starts.bind (h.resolvePath_starts path createParents)
  | deleteFile name => exact Starts.of_get rfl (Starts.bind (Or.inl (h.findEntry_eq name)))
  | deletePath path => exact Starts.bind (h.resolvePath_starts path false)
  | deleteRecursive depth path =>
    cases depth with
    | zero => exact Starts.throw
    | succ depth => exact Starts.bind (h.resolvePath_starts path false)
  | createDirectory path createParents => exact Starts.bind (h.resolvePath_starts path createParents)
  | writeFileFromReader name reader size => exact Starts.bind (h.writer_starts (.root name false) size)
  | writeFileFromReaderOverwrite name reader size overwrite =>
    exact Starts.bind (h.writer_starts (.root name overwrite) size)
  | writeFileFromReaderPath path reader size createParents overwrite =>
    exact Starts.bind (h.writer_starts (.path path createParents overwrite) size)
  | listFiles | listFilesAt | listFilesRecursive | readFile | readFilePath | getFileInfoPath
  | readFileToWriter | readFilePathToWriter => cases hwrites

end Behind

/-! ## Runs from sound caches -/

/-- Sound caches are a tree's, or their segment is behind the FAT. -/
theorem Sound.cases (h : Sound fs) : StoresTree fs ∨ StoresTree fs.uncached ∧ Behind fs := by
  obtain ⟨g, hg, t, label, ⟨d, hrep, hholds⟩, hwf⟩ := h.tree
  rcases h.apart with hnil | hend | hstart
  · exact Or.inl (h.storesTree (Or.inl hnil))
  · exact Or.inl (h.storesTree (Or.inr hend))
  · exact Or.inr ⟨h.tree, ⟨g, d, hrep⟩, hstart⟩

/-- An operation that starts at the root directory runs as from a tree, or fails at once. -/
theorem Sound.runs {α : Type} {op : ExfatM α} (h : Sound fs)
    (hstarts : Behind fs → Starts op fs) :
    (∃ fs₁, StoresTree fs₁ ∧ op.run fs = op.run fs₁) ∨ ∃ e, op.run fs = .error e fs := by
  rcases h.cases with htree | ⟨htree, hbehind⟩
  · exact Or.inl ⟨fs, htree, rfl⟩
  · exact (hstarts hbehind).imp_left fun heq => ⟨fs.uncached, htree, heq⟩

/-- However a public call ends, the caches are sound. -/
theorem PublicCall.preserves_sound (call : PublicCall) : Preserves Sound call.run := by
  intro fs h
  cases hwrites : call.writes with
  | false => exact (call.reads hwrites).sound fs h
  | true =>
    rw [settles_iff]
    rcases h.runs fun hbehind => hbehind.call_starts call hwrites with
      ⟨fs₁, ⟨g, hg, htree⟩, heq⟩ | ⟨e, herror⟩
    · rw [heq]
      exact StoresTree.sound ⟨g, hg, settles_iff.mp (call.settles_tree htree hg hwrites)⟩
    · rw [herror]
      exact h

/-! ## Sessions -/

/-- Whoever has the filesystem, its caches are sound, and an open writer has its file. -/
inductive SoundSession : Session → Prop
  | idle {fs : ExfatFs} : Sound fs → SoundSession (.idle fs)
  | writing {g : VolumeParams} {writer : ExfatFileWriter} {fs : ExfatFs} : g.Fits →
      Writing g writer fs → SoundSession (.writing writer fs)
  | reading {reader : ExfatFileReader} : Sound reader.fs → SoundSession (.reading reader)

theorem Writing.sound {g : VolumeParams} {writer : ExfatFileWriter} (h : Writing g writer fs)
    (hg : g.Fits) : Sound fs := StoresTree.sound ⟨g, hg, h.isTree⟩

theorem SoundSession.sound {session : Session} (h : SoundSession session) : Sound session.fs := by
  cases h with
  | idle h => exact h
  | writing hg h => exact h.sound hg
  | reading h => exact h

theorem Sound.openWriter (h : Sound fs) (opening : Opening) :
    SoundSession ((Session.idle fs).next (.openWriter opening)) := by
  have hstarts : Behind fs → Starts opening.run fs := fun hbehind =>
    opening.run_eq ▸ hbehind.writer_starts opening.target opening.totalSize
  rw [Session.next]
  rcases h.runs hstarts with ⟨fs₁, ⟨g, hg, t, label, h₁, hwf⟩, heq⟩ | ⟨e, herror⟩
  · rw [heq, opening.run_eq]
    cases hrun : (opening.target.writer opening.totalSize).run fs₁ with
    | ok writer fs₂ => exact .writing hg (opening.target.writer_writing h₁ hg hwf _ _ _ hrun)
    | error e fs₂ =>
      exact .idle (StoresTree.sound ⟨g, hg, opening.target.writer_fails h₁ hg.bitmap hwf _ _ _ hrun⟩)
  · rw [herror]
    exact .idle h

theorem Sound.openReader (h : Sound fs) (source : Source) :
    SoundSession ((Session.idle fs).next (.openReader source)) := by
  have hsound := source.open_reads.sound fs h
  rw [Session.next]
  cases hrun : source.open.run fs with
  | ok reader fs₁ =>
    refine .reading ?_
    rw [source.open_fs fs reader fs₁ hrun]
    exact hsound.ok reader fs₁ hrun
  | error e fs₁ => exact .idle (hsound.error e fs₁ hrun)

/-- One request keeps the caches sound. -/
theorem SoundSession.next {session : Session} (h : SoundSession session) (request : Request) :
    SoundSession (session.next request) := by
  cases h with
  | @idle fs h =>
    cases request with
    | call call => exact .idle (settles_iff.mp (call.preserves_sound fs h))
    | openWriter opening => exact h.openWriter opening
    | openReader source => exact h.openReader source
    | write | finish | read | drop => exact .idle h
  | @writing g writer fs hg h =>
    cases request with
    | write data =>
      obtain ⟨⟨writer', n⟩, fs', hrun, h'⟩ := h.write data
      rw [Session.next, hrun]
      exact .writing hg h'
    | finish => exact .idle (StoresTree.sound ⟨g, hg, settles_iff.mp (h.finish hg)⟩)
    | drop => exact .idle (h.sound hg)
    | call | openWriter | openReader | read => exact .writing hg h
  | @reading reader h =>
    cases request with
    | read call =>
      refine .reading ?_
      rw [call.run_fs]
      exact h
    | drop => exact .idle h
    | call | openWriter | write | finish | openReader => exact .reading h

/-- A row of requests keeps the caches sound. -/
theorem SoundSession.after {session : Session} (h : SoundSession session)
    (requests : List Request) : SoundSession (session.after requests) := by
  induction requests generalizing session with
  | nil => exact h
  | cons request rest ih => exact ih (h.next request)

/-! ## Well-formed volumes -/

/-- A volume whose parameters leave room for its regions, whose bitmap fits its cluster and whose
clusters hold a directory tree. -/
structure WellFormed (fs : ExfatFs) : Prop where
  fits : fs.toVolumeParams.Fits
  valid : fs.toVolumeParams.Valid fs.file.size
  tree : ∃ t label, Holds fs.toVolumeParams fs.disk t ∧ Wf fs.toVolumeParams t label

omit [Lowercase] in
/-- A filesystem that is opened has nothing cached. -/
theorem ExfatFs.openImage_caches {file : Image} {layout : PartitionLayout} {clock : List Nat}
    (hopen : ExfatFs.openImage file layout clock = .ok fs) :
    fs.fatCache = {} ∧ fs.bitmapCache = none := by
  unfold ExfatFs.openImage at hopen
  dsimp only at hopen
  split at hopen
  · cases hopen
  · split at hopen
    · cases hopen
    · rw [← Except.ok.inj hopen]
      exact ⟨rfl, rfl⟩

theorem WellFormed.storesTree (h : WellFormed fs) (hfat : fs.fatCache = {})
    (hbitmap : fs.bitmapCache = none) : StoresTree fs := by
  obtain ⟨t, label, hholds, hwf⟩ := h.tree
  refine ⟨fs.toVolumeParams, h.fits, t, label, ⟨fs.disk, ?_, hholds⟩, hwf⟩
  refine ⟨rfl, h.valid, rfl, fun c entry hget => ?_, Or.inl (by rw [hfat]), fun b hb => ?_⟩
  · rw [hfat] at hget
    cases hget
  · rw [hbitmap] at hb
    cases hb

/-- A volume that stores a tree is well formed. -/
theorem StoresTree.wellFormed (h : StoresTree fs) : WellFormed fs := by
  obtain ⟨g, hg, t, label, ⟨d, hrep, hholds⟩, hwf⟩ := h
  obtain rfl := hrep.params
  obtain rfl := hrep.disk
  exact ⟨hg, hrep.valid, t, label, hholds, hwf⟩

/-- A new volume is well formed. -/
theorem NewVolume.wellFormed (h : NewVolume fs) : WellFormed fs := by
  obtain ⟨g, t, label, hg, hstores, hwf, -⟩ := h.blank
  exact StoresTree.wellFormed ⟨g, hg, t, label, hstores, hwf⟩

/-- **Cache coherence.** On a well-formed volume the caches agree with the image after every
request of a program, however the requests before it have ended. -/
theorem caches_coherent {file : Image} {layout : PartitionLayout} {clock : List Nat}
    (hopen : ExfatFs.openImage file layout clock = .ok fs) (hwf : WellFormed fs)
    (requests : List Request) : Coherent ((Session.idle fs).after requests).fs := by
  obtain ⟨hfat, hbitmap⟩ := ExfatFs.openImage_caches hopen
  have hsound : SoundSession (.idle fs) := .idle (hwf.storesTree hfat hbitmap).sound
  exact (hsound.after requests).sound.coherent

/-- The bitmap that is cached after a call on an opened image is not the image's. -/
def staleAfter (file : Image) (layout : PartitionLayout) (call : PublicCall) : Bool :=
  match ExfatFs.openImage file layout [] with
  | .error _ => false
  | .ok fs =>
    match call.run.run fs with
    | .error _ _ => false
    | .ok _ fs =>
      fs.bitmapCache.any fun bitmap =>
        fs.file.read (fs.clusterToOffset 2) fs.clusterSize != some bitmap

theorem staleAfter_incoherent {file : Image} {layout : PartitionLayout} {call : PublicCall}
    (h : staleAfter file layout call = true) : ∃ fs fs',
      ExfatFs.openImage file layout [] = .ok fs ∧ call.run.run fs = .ok () fs' ∧ ¬ Coherent fs' := by
  unfold staleAfter at h
  split at h
  · cases h
  · rename_i fs hopen
    split at h
    · cases h
    · rename_i fs' hrun
      obtain ⟨bitmap, hbitmap, hstale⟩ := (Option.any_eq_true _ _).mp h
      refine ⟨fs, fs', hopen, hrun, fun hcoherent => ?_⟩
      rw [hcoherent.bitmap bitmap hbitmap] at hstale
      simp at hstale

end

/-- A file is written to a new volume, listed and deleted, and a writer is dropped. -/
theorem volume64MB_coherent : ∃ file layout clock,
    ExfatFs.openImage file layout clock = .ok volume64MB ∧
      Coherent (@Session.after ⟨id⟩ (.idle volume64MB)
        [.call (.writeFile "a" [1]), .call (.listFilesRecursive 9), .openWriter (.create "b" 5000),
          .write [1, 2], .drop, .call (.deleteFile "a")]).fs := by
  obtain ⟨hsize, haccepted, hfits, hformat, hfile, hopen⟩ := volume64MB_new
  have hwf : @WellFormed ⟨id⟩ volume64MB := @NewVolume.wellFormed ⟨id⟩ _ volume64MB_new
  exact ⟨_, _, _, hopen, @caches_coherent ⟨id⟩ _ _ _ _ hopen hwf _⟩

/-- An image whose boot sector puts the root directory into the cluster of the bitmap. -/
def sharedCluster : Image :=
  let volume := (PartitionLayout.ofSize (64 * 1024 * 1024)).dataOffset
  let blank : Image := { size := 64 * 1024 * 1024, byte := fun _ => 0 }
  let fatAndHeap := leBytes 4 1 ++ leBytes 4 1 ++ leBytes 4 2 ++ leBytes 4 16
  let root := leBytes 4 2
  (((blank.write (volume + 3) [0x45, 0x58, 0x46, 0x41, 0x54, 0x20, 0x20, 0x20]).write (volume + 80)
    (fatAndHeap ++ root)).write (volume + 108) [9, 0]).write (volume + 512 + 2 * 4)
    (leBytes 4 fatEntryEndOfChain)

/-- A file is created there: its entry is written over the bitmap. -/
theorem shared_cluster_incoherent : ∃ fs fs',
    ExfatFs.openImage sharedCluster (PartitionLayout.ofSize (64 * 1024 * 1024)) [] = .ok fs ∧
      (@PublicCall.run ⟨id⟩ (.writeFile "a" [1])).run fs = .ok () fs' ∧ ¬ Coherent fs' := by
  have hstale : @staleAfter ⟨id⟩ sharedCluster (PartitionLayout.ofSize (64 * 1024 * 1024))
      (.writeFile "a" [1]) = true := by decide +kernel
  exact @staleAfter_incoherent ⟨id⟩ _ _ _ hstale

end StreamBox.Exfat
