import StreamBox.Exfat.Operations

/-!
# Operations that only read

They may load a segment of the FAT into its cache, and change nothing else.

* **Reads** — what a load of a segment preserves, the operation preserves (`Reads`); so it
  keeps every part of the state but the FAT cache (`Reads.keeps`).
* **Operations** — chains, lookups, listings and whole files are read, and paths are
  resolved without creating directories, on a volume with any contents.
-/

namespace StreamBox.Exfat

/-- It preserves what a load of a FAT segment preserves. -/
def Reads {α : Type} (op : ExfatM α) : Prop :=
  ∀ inv : ExfatFs → Prop, (∀ c, Preserves inv (loadFatSegment c)) → Preserves inv op

theorem readAt_preserves (inv : ExfatFs → Prop) (offset len : Nat) :
    Preserves inv (readAt offset len) := by
  refine Preserves.get.bind fun fs => ?_
  cases fs.file.read offset len with
  | some data => exact .pure
  | none => exact .throw

/-- A load changes the FAT cache alone. -/
theorem loadFatSegment_preserves {inv : ExfatFs → Prop}
    (h : ∀ fs cache, inv fs → inv { fs with fatCache := cache }) (c : Nat) :
    Preserves inv (loadFatSegment c) := by
  refine Preserves.get.bind fun fs => ?_
  dsimp only
  split
  · exact .pure
  · exact (readAt_preserves inv _ _).bind fun buffer => .modify fun fs hfs => h fs _ hfs

namespace Reads

variable {α β : Type}

theorem pure {a : α} : Reads (Pure.pure a) := fun _ _ => .pure

theorem throw {e : VentoyError} : Reads (throw e : ExfatM α) := fun _ _ => .throw

theorem bind {x : ExfatM α} {f : α → ExfatM β} (hx : Reads x) (hf : ∀ a, Reads (f a)) :
    Reads (x >>= f) := fun inv hload => (hx inv hload).bind fun a => hf a inv hload

theorem get_bind {f : ExfatFs → ExfatM β} (hf : ∀ fs, Reads (f fs)) : Reads (get >>= f) :=
  fun inv hload => Preserves.get.bind fun fs => hf fs inv hload

/-- What is read leaves every part of the state but the FAT cache. -/
theorem keeps {γ : Type} {part : ExfatFs → γ} {op : ExfatM α} (h : Reads op)
    (hpart : ∀ fs cache, part { fs with fatCache := cache } = part fs) : Keeps part op :=
  Preserves.keeps fun _ => h _ fun c =>
    loadFatSegment_preserves (fun fs cache hv => (hpart fs cache).trans hv) c

end Reads

/-! ## Clusters and chains -/

theorem readCluster_preserves (inv : ExfatFs → Prop) (c : Nat) : Preserves inv (readCluster c) :=
  Preserves.get.bind fun _ => readAt_preserves inv _ _

theorem readCluster_reads (c : Nat) : Reads (readCluster c) :=
  fun inv _ => readCluster_preserves inv c

theorem loadFatSegment_reads (c : Nat) : Reads (loadFatSegment c) := fun _ hload => hload c

theorem readFatEntry_reads (c : Nat) : Reads (readFatEntry c) := by
  refine .get_bind fun fs => ?_
  cases fs.fatCache.get c with
  | some entry => exact .pure
  | none =>
    refine (loadFatSegment_reads c).bind fun _ => .get_bind fun fs => ?_
    cases fs.fatCache.get c with
    | some entry => exact .pure
    | none => exact .throw

theorem readClusterChainFrom_reads (fuel : Nat) : ∀ (chain : List Nat) (c : Nat),
    Reads (readClusterChainFrom fuel chain c) := by
  induction fuel with
  | zero => exact fun _ _ => .throw
  | succ fuel ih =>
    intro chain c
    rw [readClusterChainFrom]
    split
    · refine (readFatEntry_reads c).bind fun next => .get_bind fun fs => ?_
      split
      · exact .throw
      · exact ih _ _
    · exact .pure

theorem readClusterChain_reads (c : Nat) : Reads (readClusterChain c) :=
  .get_bind fun _ => readClusterChainFrom_reads _ _ _

/-! ## Files and directories -/

theorem readChunks_reads (clusterSize size : Nat) (chain : List Nat) : ∀ data : List UInt8,
    Reads (readChunks clusterSize size chain data) := by
  induction chain with
  | nil => exact fun _ => .pure
  | cons c rest ih => exact fun _ => (readCluster_reads c).bind fun _ => ih _

theorem readFileFromLocation_reads (location : FileEntryLocation) :
    Reads (readFileFromLocation location) := by
  unfold readFileFromLocation
  split
  · exact .pure
  · exact .get_bind fun _ => (readClusterChain_reads _).bind fun _ => readChunks_reads _ _ _ _

theorem listInClusters_reads (currentPath : String) (clusters : List Nat) :
    ∀ (isFirst : Bool) (files : List FileInfo),
      Reads (listInClusters currentPath isFirst clusters files) := by
  induction clusters with
  | nil => exact fun _ _ => .pure
  | cons c rest ih =>
    intro isFirst files
    refine (readCluster_reads c).bind fun data => ?_
    split
    · exact .pure
    · exact ih _ _

theorem listFilesInDirectory_reads (k : Nat) (currentPath : String) :
    Reads (listFilesInDirectory k currentPath) :=
  (readClusterChain_reads k).bind fun _ => listInClusters_reads _ _ _ _

section

variable [Lowercase]

theorem findInClusters_reads (targetLower : String) (clusters : List Nat) :
    Reads (findInClusters targetLower clusters) := by
  induction clusters with
  | nil => exact .pure
  | cons c rest ih =>
    refine (readCluster_reads c).bind fun data => ?_
    split
    · exact .pure
    · exact .pure
    · exact ih

theorem findEntryInDirectory_reads (k : Nat) (name : String) :
    Reads (findEntryInDirectory k name) :=
  (readClusterChain_reads k).bind fun _ => findInClusters_reads _ _

/-- Directories that are missing are not created. -/
theorem resolveParents_reads (components : List String) : ∀ (followed : List String) (k : Nat),
    Reads (resolveParents false followed k components) := by
  induction components with
  | nil => exact fun _ _ => .pure
  | cons component rest ih =>
    intro followed k
    refine (findEntryInDirectory_reads k component).bind fun found => ?_
    cases found with
    | none => exact .throw
    | some entry =>
      dsimp only
      split
      · exact .throw
      · exact ih _ _

theorem resolvePath_reads (path : String) : Reads (resolvePath path false) := by
  refine .get_bind fun fs => ?_
  cases (parsePath path).getLast? with
  | none => exact .throw
  | some name =>
    exact (resolveParents_reads _ _ _).bind fun k =>
      (findEntryInDirectory_reads k name).bind fun _ => .pure

theorem readFile_reads (name : String) : Reads (readFile name) := by
  refine .get_bind fun fs => (findEntryInDirectory_reads _ name).bind fun found => ?_
  cases found with
  | none => exact .throw
  | some location => exact readFileFromLocation_reads location

theorem readFilePath_reads (path : String) : Reads (readFilePath path) := by
  refine (resolvePath_reads path).bind fun resolved => ?_
  cases resolved.location with
  | none => exact .throw
  | some location =>
    dsimp only
    split
    · exact .throw
    · exact readFileFromLocation_reads location

end

end StreamBox.Exfat
