import StreamBox.Exfat.ExceptionSafety

/-!
# Chunked writes

What a session of the streaming writer leaves, however its bytes are split.

* **Files of a directory** — an entry of a cluster of the directory, with what is parsed there;
  only one entry has a first cluster (`Stores.fileIn_unique`).
* **Sessions** — a session that is finished has stored the bytes it was given, with the
  announced length (`Target.session_ensures`).
* **Short sessions** — so the file has no other bytes than these if and only if as many were given
  as announced (`chunked_writer_iff`).
-/

namespace StreamBox.Exfat

/-! ## Files of a directory -/

/-- A file of the directory `k`: what is parsed at this place, stored under this name. -/
structure Disk.FileIn (d : Disk) (k : Nat) (location : FileEntryLocation) (name : String) : Prop where
  cluster : d.Chained k location.directoryCluster
  entry : FileEntryAt (d.cluster location.directoryCluster) location.entryOffset
  kind : isDirectoryAt (d.cluster location.directoryCluster) location.entryOffset = false
  parsed : parseEntrySet (d.cluster location.directoryCluster) location.entryOffset =
    { fileName := (decodedName name).toList
      firstCluster := location.firstCluster
      dataLength := location.dataLength }

/-- The directory has a file of this name, with this first cluster and this length, that is read
as `data`. -/
def HasFile (fs : ExfatFs) (k : Nat) (name : String) (first length : Nat) (data : List UInt8) :
    Prop :=
  ∃ location fs', fs.disk.FileIn k location name ∧ location.firstCluster = first ∧
    location.dataLength = length ∧ (readFileFromLocation location).run fs = .ok data fs'

theorem mem_of_mem_sets {items : List Item} {e : EntrySet} (h : e ∈ sets items) : .set e ∈ items := by
  induction items with
  | nil => cases h
  | cons item rest ih =>
    cases item with
    | set e' =>
      rcases List.mem_cons.mp h with rfl | h
      · exact List.mem_cons_self
      · exact List.mem_cons_of_mem _ (ih h)
    | slot raw => exact List.mem_cons_of_mem _ (ih h)

/-- A set of a directory stands at a place. -/
theorem Place.of_mem {rows : Rows} {e : EntrySet} (h : e ∈ rowSets rows) :
    ∃ p : Place, rows = p.fill [.set e] := by
  obtain ⟨row, hrow, he⟩ := List.mem_flatMap.mp h
  obtain ⟨pre, post, rfl⟩ := List.append_of_mem hrow
  obtain ⟨before, after, hitems⟩ := List.append_of_mem (mem_of_mem_sets he)
  refine ⟨⟨pre, row.1, before, after, post⟩, ?_⟩
  rw [Place.fill, List.append_assoc, List.singleton_append, ← hitems]

section

variable [Lowercase] {g : VolumeParams} {d : Disk} {t : Table} {label : Nat → List String}
  {fs : ExfatFs} {k : Nat}

/-- A set of a directory that is no directory is a file of it. -/
theorem Holds.fileIn (h : Holds g d t) (hwf : Wf g t label) {size : Nat} (hvalid : g.Valid size)
    {p : Place} {e : EntrySet} (ho : t k = some (.dir (p.fill [.set e]))) (hfile : e.isDir = false) :
    d.FileIn k (p.locate e) e.name := by
  have hrow : (p.cluster, p.before ++ [.set e] ++ p.after) ∈ p.fill [.set e] :=
    List.mem_append_right _ List.mem_cons_self
  have hdata : d.cluster p.cluster = render (p.before ++ .set e :: p.after) := by
    rw [h.stored k _ ho _ (List.mem_map.mpr ⟨_, hrow, rfl⟩), List.append_assoc]
    rfl
  have hitems := (hwf.shaped k _ ho).ok _ hrow
  rw [List.append_assoc] at hitems
  have hok := (hwf.entries k _ ho e (p.mem_fill e)).1
  have hdrop := drop_render p.before p.after e
  have hchain : p.cluster ∈ (Obj.dir (p.fill [.set e])).chain := by
    rw [Obj.chain_dir]
    exact List.mem_map.mpr ⟨_, hrow, rfl⟩
  refine ⟨(h.chained_iff hvalid ho).mpr hchain, ?_, ?_, ?_⟩
  · show FileEntryAt (d.cluster p.cluster) (render p.before).length
    rw [hdata]
    exact fileEntryAt_set hitems
  · show isDirectoryAt (d.cluster p.cluster) (render p.before).length = false
    rw [hdata, e.isDirectoryAt_eq hdrop, hfile]
  · show parseEntrySet (d.cluster p.cluster) (render p.before).length = _
    rw [hdata, EntrySet.parseEntrySet_eq hok hdrop, decodedName, String.toList_ofList]
    rfl

/-- The length of a file is that of the set that refers to its first cluster. -/
theorem Holds.fileIn_unique (h : Holds g d t) (hwf : Wf g t label) {size : Nat}
    (hvalid : g.Valid size) {p : Place} {e : EntrySet} (ho : t k = some (.dir (p.fill [.set e])))
    (hfile : e.isDir = false) (hne : e.firstCluster ≠ 0) {location : FileEntryLocation}
    {name : String} (hlocation : d.FileIn k location name)
    (hsame : location.firstCluster = e.firstCluster) : location.dataLength = e.size := by
  obtain ⟨p', e', hrows, hcluster, hoffset, hfirst, -⟩ :=
    h.entry_set hwf hvalid ho hlocation.cluster hlocation.entry
  rw [hlocation.parsed] at hfirst
  obtain ⟨hc, hbefore⟩ := hwf.same_place ho (hrows ▸ ho) hne (hsame.symm.trans hfirst)
  have hparsed := (h.fileIn hwf hvalid ho hfile).parsed
  have hplace : parseEntrySet (d.cluster (p.locate e).directoryCluster) (p.locate e).entryOffset =
      parseEntrySet (d.cluster location.directoryCluster) location.entryOffset := by
    show parseEntrySet (d.cluster p.cluster) (render p.before).length = _
    rw [hc, hbefore, hcluster, ← hoffset]
  rw [hplace, hlocation.parsed] at hparsed
  exact congrArg SecondaryEntries.dataLength hparsed

/-- A set of a directory is a file that reads as its bytes. -/
theorem Stores.hasFile (h : Stores g t fs) (hwf : Wf g t label) {p : Place} {e : EntrySet}
    (ho : t k = some (.dir (p.fill [.set e]))) (hfile : e.isDir = false) :
    HasFile fs k e.name e.firstCluster e.size (e.data t) := by
  obtain ⟨_, fs', hread, rfl⟩ := h.readEntry_returns hwf ho hfile
  obtain ⟨d, hrep, hholds⟩ := h
  refine ⟨p.locate e, fs', ?_, rfl, rfl, hread⟩
  rw [hrep.disk]
  exact hholds.fileIn hwf hrep.valid ho hfile

/-- Such a file has the length of the set. -/
theorem Stores.length_of_hasFile (h : Stores g t fs) (hwf : Wf g t label) {p : Place} {e : EntrySet}
    (ho : t k = some (.dir (p.fill [.set e]))) (hfile : e.isDir = false) (hne : e.firstCluster ≠ 0)
    {name : String} {length : Nat} {data : List UInt8}
    (hhas : HasFile fs k name e.firstCluster length data) : length = e.size := by
  obtain ⟨location, -, hlocation, hfirst, rfl, -⟩ := hhas
  obtain ⟨d, hrep, hholds⟩ := h
  rw [hrep.disk] at hlocation
  exact hholds.fileIn_unique hwf hrep.valid ho hfile hne hlocation hfirst

omit [Lowercase] in
theorem place_of_adds {t' : Table} {label' : Nat → List String} {e : EntrySet}
    (h : Adds t label k e t' label') : ∃ p : Place, t' k = some (.dir (p.fill [.set e])) := by
  obtain ⟨rows, rows', -, hrows', -, before, after, -, hsets⟩ := h.edit
  obtain ⟨p, rfl⟩ := Place.of_mem (show e ∈ rowSets rows' by rw [hsets]; simp)
  exact ⟨p, hrows'⟩

/-! ## Sessions -/

/-- A writer is opened for a file of a directory. -/
theorem Target.writer_ensures (h : Stores g t fs) (hg : g.Fits) (hwf : Wf g t label)
    (target : Target) (totalSize : Nat) :
    Ensures (target.writer totalSize) fs fun writer fs₁ => ∃ t₁ label₁ rows, Wf g t₁ label₁ ∧
      t₁ writer.dirCluster = some (.dir rows) ∧
      Opened g t₁ writer.dirCluster writer.name totalSize writer fs₁ ∧ NameFits writer.name ∧
      (writer.dirCluster ≠ g.firstClusterOfRoot → '/' ∉ writer.name.toList) := by
  cases target with
  | root name overwrite =>
    obtain rfl := h.params
    obtain ⟨rows, hroot⟩ := hwf.root
    refine Ensures.of_run (x := get) rfl ?_
    refine (h.createInDirectory_ensures hg.bitmap hwf hroot name totalSize overwrite).mono ?_
    rintro writer fs₁ ⟨t₁, hclears, hname, hopened⟩
    obtain ⟨rows₁, ho₁⟩ := hclears.dir
    have hdir := hopened.dirCluster
    have hwname := hopened.name
    subst hwname
    rw [← hdir] at ho₁ hopened
    exact ⟨t₁, label, rows₁, hclears.wf hwf, ho₁, hopened, hname, fun hne => absurd hdir hne⟩
  | path path createParents overwrite =>
    refine Ensures.bind (h.resolvePath_ensures hg.bitmap hwf path createParents) ?_
    rintro resolved fs₁ ⟨t₁, label₁, parents, rows, h₁, hresolves⟩
    refine Ensures.bind
      (h₁.replaceFile_ensures hresolves.wf hresolves.parent hresolves.finds path overwrite) ?_
    rintro _ fs₂ ⟨t₂, h₂, hclears⟩
    have hwf₂ := hclears.wf hresolves.wf
    obtain ⟨rows₂, ho₂⟩ := hclears.dir
    refine (h₂.createInDirectory_ensures hg.bitmap hwf₂ ho₂ resolved.name totalSize false).mono ?_
    rintro writer fs₃ ⟨t₃, hclears₃, hname, hopened⟩
    obtain ⟨rows₃, ho₃⟩ := hclears₃.dir
    have hdir := hopened.dirCluster
    have hwname := hopened.name
    rw [← hwname] at hname hopened
    rw [← hdir] at ho₃ hopened
    exact ⟨t₃, label₁, rows₃, hclears₃.wf hwf₂, ho₃, hopened, hname,
      fun _ => hwname ▸ slash_notMem_of_parsed hresolves.parsed⟩

/-- A `write_file` call leaves a file with the bytes. -/
theorem Stores.writeFile_hasFile (h : Stores g t fs) (hg : g.Fits) (hwf : Wf g t label)
    (name : String) (data : List UInt8) :
    Ensures (writeFile name data) fs fun _ fs' => ∃ first,
      (first = 0 ∨ fs.disk.allocated first = false) ∧
        HasFile fs' g.firstClusterOfRoot name first data.length data := by
  obtain rfl := h.params
  obtain ⟨rows, hroot⟩ := hwf.root
  unfold Exfat.writeFile
  by_cases hname : name = "" ∨ utf8Len name > 255
  · rw [if_pos hname]
    exact Ensures.throw
  · rw [if_neg hname]
    refine Ensures.of_run (x := get) rfl ?_
    refine Ensures.bind (h.findEntry_quiet hroot (hwf.shaped _ rows hroot) name).ensures ?_
    rintro found fs₁ ⟨-, hquiet⟩
    cases found with
    | some location => exact Ensures.throw
    | none =>
      refine (hquiet.stores.writeFileDataAndEntry_ensures hg.bitmap hg.bytes hwf hroot hname
        (fun hne => absurd rfl hne) data).mono ?_
      rintro _ fs' ⟨c, now, t', label', hfresh, hdata, h', hwf', hadds⟩
      obtain ⟨p, ho'⟩ := place_of_adds hadds
      rw [hquiet.disk] at hfresh
      have hhas := h'.hasFile hwf' ho' rfl
      rw [hdata] at hhas
      exact ⟨c, hfresh, hhas⟩

/-- A session that is finished has stored its bytes under its name, with the announced length. -/
theorem StoresTree.session_stores (h : StoresTree fs) (target : Target) (totalSize : Nat)
    (chunks : List (List UInt8)) {writer : ExfatFileWriter} {fs₁ fs' : ExfatFs}
    (hopen : (target.writer totalSize).run fs = .ok writer fs₁)
    (hrun : (do
        let writer ← writer.writeAll chunks
        writer.finish).run fs₁ = .ok () fs') :
    ∃ g t' label' p e, Stores g t' fs' ∧ Wf g t' label' ∧
      t' writer.dirCluster = some (.dir (Place.fill p [.set e])) ∧ e.name = writer.name ∧
      e.isDir = false ∧ e.size = totalSize ∧
      e.firstCluster = writer.allocatedClusters.headD 0 ∧
      (totalSize ≤ chunks.flatten.length → e.data t' = chunks.flatten.take totalSize) := by
  obtain ⟨g, hg, t, label, hstores, hwf⟩ := h
  obtain ⟨t₁, label₁, rows, hwf₁, ho₁, hopened, hname, hplain⟩ :=
    target.writer_ensures hstores hg hwf totalSize writer fs₁ hopen
  obtain ⟨e, t', label', hename, hfile, hsize, hfirst, hdata, h', hwf', hadds⟩ :=
    hopened.finish_ensures hg.bitmap hg.bytes hwf₁ ho₁ hname hplain chunks () fs' hrun
  obtain ⟨p, ho'⟩ := place_of_adds hadds
  exact ⟨g, t', label', p, e, h', hwf', ho', hename, hfile, hsize, hfirst, hdata⟩

/-- The file of a session has the announced length, whatever was written. -/
theorem StoresTree.session_announced (h : StoresTree fs) (target : Target) (totalSize : Nat)
    (chunks : List (List UInt8)) {writer : ExfatFileWriter} {fs₁ fs' : ExfatFs}
    (hopen : (target.writer totalSize).run fs = .ok writer fs₁)
    (hrun : (do
        let writer ← writer.writeAll chunks
        writer.finish).run fs₁ = .ok () fs') :
    ∃ data, HasFile fs' writer.dirCluster writer.name (writer.allocatedClusters.headD 0)
      totalSize data := by
  obtain ⟨g, t', label', p, e, h', hwf', ho', hname, hfile, hsize, hfirst, -⟩ :=
    h.session_stores target totalSize chunks hopen hrun
  have hhas := h'.hasFile hwf' ho' hfile
  rw [hname, hfirst, hsize] at hhas
  exact ⟨_, hhas⟩

/-- The file of a session has the bytes written and no more if and only if no fewer bytes were
given than announced. -/
theorem StoresTree.session_hasFile_iff (h : StoresTree fs) (target : Target) (totalSize : Nat)
    (chunks : List (List UInt8)) {writer : ExfatFileWriter} {fs₁ fs' : ExfatFs}
    (hopen : (target.writer totalSize).run fs = .ok writer fs₁)
    (hrun : (do
        let writer ← writer.writeAll chunks
        writer.finish).run fs₁ = .ok () fs') :
    HasFile fs' writer.dirCluster writer.name (writer.allocatedClusters.headD 0)
        (min totalSize chunks.flatten.length) (chunks.flatten.take totalSize) ↔
      totalSize ≤ chunks.flatten.length := by
  obtain ⟨g, t', label', p, e, h', hwf', ho', hname, hfile, hsize, hfirst, hdata⟩ :=
    h.session_stores target totalSize chunks hopen hrun
  rw [← hname, ← hfirst]
  constructor
  · intro hhas
    by_cases hzero : e.firstCluster = 0
    · cases (hwf'.entries _ _ ho' e (p.mem_fill e)).2 with
      | empty _ _ hempty => omega
      | file _ hroot _ _ _ _ => omega
      | dir _ hroot _ _ _ _ => omega
    · have hlength := h'.length_of_hasFile hwf' ho' hfile hzero hhas
      omega
  · intro hgiven
    have hhas := h'.hasFile hwf' ho' hfile
    rw [Nat.min_eq_left hgiven]
    rwa [hsize, hdata hgiven] at hhas

end

/-! ## Sessions of a new volume -/

section

variable [Lowercase] {g : VolumeParams} {d : Disk} {fs : ExfatFs}

/-- A writer for a name that no set answers to is opened if there are enough free clusters. -/
theorem RootIs.createInDirectory_returns {items : List Item} (hroot : RootIs g d items)
    (h : Represents g d fs) {name : String} (hname : NameFits name)
    (habsent : ∀ e ∈ sets items, ¬ e.Named (toLowercase name)) {totalSize : Nat}
    (henough : clustersNeeded totalSize g.clusterSize ≤ (d.freeClusters g).length)
    (overwrite : Bool) :
    Returns (ExfatFileWriter.createInDirectory g.firstClusterOfRoot name totalSize overwrite) fs
      fun writer fs' => (∃ d', Represents g d' fs' ∧ RootIs g d' items) ∧
        writer = { name := name, dirCluster := g.firstClusterOfRoot, totalSize := totalSize
                   allocatedClusters :=
                    (d.freeClusters g).take (clustersNeeded totalSize g.clusterSize) } := by
  unfold ExfatFileWriter.createInDirectory
  rw [if_neg hname]
  refine Returns.bind (hroot.findEntry_absent h habsent) ?_
  rintro _ fs₁ ⟨rfl, h₁⟩
  refine Returns.of_run (x := get) rfl ?_
  rw [h₁.params]
  by_cases hneeded : clustersNeeded totalSize g.clusterSize > 0
  · rw [if_pos hneeded]
    have hfresh := Disk.fresh_take h₁.valid d (clustersNeeded totalSize g.clusterSize)
    have hlen : ((d.freeClusters g).take (clustersNeeded totalSize g.clusterSize)).length
        = clustersNeeded totalSize g.clusterSize := List.length_take_of_le henough
    generalize hchain : (d.freeClusters g).take (clustersNeeded totalSize g.clusterSize) = chain
      at hfresh hlen
    obtain ⟨first, rest, rfl⟩ := List.exists_cons_of_length_pos (hlen ▸ hneeded)
    refine Returns.bind (allocateClusters_returns h₁ hneeded henough) ?_
    rintro _ fs₂ ⟨rfl, h₂⟩
    rw [hchain] at h₂ ⊢
    refine Returns.bind (readClusterChain_returns h₂ hfresh.isChain) ?_
    rintro _ fs₃ ⟨rfl, h₃⟩
    exact Returns.pure ⟨⟨_, h₃, hroot.alloc h hfresh⟩, rfl⟩
  · rw [if_neg hneeded, Nat.eq_zero_of_not_pos hneeded, List.take_zero]
    exact Returns.pure ⟨⟨d, h₁, hroot⟩, rfl⟩

end

/-- A writer for a small file of a new volume can be opened, and be finished with nothing
written. -/
theorem volume64MB_session [Lowercase] {totalSize : Nat} (hsmall : totalSize ≤ 4096) :
    ∃ writer fs₁ fs', ((Target.root "a.txt" false).writer totalSize).run volume64MB
        = .ok writer fs₁ ∧
      (do
        let writer ← writer.writeAll []
        writer.finish).run fs₁ = .ok () fs' := by
  obtain ⟨g, d, before, n, first, m, h, hroot, hn, htaken, hnone, hfree⟩ := volume64MB_root
  have hname : NameFits "a.txt" := by decide
  have habsent : ∀ e ∈ sets (before ++ blanks n), ¬ e.Named (toLowercase "a.txt") := by
    rw [sets_append, hnone, sets_blanks]
    exact fun e he => nomatch he
  have hsize := h.valid.sizeLo
  have hneeded : clustersNeeded totalSize g.clusterSize ≤ 1 := by
    unfold clustersNeeded
    split
    · exact Nat.zero_le _
    · exact Nat.le_of_lt_succ (Nat.div_lt_of_lt_mul (by omega))
  have henough : clustersNeeded totalSize g.clusterSize ≤ (d.freeClusters g).length := by
    rw [hfree, List.length_range']
    omega
  obtain ⟨writer, fs₁, hopen, ⟨d₁, h₁, hroot₁⟩, hwriter⟩ :=
    hroot.createInDirectory_returns h hname habsent henough false
  have hfirst : writer.allocatedClusters.headD 0 < 2 ^ 32 := by
    have hfresh := Disk.fresh_take h.valid d (clustersNeeded totalSize g.clusterSize)
    rw [hwriter]
    cases hchain : (d.freeClusters g).take (clustersNeeded totalSize g.clusterSize) with
    | nil => exact Nat.two_pow_pos 32
    | cons c rest =>
      have hheap := (hfresh.inHeap c (hchain ▸ List.mem_cons_self)).2
      have := h.valid.countLt
      exact Nat.lt_trans hheap (by omega)
  obtain ⟨_, fs', hentry, -⟩ := hroot₁.createEntry_returns h₁ htaken "a.txt"
    (writer.allocatedClusters.headD 0) totalSize false
    (fun _ => hname.ok hfirst (by omega)) (Nat.le_trans (by decide) hn)
  refine ⟨writer, fs₁, fs', ?_, ?_⟩
  · rw [Target.writer, ExfatFileWriter.createOverwrite, run_get_bind, h.params]
    exact hopen
  · have hunwritten : (do
        let writer ← writer.writeAll []
        writer.finish) = createEntryInDirectory g.firstClusterOfRoot "a.txt"
          (writer.allocatedClusters.headD 0) totalSize false := by
      rw [hwriter]
      rfl
    rw [hunwritten]
    exact hentry

end StreamBox.Exfat
