import StreamBox.Exfat.FileContents
import StreamBox.Exfat.TreeOperations

/-!
# Writing files into the tree

The public operations that create, replace and remove files and directories, on the
directory tree.

* **Putting** — a file put at a name clears what the name had and adds an entry with
  the bytes; both whole-file writes and streams do this.
* **Removing** — a path's entry is removed with its object; recursively, everything
  that changes lies below the path.
-/

namespace StreamBox.Exfat

/-! ## Slashes in decoded names -/

theorem ofNat_eq_slash {n : Nat} (h : Char.ofNat n = '/') : n = 47 := by
  by_cases hvalid : n.isValidChar
  · have htoNat : (Char.ofNat n).toNat = n := by
      rw [Char.ofNat, dif_pos hvalid]
      rfl
    rw [← htoNat, h]
    rfl
  · rw [Char.ofNat, dif_neg hvalid] at h
    exact absurd h (by decide)

/-- A slash decoded stood there as one unit. -/
theorem slash_mem_of_decodeUtf16 (units : List Nat) (h : '/' ∈ decodeUtf16 units) : 47 ∈ units := by
  fun_induction decodeUtf16 units with
  | case1 => cases h
  | case2 u rest hplain ih =>
    rcases List.mem_cons.mp h with hslash | hrest
    · rw [ofNat_eq_slash hslash.symm]
      exact List.mem_cons_self
    · exact List.mem_cons_of_mem _ (ih hrest)
  | case3 u rest hplain hlow ih => exact List.mem_cons_of_mem _ (ih h)
  | case4 => cases h
  | case5 u hsurrogate hhigh u₂ rest₂ hpair ih =>
    rcases List.mem_cons.mp h with hslash | hrest
    · have hvalue := ofNat_eq_slash hslash.symm
      omega
    · exact List.mem_cons_of_mem _ (List.mem_cons_of_mem _ (ih hrest))
  | case6 u hsurrogate hhigh u₂ rest₂ hpair ih => exact List.mem_cons_of_mem _ (ih h)

theorem slash_mem_of_encodeUtf16 {name : String} (h : 47 ∈ encodeUtf16 name) : '/' ∈ name.toList := by
  obtain ⟨c, hc, hunit⟩ := List.mem_flatMap.mp h
  have hvalue : c.toNat = 47 := by
    by_cases hsmall : c.toNat < 0x10000
    · rw [encodeUtf16Char, if_pos hsmall] at hunit
      exact (List.mem_singleton.mp hunit).symm
    · rw [encodeUtf16Char, if_neg hsmall] at hunit
      simp only [List.mem_cons, List.not_mem_nil, or_false] at hunit
      omega
  have hslash : c = '/' := Char.toNat_inj.mp hvalue
  rwa [← hslash]

/-- Reading a name back from its entries adds no slash. -/
theorem slash_notMem_decodedName {name : String} (h : '/' ∉ name.toList) :
    '/' ∉ (decodedName name).toList := by
  intro hmem
  rw [decodedName, String.toList_ofList] at hmem
  obtain ⟨chunk, hchunk, hmem⟩ := List.mem_flatMap.mp hmem
  have hunit := List.takeWhile_subset _ (slash_mem_of_decodeUtf16 _ hmem)
  exact h (slash_mem_of_encodeUtf16 ((mem_nameChunks hchunk).2 _ hunit))

variable [Lowercase] {g : VolumeParams} {t : Table} {label : Nat → List String} {fs : ExfatFs}
  {k : Nat} {rows : Rows}

/-! ## Entries for files -/

omit [Lowercase] in
/-- The bytes of the file a set refers to. -/
def EntrySet.data (e : EntrySet) (t : Table) : List UInt8 :=
  if e.firstCluster = 0 then []
  else
    match t e.firstCluster with
    | some (.file rows) => fileBytes rows e.size
    | _ => []

omit [Lowercase] in
theorem EntrySet.data_eq {e : EntrySet} {file : List (Nat × List UInt8)}
    (hne : e.firstCluster ≠ 0) (hfile : t e.firstCluster = some (.file file)) :
    e.data t = fileBytes file e.size := by
  rw [data, if_neg hne, hfile]

omit [Lowercase] in
/-- The number of clusters of a file fits its bytes. -/
theorem le_clustersNeeded {size clusterSize : Nat} (h : 0 < clusterSize) :
    size ≤ clustersNeeded size clusterSize * clusterSize := by
  unfold clustersNeeded
  split
  · omega
  · have hdiv := Nat.div_add_mod (size + clusterSize - 1) clusterSize
    have hmod := Nat.mod_lt (size + clusterSize - 1) h
    rw [Nat.mul_comm] at hdiv
    omega

omit [Lowercase] in
/-- A file without bytes has no clusters. -/
theorem clustersNeeded_pos_iff {size clusterSize : Nat} (h : 0 < clusterSize) :
    0 < clustersNeeded size clusterSize ↔ 0 < size := by
  constructor
  · intro hneeded
    refine Nat.pos_of_ne_zero fun hzero => ?_
    rw [hzero, clustersNeeded, if_pos rfl] at hneeded
    cases hneeded
  · intro hsize
    have hle : size ≤ clustersNeeded size clusterSize * clusterSize := le_clustersNeeded h
    refine Nat.pos_of_ne_zero fun hzero => ?_
    rw [hzero, Nat.zero_mul] at hle
    omega

omit [Lowercase] in
/-- A file stored is no larger than the volume. -/
theorem Stores.size_le (h : Stores g t fs) {file : List (Nat × List UInt8)} {c size : Nat}
    (hc : t c = some (.file file)) (hlen : file.length = clustersNeeded size g.clusterSize) :
    size ≤ g.clusterCount * g.clusterSize := by
  obtain ⟨d, hrep, hholds⟩ := h
  have hcount := (hholds.chained c _ hc).length_le
  have hsize := hrep.valid.sizeLo
  rw [Obj.chain_file, List.length_map, hlen] at hcount
  exact Nat.le_trans (le_clustersNeeded (by omega)) (Nat.mul_le_mul_right _ hcount)

/-- Creating the entry of a file just stored adds it to the directory. -/
theorem Stores.createFileEntry_ensures {file : List (Nat × List UInt8)} {c size : Nat}
    (h : Stores g (Function.update t c (some (.file file))) fs) (hfits : g.BitmapFits)
    (hbytes : g.clusterCount * g.clusterSize < 2 ^ 64) (hwf : Wf g t label)
    (ho : t k = some (.dir rows)) (hfree : t c = none) (hroot : g.firstClusterOfRoot < c)
    (hlen : file.length = clustersNeeded size g.clusterSize) {name : String}
    (hname : NameFits name) (hplain : k ≠ g.firstClusterOfRoot → '/' ∉ name.toList) :
    Ensures (createEntryInDirectory k name c size false) fs fun _ fs' => ∃ now t' label',
      (EntrySet.mk name c size false now).data t' = fileBytes file size ∧ Stores g t' fs' ∧
        Wf g t' label' ∧ Adds t label k ⟨name, c, size, false, now⟩ t' label' := by
  have hself : Function.update t c (some (Obj.file file)) c = some (.file file) :=
    Function.update_self ..
  have hck : k ≠ c := by
    rintro rfl
    rw [hfree] at ho
    cases ho
  have hc0 : c ≠ 0 := by omega
  have ho' : Function.update t c (some (.file file)) k = some (.dir rows) := by
    rw [Function.update_of_ne hck, ho]
  have hok : ∀ now, (EntrySet.mk name c size false now).Ok := fun now =>
    hname.ok (h.key_lt hself) (Nat.lt_of_le_of_lt (h.size_le hself hlen) hbytes)
  refine (h.createEntryInDirectory_ensures hfits ho' (hwf.shaped k rows ho) name c size false
    hok).mono ?_
  rintro _ fs' ⟨now, rows', h', hshaped', hinserts⟩
  obtain ⟨hadds, hobject, hlabel⟩ := addObject_spec label ho hshaped' hinserts hc0 hfree
    (o := .file file) (fun blank hblank => nomatch hblank)
  have hwf' := hwf.adds hadds (hok now) (.file file hroot hobject rfl hlen hlabel) hplain
  exact ⟨now, _, _, EntrySet.data_eq hc0 hobject, h', hwf', hadds⟩

/-- Creating the entry of an empty file adds it to the directory. -/
theorem Stores.createEmptyEntry_ensures (h : Stores g t fs) (hfits : g.BitmapFits)
    (hwf : Wf g t label) (ho : t k = some (.dir rows)) {name : String} (hname : NameFits name)
    (hplain : k ≠ g.firstClusterOfRoot → '/' ∉ name.toList) :
    Ensures (createEntryInDirectory k name 0 0 false) fs fun _ fs' => ∃ now t' label',
      (EntrySet.mk name 0 0 false now).data t' = [] ∧ Stores g t' fs' ∧ Wf g t' label' ∧
        Adds t label k ⟨name, 0, 0, false, now⟩ t' label' := by
  have hok : ∀ now, (EntrySet.mk name 0 0 false now).Ok := fun now =>
    hname.ok (by decide) (by decide)
  refine (h.createEntryInDirectory_ensures hfits ho (hwf.shaped k rows ho) name 0 0 false
    hok).mono ?_
  rintro _ fs' ⟨now, rows', h', hshaped', hinserts⟩
  have hadds : Adds t label k ⟨name, 0, 0, false, now⟩
      (Function.update t k (some (.dir rows'))) label :=
    ⟨⟨rows, rows', ho, Function.update_self .., hshaped', hinserts⟩, fun hne => absurd rfl hne,
      fun hne => absurd rfl hne, fun x hx _ => Function.update_of_ne hx .., fun _ _ => rfl⟩
  exact ⟨now, _, _, rfl, h', hwf.adds hadds (hok now) (.empty rfl rfl rfl) hplain, hadds⟩

/-- Writing file data adds an entry with that data to a directory; its clusters were free. -/
theorem Stores.writeFileDataAndEntry_ensures (h : Stores g t fs) (hfits : g.BitmapFits)
    (hbytes : g.clusterCount * g.clusterSize < 2 ^ 64) (hwf : Wf g t label)
    (ho : t k = some (.dir rows)) {name : String} (hname : NameFits name)
    (hplain : k ≠ g.firstClusterOfRoot → '/' ∉ name.toList) (data : List UInt8) :
    Ensures (writeFileDataAndEntry k name data) fs fun _ fs' => ∃ c now t' label',
      (c = 0 ∨ fs.disk.allocated c = false) ∧
        (EntrySet.mk name c data.length false now).data t' = data ∧ Stores g t' fs' ∧
        Wf g t' label' ∧ Adds t label k ⟨name, c, data.length, false, now⟩ t' label' := by
  have hparams := h.params
  have hsizeLo := h.valid.sizeLo
  intro u fs' hrun
  rw [writeFileDataAndEntry, run_get_bind, hparams] at hrun
  revert u fs'
  show Ensures _ fs _
  by_cases hempty : data = []
  · subst hempty
    refine (h.createEmptyEntry_ensures hfits hwf ho hname hplain).mono ?_
    rintro _ fs' ⟨now, t', label', hdata, h', hwf', hadds⟩
    exact ⟨0, now, t', label', Or.inl rfl, hdata, h', hwf', hadds⟩
  · have hpos : 0 < data.length := List.length_pos_iff.mpr hempty
    have hneeded : clustersNeeded data.length g.clusterSize > 0 :=
      (clustersNeeded_pos_iff (by omega)).mpr hpos
    rw [if_pos hneeded]
    refine Ensures.bind (h.allocateClusters_ensures hfits _) ?_
    rintro first fs₁ ⟨file, h₁, hfree, hroot, hlen, hfresh, -⟩
    refine Ensures.bind (h₁.readClusterChain_returns (Function.update_self ..)).ensures ?_
    rintro chain fs₂ ⟨rfl, h₂⟩
    have hself : Function.update t first (some (Obj.file file)) first
        = some (.file ([] ++ file)) := Function.update_self ..
    refine Ensures.bind (h₂.writeChunks_returns [] hself data).ensures ?_
    intro _ fs₃ h₃
    rw [Function.update_idem, List.nil_append] at h₃
    have hroom : data.length ≤ (file.map Prod.fst).length * g.clusterSize := by
      rw [List.length_map, hlen]
      exact le_clustersNeeded (by omega)
    refine (h₃.createFileEntry_ensures hfits hbytes hwf ho hfree hroot ?_ hname hplain).mono ?_
    · rw [length_chunkRows, List.length_map, hlen]
    · rintro _ fs₄ ⟨now, t', label', hdata, h', hwf', hadds⟩
      exact ⟨first, now, t', label', Or.inr hfresh, hdata.trans (fileBytes_chunkRows _ hroom), h',
        hwf', hadds⟩

/-! ## Clearing a name -/

/-- What clearing a name of the directory `k` comes to: no entry had the name, or the one
found is removed with its object, if it is one that may be. -/
inductive Clears (t : Table) (k : Nat) (targetLower : String) (allowed : EntrySet → Prop) :
    Table → Prop
  | absent (rows : Rows) : t k = some (.dir rows) → (∀ e ∈ rowSets rows, ¬ e.Named targetLower) →
      Clears t k targetLower allowed t
  | removed (p : Place) (e : EntrySet) {t' : Table} : e.Named targetLower →
      (∀ e' ∈ p.setsBefore, ¬ e'.Named targetLower) → allowed e → Removes t k p e t' →
      Clears t k targetLower allowed t'

theorem Clears.dir {targetLower : String} {allowed : EntrySet → Prop} {t' : Table}
    (h : Clears t k targetLower allowed t') : ∃ rows, t' k = some (.dir rows) := by
  cases h with
  | absent rows hrows _ => exact ⟨rows, hrows⟩
  | removed p e _ _ _ hremoves => exact ⟨_, hremoves.after⟩

theorem Clears.wf {targetLower : String} {allowed : EntrySet → Prop} {t' : Table}
    (h : Clears t k targetLower allowed t') (hwf : Wf g t label) : Wf g t' label := by
  cases h with
  | absent _ _ _ => exact hwf
  | removed p e _ _ _ hremoves => exact hwf.removes hremoves

/-- Replacing a file clears its name. -/
theorem Stores.replaceFile_ensures (h : Stores g t fs) (hwf : Wf g t label)
    (ho : t k = some (.dir rows)) {targetLower : String} {location : Option FileEntryLocation}
    (hfinds : Finds targetLower rows location) (path : String) (overwrite : Bool) :
    Ensures (replaceFile path location overwrite) fs fun _ fs' => ∃ t', Stores g t' fs' ∧
      Clears t k targetLower (fun e => overwrite = true ∧ e.isDir = false) t' := by
  cases hfinds with
  | absent hnone => exact Ensures.pure ⟨t, h, .absent rows ho hnone⟩
  | found p e hrows hnamed hbefore =>
    subst hrows
    unfold replaceFile
    by_cases hdir : (p.locate e).isDirectory = true
    · simp only [if_pos hdir]
      exact Ensures.throw
    · simp only [if_neg hdir]
      by_cases hover : overwrite = true
      · rw [if_pos hover]
        refine (h.removeLocation_returns hwf ho).ensures.mono ?_
        rintro _ fs' ⟨t', h', hremoves⟩
        exact ⟨t', h', .removed p e hnamed hbefore ⟨hover, Bool.eq_false_of_not_eq_true hdir⟩ hremoves⟩
      · rw [if_neg hover]
        exact Ensures.throw

/-! ## Putting a file -/

/-- A file with these bytes is put at a name of the directory `k`. -/
def Puts (g : VolumeParams) (t : Table) (label : Nat → List String) (k : Nat) (name : String)
    (allowed : EntrySet → Prop) (bytes : List UInt8 → Prop) (t' : Table)
    (label' : Nat → List String) : Prop :=
  ∃ t₁ e, Clears t k (toLowercase name) allowed t₁ ∧ Wf g t₁ label ∧
    Adds t₁ label k e t' label' ∧ Wf g t' label' ∧ e.name = name ∧ e.isDir = false ∧
    bytes (e.data t')

/-- A writer just created for a file of the directory `k`, in the cleared table. -/
structure Opened (g : VolumeParams) (t : Table) (k : Nat) (name : String) (size : Nat)
    (writer : ExfatFileWriter) (fs : ExfatFs) : Prop where
  name : writer.name = name
  dirCluster : writer.dirCluster = k
  totalSize : writer.totalSize = size
  file : (size = 0 ∧ writer.bytesWritten = 0 ∧ writer.clusterBuffer = [] ∧
      writer.allocatedClusters = [] ∧ Stores g t fs) ∨
    ∃ c rows rest, t c = none ∧ g.firstClusterOfRoot < c ∧
      Stores g (Function.update t c (some (.file rows))) fs ∧
      rows.length = clustersNeeded size g.clusterSize ∧ rows.map Prod.fst = c :: rest ∧
      ExfatFileWriter.Taken g writer [] rows []

omit [Lowercase] in
/-- Allocating the clusters of a writer. -/
theorem Stores.openWriter_ensures (h : Stores g t fs) (hfits : g.BitmapFits) (name : String)
    (totalSize : Nat) :
    Ensures (do
        let fs ← get
        if clustersNeeded totalSize fs.clusterSize > 0 then do
          let first ← allocateClusters (clustersNeeded totalSize fs.clusterSize)
          let allocated ← readClusterChain first
          pure
            { name := name, dirCluster := k, totalSize := totalSize
              allocatedClusters := allocated }
        else
          pure
            { name := name, dirCluster := k, totalSize := totalSize
              allocatedClusters := [] } : ExfatM ExfatFileWriter) fs
      (Opened g t k name totalSize) := by
  have hparams := h.params
  have hsizeLo := h.valid.sizeLo
  intro writer fs' hrun
  rw [run_get_bind, hparams] at hrun
  revert writer fs'
  show Ensures _ fs _
  by_cases hneeded : clustersNeeded totalSize g.clusterSize > 0
  · rw [if_pos hneeded]
    refine Ensures.bind (h.allocateClusters_ensures hfits _) ?_
    rintro first fs₁ ⟨file, h₁, hfree, hroot, hlen, -, rest, hchain⟩
    refine Ensures.bind (h₁.readClusterChain_returns (Function.update_self ..)).ensures ?_
    rintro chain fs₂ ⟨rfl, h₂⟩
    have hroom : totalSize ≤ file.length * g.clusterSize := by
      rw [hlen]
      exact le_clustersNeeded (by omega)
    have htaken : ExfatFileWriter.Taken g
        { name := name, dirCluster := k, totalSize := totalSize
          allocatedClusters := (Obj.file file).chain } [] file [] := by
      refine ⟨rfl, rfl, rfl, rfl, ?_, ?_, Nat.zero_le _, hroom⟩
      · rw [List.flatMap_nil, List.length_nil, List.length_nil, Nat.zero_mul]
      · show 0 < g.clusterSize
        omega
    exact Ensures.pure
      ⟨rfl, rfl, rfl, Or.inr ⟨first, file, rest, hfree, hroot, h₂, hlen, hchain, htaken⟩⟩
  · rw [if_neg hneeded]
    have hle : totalSize ≤ clustersNeeded totalSize g.clusterSize * g.clusterSize :=
      le_clustersNeeded (by omega)
    rw [Nat.eq_zero_of_not_pos hneeded, Nat.zero_mul] at hle
    exact Ensures.pure ⟨rfl, rfl, rfl, Or.inl ⟨Nat.le_zero.mp hle, rfl, rfl, rfl, h⟩⟩

/-- A successful `create_in_directory` clears the name and allocates the clusters. -/
theorem Stores.createInDirectory_ensures (h : Stores g t fs) (hfits : g.BitmapFits)
    (hwf : Wf g t label) (ho : t k = some (.dir rows)) (name : String) (totalSize : Nat)
    (overwrite : Bool) :
    Ensures (ExfatFileWriter.createInDirectory k name totalSize overwrite) fs fun writer fs' =>
      ∃ t', Clears t k (toLowercase name) (fun _ => overwrite = true) t' ∧ NameFits name ∧
        Opened g t' k name totalSize writer fs' := by
  unfold ExfatFileWriter.createInDirectory
  by_cases hname : name = "" ∨ utf8Len name > 255
  · rw [if_pos hname]
    exact Ensures.throw
  · rw [if_neg hname]
    refine Ensures.bind (h.findEntryInDirectory_returns ho (hwf.shaped k rows ho) name).ensures ?_
    rintro found fs₁ ⟨h₁, hfinds⟩
    cases hfinds with
    | absent hnone =>
      refine (h₁.openWriter_ensures hfits name totalSize).mono ?_
      intro writer fs' hopened
      exact ⟨t, .absent rows ho hnone, hname, hopened⟩
    | found p e hrows hnamed hbefore =>
      subst hrows
      by_cases hover : overwrite = true
      · simp only [if_pos hover]
        refine Ensures.bind (h₁.removeLocation_returns hwf ho).ensures ?_
        rintro _ fs₂ ⟨t', h₂, hremoves⟩
        refine (h₂.openWriter_ensures hfits name totalSize).mono ?_
        intro writer fs' hopened
        exact ⟨t', .removed p e hnamed hbefore hover hremoves, hname, hopened⟩
      · simp only [if_neg hover]
        exact Ensures.bind Ensures.throw fun _ _ hfalse => False.elim hfalse

omit [Lowercase] in
/-- A writer that is full takes nothing more. -/
theorem ExfatFileWriter.writeAll_of_full {writer : ExfatFileWriter}
    (hfull : writer.totalSize ≤ writer.bytesWritten) (chunks : List (List UInt8)) (fs : ExfatFs) :
    (writeAll writer chunks).run fs = .ok writer fs := by
  induction chunks with
  | nil => rfl
  | cons chunk rest ih =>
    have hstop : ∀ fuel, (writeLoop fs.clusterSize fuel writer chunk).run fs
        = .ok (writer, chunk) fs := by
      intro fuel
      cases fuel with
      | zero => rfl
      | succ fuel =>
        rw [writeLoop, if_neg (fun h => absurd h.2 (Nat.not_lt.mpr hfull))]
        rfl
    have hwrite : (write writer chunk).run fs = .ok (writer, chunk.length - chunk.length) fs := by
      rw [write, run_get_bind, bind_of_ok (hstop _)]
      rfl
    exact (bind_of_ok hwrite).trans ih

/-- Writing and finishing a session adds the file's entry. -/
theorem Opened.finish_ensures {name : String} {totalSize : Nat} {writer : ExfatFileWriter}
    (h : Opened g t k name totalSize writer fs) (hfits : g.BitmapFits)
    (hbytes : g.clusterCount * g.clusterSize < 2 ^ 64) (hwf : Wf g t label)
    (ho : t k = some (.dir rows)) (hname : NameFits name)
    (hplain : k ≠ g.firstClusterOfRoot → '/' ∉ name.toList) (chunks : List (List UInt8)) :
    Ensures (do
        let writer ← ExfatFileWriter.writeAll writer chunks
        ExfatFileWriter.finish writer) fs fun _ fs' => ∃ e t' label',
      e.name = name ∧ e.isDir = false ∧ e.size = totalSize ∧
        e.firstCluster = writer.allocatedClusters.headD 0 ∧
        (totalSize ≤ chunks.flatten.length → e.data t' = chunks.flatten.take totalSize) ∧
        Stores g t' fs' ∧ Wf g t' label' ∧ Adds t label k e t' label' := by
  obtain ⟨hwname, hwdir, hwsize, hfile⟩ := h
  rcases hfile with ⟨hzero, hwritten, hbuffer, hnone, h⟩ | ⟨c, file, rest, hfree, hroot, h, hlen,
    hchain, htaken⟩
  · have hfull : writer.totalSize ≤ writer.bytesWritten := by omega
    have hall := ExfatFileWriter.writeAll_of_full hfull chunks fs
    intro u fs' hrun
    rw [bind_of_ok hall, ExfatFileWriter.finish, hbuffer, hnone, hwname, hwdir, hwsize, hzero] at hrun
    revert u fs'
    show Ensures _ fs _
    refine (h.createEmptyEntry_ensures hfits hwf ho hname hplain).mono ?_
    rintro _ fs' ⟨now, t', label', hdata, h', hwf', hadds⟩
    refine ⟨_, t', label', rfl, rfl, hzero.symm, ?_, fun _ => ?_, h', hwf', hadds⟩
    · rw [hnone]
      rfl
    · rw [hdata, hzero, List.take_zero]
  · obtain ⟨writer₁, fs₁, hall, done, todo, h₁, htaken₁, hsame⟩ :=
      ExfatFileWriter.writeAll_returns chunks h
        (Function.update_self ..) htaken
    rw [Function.update_idem] at h₁
    obtain ⟨file', fs₂, h₂, hclusters, hcontents, hfinish⟩ :=
      ExfatFileWriter.finish_eq h₁ (Function.update_self ..) htaken₁
    rw [Function.update_idem] at h₂
    have hsameChain : file'.map Prod.fst = file.map Prod.fst := by
      rw [hclusters, hsame.allocatedClusters, htaken.clusters]
      rfl
    have hfirst : writer₁.allocatedClusters.headD 0 = c := by
      rw [← hclusters, hsameChain, hchain]
      rfl
    have hlen' : file'.length = clustersNeeded totalSize g.clusterSize := by
      rw [← hlen, ← List.length_map (f := Prod.fst), hsameChain, List.length_map]
    intro u fs' hrun
    rw [bind_of_ok hall, hfinish, hfirst, hsame.name, hsame.dirCluster, hsame.totalSize, hwname,
      hwdir, hwsize] at hrun
    revert u fs'
    show Ensures _ fs₂ _
    refine (h₂.createFileEntry_ensures hfits hbytes hwf ho hfree hroot hlen' hname hplain).mono ?_
    rintro _ fs' ⟨now, t', label', hdata, h', hwf', hadds⟩
    refine ⟨_, t', label', rfl, rfl, rfl, ?_, fun hsize => ?_, h', hwf', hadds⟩
    · rw [htaken.clusters, List.nil_append, hchain]
      rfl
    · rw [List.nil_append, hwsize, List.length_nil, Nat.sub_zero, List.length_take_of_le hsize]
        at hcontents
      rw [hdata, hcontents]

/-! ## The public operations -/

omit [Lowercase] in
theorem slash_notMem_of_parsed {path name : String} {parents : List String}
    (h : parsePath path = parents ++ [name]) : '/' ∉ name.toList :=
  (parsePath_plain (h ▸ List.mem_append_right _ List.mem_cons_self)).1

/-- Writing a file where a path leads puts it there. -/
theorem Stores.writeResolved_ensures (h : Stores g t fs) (hfits : g.BitmapFits)
    (hbytes : g.clusterCount * g.clusterSize < 2 ^ 64) (hwf : Wf g t label)
    (ho : t k = some (.dir rows)) {name : String} {location : Option FileEntryLocation}
    (hfinds : Finds (toLowercase name) rows location)
    (hplain : k ≠ g.firstClusterOfRoot → '/' ∉ name.toList) (hname : NameFits name) (path : String)
    (data : List UInt8) (overwrite : Bool) :
    Ensures (do
        replaceFile path location overwrite
        writeFileDataAndEntry k name data) fs fun _ fs' =>
      ∃ t' label', Stores g t' fs' ∧
        Puts g t label k name (fun e => overwrite = true ∧ e.isDir = false) (· = data) t' label' := by
  refine Ensures.bind (h.replaceFile_ensures hwf ho hfinds path overwrite) ?_
  rintro _ fs₂ ⟨t₂, h₂, hclears⟩
  have hwf₂ := hclears.wf hwf
  obtain ⟨rows₂, hrows₂⟩ := hclears.dir
  refine (h₂.writeFileDataAndEntry_ensures hfits hbytes hwf₂ hrows₂ hname hplain data).mono ?_
  rintro _ fs' ⟨c, now, t', label', -, hdata, h', hwf', hadds⟩
  exact ⟨t', label', h', t₂, _, hclears, hwf₂, hadds, hwf', rfl, rfl, hdata⟩

/-- A successful `write_file_path` puts the file at the path. -/
theorem Stores.writeFilePath_ensures (h : Stores g t fs) (hfits : g.BitmapFits)
    (hbytes : g.clusterCount * g.clusterSize < 2 ^ 64) (hwf : Wf g t label) (path : String)
    (data : List UInt8) (createParents overwrite : Bool) :
    Ensures (writeFilePath path data createParents overwrite) fs fun _ fs' =>
      ∃ resolved t₁ label₁ parents rows t' label', Stores g t' fs' ∧
        Resolves g createParents path t label resolved t₁ label₁ parents rows ∧
        Puts g t₁ label₁ resolved.parentCluster resolved.name
          (fun e => overwrite = true ∧ e.isDir = false) (· = data) t' label' := by
  refine Ensures.bind (h.resolvePath_ensures hfits hwf path createParents) ?_
  rintro resolved fs₁ ⟨t₁, label₁, parents, rows, h₁, hresolves⟩
  by_cases hname : resolved.name = "" ∨ utf8Len resolved.name > 255
  · rw [if_pos hname]
    exact Ensures.throw
  · rw [if_neg hname]
    refine (h₁.writeResolved_ensures hfits hbytes hresolves.wf hresolves.parent hresolves.finds
      (fun _ => slash_notMem_of_parsed hresolves.parsed) hname path data overwrite).mono ?_
    rintro _ fs' ⟨t', label', h', hputs⟩
    exact ⟨resolved, t₁, label₁, parents, rows, t', label', h', hresolves, hputs⟩

/-- A session in a directory puts the file. -/
theorem Stores.session_ensures (h : Stores g t fs) (hfits : g.BitmapFits)
    (hbytes : g.clusterCount * g.clusterSize < 2 ^ 64) (hwf : Wf g t label)
    (ho : t k = some (.dir rows)) (name : String) (totalSize : Nat) (overwrite : Bool)
    (hplain : k ≠ g.firstClusterOfRoot → '/' ∉ name.toList) (chunks : List (List UInt8)) :
    Ensures (do
        let writer ← ExfatFileWriter.createInDirectory k name totalSize overwrite
        let writer ← ExfatFileWriter.writeAll writer chunks
        ExfatFileWriter.finish writer) fs fun _ fs' => ∃ t' label', Stores g t' fs' ∧
      Puts g t label k name (fun _ => overwrite = true)
        (fun bytes => chunks.flatten.length = totalSize → bytes = chunks.flatten) t' label' := by
  refine Ensures.bind (h.createInDirectory_ensures hfits hwf ho name totalSize overwrite) ?_
  rintro writer fs₁ ⟨t₁, hclears, hname, hopened⟩
  have hwf₁ := hclears.wf hwf
  obtain ⟨rows₁, hrows₁⟩ := hclears.dir
  refine (hopened.finish_ensures hfits hbytes hwf₁ hrows₁ hname hplain chunks).mono ?_
  rintro _ fs' ⟨e, t', label', hename, hdir, -, -, hdata, h', hwf', hadds⟩
  refine ⟨t', label', h', t₁, e, hclears, hwf₁, hadds, hwf', hename, hdir, fun hsize => ?_⟩
  rw [hdata (Nat.le_of_eq hsize.symm), ← hsize, List.take_length]

/-- A session where a path leads puts the file there. -/
theorem Stores.sessionResolved_ensures (h : Stores g t fs) (hfits : g.BitmapFits)
    (hbytes : g.clusterCount * g.clusterSize < 2 ^ 64) (hwf : Wf g t label)
    (ho : t k = some (.dir rows)) {name : String} {location : Option FileEntryLocation}
    (hfinds : Finds (toLowercase name) rows location)
    (hplain : k ≠ g.firstClusterOfRoot → '/' ∉ name.toList) (path : String) (totalSize : Nat)
    (overwrite : Bool) (chunks : List (List UInt8)) :
    Ensures (do
        replaceFile path location overwrite
        let writer ← ExfatFileWriter.createInDirectory k name totalSize false
        let writer ← ExfatFileWriter.writeAll writer chunks
        ExfatFileWriter.finish writer) fs fun _ fs' =>
      ∃ t' label', Stores g t' fs' ∧
        Puts g t label k name (fun e => overwrite = true ∧ e.isDir = false)
          (fun bytes => chunks.flatten.length = totalSize → bytes = chunks.flatten) t' label' := by
  refine Ensures.bind (h.replaceFile_ensures hwf ho hfinds path overwrite) ?_
  rintro _ fs₂ ⟨t₂, h₂, hclears⟩
  obtain ⟨rows₂, hrows₂⟩ := hclears.dir
  refine (h₂.session_ensures hfits hbytes (hclears.wf hwf) hrows₂ name totalSize false hplain
    chunks).mono ?_
  rintro _ fs' ⟨t', label', h', t₃, e, hclears', hputs⟩
  cases hclears' with
  | absent _ _ _ => exact ⟨t', label', h', t₂, e, hclears, hputs⟩
  | removed _ _ _ _ hfalse _ => cases hfalse

/-- A session at a path puts the file. -/
theorem Stores.sessionAtPath_ensures (h : Stores g t fs) (hfits : g.BitmapFits)
    (hbytes : g.clusterCount * g.clusterSize < 2 ^ 64) (hwf : Wf g t label) (path : String)
    (totalSize : Nat) (createParents overwrite : Bool) (chunks : List (List UInt8)) :
    Ensures (do
        let writer ← ExfatFileWriter.createAtPath path totalSize createParents overwrite
        let writer ← ExfatFileWriter.writeAll writer chunks
        ExfatFileWriter.finish writer) fs fun _ fs' =>
      ∃ resolved t₁ label₁ parents rows t' label', Stores g t' fs' ∧
        Resolves g createParents path t label resolved t₁ label₁ parents rows ∧
        Puts g t₁ label₁ resolved.parentCluster resolved.name
          (fun e => overwrite = true ∧ e.isDir = false)
          (fun bytes => chunks.flatten.length = totalSize → bytes = chunks.flatten) t' label' := by
  simp only [ExfatFileWriter.createAtPath, bind_assoc]
  refine Ensures.bind (h.resolvePath_ensures hfits hwf path createParents) ?_
  rintro resolved fs₁ ⟨t₁, label₁, parents, rows, h₁, hresolves⟩
  refine (h₁.sessionResolved_ensures hfits hbytes hresolves.wf hresolves.parent hresolves.finds
    (fun _ => slash_notMem_of_parsed hresolves.parsed) path totalSize overwrite chunks).mono ?_
  rintro _ fs' ⟨t', label', h', hputs⟩
  exact ⟨resolved, t₁, label₁, parents, rows, t', label', h', hresolves, hputs⟩

/-- A successful `create_directory` adds a blank directory at the path. -/
theorem Stores.createDirectory_ensures (h : Stores g t fs) (hfits : g.BitmapFits)
    (hwf : Wf g t label) (path : String) (createParents : Bool) :
    Ensures (createDirectory path createParents) fs fun _ fs' =>
      ∃ resolved t₁ label₁ parents rows t' label' e, Stores g t' fs' ∧
        Resolves g createParents path t label resolved t₁ label₁ parents rows ∧
        Adds t₁ label₁ resolved.parentCluster e t' label' ∧ Wf g t' label' ∧
        e.name = resolved.name ∧ e.isDir = true ∧
        ∀ e' ∈ rowSets rows, ¬ e'.Named (toLowercase resolved.name) := by
  refine Ensures.bind (h.resolvePath_ensures hfits hwf path createParents) ?_
  rintro resolved fs₁ ⟨t₁, label₁, parents, rows, h₁, hresolves⟩
  cases hlocation : resolved.location with
  | some location => exact Ensures.throw
  | none =>
    refine Ensures.bind (h₁.createDirectoryIn_ensures hfits hresolves.wf hresolves.parent
      fun _ => slash_notMem_of_parsed hresolves.parsed) ?_
    rintro new fs' ⟨e, t', label', hename, hdir, -, -, h', hwf', hadds, hnone⟩
    exact Ensures.pure ⟨resolved, t₁, label₁, parents, rows, t', label', e, h', hresolves, hadds,
      hwf', hename, hdir, hnone⟩

/-! ## Walking the tree -/

/-- The directory that folded names lead to from a directory. -/
def walk (t : Table) : Nat → List String → Option Nat
  | k, [] => some k
  | k, f :: rest =>
    match t k with
    | some (.dir rows) =>
      match (rowSets rows).find? fun e => decide (e.folded = f) with
      | some e => if e.isDir = true then walk t e.firstCluster rest else none
      | none => none
    | _ => none

/-- The first set of a name. -/
theorem find?_first {p : Place} {e : EntrySet} {f : String} (hnamed : e.Named f)
    (hbefore : ∀ e' ∈ p.setsBefore, ¬ e'.Named f) :
    (rowSets (p.fill [.set e])).find? (fun e => decide (e.folded = f)) = some e := by
  have hnone : p.setsBefore.find? (fun e => decide (e.folded = f)) = none := by
    rw [List.find?_eq_none]
    intro e' he'
    exact fun hfolded => hbefore e' he' (of_decide_eq_true hfolded)
  have hself : decide (e.folded = f) = true := decide_eq_true hnamed
  rw [Place.rowSets_fill, List.append_assoc, List.find?_append, hnone, Option.none_or]
  exact List.find?_cons_of_pos hself

/-- One step of a walk. -/
theorem walk_cons_iff {f : String} {rest : List String} {k' : Nat} :
    walk t k (f :: rest) = some k' ↔ ∃ rows e, t k = some (.dir rows) ∧
      (rowSets rows).find? (fun e => decide (e.folded = f)) = some e ∧ e.isDir = true ∧
      walk t e.firstCluster rest = some k' := by
  rw [walk]
  constructor
  · intro h
    split at h
    · rename_i rows hrows
      split at h
      · rename_i e hfind
        split at h
        · rename_i hdir
          exact ⟨rows, e, hrows, hfind, hdir, h⟩
        · cases h
      · cases h
    · cases h
  · rintro ⟨rows, e, hrows, hfind, hdir, h⟩
    simp only [hrows, hfind, if_pos hdir]
    exact h

theorem walk_append_iff {a b : List String} {k' : Nat} :
    walk t k (a ++ b) = some k' ↔ ∃ j, walk t k a = some j ∧ walk t j b = some k' := by
  induction a generalizing k with
  | nil =>
    constructor
    · exact fun h => ⟨k, rfl, h⟩
    · rintro ⟨j, hj, h⟩
      cases hj
      exact h
  | cons f rest ih =>
    rw [List.cons_append, walk_cons_iff]
    constructor
    · rintro ⟨rows, e, hrows, hfind, hdir, h⟩
      obtain ⟨j, hj, hrest⟩ := ih.mp h
      exact ⟨j, walk_cons_iff.mpr ⟨rows, e, hrows, hfind, hdir, hj⟩, hrest⟩
    · rintro ⟨j, hj, hrest⟩
      obtain ⟨rows, e, hrows, hfind, hdir, h⟩ := walk_cons_iff.mp hj
      exact ⟨rows, e, hrows, hfind, hdir, ih.mpr ⟨j, h, hrest⟩⟩

/-- The last step of a walk. -/
theorem walk_concat_iff {names : List String} {f : String} {k' : Nat} :
    walk t k (names ++ [f]) = some k' ↔ ∃ j rows e, walk t k names = some j ∧
      t j = some (.dir rows) ∧ (rowSets rows).find? (fun e => decide (e.folded = f)) = some e ∧
      e.isDir = true ∧ e.firstCluster = k' := by
  rw [walk_append_iff]
  constructor
  · rintro ⟨j, hj, h⟩
    obtain ⟨rows, e, hrows, hfind, hdir, h⟩ := walk_cons_iff.mp h
    exact ⟨j, rows, e, hj, hrows, hfind, hdir, Option.some.inj h⟩
  · rintro ⟨j, rows, e, hj, hrows, hfind, hdir, rfl⟩
    exact ⟨j, hj, walk_cons_iff.mpr ⟨rows, e, hrows, hfind, hdir, rfl⟩⟩

/-- A directory found has the label of the name it was found by. -/
theorem Wf.find_label (hwf : Wf g t label) (ho : t k = some (.dir rows)) {f : String} {e : EntrySet}
    (hfind : (rowSets rows).find? (fun e => decide (e.folded = f)) = some e)
    (hdir : e.isDir = true) : label e.firstCluster = label k ++ [f] := by
  have he := List.mem_of_find?_eq_some hfind
  have hfolded : e.folded = f := by simpa using List.find?_some hfind
  obtain ⟨hne, -, -⟩ := hwf.dir_of_mem ho he hdir
  rw [← hfolded]
  exact ((hwf.entries k rows ho e he).2.object hne).2.2

/-- The label of a directory reached is the walk to it. -/
theorem Wf.walk_label (hwf : Wf g t label) {names : List String} {k' : Nat}
    (h : walk t k names = some k') : label k' = label k ++ names := by
  induction names generalizing k with
  | nil =>
    cases h
    rw [List.append_nil]
  | cons f rest ih =>
    obtain ⟨rows, e, hrows, hfind, hdir, h⟩ := walk_cons_iff.mp h
    rw [ih h, hwf.find_label hrows hfind hdir, List.append_assoc]
    rfl

/-- A walk depends on the directories on the way only. -/
theorem Wf.walk_congr (hwf : Wf g t label) {t' : Table} {names : List String} {k' : Nat}
    (h : walk t k names = some k')
    (hagree : ∀ x, label x <+: label k' → x ≠ k' → t' x = t x) : walk t' k names = some k' := by
  induction names generalizing k with
  | nil => exact h
  | cons f rest ih =>
    have hlabel := hwf.walk_label h
    obtain ⟨rows, e, hrows, hfind, hdir, h⟩ := walk_cons_iff.mp h
    have hk : t' k = t k := by
      refine hagree k (hlabel ▸ List.prefix_append ..) ?_
      rintro rfl
      have hlen := congrArg List.length hlabel
      rw [List.length_append, List.length_cons] at hlen
      omega
    exact walk_cons_iff.mpr ⟨rows, e, hk.trans hrows, hfind, hdir, ih h⟩

/-- Following components without creating any is a walk. -/
theorem Follows.same {t' : Table} {label' : Nat → List String} {k' : Nat}
    {components : List String} (h : Follows g false t label k components t' label' k') :
    t' = t ∧ label' = label ∧ walk t k (components.map toLowercase) = some k' := by
  generalize hfalse : false = createParents at h
  induction h with
  | nil => exact ⟨rfl, rfl, rfl⟩
  | found p e ho hnamed hbefore hdir _ ih =>
    obtain ⟨rfl, rfl, hwalk⟩ := ih
    exact ⟨rfl, rfl, walk_cons_iff.mpr ⟨_, e, ho, find?_first hnamed hbefore, hdir, hwalk⟩⟩
  | made rows e htrue _ _ _ _ _ _ _ _ _ => exact absurd (hfalse.trans htrue) (by decide)

/-! ## Removing paths -/

/-- What a path comes to that is resolved without creating any directory. -/
structure Locates (g : VolumeParams) (path : String) (t : Table) (resolved : ResolvedPath)
    (parents : List String) (rows : Rows) : Prop where
  parsed : parsePath path = parents ++ [resolved.name]
  walks : walk t g.firstClusterOfRoot (parents.map toLowercase) = some resolved.parentCluster
  parent : t resolved.parentCluster = some (.dir rows)
  finds : Finds (toLowercase resolved.name) rows resolved.location

/-- Resolving a path without creating any directory changes nothing. -/
theorem Stores.locatePath_ensures (h : Stores g t fs) (hfits : g.BitmapFits) (hwf : Wf g t label)
    (path : String) :
    Ensures (resolvePath path false) fs fun resolved fs' => ∃ parents rows,
      Stores g t fs' ∧ Locates g path t resolved parents rows := by
  refine (h.resolvePath_ensures hfits hwf path false).mono ?_
  rintro resolved fs' ⟨t', label', parents, rows, h', hparsed, hfollows, -, hparent, hfinds⟩
  obtain ⟨rfl, rfl, hwalk⟩ := hfollows.same
  exact ⟨parents, rows, h', hparsed, hwalk, hparent, hfinds⟩

/-- An entry of the directory `k` is cut off: it is gone, and what changes besides has a
label below it. -/
structure Cuts (t : Table) (label : Nat → List String) (k : Nat) (p : Place) (e : EntrySet)
    (t' : Table) : Prop where
  before : t k = some (.dir (p.fill [.set e]))
  after : t' k = some (.dir (p.fill e.deleted))
  others : ∀ x, x ≠ k → ¬ label k ++ [e.folded] <+: label x → t' x = t x

theorem Removes.cuts {p : Place} {e : EntrySet} {t' : Table} (h : Removes t k p e t')
    (hwf : Wf g t label) : Cuts t label k p e t' := by
  refine ⟨h.before, h.after, fun x hx hlabel => h.others x hx ?_⟩
  rintro ⟨hne, rfl⟩
  obtain ⟨-, -, hobject⟩ := (hwf.entries k _ h.before e (p.mem_fill e)).2.object hne
  exact hlabel (hobject ▸ List.prefix_refl _)

/-- The entry of a path is cut off. -/
inductive Deletes (g : VolumeParams) (path : String) (t : Table) (label : Nat → List String)
    (recursively : Bool) : Table → Prop
  | mk {parents : List String} {name : String} {k : Nat} {t' : Table} (p : Place) (e : EntrySet) :
      parsePath path = parents ++ [name] →
      walk t g.firstClusterOfRoot (parents.map toLowercase) = some k →
      e.Named (toLowercase name) → (∀ e' ∈ p.setsBefore, ¬ e'.Named (toLowercase name)) →
      (recursively = false → e.isDir = true → ∀ below, t e.firstCluster = some (.dir below) →
        infos "" (rowSets below) = []) →
      Cuts t label k p e t' → Deletes g path t label recursively t'

/-- A successful `delete_path` cuts off the entry of the path, a file or an empty directory. -/
theorem Stores.deletePath_ensures (h : Stores g t fs) (hfits : g.BitmapFits) (hwf : Wf g t label)
    (path : String) :
    Ensures (deletePath path) fs fun _ fs' => ∃ t', Stores g t' fs' ∧ Wf g t' label ∧
      Deletes g path t label false t' ∧ Shrinks t t' := by
  refine Ensures.bind (h.locatePath_ensures hfits hwf path) ?_
  rintro resolved fs₁ ⟨parents, rows, h₁, hparsed, hwalk, hparent, hfinds⟩
  cases hlocation : resolved.location with
  | none => exact Ensures.throw
  | some location =>
    rw [hlocation] at hfinds
    cases hfinds with
    | found p e hrows hnamed hbefore =>
      subst hrows
      have hremove : (e.isDir = true → ∀ below, t e.firstCluster = some (.dir below) →
          infos "" (rowSets below) = []) → ∀ fs₂, Stores g t fs₂ →
          Ensures (removeLocation (p.locate e)) fs₂ fun _ fs' => ∃ t', Stores g t' fs' ∧
            Wf g t' label ∧ Deletes g path t label false t' ∧ Shrinks t t' := by
        intro hempty fs₂ h₂
        refine (h₂.removeLocation_returns hwf hparent).ensures.mono ?_
        rintro _ fs' ⟨t', h', hremoves⟩
        exact ⟨t', h', hwf.removes hremoves,
          .mk p e hparsed hwalk hnamed hbefore (fun _ => hempty) (hremoves.cuts hwf),
          hremoves.shrinks⟩
      by_cases hdir : e.isDir = true
      · obtain ⟨-, -, below, hbelow⟩ := hwf.dir_of_mem hparent (p.mem_fill e) hdir
        have hlocate : (p.locate e).isDirectory = true := hdir
        simp only [if_pos hlocate]
        refine Ensures.bind (h₁.listFilesInDirectory_returns hbelow
          (hwf.shaped _ _ hbelow) "").ensures ?_
        rintro contents fs₂ ⟨h₂, rfl⟩
        by_cases hempty : infos "" (rowSets below) ≠ []
        · rw [if_pos hempty]
          exact Ensures.throw
        · rw [if_neg hempty]
          refine hremove (fun _ below' hbelow' => ?_) fs₂ h₂
          rw [hbelow] at hbelow'
          cases hbelow'
          exact not_ne_iff.mp hempty
      · have hlocate : ¬ (p.locate e).isDirectory = true := hdir
        simp only [if_neg hlocate]
        exact hremove (fun he => absurd he hdir) fs₁ h₁

omit [Lowercase] in
/-- The items of a directory below the root have names that are path components. -/
theorem mem_infos {below : Rows} {item : FileInfo} (h : item ∈ infos "" (rowSets below))
    (hplain : ∀ e ∈ rowSets below, '/' ∉ e.name.toList) :
    '/' ∉ item.name.toList ∧ item.name ≠ "" := by
  obtain ⟨e, he, rfl⟩ := List.mem_map.mp h
  obtain ⟨he, hne⟩ := List.mem_filter.mp he
  exact ⟨slash_notMem_decodedName (hplain e he), of_decide_eq_true hne⟩

/-- Only the directory of a set and what lies below it has changed, and nothing is added. -/
def ChangedBelow (g : VolumeParams) (t : Table) (label : Nat → List String) (e : EntrySet)
    (fs : ExfatFs) : Prop :=
  ∃ t₁, Stores g t₁ fs ∧ Wf g t₁ label ∧ Shrinks t t₁ ∧
    ∀ x, ¬ label e.firstCluster <+: label x → t₁ x = t x

/-- A directory that the set's one lies below keeps its entries. -/
theorem not_prefix_of_label {e : EntrySet} {l : List String}
    (hlabel : label e.firstCluster = label k ++ [e.folded]) (hl : l <+: label k) :
    ¬ label e.firstCluster <+: l := by
  intro hextends
  have hlen := (hextends.trans hl).length_le
  rw [hlabel, List.length_append, List.length_singleton] at hlen
  omega

/-- Deleting one item of a directory changes nothing outside it. -/
theorem deleteItem_ensures {depth : Nat} {path : String}
    (hdelete : ∀ (path : String) (t : Table) (fs : ExfatFs), Stores g t fs → Wf g t label →
      Ensures (deleteRecursive depth path) fs fun _ fs' => ∃ t', Stores g t' fs' ∧
        Wf g t' label ∧ Deletes g path t label true t' ∧ Shrinks t t')
    (hwf : Wf g t label) {parents : List String} {name : String} {p : Place} {e : EntrySet}
    (hparsed : parsePath path = parents ++ [name])
    (hwalk : walk t g.firstClusterOfRoot (parents.map toLowercase) = some k)
    (hparent : t k = some (.dir (p.fill [.set e]))) (hnamed : e.Named (toLowercase name))
    (hbefore : ∀ e' ∈ p.setsBefore, ¬ e'.Named (toLowercase name)) (hdir : e.isDir = true)
    {below : Rows} (hbelow : t e.firstCluster = some (.dir below)) {item : FileInfo}
    (hitem : item ∈ infos "" (rowSets below)) (h : ChangedBelow g t label e fs) :
    Ensures (deleteRecursive depth (itemPath path item.name)) fs fun _ fs' =>
      ChangedBelow g t label e fs' := by
  obtain ⟨t₁, h₁, hwf₁, hshrinks, hsame⟩ := h
  obtain ⟨hne, hroot, -⟩ := hwf.dir_of_mem hparent (p.mem_fill e) hdir
  obtain ⟨-, -, hlabel⟩ := (hwf.entries _ _ hparent e (p.mem_fill e)).2.object hne
  obtain ⟨hslash, hname⟩ := mem_infos hitem (hwf.plain _ _ hbelow (by omega))
  refine (hdelete (itemPath path item.name) t₁ fs h₁ hwf₁).mono ?_
  rintro _ fs' ⟨t₂, h', hwf₂, hdeletes, hshrinks'⟩
  cases hdeletes with
  | mk p' e' hparsed' hwalk' hnamed' hbefore' _ hcuts =>
    rename_i parents' name' k'
    rw [parsePath_itemPath path hslash hname, hparsed] at hparsed'
    obtain ⟨rfl, hlast⟩ := List.append_inj' hparsed' rfl
    cases hlast
    -- the path of the directory still leads to it
    have hwalk₁ := hwf.walk_congr hwalk fun x hx _ => hsame x (not_prefix_of_label hlabel hx)
    have hparent₁ : t₁ k = some (.dir (p.fill [.set e])) := by
      rw [hsame _ (not_prefix_of_label hlabel (List.prefix_refl _)), hparent]
    have hwalk₂ : walk t₁ g.firstClusterOfRoot ((parents ++ [name]).map toLowercase)
        = some e.firstCluster := by
      rw [List.map_append]
      exact walk_concat_iff.mpr ⟨_, _, e, hwalk₁, hparent₁, find?_first hnamed hbefore, hdir, rfl⟩
    rw [hwalk₂] at hwalk'
    cases hwalk'
    refine ⟨t₂, h', hwf₂, hshrinks.trans hshrinks', fun x hx => ?_⟩
    have hne : x ≠ e.firstCluster := by
      rintro rfl
      exact hx (List.prefix_refl _)
    rw [hcuts.others x hne fun hextends =>
      hx ((List.prefix_append _ _).trans hextends), hsame x hx]

/-- A successful `delete_recursive` cuts off the entry of the path. -/
theorem deleteRecursive_ensures (hfits : g.BitmapFits) (depth : Nat) :
    ∀ (path : String) (t : Table) (fs : ExfatFs), Stores g t fs → Wf g t label →
      Ensures (deleteRecursive depth path) fs fun _ fs' => ∃ t', Stores g t' fs' ∧
        Wf g t' label ∧ Deletes g path t label true t' ∧ Shrinks t t' := by
  induction depth with
  | zero => exact fun _ _ _ _ _ => Ensures.throw
  | succ depth ih =>
    intro path t fs h hwf
    refine Ensures.bind (h.locatePath_ensures hfits hwf path) ?_
    rintro resolved fs₁ ⟨parents, rows, h₁, hparsed, hwalk, hparent, hfinds⟩
    cases hlocation : resolved.location with
    | none => exact Ensures.throw
    | some location =>
      rw [hlocation] at hfinds
      cases hfinds with
      | found p e hrows hnamed hbefore =>
        subst hrows
        by_cases hdir : e.isDir = true
        · obtain ⟨hne, -, below, hbelow⟩ := hwf.dir_of_mem hparent (p.mem_fill e) hdir
          obtain ⟨-, -, hlabel⟩ := (hwf.entries _ _ hparent e (p.mem_fill e)).2.object hne
          have hfolded : e.folded = toLowercase resolved.name := hnamed
          have hlocate : (p.locate e).isDirectory = true := hdir
          simp only [if_pos hlocate]
          refine Ensures.bind (h₁.listFilesInDirectory_returns hbelow
            (hwf.shaped _ _ hbelow) "").ensures ?_
          rintro contents fs₂ ⟨h₂, rfl⟩
          -- the items are deleted one by one; what changes lies in the directory or below it
          refine Ensures.bind (Ensures.forM (ChangedBelow g t label e) (infos "" (rowSets below))
            (fun item hitem s hs => deleteItem_ensures ih hwf hparsed hwalk hparent hnamed hbefore
              hdir hbelow hitem hs) fs₂ ⟨t, h₂, hwf, .refl t, fun _ _ => rfl⟩) ?_
          rintro _ fs₃ ⟨t₁, h₃, hwf₁, hshrinks, hsame⟩
          have hparent₁ : t₁ resolved.parentCluster = some (.dir (p.fill [.set e])) := by
            rw [hsame _ (not_prefix_of_label hlabel (List.prefix_refl _)), hparent]
          refine (h₃.removeLocation_returns hwf₁ hparent₁).ensures.mono ?_
          rintro _ fs' ⟨t', h', hremoves⟩
          have hcuts := hremoves.cuts hwf₁
          refine ⟨t', h', hwf₁.removes hremoves, .mk p e hparsed hwalk hnamed hbefore
            (fun hfalse => nomatch hfalse) ⟨hparent, hcuts.after, fun x hx hout => ?_⟩,
            hshrinks.trans hremoves.shrinks⟩
          rw [hcuts.others x hx hout, hsame x (hlabel ▸ hout)]
        · have hlocate : ¬ (p.locate e).isDirectory = true := hdir
          simp only [if_neg hlocate]
          refine (h₁.removeLocation_returns hwf hparent).ensures.mono ?_
          rintro _ fs' ⟨t', h', hremoves⟩
          exact ⟨t', h', hwf.removes hremoves, .mk p e hparsed hwalk hnamed hbefore
            (fun hfalse => nomatch hfalse) (hremoves.cuts hwf), hremoves.shrinks⟩

end StreamBox.Exfat
