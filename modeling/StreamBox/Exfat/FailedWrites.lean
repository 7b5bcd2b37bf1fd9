import StreamBox.Exfat.Failures

/-!
# What failed writes leave

The steps of the write operations, when they fail.

* **Leaks** — a file or a directory whose entry cannot be created keeps its clusters: the table
  has an object more, that no entry refers to (`Extends`).
* **Steps** — each step has done nothing, or has leaked clusters, and which of the two is said
  by a condition on the state before it (`Ends`).
* **Parents** — what resolving a path leaves, when it creates directories on the way.
-/

namespace StreamBox.Exfat

section

variable {g : VolumeParams} {t t' t'' : Table} {label : Nat → List String} {fs fs' : ExfatFs}
  {k : Nat} {rows : Rows}

/-! ## Leaks -/

/-- `t'` has the objects of `t`, and maybe files that no entry refers to. -/
structure Extends (t t' : Table) : Prop where
  kept : ∀ x o, t x = some o → t' x = some o
  files : ∀ x rows, t' x = some (.dir rows) → t x = some (.dir rows)

theorem Extends.refl (t : Table) : Extends t t := ⟨fun _ _ h => h, fun _ _ h => h⟩

theorem Extends.trans (h : Extends t t') (h' : Extends t' t'') : Extends t t'' :=
  ⟨fun x o hx => h'.kept x o (h.kept x o hx), fun x rows hx => h.files x rows (h'.files x rows hx)⟩

theorem Extends.file {c : Nat} (hfree : t c = none) (file : List (Nat × List UInt8)) :
    Extends t (Function.update t c (some (.file file))) := by
  constructor
  · intro x o hx
    have hne : x ≠ c := by
      rintro rfl
      rw [hfree] at hx
      cases hx
    rwa [Function.update_of_ne hne]
  · intro x rows hx
    by_cases hxc : x = c
    · subst hxc
      rw [Function.update_self] at hx
      cases hx
    · rwa [Function.update_of_ne hxc] at hx

/-- The volume has an object more, at a cluster that was free before. -/
def Leaked (g : VolumeParams) (t : Table) (fs fs' : ExfatFs) : Prop :=
  ∃ t' x, Stores g t' fs' ∧ Extends t t' ∧ g.firstClusterOfRoot < x ∧
    fs.disk.allocated x = false ∧ t' x ≠ none

/-- A run has leaked clusters if this holds, and done nothing if not. -/
def Ends (leaks : Prop) (g : VolumeParams) (t : Table) (fs fs' : ExfatFs) : Prop :=
  (leaks ∧ Leaked g t fs fs') ∨ (¬ leaks ∧ Quiet g t fs fs')

/-- Doing nothing first makes no difference. -/
theorem Ends.after {leaks : Prop} {fs₁ : ExfatFs} (h : Ends leaks g t fs₁ fs')
    (hquiet : Quiet g t fs fs₁) : Ends leaks g t fs fs' := by
  rcases h with ⟨hleaks, t', x, h', hextends, hroot, hfree, hx⟩ | ⟨hnot, hquiet'⟩
  · exact Or.inl ⟨hleaks, t', x, h', hextends, hroot, hquiet.disk ▸ hfree, hx⟩
  · exact Or.inr ⟨hnot, hquiet.trans hquiet'⟩

theorem Ends.congr {leaks leaks' : Prop} (h : Ends leaks g t fs fs') (hiff : leaks ↔ leaks') :
    Ends leaks' g t fs fs' := by
  rwa [← propext hiff]

/-- The table after a run that has leaked clusters or done nothing. -/
theorem Ends.extends {leaks : Prop} (h : Ends leaks g t fs fs') :
    ∃ t', Stores g t' fs' ∧ Extends t t' := by
  rcases h with ⟨-, t', -, h', hextends, -⟩ | ⟨-, hquiet⟩
  · exact ⟨t', h', hextends⟩
  · exact ⟨t, hquiet.stores, .refl t⟩

/-! ## Writing data -/

/-- A file of that many bytes gets clusters: it needs some, and there are enough. -/
def ExfatFs.Affords (fs : ExfatFs) (size : Nat) : Prop :=
  0 < size ∧ clustersNeeded size fs.clusterSize ≤ fs.freeClusters.length

theorem Quiet.affords {fs₁ : ExfatFs} (h : Quiet g t fs fs₁) (hstores : Stores g t fs) {size : Nat} :
    fs₁.Affords size ↔ fs.Affords size := by
  rw [ExfatFs.Affords, ExfatFs.Affords, h.freeClusters hstores, h.stores.params, hstores.params]

/-- An allocation for a file fails when there are too few free clusters. -/
theorem Stores.allocateFile_fails (h : Stores g t fs) {size : Nat}
    (hneeded : 0 < clustersNeeded size g.clusterSize) :
    Fails (allocateClusters (clustersNeeded size g.clusterSize)) fs fun _ fs' =>
      ¬ fs.Affords size ∧ Quiet g t fs fs' := by
  refine (h.allocateClusters_fails _).mono ?_
  rintro _ fs' ⟨hquiet, hfew⟩
  refine ⟨fun hafford => ?_, hquiet⟩
  have henough := hafford.2
  rw [h.params] at henough
  omega

/-- An allocation for a file, when it succeeds. -/
theorem Stores.allocateFile_ensures (h : Stores g t fs) (hfits : g.BitmapFits) {size : Nat}
    (hneeded : 0 < clustersNeeded size g.clusterSize) :
    Ensures (allocateClusters (clustersNeeded size g.clusterSize)) fs fun first fs' => ∃ rows,
      Stores g (Function.update t first (some (.file rows))) fs' ∧ t first = none ∧
        g.firstClusterOfRoot < first ∧ rows.length = clustersNeeded size g.clusterSize ∧
        (∃ rest, rows.map Prod.fst = first :: rest) ∧ fs.Affords size ∧
        fs.disk.allocated first = false := by
  have hsize := h.valid.sizeLo
  have hpos := (clustersNeeded_pos_iff (by omega)).mp hneeded
  refine ((h.allocateClusters_ensures hfits _).and (h.allocateClusters_enough _)).mono ?_
  rintro first fs' ⟨⟨file, h', hfree, hroot, hlen, hfresh, hchain⟩, henough⟩
  exact ⟨file, h', hfree, hroot, hlen, hchain, ⟨hpos, h.params.symm ▸ henough⟩, hfresh⟩

/-- The entry of a file stored, whose first cluster was free before. -/
theorem Stores.createFileEntry_fails {file : List (Nat × List UInt8)} {c size : Nat}
    {fs₁ : ExfatFs} (h : Stores g (Function.update t c (some (.file file))) fs₁)
    (hfits : g.BitmapFits) (hbytes : g.clusterCount * g.clusterSize < 2 ^ 64)
    (ho : t k = some (.dir rows)) (hshaped : Shaped rows) (hfree : t c = none)
    (hroot : g.firstClusterOfRoot < c) (hfresh : fs.disk.allocated c = false)
    (hlen : file.length = clustersNeeded size g.clusterSize) {name : String} (hname : NameFits name) :
    Fails (createEntryInDirectory k name c size false) fs₁ fun _ fs' => Leaked g t fs fs' := by
  have hself : Function.update t c (some (Obj.file file)) c = some (.file file) :=
    Function.update_self ..
  have hextends : Extends t (Function.update t c (some (.file file))) := .file hfree file
  have hok : ∀ now, (EntrySet.mk name c size false now).Ok := fun now =>
    hname.ok (h.key_lt hself) (Nat.lt_of_le_of_lt (h.size_le hself hlen) hbytes)
  refine (h.createEntryInDirectory_fails hfits (hextends.kept k _ ho) hshaped name c size false
    hok).mono ?_
  intro _ fs' hquiet
  refine ⟨_, c, hquiet.stores, hextends, hroot, hfresh, ?_⟩
  rw [hself]
  exact Option.some_ne_none _

/-- Writing file data fails without leaks if no cluster is allocated. -/
theorem Stores.writeFileDataAndEntry_fails (h : Stores g t fs) (hg : g.Fits)
    (ho : t k = some (.dir rows)) (hshaped : Shaped rows) {name : String} (hname : NameFits name)
    (data : List UInt8) :
    Fails (writeFileDataAndEntry k name data) fs fun _ fs' =>
      Ends (fs.Affords data.length) g t fs fs' := by
  obtain rfl := h.params
  have hsize := h.valid.sizeLo
  refine Fails.of_run (x := get) rfl ?_
  by_cases hneeded : clustersNeeded data.length fs.clusterSize > 0
  · rw [if_pos hneeded]
    refine Fails.bind ((h.allocateFile_fails hneeded).mono fun _ _ hend => Or.inr hend)
      (h.allocateFile_ensures hg.bitmap hneeded) ?_
    rintro first fs₁ ⟨file, h₁, hfree, hroot, hlen, -, hafford, hfresh⟩
    refine Fails.bind_returns (h₁.readClusterChain_returns (Function.update_self ..)) ?_
    rintro chain fs₂ ⟨rfl, h₂⟩
    have hself : Function.update t first (some (Obj.file file)) first
        = some (.file ([] ++ file)) := Function.update_self ..
    refine Fails.bind_returns (h₂.writeChunks_returns [] hself data) ?_
    intro _ fs₃ h₃
    rw [Function.update_idem, List.nil_append] at h₃
    refine (h₃.createFileEntry_fails hg.bitmap hg.bytes ho hshaped hfree hroot hfresh ?_ hname).mono
      fun _ _ hleaked => Or.inl ⟨hafford, hleaked⟩
    rw [length_chunkRows, List.length_map, hlen]
  · rw [if_neg hneeded]
    have hzero : ¬ 0 < data.length := fun hpos =>
      hneeded ((clustersNeeded_pos_iff (by omega)).mpr hpos)
    refine (h.createEntryInDirectory_fails hg.bitmap ho hshaped name 0 data.length false
      fun now => hname.ok (by decide) (by omega)).mono ?_
    intro _ fs' hquiet
    exact Or.inr ⟨fun hafford => hzero hafford.1, hquiet⟩

/-! ## Streaming -/

/-- What a reader gives before it ends or fails. -/
def given : Answers → List (List UInt8)
  | .ok (byte :: data) :: rest => (byte :: data) :: given rest
  | _ => []

/-- The error that a reader ends with, if any. -/
def readerError : Answers → Option String
  | .error reason :: _ => some reason
  | .ok (_ :: _) :: rest => readerError rest
  | _ => none

/-- Streaming writes what the reader gives, and fails when the reader does. -/
theorem doStreamWrite_eq (answers : Answers) (writer : ExfatFileWriter) :
    doStreamWrite writer answers = (do
      let writer ← ExfatFileWriter.writeAll writer (given answers)
      match readerError answers with
      | some reason => throw (.io reason)
      | none => pure writer) := by
  induction answers generalizing writer with
  | nil => rfl
  | cons answer rest ih =>
    match answer with
    | .error reason => rfl
    | .ok [] => rfl
    | .ok (byte :: data) =>
      rw [doStreamWrite, if_neg (List.cons_ne_nil _ _)]
      simp only [given, readerError, ExfatFileWriter.writeAll, bind_assoc, ih]

variable [Lowercase]

/-- The end of `create_in_directory`: the clusters are allocated. -/
abbrev openWriter (k : Nat) (name : String) (totalSize : Nat) : ExfatM ExfatFileWriter := do
  let fs ← get
  if clustersNeeded totalSize fs.clusterSize > 0 then do
    let first ← allocateClusters (clustersNeeded totalSize fs.clusterSize)
    let allocated ← readClusterChain first
    pure
      { name := name, dirCluster := k, totalSize := totalSize
        allocatedClusters := allocated }
  else
    pure
      { name := name, dirCluster := k, totalSize := totalSize
        allocatedClusters := [] }

/-- What opening a writer has done: nothing, or it has got clusters that were free. -/
inductive Fresh (g : VolumeParams) (t : Table) (totalSize : Nat) (fs : ExfatFs)
    (writer : ExfatFileWriter) (fs' : ExfatFs) : Prop
  | empty : totalSize = 0 → Quiet g t fs fs' → Fresh g t totalSize fs writer fs'
  | file : fs.Affords totalSize → fs.disk.allocated (writer.allocatedClusters.headD 0) = false →
      Fresh g t totalSize fs writer fs'

omit [Lowercase] in
theorem Stores.openWriter_fails (h : Stores g t fs) (hfits : g.BitmapFits) (name : String)
    (totalSize : Nat) :
    Fails (openWriter k name totalSize) fs fun _ fs' =>
      ¬ fs.Affords totalSize ∧ Quiet g t fs fs' := by
  obtain rfl := h.params
  refine Fails.of_run (x := get) rfl ?_
  by_cases hneeded : clustersNeeded totalSize fs.clusterSize > 0
  · rw [if_pos hneeded]
    refine Fails.bind (h.allocateFile_fails hneeded) (h.allocateFile_ensures hfits hneeded) ?_
    rintro first fs₁ ⟨file, h₁, -⟩
    exact Fails.bind_returns (h₁.readClusterChain_returns (Function.update_self ..)) fun _ _ _ => .pure
  · rw [if_neg hneeded]
    exact Fails.pure

omit [Lowercase] in
theorem Stores.openWriter_fresh (h : Stores g t fs) (hfits : g.BitmapFits) (name : String)
    (totalSize : Nat) :
    Ensures (openWriter k name totalSize) fs fun writer fs' => Fresh g t totalSize fs writer fs' := by
  obtain rfl := h.params
  have hsize := h.valid.sizeLo
  refine Ensures.of_run (x := get) rfl ?_
  by_cases hneeded : clustersNeeded totalSize fs.clusterSize > 0
  · rw [if_pos hneeded]
    refine Ensures.bind (h.allocateFile_ensures hfits hneeded) ?_
    rintro first fs₁ ⟨file, h₁, -, -, -, ⟨rest, hchain⟩, hafford, hfresh⟩
    refine Ensures.bind (h₁.readClusterChain_returns (Function.update_self ..)).ensures ?_
    rintro chain fs₂ ⟨rfl, -⟩
    refine Ensures.pure (.file hafford ?_)
    rwa [Obj.chain_file, hchain]
  · rw [if_neg hneeded]
    have hzero : ¬ 0 < totalSize := fun hpos =>
      hneeded ((clustersNeeded_pos_iff (by omega)).mpr hpos)
    exact Ensures.pure (.empty (by omega) (.refl h))

/-- Creating a writer for a name fails at once when the name does not fit or is taken. -/
theorem Stores.createInDirectory_cases (h : Stores g t fs) (ho : t k = some (.dir rows))
    (hshaped : Shaped rows) (name : String) (totalSize : Nat) :
    (¬ (NameFits name ∧ ∀ e ∈ rowSets rows, ¬ e.Named (toLowercase name)) ∧ ∃ e fs',
        (ExfatFileWriter.createInDirectory k name totalSize false).run fs = .error e fs' ∧
          Quiet g t fs fs') ∨
      NameFits name ∧ (∀ e ∈ rowSets rows, ¬ e.Named (toLowercase name)) ∧ ∃ fs₁,
        Quiet g t fs fs₁ ∧ (ExfatFileWriter.createInDirectory k name totalSize false).run fs =
          (openWriter k name totalSize).run fs₁ := by
  unfold ExfatFileWriter.createInDirectory
  by_cases hname : name = "" ∨ utf8Len name > 255
  · rw [if_pos hname]
    exact Or.inl ⟨fun hfits => hfits.1 hname, _, fs, rfl, .refl h⟩
  · rw [if_neg hname]
    obtain ⟨found, fs₁, hfind, hfinds, hquiet⟩ := h.findEntry_quiet ho hshaped name
    rw [bind_of_ok hfind]
    cases hfinds with
    | found p e hrows hnamed _ =>
      exact Or.inl ⟨fun hfits => hfits.2 e (hrows ▸ p.mem_fill e) hnamed, _, fs₁, rfl, hquiet⟩
    | absent hnone => exact Or.inr ⟨hname, hnone, fs₁, hquiet, rfl⟩

omit [Lowercase] in
/-- Writing and finishing fails with leaks if the file has clusters. -/
theorem Opened.stream_fails {name : String} {totalSize : Nat} {writer : ExfatFileWriter}
    {fs₁ : ExfatFs} (h : Opened g t k name totalSize writer fs₁)
    (hfresh : Fresh g t totalSize fs writer fs₁) (hg : g.Fits) (ho : t k = some (.dir rows))
    (hshaped : Shaped rows) (hname : NameFits name) (reader : Answers) :
    Fails (do
        let writer ← doStreamWrite writer reader
        writer.finish) fs₁ fun _ fs' => Ends (fs.Affords totalSize) g t fs fs' := by
  obtain ⟨hwname, hwdir, hwsize, hfile⟩ := h
  rw [doStreamWrite_eq, bind_assoc]
  rcases hfile with ⟨hzero, hwritten, hbuffer, hnone, h₁⟩ | ⟨c, file, rest, hfree, hroot, h₁, hlen,
    hchain, htaken⟩
  · have hnot : ¬ fs.Affords totalSize := fun hafford => by
      have := hafford.1
      omega
    obtain ⟨-, hquiet⟩ | ⟨hafford, -⟩ := hfresh
    · have hfull : writer.totalSize ≤ writer.bytesWritten := by omega
      refine Fails.of_run (ExfatFileWriter.writeAll_of_full hfull _ fs₁) ?_
      cases readerError reader with
      | some reason => exact Fails.throw_bind (Or.inr ⟨hnot, hquiet⟩)
      | none =>
        refine Fails.of_run (t := fs₁) (a := writer) rfl ?_
        simp only [ExfatFileWriter.finish, hbuffer, hnone, hwname, hwdir, hwsize, hzero]
        refine (h₁.createEntryInDirectory_fails hg.bitmap ho hshaped name 0 0 false
          fun now => hname.ok (by decide) (by decide)).mono ?_
        intro _ fs' hquiet'
        exact Or.inr ⟨hzero ▸ hnot, hquiet.trans hquiet'⟩
    · exact absurd hafford hnot
  · have hhead : writer.allocatedClusters.headD 0 = c := by
      rw [htaken.clusters, List.nil_append, hchain]
      rfl
    obtain ⟨hzero, -⟩ | ⟨hafford, hcfree⟩ := hfresh
    · rw [hzero, clustersNeeded, if_pos rfl] at hlen
      rw [List.eq_nil_of_length_eq_zero hlen] at hchain
      cases hchain
    rw [hhead] at hcfree
    obtain ⟨writer₁, fs₂, hall, done, todo, h₂, htaken₁, hsame⟩ :=
      ExfatFileWriter.writeAll_returns (given reader) h₁ (Function.update_self ..) htaken
    rw [Function.update_idem] at h₂
    refine Fails.of_run hall ?_
    cases readerError reader with
    | some reason =>
      refine Fails.throw_bind (Or.inl ⟨hafford, _, c, h₂, .file hfree _, hroot, hcfree, ?_⟩)
      rw [Function.update_self]
      exact Option.some_ne_none _
    | none =>
      refine Fails.of_run (t := fs₂) (a := writer₁) rfl ?_
      obtain ⟨file', fs₃, h₃, hclusters, -, hfinish⟩ :=
        ExfatFileWriter.finish_eq h₂ (Function.update_self ..) htaken₁
      rw [Function.update_idem] at h₃
      have hsameChain : file'.map Prod.fst = file.map Prod.fst := by
        rw [hclusters, hsame.allocatedClusters, htaken.clusters]
        rfl
      have hlen' : file'.length = clustersNeeded totalSize g.clusterSize := by
        rw [← hlen, ← List.length_map (f := Prod.fst), hsameChain, List.length_map]
      intro e fs' hrun
      rw [hfinish, hsame.allocatedClusters, hhead, hsame.name, hsame.dirCluster, hsame.totalSize,
        hwname, hwdir, hwsize] at hrun
      exact Or.inl ⟨hafford, h₃.createFileEntry_fails hg.bitmap hg.bytes ho hshaped hfree hroot hcfree
        hlen' hname e fs' hrun⟩

/-- A session for a name fails with leaks if the name fits and is free, and the file gets
clusters. -/
theorem Stores.session_fails (h : Stores g t fs) (hg : g.Fits) (hwf : Wf g t label)
    (ho : t k = some (.dir rows)) (name : String) (totalSize : Nat) (reader : Answers) :
    Fails (do
        let writer ← ExfatFileWriter.createInDirectory k name totalSize false
        let writer ← doStreamWrite writer reader
        writer.finish) fs fun _ fs' =>
      Ends (NameFits name ∧ (∀ e ∈ rowSets rows, ¬ e.Named (toLowercase name)) ∧
        fs.Affords totalSize) g t fs fs' := by
  have hshaped := hwf.shaped k rows ho
  rcases h.createInDirectory_cases ho hshaped name totalSize with
    ⟨hrefused, e, fs₁, herror, hquiet⟩ | ⟨hname, hnone, fs₁, hquiet, hopen⟩
  · intro e' fs' hrun
    rw [bind_of_error herror] at hrun
    cases hrun
    exact Or.inr ⟨fun hleaks => hrefused ⟨hleaks.1, hleaks.2.1⟩, hquiet⟩
  · have h₁ := hquiet.stores
    have hiff : fs₁.Affords totalSize ↔ NameFits name ∧
        (∀ e ∈ rowSets rows, ¬ e.Named (toLowercase name)) ∧ fs.Affords totalSize := by
      rw [hquiet.affords h]
      exact ⟨fun hafford => ⟨hname, hnone, hafford⟩, fun hleaks => hleaks.2.2⟩
    have hopened : Fails (openWriter k name totalSize >>= fun writer => do
        let writer ← doStreamWrite writer reader
        writer.finish) fs₁ fun _ fs' => Ends (fs₁.Affords totalSize) g t fs₁ fs' := by
      refine Fails.bind ((h₁.openWriter_fails hg.bitmap name totalSize).mono fun _ _ hend => Or.inr hend)
        ((h₁.openWriter_ensures hg.bitmap name totalSize).and
          (h₁.openWriter_fresh hg.bitmap name totalSize)) ?_
      rintro writer fs₂ ⟨hopened, hfresh⟩
      exact hopened.stream_fails hfresh hg ho hshaped hname reader
    intro e fs' hrun
    rw [bind_of_eq hopen] at hrun
    exact ((hopened e fs' hrun).after hquiet).congr hiff

end

end StreamBox.Exfat
