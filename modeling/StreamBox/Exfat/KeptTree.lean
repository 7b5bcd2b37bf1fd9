import StreamBox.Exfat.ChunkedWrites
import StreamBox.Exfat.PublicCalls

/-!
# Calls keep the tree

However a public operation ends, the volume stores a directory tree again.

* **Failures** — what an operation has done before it fails is a step of another one: an entry
  more or less, or clusters that no entry refers to.
* **Writers** — an open writer has a file of its own that has no entry yet (`Writing`); writing
  keeps this, finishing adds the entry, and dropping the writer leaves the clusters.
* **Calls** — so every public operation that writes settles on a tree (`PublicCall.settles_tree`).
-/

namespace StreamBox.Exfat

section

variable [Lowercase] {g : VolumeParams} {t : Table} {label : Nat → List String} {fs fs' : ExfatFs}
  {k : Nat} {rows : Rows}

/-! ## Failures -/

theorem Ends.isTree {leaks : Prop} (h : Ends leaks g t fs fs') (hwf : Wf g t label) :
    IsTree g fs' := by
  obtain ⟨t', h', hextends⟩ := h.extends
  exact h'.isTree (hwf.extends hextends)

/-- A path that is not resolved leaves the directories made for it. -/
theorem Stores.resolvePath_fails (h : Stores g t fs) (hfits : g.BitmapFits) (hwf : Wf g t label)
    (path : String) (createParents : Bool) :
    Fails (resolvePath path createParents) fs fun _ fs' => IsTree g fs' := by
  have hplain : ∀ c ∈ (parsePath path).dropLast, '/' ∉ c.toList := fun c hc =>
    (parsePath_plain (List.mem_of_mem_dropLast hc)).1
  rw [resolvePath_eq]
  refine (h.resolveComponents_outcome hfits hwf _ hplain createParents).1.mono ?_
  rintro _ fs' (⟨-, t', label', hgrown⟩ | ⟨-, hquiet⟩)
  · exact hgrown.stores.isTree hgrown.wf
  · exact hquiet.stores.isTree hwf

/-- Removing what was found keeps the tree. -/
theorem Finds.removes (h : Stores g t fs) (hwf : Wf g t label) (ho : t k = some (.dir rows))
    {targetLower : String} {location : FileEntryLocation}
    (hfinds : Finds targetLower rows (some location)) :
    Returns (removeLocation location) fs fun _ fs' =>
      ∃ t' rows', Stores g t' fs' ∧ Wf g t' label ∧ t' k = some (.dir rows') := by
  cases hfinds with
  | found p e hrows _ _ =>
    subst hrows
    refine (h.removeLocation_returns hwf ho).mono ?_
    rintro _ fs' ⟨t', h', hremoves⟩
    exact ⟨t', _, h', hwf.removes hremoves, hremoves.after⟩

/-- What a lookup found is listed if it is a directory. -/
theorem Finds.lists (h : Stores g t fs) (hwf : Wf g t label) (ho : t k = some (.dir rows))
    {targetLower : String} {location : FileEntryLocation}
    (hfinds : Finds targetLower rows (some location)) (hdir : location.isDirectory = true) :
    Returns (listFilesInDirectory location.firstCluster "") fs fun _ fs' => Stores g t fs' := by
  cases hfinds with
  | found p e hrows _ _ =>
    subst hrows
    obtain ⟨-, -, below, hbelow⟩ := hwf.dir_of_mem ho (p.mem_fill e) hdir
    exact (h.listFilesInDirectory_returns hbelow (hwf.shaped _ _ hbelow) "").mono fun _ _ h => h.1

theorem Stores.deletePath_fails (h : Stores g t fs) (hfits : g.BitmapFits) (hwf : Wf g t label)
    (path : String) : Fails (deletePath path) fs fun _ fs' => IsTree g fs' := by
  refine Fails.bind (h.resolvePath_fails hfits hwf path false)
    (h.resolvePath_lands hfits hwf path false) ?_
  rintro resolved fs₁ ⟨t₁, label₁, rows, h₁, hlands⟩
  have hfinds := hlands.finds
  cases hlocation : resolved.location with
  | none => exact Fails.throw (h₁.isTree hlands.wf)
  | some location =>
    rw [hlocation] at hfinds
    dsimp only
    split
    · rename_i hdir
      refine Fails.bind_returns (hfinds.lists h₁ hlands.wf hlands.parent hdir) ?_
      intro contents fs₂ h₂
      split
      · exact Fails.throw (h₂.isTree hlands.wf)
      · exact .of_returns (hfinds.removes h₂ hlands.wf hlands.parent)
    · exact .of_returns (hfinds.removes h₁ hlands.wf hlands.parent)

theorem deleteRecursive_fails (hfits : g.BitmapFits) (depth : Nat) :
    ∀ (path : String) (t : Table) (fs : ExfatFs), Stores g t fs → Wf g t label →
      Fails (deleteRecursive depth path) fs fun _ fs' => IsTree g fs' := by
  induction depth with
  | zero => exact fun _ _ _ h hwf => Fails.throw (h.isTree hwf)
  | succ depth ih =>
    intro path t fs h hwf
    refine Fails.bind (h.resolvePath_fails hfits hwf path false) (h.locatePath_ensures hfits hwf path) ?_
    rintro resolved fs₁ ⟨parents, rows, h₁, hparsed, hwalk, hparent, hfinds⟩
    cases hlocation : resolved.location with
    | none => exact Fails.throw (h₁.isTree hwf)
    | some location =>
      rw [hlocation] at hfinds
      cases hfinds with
      | found p e hrows hnamed hbefore =>
        subst hrows
        by_cases hdir : e.isDir = true
        · obtain ⟨hne, -, below, hbelow⟩ := hwf.dir_of_mem hparent (p.mem_fill e) hdir
          obtain ⟨-, -, hlabel⟩ := (hwf.entries _ _ hparent e (p.mem_fill e)).2.object hne
          have hlocate : (p.locate e).isDirectory = true := hdir
          simp only [if_pos hlocate]
          refine Fails.bind_returns (h₁.listFilesInDirectory_returns hbelow
            (hwf.shaped _ _ hbelow) "") ?_
          rintro contents fs₂ ⟨h₂, rfl⟩
          have hstart : ChangedBelow g t label e fs₂ := ⟨t, h₂, hwf, .refl t, fun _ _ => rfl⟩
          have hitem : ∀ item ∈ infos "" (rowSets below), ∀ s, ChangedBelow g t label e s →
              Ensures (deleteRecursive depth (itemPath path item.name)) s fun _ s' =>
                ChangedBelow g t label e s' := fun item hitem s hs =>
            deleteItem_ensures (deleteRecursive_ensures hfits depth) hwf hparsed hwalk hparent hnamed
              hbefore hdir hbelow hitem hs
          refine Fails.bind (Fails.forM (ChangedBelow g t label e) _ hitem ?_ fs₂ hstart)
            (Ensures.forM (ChangedBelow g t label e) _ hitem fs₂ hstart) ?_
          · rintro item - s ⟨t₁, hs, hwf₁, -⟩
            exact ih _ t₁ s hs hwf₁
          · rintro _ fs₃ ⟨t₁, h₃, hwf₁, -, hsame⟩
            have hparent₁ : t₁ resolved.parentCluster = some (.dir (p.fill [.set e])) := by
              rw [hsame _ (not_prefix_of_label hlabel (List.prefix_refl _)), hparent]
            exact .of_returns (h₃.removeLocation_returns hwf₁ hparent₁)
        · have hlocate : ¬ (p.locate e).isDirectory = true := hdir
          simp only [if_neg hlocate]
          exact .of_returns (h₁.removeLocation_returns hwf hparent)

theorem Stores.createDirectory_fails (h : Stores g t fs) (hfits : g.BitmapFits) (hwf : Wf g t label)
    (path : String) (createParents : Bool) :
    Fails (createDirectory path createParents) fs fun _ fs' => IsTree g fs' := by
  refine Fails.bind (h.resolvePath_fails hfits hwf path createParents)
    (h.resolvePath_lands hfits hwf path createParents) ?_
  rintro resolved fs₁ ⟨t₁, label₁, rows, h₁, hlands⟩
  cases resolved.location with
  | some location => exact Fails.throw (h₁.isTree hlands.wf)
  | none =>
    refine Fails.bind_each ?_ fun _ _ => .pure
    exact (h₁.createDirectoryIn_fails hfits hlands.parent (hlands.wf.shaped _ _ hlands.parent)
      resolved.name).mono fun _ _ hends => hends.isTree hlands.wf

/-- Creating a writer that fails has removed what it may overwrite, or done nothing. -/
theorem Stores.createInDirectory_fails (h : Stores g t fs) (hfits : g.BitmapFits)
    (hwf : Wf g t label) (ho : t k = some (.dir rows)) (name : String) (totalSize : Nat)
    (overwrite : Bool) :
    Fails (ExfatFileWriter.createInDirectory k name totalSize overwrite) fs fun _ fs' =>
      IsTree g fs' := by
  have hopen : ∀ t₁ fs₁, Stores g t₁ fs₁ → Wf g t₁ label →
      Fails (openWriter k name totalSize) fs₁ fun _ fs' => IsTree g fs' := by
    intro t₁ fs₁ h₁ hwf₁
    exact (h₁.openWriter_fails hfits name totalSize).mono fun _ _ hend => hend.2.stores.isTree hwf₁
  unfold ExfatFileWriter.createInDirectory
  by_cases hname : name = "" ∨ utf8Len name > 255
  · rw [if_pos hname]
    exact Fails.throw (h.isTree hwf)
  · rw [if_neg hname]
    refine Fails.bind_returns (h.findEntryInDirectory_returns ho (hwf.shaped k rows ho) name) ?_
    rintro found fs₁ ⟨h₁, hfinds⟩
    cases found with
    | none => exact hopen t fs₁ h₁ hwf
    | some location =>
      by_cases hover : overwrite = true
      · simp only [if_pos hover]
        refine Fails.bind_returns (hfinds.removes h₁ hwf ho) ?_
        rintro _ fs₂ ⟨t₂, -, h₂, hwf₂, -⟩
        exact hopen t₂ fs₂ h₂ hwf₂
      · simp only [if_neg hover]
        exact Fails.throw_bind (h₁.isTree hwf)

/-- Removing the file a path resolved to keeps the directory. -/
theorem Stores.replaceFile_settles (h : Stores g t fs) (hwf : Wf g t label)
    (ho : t k = some (.dir rows)) {targetLower : String} {location : Option FileEntryLocation}
    (hfinds : Finds targetLower rows location) (path : String) (overwrite : Bool) :
    Settles (replaceFile path location overwrite) fs fun fs' =>
      ∃ t' rows', Stores g t' fs' ∧ Wf g t' label ∧ t' k = some (.dir rows') := by
  cases location with
  | none => exact Settles.pure ⟨t, rows, h, hwf, ho⟩
  | some location =>
    unfold replaceFile
    dsimp only
    split
    · exact Settles.throw ⟨t, rows, h, hwf, ho⟩
    · split
      · exact Settles.of_returns (hfinds.removes h hwf ho)
      · exact Settles.throw ⟨t, rows, h, hwf, ho⟩

/-! ## Open writers -/

/-- A writer that is open on the filesystem: its file has no entry yet. -/
inductive Writing (g : VolumeParams) (writer : ExfatFileWriter) (fs : ExfatFs) : Prop
  | empty {t : Table} {label : Nat → List String} {rows : Rows} : Stores g t fs → Wf g t label →
      t writer.dirCluster = some (.dir rows) → NameFits writer.name →
      (writer.dirCluster ≠ g.firstClusterOfRoot → '/' ∉ writer.name.toList) →
      writer.totalSize = 0 → writer.bytesWritten = 0 → writer.clusterBuffer = [] →
      writer.allocatedClusters = [] → Writing g writer fs
  | file {t : Table} {label : Nat → List String} {rows : Rows} {c : Nat} {rest : List Nat}
      {done todo : List (Nat × List UInt8)} {data : List UInt8} :
      Stores g (Function.update t c (some (.file (done ++ todo)))) fs → Wf g t label →
      t writer.dirCluster = some (.dir rows) → NameFits writer.name →
      (writer.dirCluster ≠ g.firstClusterOfRoot → '/' ∉ writer.name.toList) →
      t c = none → g.firstClusterOfRoot < c → writer.allocatedClusters = c :: rest →
      writer.allocatedClusters.length = clustersNeeded writer.totalSize g.clusterSize →
      ExfatFileWriter.Taken g writer done todo data → Writing g writer fs

/-- A writer just opened. -/
theorem Opened.writing {name : String} {totalSize : Nat} {writer : ExfatFileWriter}
    (h : Opened g t k name totalSize writer fs) (hwf : Wf g t label) (ho : t k = some (.dir rows))
    (hname : NameFits name) (hplain : k ≠ g.firstClusterOfRoot → '/' ∉ name.toList) :
    Writing g writer fs := by
  obtain ⟨rfl, rfl, rfl, ⟨hzero, hwritten, hbuffer, hnone, h⟩ | ⟨c, file, rest, hfree, hroot, h, hlen,
    hchain, htaken⟩⟩ := h
  · exact .empty h hwf ho hname hplain hzero hwritten hbuffer hnone
  · have hclusters : writer.allocatedClusters = file.map Prod.fst := htaken.clusters
    have hcount : writer.allocatedClusters.length =
        clustersNeeded writer.totalSize g.clusterSize := by
      rw [hclusters, List.length_map, hlen]
    exact .file h hwf ho hname hplain hfree hroot (hclusters.trans hchain) hcount htaken

/-- The clusters of a writer that is dropped are left over. -/
theorem Writing.isTree {writer : ExfatFileWriter} (h : Writing g writer fs) : IsTree g fs := by
  cases h with
  | empty h hwf _ _ _ _ _ _ _ => exact h.isTree hwf
  | file h hwf _ _ _ hfree _ _ _ _ => exact h.isTree (hwf.extends (.file hfree _))

/-- Writing keeps a writer open. -/
theorem Writing.write {writer : ExfatFileWriter} (h : Writing g writer fs) (data : List UInt8) :
    Returns (writer.write data) fs fun result fs' => Writing g result.1 fs' := by
  cases h with
  | empty h hwf ho hname hplain hzero hwritten hbuffer hnone =>
    have hfull : writer.totalSize ≤ writer.bytesWritten := by omega
    have hstop := ExfatFileWriter.writeAll_of_full hfull [data] fs
    obtain ⟨⟨writer', n⟩, fs₁, hwrite, hpure⟩ := bind_eq_ok.mp hstop
    cases hpure
    exact Returns.of_eq hwrite (.empty h hwf ho hname hplain hzero hwritten hbuffer hnone)
  | @file t label rows c rest done todo taken h hwf ho hname hplain hfree hroot hclusters hlen htaken =>
    obtain rfl := h.params
    obtain ⟨⟨writer', left⟩, fs', hrun, done', todo', h', htaken', hname', hdir, hsize, halloc⟩ :=
      ExfatFileWriter.writeLoop_returns data.length h (Function.update_self ..) htaken (Nat.le_refl _)
    rw [Function.update_idem] at h'
    refine Returns.of_eq (a := (writer', data.length - left.length)) (t := fs') ?_ ?_
    · rw [ExfatFileWriter.write, run_get_bind, bind_of_ok hrun]
      rfl
    · dsimp only at hname' hdir hsize halloc
      refine .file h' hwf (hdir ▸ ho) (hname' ▸ hname) (hdir ▸ hname' ▸ hplain) hfree hroot
        (halloc ▸ hclusters) ?_ htaken'
      rw [halloc, hsize, hlen]

/-- Finishing adds the entry of the file, or leaves its clusters. -/
theorem Writing.finish {writer : ExfatFileWriter} (h : Writing g writer fs) (hg : g.Fits) :
    Settles writer.finish fs (IsTree g) := by
  cases h with
  | empty h hwf ho hname hplain hzero hwritten hbuffer hnone =>
    rw [ExfatFileWriter.finish, hbuffer, hnone, hzero]
    constructor
    · refine (h.createEmptyEntry_ensures hg.bitmap hwf ho hname hplain).mono ?_
      rintro _ fs' ⟨now, t', label', -, h', hwf', -⟩
      exact h'.isTree hwf'
    · refine (h.createEntryInDirectory_fails hg.bitmap ho (hwf.shaped _ _ ho) writer.name 0 0 false
        fun now => hname.ok (by decide) (by decide)).mono ?_
      exact fun _ fs' hquiet => hquiet.stores.isTree hwf
  | @file t label rows c rest done todo taken h hwf ho hname hplain hfree hroot hclusters hlen htaken =>
    obtain ⟨file, fs₁, h₁, hchain, -, hfinish⟩ :=
      ExfatFileWriter.finish_eq h (Function.update_self ..) htaken
    rw [Function.update_idem] at h₁
    have hlen₁ : file.length = clustersNeeded writer.totalSize g.clusterSize := by
      rw [← hlen, ← hchain, List.length_map]
    rw [hclusters, List.headD_cons] at hfinish
    have hsettles : Settles (createEntryInDirectory writer.dirCluster writer.name c writer.totalSize
        false) fs₁ (IsTree g) := by
      constructor
      · refine (h₁.createFileEntry_ensures hg.bitmap hg.bytes hwf ho hfree hroot hlen₁ hname
          hplain).mono ?_
        rintro _ fs' ⟨now, t', label', -, h', hwf', -⟩
        exact h'.isTree hwf'
      · have hself : Function.update t c (some (Obj.file file)) c = some (.file file) :=
          Function.update_self ..
        have hextends : Extends t (Function.update t c (some (.file file))) := .file hfree file
        have hok : ∀ now, (EntrySet.mk writer.name c writer.totalSize false now).Ok := fun now =>
          hname.ok (h₁.key_lt hself) (Nat.lt_of_le_of_lt (h₁.size_le hself hlen₁) hg.bytes)
        refine (h₁.createEntryInDirectory_fails hg.bitmap (hextends.kept _ _ ho) (hwf.shaped _ _ ho)
          writer.name c writer.totalSize false hok).mono ?_
        exact fun _ fs' hquiet => hquiet.stores.isTree (hwf.extends hextends)
    constructor
    · intro a fs' hrun
      exact hsettles.ok a fs' (hfinish ▸ hrun)
    · intro e fs' hrun
      exact hsettles.error e fs' (hfinish ▸ hrun)

/-- Streaming from a reader keeps the writer open, or leaves its clusters. -/
theorem Writing.stream (reader : Answers) : ∀ {writer : ExfatFileWriter} {fs : ExfatFs},
    Writing g writer fs → Ensures (doStreamWrite writer reader) fs (fun writer' fs' =>
      Writing g writer' fs') ∧ Fails (doStreamWrite writer reader) fs fun _ fs' => IsTree g fs' := by
  induction reader with
  | nil => exact fun h => ⟨Ensures.pure h, Fails.pure⟩
  | cons answer rest ih =>
    intro writer fs h
    cases answer with
    | error reason => exact ⟨Ensures.throw, Fails.throw h.isTree⟩
    | ok data =>
      rw [doStreamWrite]
      by_cases hend : data = []
      · rw [if_pos hend]
        exact ⟨Ensures.pure h, Fails.pure⟩
      · rw [if_neg hend]
        exact ⟨Ensures.bind (h.write data).ensures fun result fs' h' => (ih h').1,
          Fails.bind_returns (h.write data) fun result fs' h' => (ih h').2⟩

/-- A writer is opened, or not. -/
theorem Target.writer_fails (h : Stores g t fs) (hfits : g.BitmapFits) (hwf : Wf g t label)
    (target : Target) (totalSize : Nat) :
    Fails (target.writer totalSize) fs fun _ fs' => IsTree g fs' := by
  cases target with
  | root name overwrite =>
    obtain rfl := h.params
    obtain ⟨rows, hroot⟩ := hwf.root
    refine Fails.of_run (x := get) rfl ?_
    exact h.createInDirectory_fails hfits hwf hroot name totalSize overwrite
  | path path createParents overwrite =>
    refine Fails.bind (h.resolvePath_fails hfits hwf path createParents)
      (h.resolvePath_lands hfits hwf path createParents) ?_
    rintro resolved fs₁ ⟨t₁, label₁, rows, h₁, hlands⟩
    have hreplaces := h₁.replaceFile_settles hlands.wf hlands.parent hlands.finds path overwrite
    refine Fails.bind ?_ hreplaces.ok ?_
    · refine hreplaces.error.mono ?_
      rintro _ fs₂ ⟨t₂, -, h₂, hwf₂, -⟩
      exact h₂.isTree hwf₂
    · rintro _ fs₂ ⟨t₂, rows₂, h₂, hwf₂, ho₂⟩
      exact h₂.createInDirectory_fails hfits hwf₂ ho₂ resolved.name totalSize false

theorem Target.writer_writing (h : Stores g t fs) (hg : g.Fits) (hwf : Wf g t label)
    (target : Target) (totalSize : Nat) :
    Ensures (target.writer totalSize) fs fun writer fs' => Writing g writer fs' := by
  refine (target.writer_ensures h hg hwf totalSize).mono ?_
  rintro writer fs' ⟨t₁, label₁, rows, hwf₁, ho, hopened, hname, hplain⟩
  exact hopened.writing hwf₁ ho hname hplain

/-- Where a public constructor creates its file. -/
def Opening.target : Opening → Target
  | create name _ => .root name false
  | createOverwrite name _ overwrite => .root name overwrite
  | createAtPath path _ createParents overwrite => .path path createParents overwrite

def Opening.totalSize : Opening → Nat
  | create _ totalSize => totalSize
  | createOverwrite _ totalSize _ => totalSize
  | createAtPath _ totalSize _ _ => totalSize

theorem Opening.run_eq (opening : Opening) :
    opening.run = opening.target.writer opening.totalSize := by
  cases opening <;> rfl

/-- A session from a writer that may be opened. -/
theorem settles_session {opening : ExfatM ExfatFileWriter} (hg : g.Fits)
    (hok : Ensures opening fs fun writer fs' => Writing g writer fs')
    (hfails : Fails opening fs fun _ fs' => IsTree g fs') (reader : Answers) :
    Settles (do
      let writer ← opening
      let writer ← doStreamWrite writer reader
      writer.finish) fs (IsTree g) := by
  refine Settles.bind hfails hok ?_
  intro writer fs₁ h₁
  refine Settles.bind (h₁.stream reader).2 (h₁.stream reader).1 ?_
  exact fun writer' fs₂ h₂ => h₂.finish hg

/-! ## Calls -/

theorem Stores.writeFileDataAndEntry_settles (h : Stores g t fs) (hg : g.Fits) (hwf : Wf g t label)
    (ho : t k = some (.dir rows)) {name : String} (hname : NameFits name)
    (hplain : k ≠ g.firstClusterOfRoot → '/' ∉ name.toList) (data : List UInt8) :
    Settles (writeFileDataAndEntry k name data) fs (IsTree g) where
  ok := by
    refine (h.writeFileDataAndEntry_ensures hg.bitmap hg.bytes hwf ho hname hplain data).mono ?_
    rintro _ fs' ⟨c, now, t', label', -, -, h', hwf', -⟩
    exact h'.isTree hwf'
  error := by
    refine (h.writeFileDataAndEntry_fails hg ho (hwf.shaped k rows ho) hname data).mono ?_
    exact fun _ fs' hends => hends.isTree hwf

theorem Stores.deleteFile_settles (h : Stores g t fs) (hwf : Wf g t label) (name : String) :
    Settles (deleteFile name) fs fun fs' => ∃ t', Stores g t' fs' ∧ Wf g t' label := by
  obtain rfl := h.params
  obtain ⟨rows, hroot⟩ := hwf.root
  refine Settles.of_run (x := get) rfl ?_
  refine Settles.bind_returns
    (h.findEntryInDirectory_returns hroot (hwf.shaped _ rows hroot) name) ?_
  rintro found fs₁ ⟨h₁, hfinds⟩
  cases found with
  | none => exact Settles.throw ⟨t, h₁, hwf⟩
  | some location =>
    refine Settles.of_returns ((hfinds.removes h₁ hwf hroot).mono ?_)
    rintro _ fs₂ ⟨t₂, -, h₂, hwf₂, -⟩
    exact ⟨t₂, h₂, hwf₂⟩

theorem Stores.writeFileOverwrite_settles (h : Stores g t fs) (hg : g.Fits) (hwf : Wf g t label)
    (name : String) (data : List UInt8) (overwrite : Bool) :
    Settles (writeFileOverwrite name data overwrite) fs (IsTree g) := by
  obtain rfl := h.params
  obtain ⟨rows, hroot⟩ := hwf.root
  unfold writeFileOverwrite
  by_cases hname : name = "" ∨ utf8Len name > 255
  · rw [if_pos hname]
    exact Settles.throw (h.isTree hwf)
  · rw [if_neg hname]
    refine Settles.of_run (x := get) rfl ?_
    refine Settles.bind_returns
      (h.findEntryInDirectory_returns hroot (hwf.shaped _ rows hroot) name) ?_
    rintro found fs₁ ⟨h₁, hfinds⟩
    cases found with
    | none =>
      exact h₁.writeFileDataAndEntry_settles hg hwf hroot hname (fun hne => absurd rfl hne) data
    | some location =>
      by_cases hover : overwrite = true
      · simp only [if_pos hover]
        have hdeletes := h₁.deleteFile_settles hwf name
        refine Settles.bind ?_ hdeletes.ok ?_
        · exact hdeletes.error.mono fun _ fs₂ ⟨t₂, h₂, hwf₂⟩ => h₂.isTree hwf₂
        · rintro _ fs₂ ⟨t₂, h₂, hwf₂⟩
          obtain ⟨rows₂, hroot₂⟩ := hwf₂.root
          exact h₂.writeFileDataAndEntry_settles hg hwf₂ hroot₂ hname (fun hne => absurd rfl hne)
            data
      · simp only [if_neg hover]
        exact Settles.throw (h₁.isTree hwf)

/-- A file that is streamed to a new writer. -/
theorem Target.stream_settles (h : Stores g t fs) (hg : g.Fits) (hwf : Wf g t label)
    (target : Target) (totalSize : Nat) (reader : Answers) :
    Settles (do
      let writer ← target.writer totalSize
      let writer ← doStreamWrite writer reader
      writer.finish) fs (IsTree g) :=
  settles_session hg (target.writer_writing h hg hwf totalSize)
    (target.writer_fails h hg.bitmap hwf totalSize) reader

/-- **Kept tree.** However a call that writes ends, the volume stores a directory tree. -/
theorem PublicCall.settles_tree (h : IsTree g fs) (hg : g.Fits) (call : PublicCall)
    (hwrites : call.writes = true) : Settles call.run fs (IsTree g) := by
  have hop : ∀ op : Operation, Ensures op.run fs fun _ fs' => IsTree g fs' := fun op =>
    op.run_ensures h hg.bitmap hg.bytes
  obtain ⟨t, label, h, hwf⟩ := h
  cases call with
  | writeFile name data =>
    refine ⟨?_, WriteCall.fails_tree h hg hwf (.writeFile name data)⟩
    refine (h.writeFile_ensures hg hwf name data).mono ?_
    rintro _ fs' ⟨-, t', label', h', _, _, -, -, -, hwf', -⟩
    exact h'.isTree hwf'
  | writeFileOverwrite name data overwrite =>
    exact h.writeFileOverwrite_settles hg hwf name data overwrite
  | writeFilePath path data createParents overwrite =>
    exact ⟨hop (.writeFilePath path data createParents overwrite),
      WriteCall.fails_tree h hg hwf (.writeFilePath path data createParents overwrite)⟩
  | deleteFile name =>
    exact (h.deleteFile_settles hwf name).mono fun fs' ⟨t', h', hwf'⟩ => h'.isTree hwf'
  | deletePath path => exact ⟨hop (.deletePath path), h.deletePath_fails hg.bitmap hwf path⟩
  | deleteRecursive depth path =>
    exact ⟨hop (.deleteRecursive depth path), deleteRecursive_fails hg.bitmap depth path t fs h hwf⟩
  | createDirectory path createParents =>
    exact ⟨hop (.createDirectory path createParents),
      h.createDirectory_fails hg.bitmap hwf path createParents⟩
  | writeFileFromReader name reader size =>
    exact Target.stream_settles h hg hwf (.root name false) size reader
  | writeFileFromReaderOverwrite name reader size overwrite =>
    exact Target.stream_settles h hg hwf (.root name overwrite) size reader
  | writeFileFromReaderPath path reader size createParents overwrite =>
    exact Target.stream_settles h hg hwf (.path path createParents overwrite) size reader
  | listFiles | listFilesAt | listFilesRecursive | readFile | readFilePath | getFileInfoPath
  | readFileToWriter | readFilePathToWriter => cases hwrites

end

end StreamBox.Exfat
