import StreamBox.Exfat.Lookups
import StreamBox.Exfat.RootRuns

/-!
# Creations and reached states

A creation looks up where its path leads, and what has its name there; then it stores an
entry of that name.

* **Creations** — the operations that create, the names they create, and where they put them.
* **Reached** — the states that runs of successful operations reach from a new volume whose
  bitmap fits its cluster; every one is a tree (`ReachedBy.isTree`).
* **What is left** — a creation leads to a directory (`Creation.resolve_ensures`), clears the
  name there and adds an entry (`Creation.run_ensures`).
-/

namespace StreamBox.Exfat

/-! ## Creations -/

/-- The operations that create a file or a directory. -/
inductive Creation
  | writeFile (name : String) (data : List UInt8)
  | writeFilePath (path : String) (data : List UInt8) (createParents overwrite : Bool)
  | stream (target : Target) (totalSize : Nat) (chunks : List (List UInt8))
  | createDirectory (path : String) (createParents : Bool)

/-- The names that an operation at a path may create. -/
def pathNames (path : String) (createParents : Bool) : List String :=
  if createParents then parsePath path else (parsePath path).getLast?.toList

namespace Creation

/-- It may replace what has the name. -/
def overwrites : Creation → Bool
  | writeFile _ _ => false
  | writeFilePath _ _ _ overwrite => overwrite
  | stream (.root _ overwrite) _ _ => overwrite
  | stream (.path _ _ overwrite) _ _ => overwrite
  | createDirectory _ _ => false

def isDirectory : Creation → Bool
  | createDirectory _ _ => true
  | _ => false

/-- The names it may create. -/
def names : Creation → List String
  | writeFile name _ => [name]
  | writeFilePath path _ createParents _ => pathNames path createParents
  | stream (.root name _) _ _ => [name]
  | stream (.path path createParents _) _ _ => pathNames path createParents
  | createDirectory path createParents => pathNames path createParents

end Creation

/-- The operations that change the filesystem, `write_file` among them. -/
inductive Change
  | create (c : Creation)
  | deletePath (path : String)
  | deleteRecursive (depth : Nat) (path : String)

/-- A new volume in an image of an accepted size whose bitmap fits its cluster. -/
inductive NewVolume (fs : ExfatFs) : Prop
  | mk {totalSize : Nat} {layout : PartitionLayout} {label : String} {now : Option Nat}
      {boot : ExfatBootSector} {segments : List Segment} {file : Image} {clock : List Nat} :
      totalSize < 2 ^ 64 →
      (PartitionLayout.calculate totalSize).val = .ok layout →
      PartitionLayout.BitmapFits totalSize →
      (formatExfat layout.dataOffset layout.dataSize label now).val = (boot, segments) →
      file.size = totalSize →
      ExfatFs.openImage (writeSegments file segments) layout clock = .ok fs → NewVolume fs

/-- The parameters of a volume whose bitmap fits its cluster. -/
structure VolumeParams.Fits (g : VolumeParams) : Prop where
  bitmap : g.BitmapFits
  bytes : g.clusterCount * g.clusterSize < 2 ^ 64

section

variable [Lowercase]

/-- Look up a name of the root directory. -/
def resolveRoot (name : String) : ExfatM ResolvedPath := do
  let fs ← get
  let location ← findEntryInDirectory fs.firstClusterOfRoot name
  pure { parentCluster := fs.firstClusterOfRoot, name := name, location := location }

namespace Creation

/-- Where it puts the name, and what has the name there. -/
def resolve : Creation → ExfatM ResolvedPath
  | writeFile name _ => resolveRoot name
  | writeFilePath path _ createParents _ => resolvePath path createParents
  | stream (.root name _) _ _ => resolveRoot name
  | stream (.path path createParents _) _ _ => resolvePath path createParents
  | createDirectory path createParents => resolvePath path createParents

def run : Creation → ExfatM Unit
  | writeFile name data => Exfat.writeFile name data
  | writeFilePath path data createParents overwrite =>
    Operation.run (.writeFilePath path data createParents overwrite)
  | stream target totalSize chunks => Operation.run (.stream target totalSize chunks)
  | createDirectory path createParents => Operation.run (.createDirectory path createParents)

end Creation

def Change.run : Change → ExfatM Unit
  | create c => c.run
  | deletePath path => Operation.run (.deletePath path)
  | deleteRecursive depth path => Operation.run (.deleteRecursive depth path)

/-- The states that runs of successful changes of a kind reach from a new volume. -/
inductive ReachedBy (allowed : Change → Prop) : ExfatFs → Prop
  | opened {fs : ExfatFs} : NewVolume fs → ReachedBy allowed fs
  | step {fs fs' : ExfatFs} (change : Change) : ReachedBy allowed fs → allowed change →
      change.run.run fs = .ok () fs' → ReachedBy allowed fs'

/-- The states that runs of successful changes reach from a new volume. -/
abbrev Reached : ExfatFs → Prop := ReachedBy fun _ => True

/-! ## Where a creation leads -/

variable {g : VolumeParams} {t : Table} {label : Nat → List String} {fs : ExfatFs} {k : Nat}
  {rows : Rows}

/-- A creation leads to a directory, and may create directories of its names on the way. -/
structure Lands (g : VolumeParams) (t : Table) (names : List String) (resolved : ResolvedPath) (t' : Table)
    (label' : Nat → List String) (rows : Rows) : Prop where
  wf : Wf g t' label'
  parent : t' resolved.parentCluster = some (.dir rows)
  finds : Finds (toLowercase resolved.name) rows resolved.location
  plain : resolved.parentCluster ≠ g.firstClusterOfRoot → '/' ∉ resolved.name.toList
  named : resolved.name ∈ names
  follows : ∃ label createParents components, Follows g createParents t label
    g.firstClusterOfRoot components t' label' resolved.parentCluster ∧
      (createParents = true → ∀ c ∈ components, c ∈ names)

/-- A creation that leads to an old directory has created none. -/
theorem Lands.old {names : List String} {resolved : ResolvedPath} {t' : Table}
    {label' : Nat → List String} (h : Lands g t names resolved t' label' rows)
    (hold : t resolved.parentCluster ≠ none) : t' = t := by
  obtain ⟨_, _, _, hfollows, -⟩ := h.follows
  rcases hfollows.same_or_new with ⟨hsame, -, -⟩ | hnew
  · exact hsame
  · exact absurd hnew hold

theorem Stores.resolveRoot_returns (h : Stores g t fs) (hwf : Wf g t label) (name : String) :
    Returns (resolveRoot name) fs fun resolved fs' =>
      Stores g t fs' ∧ ∃ rows, Lands g t [name] resolved t label rows := by
  obtain ⟨rows, hroot⟩ := hwf.root
  have hparams := h.params
  obtain ⟨found, fs', hfind, h', hfinds⟩ :=
    h.findEntryInDirectory_returns hroot (hwf.shaped _ rows hroot) name
  refine Returns.of_eq (t := fs') (a := ⟨g.firstClusterOfRoot, name, found⟩) ?_
    ⟨h', rows, hwf, hroot, hfinds, fun hne => absurd rfl hne, List.mem_cons_self,
      label, false, [], .nil t label _, fun hfalse => nomatch hfalse⟩
  rw [resolveRoot, run_get_bind, hparams]
  exact bind_of_ok hfind

theorem Stores.resolvePath_lands (h : Stores g t fs) (hfits : g.BitmapFits) (hwf : Wf g t label)
    (path : String) (createParents : Bool) :
    Ensures (resolvePath path createParents) fs fun resolved fs' =>
      ∃ t' label' rows, Stores g t' fs' ∧
        Lands g t (pathNames path createParents) resolved t' label' rows := by
  refine (h.resolvePath_ensures hfits hwf path createParents).mono ?_
  rintro resolved fs' ⟨t', label', parents, rows, h', hresolves⟩
  refine ⟨t', label', rows, h', hresolves.wf, hresolves.parent, hresolves.finds,
    fun _ => slash_notMem_of_parsed hresolves.parsed, ?_, label, createParents, parents,
    hresolves.follows, fun hcreate c hc => ?_⟩
  · unfold pathNames
    rw [hresolves.parsed, List.getLast?_concat]
    split <;> simp
  · rw [pathNames, if_pos hcreate, hresolves.parsed]
    exact List.mem_append_left _ hc

/-- Every creation leads to a directory. -/
theorem Creation.resolve_ensures (h : Stores g t fs) (hfits : g.BitmapFits) (hwf : Wf g t label)
    (c : Creation) :
    Ensures c.resolve fs fun resolved fs' =>
      ∃ t' label' rows, Stores g t' fs' ∧ Lands g t c.names resolved t' label' rows := by
  have hroot : ∀ name, Ensures (resolveRoot name) fs fun resolved fs' =>
      ∃ t' label' rows, Stores g t' fs' ∧ Lands g t [name] resolved t' label' rows := by
    intro name
    refine (h.resolveRoot_returns hwf name).ensures.mono ?_
    rintro resolved fs' ⟨h', rows, hlands⟩
    exact ⟨t, label, rows, h', hlands⟩
  cases c with
  | writeFile name data => exact hroot name
  | writeFilePath path data createParents overwrite =>
    exact h.resolvePath_lands hfits hwf path createParents
  | stream target totalSize chunks =>
    cases target with
    | root name overwrite => exact hroot name
    | path path createParents overwrite => exact h.resolvePath_lands hfits hwf path createParents
  | createDirectory path createParents => exact h.resolvePath_lands hfits hwf path createParents

/-! ## What a creation leaves -/

/-- A creation clears the name and adds an entry of that name. -/
def Leaves (g : VolumeParams) (t : Table) (label : Nat → List String) (resolved : ResolvedPath)
    (isDir : Bool) (t' : Table) (label' : Nat → List String) : Prop :=
  ∃ t₁ e, Clears t resolved.parentCluster (toLowercase resolved.name) (fun _ => True) t₁ ∧
    Adds t₁ label resolved.parentCluster e t' label' ∧ Wf g t' label' ∧
    e.name = resolved.name ∧ e.isDir = isDir

theorem Clears.any {allowed : EntrySet → Prop} {t' : Table} {f : String}
    (h : Clears t k f allowed t') : Clears t k f (fun _ => True) t' := by
  cases h with
  | absent rows ho hnone => exact .absent rows ho hnone
  | removed p e hnamed hbefore _ hremoves => exact .removed p e hnamed hbefore trivial hremoves

theorem Puts.leaves {allowed : EntrySet → Prop} {bytes : List UInt8 → Prop}
    {resolved : ResolvedPath} {t' : Table} {label' : Nat → List String}
    (h : Puts g t label resolved.parentCluster resolved.name allowed bytes t' label') :
    Leaves g t label resolved false t' label' := by
  obtain ⟨t₁, e, hclears, -, hadds, hwf', hname, hdir, -⟩ := h
  exact ⟨t₁, e, hclears.any, hadds, hwf', hname, hdir⟩

theorem resolveRoot_eq_ok {name : String} {resolved : ResolvedPath} {fs₁ : ExfatFs}
    (h : (resolveRoot name).run fs = .ok resolved fs₁) : ∃ found,
      (findEntryInDirectory fs.firstClusterOfRoot name).run fs = .ok found fs₁ ∧
        resolved = ⟨fs.firstClusterOfRoot, name, found⟩ := by
  rw [resolveRoot, run_get_bind] at h
  obtain ⟨found, fs₂, hfind, hpure⟩ := bind_eq_ok.mp h
  cases hpure
  exact ⟨found, hfind, rfl⟩

theorem resolveRoot_of_found {name : String} {found : Option FileEntryLocation} {fs₁ : ExfatFs}
    (h : (findEntryInDirectory fs.firstClusterOfRoot name).run fs = .ok found fs₁) :
    (resolveRoot name).run fs = .ok ⟨fs.firstClusterOfRoot, name, found⟩ fs₁ := by
  rw [resolveRoot, run_get_bind, bind_of_ok h]
  rfl

/-- A session has a name that fits. -/
theorem session_fits (k : Nat) (name : String) (totalSize : Nat) (overwrite : Bool)
    (chunks : List (List UInt8)) (fs : ExfatFs) :
    Ensures (do
        let writer ← ExfatFileWriter.createInDirectory k name totalSize overwrite
        let writer ← ExfatFileWriter.writeAll writer chunks
        ExfatFileWriter.finish writer) fs fun _ _ => NameFits name := by
  by_cases hname : name = "" ∨ utf8Len name > 255
  · intro _ fs' hrun
    rw [ExfatFileWriter.createInDirectory, if_pos hname] at hrun
    cases hrun
  · exact fun _ _ _ => hname

/-- A successful `write_file` puts the file in the root directory. -/
theorem Stores.writeFile_ensures (h : Stores g t fs) (hg : g.Fits) (hwf : Wf g t label)
    (name : String) (data : List UInt8) :
    Ensures (Exfat.writeFile name data) fs fun _ fs' => NameFits name ∧ ∃ t' label',
      Stores g t' fs' ∧
        Puts g t label g.firstClusterOfRoot name (fun _ => False) (· = data) t' label' := by
  obtain ⟨rows, hroot⟩ := hwf.root
  have hparams := h.params
  unfold Exfat.writeFile
  by_cases hname : name = "" ∨ utf8Len name > 255
  · rw [if_pos hname]
    exact Ensures.throw
  · rw [if_neg hname]
    refine Ensures.of_run (x := get) rfl ?_
    rw [hparams]
    refine Ensures.bind
      (h.findEntryInDirectory_returns hroot (hwf.shaped _ rows hroot) name).ensures ?_
    rintro found fs₁ ⟨h₁, hfinds⟩
    cases hfinds with
    | found p e _ _ _ => exact Ensures.throw
    | absent hnone =>
      refine (h₁.writeFileDataAndEntry_ensures hg.bitmap hg.bytes hwf hroot hname
        (fun hne => absurd rfl hne) data).mono ?_
      rintro _ fs' ⟨c, now, t', label', -, hdata, h', hwf', hadds⟩
      exact ⟨hname, t', label', h', t, _, .absent rows hroot hnone, hwf, hadds, hwf', rfl, rfl, hdata⟩

/-- A successful creation has a name that fits, and leaves an entry of it. -/
theorem Creation.run_ensures (h : Stores g t fs) (hg : g.Fits) (hwf : Wf g t label)
    (c : Creation) {resolved : ResolvedPath} {fs₁ : ExfatFs}
    (hresolve : c.resolve.run fs = .ok resolved fs₁) {t₁ : Table} {label₁ : Nat → List String}
    (h₁ : Stores g t₁ fs₁) (hlands : Lands g t c.names resolved t₁ label₁ rows) :
    Ensures c.run fs fun _ fs' => NameFits resolved.name ∧ ∃ t' label', Stores g t' fs' ∧
      Leaves g t₁ label₁ resolved c.isDirectory t' label' := by
  obtain rfl := h.params
  obtain ⟨rootRows, hroot⟩ := hwf.root
  have hroot : t fs.firstClusterOfRoot ≠ none := hroot.symm ▸ Option.some_ne_none _
  cases c with
  | writeFile name data =>
    obtain ⟨found, hfind, rfl⟩ := resolveRoot_eq_ok hresolve
    have hsame := hlands.old hroot
    subst hsame
    refine (h.writeFile_ensures hg hlands.wf name data).mono ?_
    rintro _ fs' ⟨hname, t', label', h', hputs⟩
    exact ⟨hname, t', label', h', hputs.leaves⟩
  | writeFilePath path data createParents overwrite =>
    refine Ensures.of_run hresolve ?_
    by_cases hname : resolved.name = "" ∨ utf8Len resolved.name > 255
    · rw [if_pos hname]
      exact Ensures.throw
    · rw [if_neg hname]
      refine (h₁.writeResolved_ensures hg.bitmap hg.bytes hlands.wf hlands.parent hlands.finds
        hlands.plain hname path data overwrite).mono ?_
      rintro _ fs' ⟨t', label', h', hputs⟩
      exact ⟨hname, t', label', h', hputs.leaves⟩
  | stream target totalSize chunks =>
    cases target with
    | root name overwrite =>
      obtain ⟨found, hfind, rfl⟩ := resolveRoot_eq_ok hresolve
      have hsame := hlands.old hroot
      subst hsame
      intro _ fs' hrun
      rw [Creation.run, Operation.run, Target.writer, ExfatFileWriter.createOverwrite, bind_assoc,
        run_get_bind] at hrun
      obtain ⟨t', label', h', hputs⟩ := h.session_ensures hg.bitmap hg.bytes hlands.wf
        hlands.parent name totalSize overwrite hlands.plain chunks _ fs' hrun
      exact ⟨session_fits _ _ _ _ _ _ _ _ hrun, t', label', h', hputs.leaves⟩
    | path path createParents overwrite =>
      have hresolve : (resolvePath path createParents).run fs = .ok resolved fs₁ := hresolve
      intro _ fs' hrun
      rw [Creation.run, Operation.run, Target.writer, ExfatFileWriter.createAtPath, bind_assoc,
        bind_of_ok hresolve, bind_assoc] at hrun
      obtain ⟨t', label', h', hputs⟩ := h₁.sessionResolved_ensures hg.bitmap hg.bytes hlands.wf
        hlands.parent hlands.finds hlands.plain path totalSize overwrite chunks _ fs' hrun
      obtain ⟨_, fs₂, -, hrun⟩ := bind_eq_ok.mp hrun
      exact ⟨session_fits _ _ _ _ _ _ _ _ hrun, t', label', h', hputs.leaves⟩
  | createDirectory path createParents =>
    refine Ensures.of_run hresolve ?_
    cases hlocation : resolved.location with
    | some location => exact Ensures.throw
    | none =>
      by_cases hname : resolved.name = "" ∨ utf8Len resolved.name > 255
      · intro _ fs' hrun
        rw [createDirectoryIn, if_pos hname] at hrun
        cases hrun
      · refine Ensures.bind (h₁.createDirectoryIn_ensures hg.bitmap hlands.wf hlands.parent
          hlands.plain) ?_
        rintro new fs' ⟨e, t', label', hename, hdir, -, -, h', hwf', hadds, hnone⟩
        exact Ensures.pure ⟨hname, t', label', h', t₁, e, .absent rows hlands.parent hnone, hadds,
          hwf', hename, hdir⟩

/-- A successful creation has resolved where it leads. -/
theorem Creation.resolved_of_run (h : Stores g t fs) (hwf : Wf g t label) (c : Creation)
    {fs' : ExfatFs} (hrun : c.run.run fs = .ok () fs') :
    ∃ resolved fs₁, c.resolve.run fs = .ok resolved fs₁ := by
  have hroot : ∀ name, ∃ resolved fs₁, (resolveRoot name).run fs = .ok resolved fs₁ := by
    intro name
    obtain ⟨resolved, fs₁, hresolve, -⟩ := h.resolveRoot_returns hwf name
    exact ⟨resolved, fs₁, hresolve⟩
  cases c with
  | writeFile name data => exact hroot name
  | writeFilePath path data createParents overwrite =>
    obtain ⟨resolved, fs₁, hresolve, -⟩ := bind_eq_ok.mp hrun
    exact ⟨resolved, fs₁, hresolve⟩
  | stream target totalSize chunks =>
    cases target with
    | root name overwrite => exact hroot name
    | path path createParents overwrite =>
      obtain ⟨writer, fs₂, hwriter, -⟩ := bind_eq_ok.mp hrun
      obtain ⟨resolved, fs₁, hresolve, -⟩ := bind_eq_ok.mp hwriter
      exact ⟨resolved, fs₁, hresolve⟩
  | createDirectory path createParents =>
    obtain ⟨resolved, fs₁, hresolve, -⟩ := bind_eq_ok.mp hrun
    exact ⟨resolved, fs₁, hresolve⟩

/-! ## Reached states -/

/-- A successful change keeps the tree. -/
theorem Change.run_ensures (change : Change) (h : IsTree g fs) (hg : g.Fits) :
    Ensures change.run fs fun _ fs' => IsTree g fs' := by
  intro _ fs' hrun
  cases change with
  | create c =>
    obtain ⟨t, label, h, hwf⟩ := h
    obtain ⟨resolved, fs₁, hresolve⟩ := c.resolved_of_run h hwf hrun
    obtain ⟨t₁, label₁, rows, h₁, hlands⟩ := c.resolve_ensures h hg.bitmap hwf _ _ hresolve
    obtain ⟨-, t', label', h', _, _, -, -, hwf', -⟩ :=
      c.run_ensures h hg hwf hresolve h₁ hlands _ _ hrun
    exact ⟨t', label', h', hwf'⟩
  | deletePath path => exact (Operation.deletePath path).run_ensures h hg.bitmap hg.bytes () _ hrun
  | deleteRecursive depth path =>
    exact (Operation.deleteRecursive depth path).run_ensures h hg.bitmap hg.bytes () _ hrun

/-- A new volume is a tree whose directories have no entries. -/
theorem NewVolume.blank (h : NewVolume fs) : ∃ g t label, g.Fits ∧ Stores g t fs ∧ Wf g t label ∧
    ∀ k rows, t k = some (.dir rows) → rowSets rows = [] := by
  obtain ⟨hsize, haccepted, hfits, hformat, hfile, hopen⟩ := h
  obtain ⟨hmin, rfl⟩ := (PartitionLayout.calculate_eq_ok hsize _).mp haccepted
  obtain ⟨hsized, hfits⟩ := (PartitionLayout.bitmapFits_iff hmin).mp hfits
  obtain ⟨-, hroom, rfl⟩ := opened_formatted hsize haccepted hsized.lt32 hformat hfile hopen
  refine ⟨_, _, _, ⟨Volume.params_fits hfits _, Volume.params_bytes hsized _⟩,
    formatted_stores _ _ hsized hroom _, Volume.table_wf _ _ _ _, fun k rows ho => ?_⟩
  obtain ⟨-, rfl⟩ := Volume.table_dir ho
  simp

/-- Every reached state is a tree. -/
theorem ReachedBy.isTree {allowed : Change → Prop} (h : ReachedBy allowed fs) :
    ∃ g, g.Fits ∧ IsTree g fs := by
  induction h with
  | opened hnew =>
    obtain ⟨g, t, label, hg, h, hwf, -⟩ := hnew.blank
    exact ⟨g, hg, t, label, h, hwf⟩
  | step change _ _ hrun ih =>
    obtain ⟨g, hg, htree⟩ := ih
    exact ⟨g, hg, change.run_ensures htree hg () _ hrun⟩

omit [Lowercase] in
/-- The size of a volume whose bitmap fits. -/
theorem PartitionLayout.BitmapFits.sized {totalSize : Nat} (hmin : minImageSize ≤ totalSize)
    (h : PartitionLayout.BitmapFits totalSize) :
    Volume.Sized (PartitionLayout.ofSize totalSize).dataSizeSectors :=
  ((PartitionLayout.bitmapFits_iff hmin).mp h).1

omit [Lowercase] in
/-- The formatter's image is a new volume. -/
theorem NewVolume.formatted {totalSize : Nat} (hsize : totalSize < 2 ^ 64)
    (hmin : minImageSize ≤ totalSize) (hfits : PartitionLayout.BitmapFits totalSize) {file : Image}
    (hfile : file.size = totalSize) (label : String) (now : Option Nat) (clock : List Nat) :
    NewVolume (formattedFs file (PartitionLayout.ofSize totalSize).dataOffset
      (PartitionLayout.ofSize totalSize).dataSizeSectors (volumeSerial now).val label clock) :=
  .mk hsize ((PartitionLayout.calculate_eq_ok hsize _).mpr ⟨hmin, rfl⟩) hfits rfl hfile
    (openImage_formatExfat hmin (hfits.sized hmin) hfile label now clock).2

omit [Lowercase] in
theorem volume64MB_new : NewVolume volume64MB := by
  unfold volume64MB
  exact .formatted (by decide) (by decide) (by decide) rfl _ _ _

end

end StreamBox.Exfat
