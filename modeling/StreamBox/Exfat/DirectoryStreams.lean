import StreamBox.Exfat.DirectoryStructure

/-!
# The Stream Extension entries of directories

What the entry of a subdirectory says of its chain.

* **As written** — every live subdirectory has DataLength 0 and the flag `NoFatChain`,
  whatever its chain (`ReachedBy.directory_entry`).
* **As the format asks** — so the entries describe their chains exactly when there is no
  subdirectory (`directory_streams_iff`).
-/

namespace StreamBox.Exfat

/-- The `NoFatChain` flag of the set at an offset. -/
def noFatChainAt (data : List UInt8) (offset : Nat) : Bool :=
  ((byteAt data (offset + 33)).toNat &&& 0x02) != 0

/-- There is the entry of a live subdirectory at this place. -/
structure DirectoryEntryAt (fs : ExfatFs) (c offset : Nat) : Prop where
  live : ∃ dir, fs.disk.LiveDirectory fs.firstClusterOfRoot dir ∧ fs.disk.Chained dir c
  file : FileEntryAt (fs.disk.cluster c) offset
  directory : isDirectoryAt (fs.disk.cluster c) offset = true

/-- The Stream Extension entry of the set at an offset describes this chain. -/
structure DescribesChain (clusterSize : Nat) (data : List UInt8) (offset : Nat)
    (chain : List Nat) : Prop where
  length : (parseEntrySet data offset).dataLength = chain.length * clusterSize
  linked : 1 < chain.length ∨ chain ≠ List.range' (chain.headD 0) chain.length →
    noFatChainAt data offset = false

/-- The Stream Extension entry of every live subdirectory describes its chain. -/
def DirectoryStreams (fs : ExfatFs) : Prop :=
  ∀ c offset rest, DirectoryEntryAt fs c offset →
    fs.disk.IsChain fs.toVolumeParams
      ((parseEntrySet (fs.disk.cluster c) offset).firstCluster :: rest) →
    DescribesChain fs.clusterSize (fs.disk.cluster c) offset
      ((parseEntrySet (fs.disk.cluster c) offset).firstCluster :: rest)

section

variable [Lowercase] {fs : ExfatFs}

omit [Lowercase] in
/-- The flags of an empty set say `NoFatChain`. -/
theorem EntrySet.noFatChainAt_eq {data rest : List UInt8} {o : Nat} {e : EntrySet}
    (h : data.drop o = e.bytes ++ rest) (hsize : e.size = 0) : noFatChainAt data o = true := by
  obtain ⟨_, _, -, hstream, -⟩ := EntrySet.drop_bytes h
  have hflags : byteAt data (o + 32 + 1) = if e.size > 0 then 0x01 else 0x03 :=
    byteAt_of_drop hstream (by rw [length_streamEntry]; omega)
  rw [noFatChainAt, hflags, if_neg (by omega)]
  rfl

/-- The entry of a live subdirectory says that it has no bytes in clusters one behind the
other, and there is a chain that it leads to. -/
theorem ReachedBy.directory_entry {allowed : Change → Prop} (h : ReachedBy allowed fs) {c offset : Nat}
    (hentry : DirectoryEntryAt fs c offset) :
    (parseEntrySet (fs.disk.cluster c) offset).dataLength = 0 ∧
      noFatChainAt (fs.disk.cluster c) offset = true ∧
      ∃ rest, fs.disk.IsChain fs.toVolumeParams
        ((parseEntrySet (fs.disk.cluster c) offset).firstCluster :: rest) := by
  obtain ⟨⟨dir, hlive, hc⟩, hfile, hdir⟩ := hentry
  obtain ⟨g, -, t, label, ⟨d, hrep, hholds⟩, hwf⟩ := h.isTree
  obtain rfl := hrep.params
  rw [hrep.disk] at hlive hc hfile hdir ⊢
  obtain ⟨rows, ho⟩ := hholds.liveDirectory hwf hrep.valid hlive
  obtain ⟨pre, items, post, hrows, hdata⟩ := hholds.row hrep.valid ho hc
  have hitems := (hwf.shaped dir rows ho).ok (c, items)
    (hrows ▸ List.mem_append_right _ List.mem_cons_self)
  rw [hdata] at hfile hdir ⊢
  obtain ⟨before, e, after, rfl, rfl⟩ := fileEntryAt_render hitems hfile
  have hdrop := drop_render before after e
  rw [e.isDirectoryAt_eq hdrop] at hdir
  have hmem : e ∈ rowSets rows := by
    rw [hrows]
    simp [sets]
  obtain ⟨hok, hrefers⟩ := hwf.entries dir rows ho e hmem
  rw [EntrySet.parseEntrySet_eq hok hdrop]
  cases hrefers with
  | empty _ hfalse _ => exact absurd (hdir.symm.trans hfalse) (by decide)
  | file _ _ _ hfalse _ _ => exact absurd (hdir.symm.trans hfalse) (by decide)
  | dir below _ hbelow _ hsize _ =>
    obtain ⟨rest, hrest⟩ := hholds.keyed _ _ hbelow
    have hchain := hholds.chained _ _ hbelow
    rw [hrest] at hchain
    exact ⟨hsize, EntrySet.noFatChainAt_eq hdrop hsize, rest, hchain⟩

/-- With a live subdirectory the entries do not describe their chains. -/
theorem ReachedBy.not_directoryStreams {allowed : Change → Prop} (h : ReachedBy allowed fs)
    {c offset : Nat} (hentry : DirectoryEntryAt fs c offset) : ¬ DirectoryStreams fs := by
  intro hstreams
  obtain ⟨hempty, -, rest, hchain⟩ := h.directory_entry hentry
  have hlength := (hstreams c offset rest hentry hchain).length
  obtain ⟨g, -, t, label, ⟨d, hrep, -⟩, -⟩ := h.isTree
  have hsize : 0 < fs.clusterSize := by
    have hlo := hrep.valid.sizeLo
    rw [hrep.params]
    omega
  rw [hempty, List.length_cons, Nat.succ_mul] at hlength
  omega

/-- **Directory stream entries.** In every reached state the Stream Extension entries of the
live subdirectories describe their chains exactly when there is no live subdirectory. -/
theorem directory_streams_iff (h : Reached fs) :
    DirectoryStreams fs ↔ ∀ c offset, ¬ DirectoryEntryAt fs c offset := by
  constructor
  · exact fun hstreams c offset hentry => h.not_directoryStreams hentry hstreams
  · exact fun hnone c offset rest hentry _ => absurd hentry (hnone c offset)

/-- A new volume has no subdirectories. -/
theorem NewVolume.no_directory (h : NewVolume fs) (c offset : Nat) :
    ¬ DirectoryEntryAt fs c offset := by
  rintro ⟨⟨dir, hlive, hc⟩, hfile, -⟩
  obtain ⟨g, t, label, -, ⟨d, hrep, hholds⟩, hwf, hblank⟩ := h.blank
  obtain rfl := hrep.params
  rw [hrep.disk] at hlive hc hfile
  obtain ⟨rows, ho⟩ := hholds.liveDirectory hwf hrep.valid hlive
  obtain ⟨p, e, rfl, -⟩ := hholds.entry_set hwf hrep.valid ho hc hfile
  have hmem := p.mem_fill e
  rw [hblank dir _ ho] at hmem
  cases hmem

omit [Lowercase] in
/-- A set of a directory in a root directory of one cluster is the entry of a live one. -/
theorem RootIs.directoryEntryAt {g : VolumeParams} {d : Disk} {before after : List Item}
    {e : EntrySet} (hroot : RootIs g d (before ++ .set e :: after)) (h : Represents g d fs)
    (hdir : e.isDir = true) : DirectoryEntryAt fs g.firstClusterOfRoot (render before).length := by
  have hlink : isLink g.firstClusterOfRoot = true := h.valid.root_inHeap.isLink h.valid
  have hdrop := drop_render before after e
  have hfile := fileEntryAt_set hroot.ok
  rw [← hroot.data, ← h.disk] at hdrop hfile
  refine ⟨⟨g.firstClusterOfRoot, ?_, .first hlink⟩, hfile, (e.isDirectoryAt_eq hdrop).trans hdir⟩
  rw [h.params]
  exact .root

end

/-- The entries of a new volume describe their chains. -/
theorem directory_streams_new : DirectoryStreams volume64MB :=
  (@directory_streams_iff ⟨id⟩ _ (@ReachedBy.opened ⟨id⟩ _ _ volume64MB_new)).mpr
    (@NewVolume.no_directory ⟨id⟩ _ volume64MB_new)

/-- The entry of a first subdirectory does not. -/
theorem directory_streams_wrong : ∃ fs : ExfatFs,
    (@Creation.run ⟨id⟩ (.createDirectory "d" false)).run volume64MB = .ok () fs ∧
    @Reached ⟨id⟩ fs ∧ ¬ DirectoryStreams fs := by
  obtain ⟨g, d, before, n, first, m, h, hroot, hn, htaken, hnone, hfree⟩ := volume64MB_root
  let _ : Lowercase := ⟨id⟩
  have habsent : ∀ e ∈ sets before, ¬ e.Named (toLowercase "d") := by
    rw [hnone]
    exact fun e he => nomatch he
  have hroom : 2 + (nameChunks (encodeUtf16 "d")).length ≤ n := Nat.le_trans (by decide) hn
  have hone : (d.freeClusters g).take 1 = [first] := by
    rw [hfree, List.range'_succ]
    rfl
  have hparse : parsePath "d" = ["d"] := by decide
  obtain ⟨_, fs, hrun, now, d', h', hroot'⟩ := hroot.createDirectory_returns h htaken hparse
    (by decide) habsent hroom hone false
  have hreached : Reached fs :=
    .step (.create (.createDirectory "d" false)) (.opened volume64MB_new) trivial hrun
  rw [List.append_assoc] at hroot'
  exact ⟨fs, hrun, hreached, hreached.not_directoryStreams (hroot'.directoryEntryAt h' rfl)⟩

end StreamBox.Exfat
