import StreamBox.Exfat.Creations
import StreamBox.Exfat.Reading

/-!
# What failures leave

An operation that fails keeps what it has done up to there.

* **Allocating** — too few free clusters leave the disk as it was; a new entry fails only
  when its directory cannot be extended, and then it has done nothing.
* **Quiet, took** — a failed run has done nothing, or it has taken a free cluster and not
  given it back.
-/

namespace StreamBox.Exfat

/-! ## Doing nothing -/

/-- A run that has done nothing to the disk, which stores the table. -/
structure Quiet (g : VolumeParams) (t : Table) (fs fs' : ExfatFs) : Prop where
  stores : Stores g t fs'
  disk : fs'.disk = fs.disk

/-- The clusters that an allocation may hand out. -/
def ExfatFs.freeClusters (fs : ExfatFs) : List Nat := fs.disk.freeClusters fs.toVolumeParams

section

variable {g : VolumeParams} {t : Table} {fs fs₁ fs₂ : ExfatFs} {k : Nat} {o : Obj}

theorem Quiet.refl (h : Stores g t fs) : Quiet g t fs fs := ⟨h, rfl⟩

theorem Quiet.trans (h : Quiet g t fs fs₁) (h' : Quiet g t fs₁ fs₂) : Quiet g t fs fs₂ :=
  ⟨h'.stores, h'.disk.trans h.disk⟩

theorem Quiet.freeClusters (h : Quiet g t fs fs₁) (hstores : Stores g t fs) :
    fs₁.freeClusters = fs.freeClusters := by
  rw [ExfatFs.freeClusters, ExfatFs.freeClusters, h.disk, h.stores.params, hstores.params]

/-- An operation that only reads does nothing. -/
theorem Quiet.of_reads {α : Type} {op : ExfatM α} {post : α → Prop} (hreads : Reads op)
    (h : Returns op fs fun a fs' => post a ∧ Stores g t fs') :
    Returns op fs fun a fs' => post a ∧ Quiet g t fs fs' := by
  have hkeeps : Keeps ExfatFs.disk op := hreads.keeps fun _ _ => rfl
  refine (hkeeps.returns h).mono ?_
  rintro a fs' ⟨⟨hpost, h'⟩, hdisk⟩
  exact ⟨hpost, h', hdisk⟩

theorem Stores.findEntry_quiet [Lowercase] {rows : Rows} (h : Stores g t fs)
    (ho : t k = some (.dir rows)) (hshaped : Shaped rows) (name : String) :
    Returns (findEntryInDirectory k name) fs fun found fs' =>
      Finds (toLowercase name) rows found ∧ Quiet g t fs fs' :=
  Quiet.of_reads (findEntryInDirectory_reads k name)
    ((h.findEntryInDirectory_returns ho hshaped name).mono fun _ _ h => h.symm)

/-! ## Allocating -/

theorem Represents.freeClusters {d : Disk} (h : Represents g d fs) :
    fs.freeClusters = d.freeClusters g := by
  rw [ExfatFs.freeClusters, h.params, h.disk]

/-- An allocation fails when there are too few free clusters, and does nothing then. -/
theorem Stores.allocateClusters_fails (h : Stores g t fs) (count : Nat) :
    Fails (allocateClusters count) fs fun _ fs' => Quiet g t fs fs' ∧
      (count = 0 ∨ fs.freeClusters.length < count) := by
  obtain ⟨d, hrep, hholds⟩ := h
  rw [hrep.freeClusters]
  by_cases hfew : count = 0 ∨ (d.freeClusters g).length < count
  · obtain ⟨e, fs', herror, hrep'⟩ := allocateClusters_error hrep hfew
    intro e' fs'' hrun
    cases herror.symm.trans hrun
    exact ⟨⟨⟨d, hrep', hholds⟩, hrep'.disk.trans hrep.disk.symm⟩, hfew⟩
  · exact .of_returns (allocateClusters_returns hrep (by omega) (by omega))

/-- An allocation that succeeds had enough free clusters. -/
theorem Stores.allocateClusters_enough (h : Stores g t fs) (count : Nat) :
    Ensures (allocateClusters count) fs fun _ _ => count ≤ fs.freeClusters.length := by
  obtain ⟨d, hrep, -⟩ := h
  rw [hrep.freeClusters]
  intro first fs' hrun
  by_contra hfew
  obtain ⟨_, _, herror, -⟩ := allocateClusters_error hrep (Or.inr (Nat.lt_of_not_le hfew))
  cases herror.symm.trans hrun

omit g t k o in
/-- A cluster's worth of data can be written. -/
theorem writeCluster_fails {post : VentoyError → ExfatFs → Prop} {c : Nat} {data : List UInt8}
    (hlen : data.length ≤ fs.clusterSize) : Fails (writeCluster c data) fs post := by
  refine Fails.of_run (x := get) rfl ?_
  rw [if_neg (Nat.not_lt.mpr hlen)]
  intro e fs' hrun
  split at hrun <;> cases hrun

/-- Extending a chain fails when there is no free cluster, and does nothing then. -/
theorem Stores.extendClusterChain_fails (h : Stores g t fs) (ho : t k = some o) :
    Fails (extendClusterChain k) fs fun _ fs' => Quiet g t fs fs' := by
  refine Fails.bind_returns (Quiet.of_reads (readClusterChain_reads k)
    (h.readClusterChain_returns ho)) ?_
  rintro chain fs₁ ⟨-, hquiet⟩
  cases chain.getLast? with
  | none => exact .throw hquiet
  | some last =>
    refine Fails.bind_each ?_ ?_
    · refine (hquiet.stores.allocateClusters_fails 1).mono ?_
      rintro _ fs' ⟨hquiet', -⟩
      exact hquiet.trans hquiet'
    · intro new fs₂
      refine Fails.bind_each (fun _ _ hrun => by cases hrun) ?_
      intro _ fs₃
      refine Fails.of_run (x := get) rfl ?_
      refine Fails.bind_each (writeCluster_fails ?_) fun _ _ => .pure
      rw [List.length_replicate]

/-! ## New entries -/

variable {rows : Rows}

/-- A search for free slots fails when the directory cannot be extended. -/
theorem Stores.findFreeSlotInDirectory_fails (h : Stores g t fs) (hfits : g.BitmapFits)
    (ho : t k = some (.dir rows)) (hshaped : Shaped rows) {needed : Nat} (hneeded : 0 < needed) :
    Fails (findFreeSlotInDirectory k needed) fs fun _ fs' => Quiet g t fs fs' := by
  refine Fails.bind_returns (Quiet.of_reads (readClusterChain_reads k)
    (h.readClusterChain_returns ho)) ?_
  rintro chain fs₁ ⟨rfl, hquiet⟩
  have h₁ := hquiet.stores
  rw [Obj.chain_dir]
  obtain ⟨found, hrun, -⟩ := h₁.freeSlotInClusters_eq ho hshaped hneeded [] rows rfl
  refine Fails.of_run hrun ?_
  cases found with
  | some found => exact .pure
  | none =>
    refine Fails.bind ((h₁.extendClusterChain_fails ho).mono fun _ _ h => hquiet.trans h)
      (h₁.extendClusterChain_ensures hfits ho) ?_
    intro new fs₂ h₂
    have hblank := render_blankSlots h₁.valid.sizeEntries
    have h₂ := h₂ (.dir (rows ++ [(new, blankSlots g.clusterSize)])) (by simp [hblank])
    refine Fails.bind_returns (h₂.readClusterChain_returns (Function.update_self ..)) ?_
    rintro chain fs₃ ⟨rfl, h₃⟩
    rw [Obj.chain_dir, List.map_append, List.map_cons, List.map_nil, List.dropLast_concat]
    exact Fails.bind_returns (h₃.clearEndMarkers_returns hshaped.ok (Function.update_self ..))
      fun _ _ _ => .pure

/-- A new entry fails when its directory cannot be extended, and has done nothing then. -/
theorem Stores.createEntryInDirectory_fails (h : Stores g t fs) (hfits : g.BitmapFits)
    (ho : t k = some (.dir rows)) (hshaped : Shaped rows) (name : String)
    (firstCluster size : Nat) (isDir : Bool)
    (hok : ∀ now, (EntrySet.mk name firstCluster size isDir now).Ok) :
    Fails (createEntryInDirectory k name firstCluster size isDir) fs fun _ fs' =>
      Quiet g t fs fs' := by
  refine Fails.of_run (readClock_eq fs) ?_
  generalize wrap32 (fs.clock.headD 0) = now
  generalize he : EntrySet.mk name firstCluster size isDir now = e
  have hok : e.Ok := he ▸ hok now
  have hentries : createFileEntries name firstCluster size isDir now = e.entries := by
    rw [← he]
    rfl
  have hcount : e.entries.length = 2 + e.chunks.length := e.length_entries
  have hbounds := hok.chunks_bounds
  have hclock := h.of_clock fs.clock.tail
  rw [hentries]
  refine Fails.bind ((hclock.findFreeSlotInDirectory_fails hfits ho hshaped (by omega)).mono
      fun _ _ h => ⟨h.stores, h.disk⟩)
    (hclock.findFreeSlotInDirectory_ensures hfits ho hshaped (by omega) (by omega)) ?_
  rintro slot fs₁ ⟨p, slots, h₁, hshaped₁, -, hfree, rfl⟩
  exact .of_returns (h₁.writeEntries_returns (Function.update_self ..) hshaped₁ hfree hok)

end

end StreamBox.Exfat
