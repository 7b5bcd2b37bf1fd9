import StreamBox.Exfat.Ownership
import StreamBox.Exfat.RootRuns

/-!
# Volumes whose bitmap is too small

The bitmap is one cluster whatever the volume's size; clusters beyond its last bit are
free to the allocation forever.

* **Overflow** — on a volume with such clusters, two files of the root directory get the
  first of them (`overflow_shares`).
* **Ownership** — so a cluster has one owner over all runs exactly on the sizes whose
  bitmap fits its cluster (`ownership_iff`).
-/

namespace StreamBox.Exfat

/-! ## Marks after a first file -/

section

variable {g : VolumeParams} {d d' : Disk} {fs fs' : ExfatFs}

/-- After a row of clusters is taken that ends with the first one beyond the bitmap, that
one is the only free cluster up to it. -/
theorem Takes.freeClusters_take (h : Represents g d fs) {start n : Nat}
    (htakes : Takes d (List.range' start n) d')
    (hstart : g.firstClusterOfRoot < start) (hn : 0 < n) (hend : start + n = 8 * g.clusterSize + 3)
    (hcount : 8 * g.clusterSize < g.clusterCount)
    (hmarked : ∀ c, g.firstClusterOfRoot < c → c < start → d.allocated c = true) :
    (d'.freeClusters g).take 1 = [8 * g.clusterSize + 2] := by
  have hcountLt := h.valid.countLt
  have hroot := h.valid.rootLo
  have hsize := h.valid.sizeLo
  have hbitmap := h.length_cluster h.bitmap_inHeap
  have hbounds : ∀ x ∈ List.range' start n, 2 ≤ x ∧ x < 2 ^ 32 := by
    intro x hx
    rw [List.mem_range'_1] at hx
    omega
  have hmark : ∀ c, g.firstClusterOfRoot < c → c < 8 * g.clusterSize + 2 →
      d'.allocated c = true := by
    intro c hlo hhi
    rw [Disk.allocated, htakes.bitmap]
    by_cases hc : c ∈ List.range' start n
    · exact isClusterAllocated_markAll_of_mem true hbounds (by omega) hc
    · rw [isClusterAllocated_markAll_of_notMem true (by omega) (by omega) hbounds hc]
      refine hmarked c hlo ?_
      rw [List.mem_range'_1] at hc
      omega
  have hbeyond : ∀ c, 8 * g.clusterSize + 2 ≤ c → c < g.clusterCount + 2 →
      d'.allocated c = false := by
    intro c hlo hhi
    rw [Disk.allocated, htakes.bitmap, isClusterAllocated, wrappingSub32_of_le (by omega) (by omega)]
    exact Bitmap.test_of_le (by rw [length_markAll]; omega)
  rw [Disk.freeClusters, filter_range' (m := 8 * g.clusterSize + 2) (by omega)]
  · obtain ⟨k, hk⟩ : ∃ k, g.firstClusterOfRoot + 1 +
        (g.clusterCount + 2 - (g.firstClusterOfRoot + 1)) - (8 * g.clusterSize + 2) = k + 1 :=
      ⟨g.clusterCount - 8 * g.clusterSize - 1, by omega⟩
    rw [hk, List.range'_succ]
    rfl
  · intro c hlo hhi
    rw [hmark c (by omega) hhi]
    rfl
  · intro c hlo hhi
    rw [hbeyond c hlo (by omega)]
    rfl

end

/-! ## Owners in the root directory -/

/-- A set of the root directory owns its chain. -/
theorem RootIs.owns {g : VolumeParams} {d : Disk} {before after : List Item} {e : EntrySet}
    {fs : ExfatFs} (hroot : RootIs g d (before ++ .set e :: after)) (h : Represents g d fs) :
    d.Owns g.firstClusterOfRoot (.entry g.firstClusterOfRoot (render before).length)
      e.firstCluster := by
  have hdrop := drop_render before after e
  have hok : e.Ok := hroot.ok (.set e) (List.mem_append_right _ List.mem_cons_self)
  have hlink : isLink g.firstClusterOfRoot = true := h.valid.root_inHeap.isLink h.valid
  have hfile := fileEntryAt_set hroot.ok
  rw [← hroot.data] at hdrop hfile
  have howns : d.Owns g.firstClusterOfRoot _ _ := Disk.Owns.entry .root (.first hlink) hfile
  rwa [EntrySet.parseEntrySet_eq hok hdrop] at howns

/-! ## Two files with one cluster -/

/-- A chain just taken is a chain of the volume. -/
theorem Takes.isChain {g : VolumeParams} {d d' : Disk} {chain : List Nat}
    (htakes : Takes d chain d') (hfresh : d.Fresh g chain) : d'.IsChain g chain := by
  refine ⟨?_, hfresh.inHeap, hfresh.nodup⟩
  rw [htakes.fat]
  exact linked_linkAll rfl hfresh.nodup _

/-- The last cluster of a chain that is allocated again stays the chain's last. -/
theorem Disk.IsChain.realloc {g : VolumeParams} {d : Disk} {l : List Nat} {last : Nat}
    (h : d.IsChain g (l ++ [last])) {d' : Disk}
    (hfat : d'.fat = linkAll fatEntryEndOfChain [last] d.fat) : d'.IsChain g (l ++ [last]) := by
  refine ⟨?_, h.inHeap, h.nodup⟩
  rw [hfat]
  exact h.linked.stop_last h.nodup rfl

/-- A file of whole clusters. -/
theorem clustersNeeded_mul {n clusterSize : Nat} (hsize : 0 < clusterSize) :
    clustersNeeded (n * clusterSize) clusterSize = n := by
  unfold clustersNeeded
  split
  · rename_i hzero
    rcases Nat.mul_eq_zero.mp hzero with hn | hc
    · exact hn.symm
    · omega
  · have hsplit : n * clusterSize + clusterSize - 1 = (clusterSize - 1) + clusterSize * n := by
      rw [Nat.mul_comm clusterSize n]
      omega
    rw [hsplit, Nat.add_mul_div_left _ _ hsize, Nat.div_eq_of_lt (by omega), Nat.zero_add]

/-- Two entries of the root directory that lead to one cluster break its ownership. -/
theorem RootIs.not_exclusive {g : VolumeParams} {d : Disk} {fs : ExfatFs}
    {before between after : List Item} {e e' : EntrySet} {c : Nat}
    (hroot : RootIs g d (before ++ .set e :: between ++ .set e' :: after)) (h : Represents g d fs)
    (hc : d.Chained e.firstCluster c) (hc' : d.Chained e'.firstCluster c) :
    ¬ fs.disk.Exclusive fs.firstClusterOfRoot := by
  intro hexclusive
  have hparams := h.params
  subst hparams
  rw [h.disk] at hexclusive
  have howns' := hroot.owns h
  rw [List.append_assoc, List.cons_append] at hroot
  have howner := hexclusive _ _ _ _ c (hroot.owns h) howns' hc hc'
  injection howner with _ hoffset
  have hbytes := e.length_bytes
  rw [render_append, render_cons, List.length_append, List.length_append] at hoffset
  have hitem : (Item.set e).bytes.length = e.bytes.length := rfl
  omega

section

variable [Lowercase] {file : Image} {base sectors : Nat}

/-- On a volume with a cluster beyond the bitmap two files of the root directory share it. -/
theorem overflow_shares (hnames : toLowercase "a" ≠ toLowercase "b") (serial : Nat) (label : String)
    (h : Volume.Sized sectors) (hroom : base + sectors * 512 ≤ file.size)
    (hover : ¬ Volume.BitmapFits sectors) (clock : List Nat) :
    ∃ fs', Succeeds (formattedFs file base sectors serial label clock) fs' ∧
      ¬ fs'.disk.Exclusive fs'.firstClusterOfRoot := by
  have hrep := formatted_represents serial label h hroom clock
  have hroot := formatted_rootIs serial label h hroom clock
  have hfree := formatted_freeClusters serial label h hroom clock
  have hbitmap := formatted_bitmap_cluster serial label h hroom clock
  have hvalid := hrep.valid
  have hcountLt : Volume.clusterCount sectors + 2 < 0xFFFFFFF8 := hvalid.countLt
  have hup := (Volume.upcaseClusters_mul sectors).2
  have hsize := (Volume.sectorsPerCluster_mul sectors).2
  have hblanks := Volume.blanks_room sectors
  have hrootCluster : Volume.rootCluster sectors = 3 + Volume.upcaseClusters sectors := rfl
  have hover : 8 * getClusterSize sectors < Volume.clusterCount sectors := Nat.lt_of_not_le hover
  generalize (formattedFs file base sectors serial label clock).disk = d at hrep hroot hfree hbitmap
  generalize formattedFs file base sectors serial label clock = fs at hrep ⊢
  -- the first file takes everything up to the first cluster beyond the bitmap
  obtain ⟨n, hn⟩ : ∃ n, 8 * getClusterSize sectors = Volume.rootCluster sectors + (n + 1) :=
    ⟨8 * getClusterSize sectors - Volume.rootCluster sectors - 1, by omega⟩
  have hneeded : clustersNeeded ((List.replicate ((n + 1) * getClusterSize sectors) (0 : UInt8)).length)
      (Volume.params base sectors).clusterSize = n + 1 := by
    rw [List.length_replicate]
    exact clustersNeeded_mul (by omega)
  have hbytes : (List.replicate ((n + 1) * getClusterSize sectors) (0 : UInt8)).length < 2 ^ 64 := by
    rw [List.length_replicate]
    have hle : (n + 1) * getClusterSize sectors ≤ (8 * 131072) * 131072 :=
      Nat.mul_le_mul (by omega) hsize.2
    omega
  have hchain : (d.freeClusters (Volume.params base sectors)).take (n + 1)
      = List.range' (Volume.rootCluster sectors + 3) (n + 1) := by
    rw [hfree, List.take_range'_of_length_ge (by omega)]
  have hroom₁ : 2 + (nameChunks (encodeUtf16 "a")).length ≤ (getClusterSize sectors - 96) / 32 :=
    Nat.le_trans (by decide) hblanks
  have hparse₁ : parsePath "a" = ["a"] := by decide
  have hcount : ((Volume.rootCluster sectors + 3) ::
      List.range' (Volume.rootCluster sectors + 4) n).length = clustersNeeded
        ((List.replicate ((n + 1) * getClusterSize sectors) (0 : UInt8)).length)
        (Volume.params base sectors).clusterSize := by
    rw [hneeded, List.length_cons, List.length_range']
  obtain ⟨_, fs₁, hrun₁, now₁, d₁, hrep₁, hroot₁, htakes₁⟩ := hroot.writeFilePath_returns hrep
    (Volume.formatItems_taken sectors label) hparse₁ (by decide) (fun e he => nomatch he) hroom₁
    hbytes (by rw [hneeded]; omega)
    hcount (by rw [hneeded, hchain, List.range'_succ]) false false
  have hrow : (Volume.rootCluster sectors + 3) :: List.range' (Volume.rootCluster sectors + 4) n
      = List.range' (Volume.rootCluster sectors + 3) (n + 1) := by
    rw [List.range'_succ]
  rw [hrow] at htakes₁
  -- the second file gets the first cluster beyond the bitmap
  have hnext : (d₁.freeClusters (Volume.params base sectors)).take 1
      = [8 * getClusterSize sectors + 2] := by
    refine htakes₁.freeClusters_take hrep (Nat.lt_add_of_pos_right (by decide)) (Nat.succ_pos n) ?_
      hover fun c hlo hhi => ?_
    · show Volume.rootCluster sectors + 3 + (n + 1) = 8 * getClusterSize sectors + 3
      omega
    · have hlo : Volume.rootCluster sectors < c := hlo
      rw [Disk.allocated, hbitmap, formatted_marks sectors (by omega) (by omega)]
      omega
  have hone : clustersNeeded ([0] : List UInt8).length (Volume.params base sectors).clusterSize = 1 := by
    show clustersNeeded 1 (getClusterSize sectors) = 1
    rw [clustersNeeded, if_neg (by decide), Nat.add_sub_cancel_left]
    exact Nat.div_self (by omega)
  have hparse₂ : parsePath "b" = ["b"] := by decide
  have hbyte : ([0] : List UInt8).length < 2 ^ 64 := by decide
  have hlen : [8 * getClusterSize sectors + 2].length
      = clustersNeeded ([0] : List UInt8).length (Volume.params base sectors).clusterSize := hone.symm
  obtain ⟨_, fs₂, hrun₂, now₂, d₂, hrep₂, hroot₂, htakes₂⟩ := hroot₁.writeFilePath_returns hrep₁
    (by
      intro item hitem
      rcases List.mem_append.mp hitem with hitem | hitem
      · exact Volume.formatItems_taken sectors label item hitem
      · rw [List.mem_singleton.mp hitem]
        rfl)
    hparse₂ (by decide)
    (by
      intro e he hnamed
      have hdecoded : decodedName "a" = "a" := by decide
      rw [List.mem_singleton.mp he, EntrySet.Named, hdecoded] at hnamed
      exact hnames hnamed)
    (by
      have hchunks : 2 + (nameChunks (encodeUtf16 "a")).length = 3 := by decide
      have hchunks' : 2 + (nameChunks (encodeUtf16 "b")).length = 3 := by decide
      omega)
    hbyte (by rw [hone]; exact Nat.one_pos) hlen (by rw [hone, hnext]) false false
  refine ⟨fs₂, .step (.writeFilePath "b" [0] false false) (.step (.writeFilePath "a" _ false false)
    .nil hrun₁) hrun₂, ?_⟩
  have hfresh := Disk.fresh_take hvalid d (n + 1)
  rw [hchain] at hfresh
  have hchain₁ := htakes₁.isChain hfresh
  have hlast : List.range' (Volume.rootCluster sectors + 3) (n + 1)
      = List.range' (Volume.rootCluster sectors + 3) n ++ [8 * getClusterSize sectors + 2] := by
    rw [List.range'_concat]
    congr 2
    omega
  rw [hlast] at hchain₁
  have hchain₂ := hchain₁.realloc htakes₂.fat
  have hmem : 8 * getClusterSize sectors + 2 ∈ List.range' (Volume.rootCluster sectors + 3) n ++
      [8 * getClusterSize sectors + 2] := List.mem_append_right _ List.mem_cons_self
  have hlink := (hchain₂.inHeap _ hmem).isLink hvalid
  rw [← hlast, ← hrow] at hchain₂ hmem
  rw [List.append_assoc] at hroot₂
  exact hroot₂.not_exclusive hrep₂ (hchain₂.chained hvalid hmem) (.first hlink)

end

/-! ## Image sizes -/

/-- On the other sizes some run makes two files share a cluster. -/
theorem ClusterOwnership.fits [Lowercase] (hnames : toLowercase "a" ≠ toLowercase "b")
    {totalSize : Nat} {layout : PartitionLayout} (hsize : totalSize < 2 ^ 64)
    (haccepted : (PartitionLayout.calculate totalSize).val = .ok layout)
    (hsectors : totalSize / 512 < 2 ^ 32) {label : String} {now : Option Nat}
    (h : ClusterOwnership totalSize layout label now) : PartitionLayout.BitmapFits totalSize := by
  obtain ⟨hmin, rfl⟩ := (PartitionLayout.calculate_eq_ok hsize layout).mp haccepted
  obtain ⟨hlo, -, hhi, -⟩ := PartitionLayout.dataSizeSectors_ofSize hmin
  have hsized : Volume.Sized (PartitionLayout.ofSize totalSize).dataSizeSectors :=
    ⟨hlo, by omega⟩
  by_contra hover
  have hover : ¬ Volume.BitmapFits (PartitionLayout.ofSize totalSize).dataSizeSectors :=
    fun hfits => hover ((PartitionLayout.bitmapFits_iff hmin).mpr ⟨hsized, hfits⟩)
  have hfile : (⟨totalSize, fun _ => 0⟩ : Image).size = totalSize := rfl
  obtain ⟨hroom, hopen⟩ := openImage_formatExfat hmin hsized hfile label now []
  obtain ⟨fs', hrun, hshared⟩ := overflow_shares hnames (volumeSerial now).val label hsized hroom
    hover []
  exact hshared (h.exclusive _ _ rfl _ rfl _ _ fs' hopen hrun)

/-- **Cluster ownership.** On the formatted volume of an accepted image size below `2 ^ 32`
sectors, every run of successful operations leaves each cluster on one live chain at most,
and allocation hands out no cluster of a live chain, exactly when the size is in one of the
two ranges whose bitmap fits in one cluster. -/
theorem ownership_iff [Lowercase] (hnames : toLowercase "a" ≠ toLowercase "b")
    {totalSize : Nat} {layout : PartitionLayout} (hsize : totalSize < 2 ^ 64)
    (haccepted : (PartitionLayout.calculate totalSize).val = .ok layout)
    (hsectors : totalSize / 512 < 2 ^ 32) (label : String) (now : Option Nat) :
    ClusterOwnership totalSize layout label now ↔ PartitionLayout.BitmapFits totalSize :=
  ⟨fun h => h.fits hnames hsize haccepted hsectors,
    fun hfits => clusters_owned_once hsize haccepted hfits label now⟩

/-- On a 64MB image every cluster has one owner. -/
theorem owned_once_64MB :
    @ClusterOwnership ⟨id⟩ (64 * 1024 * 1024) (.ofSize (64 * 1024 * 1024)) "Ventoy" none :=
  (@ownership_iff ⟨id⟩ (show "a" ≠ "b" by decide) _ _ (by decide)
    ((PartitionLayout.calculate_eq_ok (by decide) _).mpr ⟨by decide, rfl⟩) (by decide) _ _).mpr
    (by decide)

/-- On a 256MB image two files can get the same cluster. -/
theorem shared_256MB :
    (PartitionLayout.calculate (256 * 1024 * 1024)).val = .ok (.ofSize (256 * 1024 * 1024)) ∧
      ¬ @ClusterOwnership ⟨id⟩ (256 * 1024 * 1024) (.ofSize (256 * 1024 * 1024)) "Ventoy" none := by
  have haccepted : (PartitionLayout.calculate (256 * 1024 * 1024)).val
      = .ok (.ofSize (256 * 1024 * 1024)) :=
    (PartitionLayout.calculate_eq_ok (by decide) _).mpr ⟨by decide, rfl⟩
  refine ⟨haccepted, fun h => ?_⟩
  have hfits := @ClusterOwnership.fits ⟨id⟩ (show "a" ≠ "b" by decide) _ _ (by decide) haccepted
    (by decide) _ _ h
  revert hfits
  decide

end StreamBox.Exfat
