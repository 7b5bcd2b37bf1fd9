import StreamBox.Exfat.Reading
import StreamBox.Exfat.RootRuns

/-!
# Reading a chain of an arbitrary FAT

The FAT may hold anything: an entry may lead back into its chain, to a reserved value
or beyond the heap.

* **Readings** — the FAT entries a walk reads, each with the state it is read in, and
  the arithmetic of one reading.
* **Walks** — a walk follows the links while they stay in the heap; where it leaves the
  heap it ends, or one more reading decides.
* **Sound walks** — `walkSound_iff`: every reading is exact and the answer is free of
  duplicates and inside the heap, exactly when no link followed leads beyond the first
  cluster number behind the heap.
-/

namespace StreamBox.Exfat

/-! ## Readings -/

/-- A lookup computes the end of its segment without overflow and finds its entry inside it. -/
def FatCache.LooksUp (cache : FatCache) (c : Nat) : Prop :=
  (cache.entries ≠ [] → cache.startCluster + cache.entries.length < 2 ^ 32) ∧
    (cache.contains c = true → c - cache.startCluster < cache.entries.length)

/-- The arithmetic of `read_fat_entry`: on a miss the length of the segment to load does
not underflow. -/
structure ExactReading (fs : ExfatFs) (c : Nat) : Prop where
  lookup : fs.fatCache.LooksUp c
  load : fs.fatCache.get c = none →
    (Checked.sub 32 (wrap32 (fs.clusterCount + 2)) c).lossless = true
  again : ∀ fs', fs.fatCache.get c = none → (loadFatSegment c).run fs = .ok () fs' →
    fs'.fatCache.LooksUp c

/-- The FAT entries the walk of `read_cluster_chain` reads. -/
def readings : Nat → Nat → ExfatFs → List (ExfatFs × Nat)
  | 0, _, _ => []
  | fuel + 1, current, fs =>
    if isLink current then
      (fs, current) ::
        match (readFatEntry current).run fs with
        | .ok next fs' => readings fuel next fs'
        | .error _ _ => []
    else []

/-- What `read_cluster_chain` does on a sound walk. -/
structure WalkSound (fs : ExfatFs) (c : Nat) : Prop where
  /-- More steps than `cluster_count + 1` would change nothing. -/
  terminates : ∀ extra, (readClusterChainFrom (fs.clusterCount + 1 + extra) [] c).run fs =
    (readClusterChain c).run fs
  exact : ∀ r ∈ readings (fs.clusterCount + 1) c fs, ExactReading r.1 r.2
  answer : Ensures (readClusterChain c) fs fun chain _ =>
    chain.Nodup ∧ ∀ u ∈ chain, fs.InHeap u

/-- Following the FAT from `c` through the heap arrives at `v`. -/
def Disk.Reaches (g : VolumeParams) (d : Disk) (c v : Nat) : Prop :=
  ∃ l, Leads d.fat c l v ∧ ∀ u ∈ l, g.InHeap u

/-! ## Termination -/

theorem readFatEntry_count (c : Nat) :
    Keeps (fun fs : ExfatFs => fs.clusterCount) (readFatEntry c) :=
  (readFatEntry_reads c).keeps fun _ _ => rfl

/-- The limit on the chain's length ends the walk before its steps are used up. -/
theorem readClusterChainFrom_extra (extra : Nat) {fuel : Nat} (fs : ExfatFs) {acc : List Nat}
    (c : Nat) (hfuel : acc.length + (fuel + 1) = fs.clusterCount + 1) :
    (readClusterChainFrom (fuel + 1 + extra) acc c).run fs =
      (readClusterChainFrom (fuel + 1) acc c).run fs := by
  induction fuel generalizing fs acc c with
  | zero =>
    rw [Nat.add_right_comm, readClusterChainFrom, readClusterChainFrom]
    split
    · cases hread : (readFatEntry c).run fs with
      | error e fs' => rw [bind_of_error hread, bind_of_error hread]
      | ok next fs' =>
        have hcount := (readFatEntry_count c).ok fs next fs' hread
        have hlong : (acc ++ [c]).length > fs'.clusterCount := by
          simp only [List.length_append, List.length_singleton]
          omega
        simp only [bind_of_ok hread, run_get_bind, if_pos hlong]
    · rfl
  | succ fuel ih =>
    rw [Nat.add_right_comm, readClusterChainFrom, readClusterChainFrom]
    split
    · cases hread : (readFatEntry c).run fs with
      | error e fs' => rw [bind_of_error hread, bind_of_error hread]
      | ok next fs' =>
        have hcount := (readFatEntry_count c).ok fs next fs' hread
        simp only [bind_of_ok hread, run_get_bind]
        split
        · rfl
        · exact ih fs' next (by simp only [List.length_append, List.length_singleton]; omega)
    · rfl

/-- The walk ends, whatever the FAT holds. -/
theorem readClusterChain_terminates (fs : ExfatFs) (c extra : Nat) :
    (readClusterChainFrom (fs.clusterCount + 1 + extra) [] c).run fs =
      (readClusterChain c).run fs := by
  rw [readClusterChain, run_get_bind]
  exact readClusterChainFrom_extra extra fs c (Nat.zero_add _)

/-! ## One reading -/

section

variable {g : VolumeParams} {d : Disk} {fs : ExfatFs}

theorem Represents.looksUp (h : Represents g d fs) (c : Nat) : fs.fatCache.LooksUp c := by
  have hcount := h.valid.countLt
  rcases h.cacheEnd with hnil | hend
  · exact ⟨fun hne => absurd hnil hne, fun hin => by simp [FatCache.contains, hnil] at hin⟩
  · refine ⟨fun _ => by omega, fun hin => ?_⟩
    have := (FatCache.contains_iff _ (g.clusterCount + 2) (by omega) hend).mp hin
    omega

/-- On a miss the length of the segment underflows exactly behind the first cluster number
that is not in the heap. -/
theorem Represents.load_exact_iff (h : Represents g d fs) (c : Nat) :
    (Checked.sub 32 (wrap32 (fs.clusterCount + 2)) c).lossless = true ↔
      c ≤ g.clusterCount + 2 := by
  have hparams := h.params
  subst hparams
  have hcount := h.valid.countLt
  rw [wrap32_of_lt (by omega), Checked.lossless_sub, decide_eq_true_eq]

theorem Represents.exactReading (h : Represents g d fs) {c : Nat} (hc : c < g.clusterCount + 2) :
    ExactReading fs c := by
  refine ⟨h.looksUp c, fun _ => (h.load_exact_iff c).mpr (Nat.le_of_lt hc), fun fs' _ hrun => ?_⟩
  rw [loadFatSegment_eq h hc] at hrun
  cases hrun
  exact (h.cache_segment hc).looksUp c

/-- The segment of the first cluster number behind the heap is empty. -/
theorem Represents.load_top (h : Represents g d fs) :
    (loadFatSegment (g.clusterCount + 2)).run fs = .ok () fs := by
  have hparams := h.params
  subst hparams
  have hcount := h.valid.countLt
  have hmax : wrap32 (fs.clusterCount + 2) = fs.clusterCount + 2 := wrap32_of_lt (by omega)
  have hnone : wrappingSub32 (fs.clusterCount + 2) (fs.clusterCount + 2) = 0 := by
    rw [wrappingSub32_of_le (by omega) (Nat.le_refl _), Nat.sub_self]
  simp only [loadFatSegment, run_get_bind, hmax, hnone, Nat.min_zero, if_true, run_pure]

theorem Represents.exactReading_top (h : Represents g d fs) :
    ExactReading fs (g.clusterCount + 2) := by
  refine ⟨h.looksUp _, fun _ => (h.load_exact_iff _).mpr (Nat.le_refl _), fun fs' _ hrun => ?_⟩
  rw [h.load_top] at hrun
  cases hrun
  exact h.looksUp _

/-- Reading the FAT right behind the heap is an error. -/
theorem Represents.readFatEntry_top (h : Represents g d fs) :
    ∃ e, (readFatEntry (g.clusterCount + 2)).run fs = .error e fs := by
  have hnone := FatCache.get_beyond h.cacheEnd (Nat.le_refl (g.clusterCount + 2))
  refine ⟨.filesystemError s!"Failed to cache FAT entry for cluster {g.clusterCount + 2}", ?_⟩
  simp only [readFatEntry, run_get_bind, hnone, bind_of_ok h.load_top, run_throw]

/-! ## Walks -/

/-- A walk follows a path through the heap; every reading on the way is exact. -/
theorem walk_along (h : Represents g d fs) {l : List Nat} {c v : Nat} (hlv : Leads d.fat c l v)
    (hheap : ∀ u ∈ l, g.InHeap u) (acc : List Nat) (fuel : Nat)
    (hlen : acc.length + l.length ≤ g.clusterCount) :
    ∃ fs' visited, Represents g d fs' ∧
      (readClusterChainFrom (l.length + fuel) acc c).run fs =
        (readClusterChainFrom fuel (acc ++ l) v).run fs' ∧
      readings (l.length + fuel) c fs = visited ++ readings fuel v fs' ∧
      ∀ r ∈ visited, ExactReading r.1 r.2 := by
  induction l generalizing fs c acc with
  | nil =>
    obtain rfl : c = v := hlv
    exact ⟨fs, [], h, by simp, by simp, by simp⟩
  | cons x l ih =>
    obtain ⟨rfl, hrest⟩ := hlv
    have hc := hheap c List.mem_cons_self
    have hlink := hc.isLink h.valid
    simp only [List.length_cons] at hlen
    obtain ⟨_, fs₁, hread, rfl, h₁⟩ := readFatEntry_returns h hc.2
    obtain ⟨fs', visited, h', hwalk, hreadings, hexact⟩ := ih h₁ hrest
      (fun u hu => hheap u (List.mem_cons_of_mem _ hu)) (acc ++ [c])
      (by simp only [List.length_append, List.length_singleton]; omega)
    have hshort : ¬ (acc ++ [c]).length > fs₁.clusterCount := by
      rw [h₁.params.symm] at hlen
      simp only [List.length_append, List.length_singleton]
      omega
    refine ⟨fs', (fs, c) :: visited, h', ?_, ?_, ?_⟩
    · rw [List.length_cons, Nat.add_right_comm, readClusterChainFrom, if_pos hlink]
      simp only [bind_of_ok hread, run_get_bind, if_neg hshort]
      rw [hwalk, List.append_assoc]
      rfl
    · rw [List.length_cons, Nat.add_right_comm, readings, if_pos hlink, hread]
      exact congrArg ((fs, c) :: ·) hreadings
    · intro r hr
      rcases List.mem_cons.mp hr with rfl | hr
      · exact h.exactReading hc.2
      · exact hexact r hr

/-- A path through the heap to a cluster number outside is no longer than the heap. -/
theorem length_path_le {l : List Nat} {c v : Nat} (hlv : Leads d.fat c l v)
    (hheap : ∀ u ∈ l, g.InHeap u) (hv : ¬ g.InHeap v) : l.length ≤ g.clusterCount := by
  have hsub : l ⊆ List.range' 2 g.clusterCount := by
    intro u hu
    obtain ⟨hlo, hhi⟩ := hheap u hu
    rw [List.mem_range'_1]
    omega
  have hle := ((hlv.nodup hheap hv).subperm hsub).length_le
  rwa [List.length_range'] at hle

/-- A walk that leaves the heap at an end mark or right behind the heap is sound. -/
theorem walkSound_of_path (h : Represents g d fs) {l : List Nat} {c v : Nat}
    (hlv : Leads d.fat c l v) (hheap : ∀ u ∈ l, g.InHeap u) (hv : ¬ g.InHeap v)
    (hend : isLink v = true → v ≤ g.clusterCount + 2) : WalkSound fs c := by
  obtain rfl := h.params
  have hlen := length_path_le hlv hheap hv
  obtain ⟨k, hk⟩ : ∃ k, fs.clusterCount + 1 = l.length + (k + 1) :=
    ⟨fs.clusterCount - l.length, by omega⟩
  obtain ⟨fs', visited, h', hwalk, hreadings, hexact⟩ :=
    walk_along h hlv hheap [] (k + 1) (by simpa using hlen)
  have hrun : (readClusterChain c).run fs = (readClusterChainFrom (k + 1) l v).run fs' := by
    rw [readClusterChain, run_get_bind, hk, hwalk, List.nil_append]
  cases hlink : isLink v with
  | false =>
    rw [readClusterChainFrom, if_neg (by simp [hlink]), run_pure] at hrun
    refine ⟨readClusterChain_terminates fs c, ?_, fun chain t hchain => ?_⟩
    · rw [hk, hreadings, readings, if_neg (by simp [hlink]), List.append_nil]
      exact hexact
    · rw [hrun] at hchain
      cases hchain
      exact ⟨hlv.nodup hheap hv, hheap⟩
  | true =>
    obtain rfl : v = fs.clusterCount + 2 := by
      have hle := hend hlink
      simp only [isLink, Bool.and_eq_true, decide_eq_true_eq] at hlink
      unfold VolumeParams.InHeap at hv
      omega
    obtain ⟨e, hread⟩ := h'.readFatEntry_top
    refine ⟨readClusterChain_terminates fs c, ?_, fun chain t hchain => ?_⟩
    · rw [hk, hreadings, readings, if_pos hlink, hread]
      intro r hr
      rcases List.mem_append.mp hr with hr | hr
      · exact hexact r hr
      · exact List.mem_singleton.mp hr ▸ h'.exactReading_top
    · rw [hrun, readClusterChainFrom, if_pos hlink, bind_of_error hread] at hchain
      cases hchain

/-- A walk that stays in the heap runs in a cycle, which the limit on its length turns into
an error. -/
theorem walkSound_of_cycle (h : Represents g d fs) {c : Nat}
    (hin : ∀ l v, Leads d.fat c l v → (∀ u ∈ l, g.InHeap u) → g.InHeap v) : WalkSound fs c := by
  obtain rfl := h.params
  obtain ⟨l, v, hlv, hheap, hlen⟩ := Leads.exists_length hin fs.clusterCount
  have hv := hin l v hlv hheap
  have hlink := hv.isLink h.valid
  obtain ⟨fs', visited, h', hwalk, hreadings, hexact⟩ :=
    walk_along h hlv hheap [] 1 (by simp [hlen])
  obtain ⟨_, fs'', hread, -, h''⟩ := readFatEntry_returns h' hv.2
  rw [hlen] at hwalk hreadings
  have hlong : (l ++ [v]).length > fs''.clusterCount := by
    have hcount : fs''.clusterCount = fs.clusterCount :=
      congrArg VolumeParams.clusterCount h''.params
    simp only [List.length_append, List.length_singleton]
    omega
  refine ⟨readClusterChain_terminates fs c, ?_, fun chain t hchain => ?_⟩
  · rw [hreadings, readings, if_pos hlink, hread]
    intro r hr
    rcases List.mem_append.mp hr with hr | hr
    · exact hexact r hr
    · exact List.mem_singleton.mp hr ▸ h'.exactReading hv.2
  · rw [readClusterChain, run_get_bind, hwalk, List.nil_append, readClusterChainFrom,
      if_pos hlink] at hchain
    simp only [bind_of_ok hread, run_get_bind, if_pos hlong, run_throw] at hchain
    cases hchain

/-- A link that leads further beyond the heap is followed, and the length of the segment
to load underflows. -/
theorem not_walkSound_of_beyond (h : Represents g d fs) {c v : Nat} (hreach : d.Reaches g c v)
    (hlink : isLink v = true) (hv : g.clusterCount + 2 < v) : ¬ WalkSound fs c := by
  obtain rfl := h.params
  obtain ⟨l, hlv, hheap⟩ := hreach
  have hout : ¬ fs.InHeap v := fun hin => by
    have := hin.2
    omega
  have hlen := length_path_le hlv hheap hout
  obtain ⟨k, hk⟩ : ∃ k, fs.clusterCount + 1 = l.length + (k + 1) :=
    ⟨fs.clusterCount - l.length, by omega⟩
  obtain ⟨fs', visited, h', -, hreadings, -⟩ :=
    walk_along h hlv hheap [] (k + 1) (by simpa using hlen)
  intro hsound
  have hread : (fs', v) ∈ readings (fs.clusterCount + 1) c fs := by
    rw [hk, hreadings, readings, if_pos hlink]
    exact List.mem_append_right _ List.mem_cons_self
  have hexact := (hsound.exact _ hread).load (FatCache.get_beyond h'.cacheEnd (Nat.le_of_lt hv))
  have := (h'.load_exact_iff v).mp hexact
  omega

/-- **The chain walk.** For every FAT and every starting cluster: the walk ends, all its
readings are exact, and it answers with an error or with clusters of the heap, none
twice, exactly when following the FAT through the heap arrives at no link beyond the
first cluster number behind it. -/
theorem walkSound_iff (h : Represents g d fs) (c : Nat) :
    WalkSound fs c ↔ ∀ v, d.Reaches g c v → isLink v = true → v ≤ g.clusterCount + 2 := by
  constructor
  · intro hsound v hreach hlink
    by_contra hv
    exact not_walkSound_of_beyond h hreach hlink (Nat.lt_of_not_le hv) hsound
  · intro hbound
    by_cases hin : ∀ l v, Leads d.fat c l v → (∀ u ∈ l, g.InHeap u) → g.InHeap v
    · exact walkSound_of_cycle h hin
    · simp only [not_forall] at hin
      obtain ⟨l, v, hlv, hheap, hv⟩ := hin
      exact walkSound_of_path h hlv hheap hv (hbound v ⟨l, hlv, hheap⟩)

end

/-! ## A root directory with another link -/

/-- The parameters of the small volume. -/
def params64MB : VolumeParams :=
  Volume.params (PartitionLayout.ofSize (64 * 1024 * 1024)).dataOffset
    (PartitionLayout.ofSize (64 * 1024 * 1024)).dataSizeSectors

/-- The small volume with the FAT entry of its root directory changed. -/
theorem volume64MB_relinked (link : Nat) (hlink : link < 2 ^ 32) : ∃ fs d,
    Represents params64MB d fs ∧ d.fat params64MB.firstClusterOfRoot = link := by
  have h : Represents params64MB volume64MB.disk volume64MB :=
    formatted_represents _ _ ⟨by decide, by decide⟩ (by decide) []
  obtain ⟨_, fs, -, h'⟩ := writeFatEntry_returns h h.valid.rootHi link hlink
  exact ⟨fs, _, h', Disk.fat_setFat_self _ _ _⟩

/-- A root directory linked to itself. -/
theorem walkSound_self_link : ∃ fs d, Represents params64MB d fs ∧
    d.fat params64MB.firstClusterOfRoot = params64MB.firstClusterOfRoot ∧
      WalkSound fs params64MB.firstClusterOfRoot := by
  obtain ⟨fs, d, h, hself⟩ :=
    volume64MB_relinked params64MB.firstClusterOfRoot (by decide)
  refine ⟨fs, d, h, hself, (walkSound_iff h _).mpr ?_⟩
  rintro v ⟨l, hlv, -⟩ -
  have hroot : params64MB.firstClusterOfRoot = v := by
    induction l with
    | nil => exact hlv
    | cons x l ih =>
      obtain ⟨rfl, hrest⟩ := hlv
      exact ih (hself ▸ hrest)
  exact hroot ▸ Nat.le_of_lt h.valid.rootHi

/-- **The bad-cluster mark.** A root directory linked to it has the walk go on there. -/
theorem not_walkSound_bad_cluster :
    ¬ ∀ (g : VolumeParams) (d : Disk) (fs : ExfatFs) (c : Nat), Represents g d fs →
      WalkSound fs c := by
  intro halways
  obtain ⟨fs, d, h, hbad⟩ := volume64MB_relinked 0xFFFFFFF7 (by decide)
  have hreach : d.Reaches params64MB params64MB.firstClusterOfRoot 0xFFFFFFF7 := by
    have hroot : params64MB.InHeap params64MB.firstClusterOfRoot := ⟨by decide, by decide⟩
    exact ⟨[params64MB.firstClusterOfRoot], ⟨rfl, hbad⟩,
      fun u hu => List.mem_singleton.mp hu ▸ hroot⟩
  exact not_walkSound_of_beyond h hreach (by decide) (by decide) (halways _ _ _ _ h)

end StreamBox.Exfat
