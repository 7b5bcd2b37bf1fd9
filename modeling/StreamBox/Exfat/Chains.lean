import StreamBox.Exfat.Disk
import StreamBox.Lib.LinkedChain
import Mathlib.Data.List.Perm.Subperm

/-!
# Cluster chains and allocation

What reading, allocating, freeing and extending a chain do to the disk.

* **Reading** — a chain inside the heap is read back completely.
* **Allocating** — the first free clusters after the root directory are marked and
  linked; too few of them are an error that leaves the disk as it was.
* **Freeing** — the chain's marks and links are cleared.
-/

namespace StreamBox.Exfat

variable {g : VolumeParams} {d : Disk} {fs : ExfatFs}

/-- A chain of the volume: linked, inside the heap, and without repetition. -/
structure Disk.IsChain (g : VolumeParams) (d : Disk) (chain : List Nat) : Prop where
  linked : Linked d.fat isLink chain
  inHeap : ∀ c ∈ chain, g.InHeap c
  nodup : chain.Nodup

/-- A chain is no longer than the heap. -/
theorem Disk.IsChain.length_le {chain : List Nat} (h : d.IsChain g chain) :
    chain.length ≤ g.clusterCount := by
  have hsub : chain ⊆ List.range' 2 g.clusterCount := by
    intro c hc
    obtain ⟨hlo, hhi⟩ := h.inHeap c hc
    rw [List.mem_range'_1]
    omega
  have hle := (h.nodup.subperm hsub).length_le
  rwa [List.length_range'] at hle

theorem VolumeParams.InHeap.isLink {size c : Nat} (hvalid : g.Valid size) (hc : g.InHeap c) :
    isLink c = true := by
  have hcount := hvalid.countLt
  obtain ⟨hlo, hhi⟩ := hc
  simp only [Exfat.isLink, Bool.and_eq_true, decide_eq_true_eq]
  omega

/-! ## Reading a chain -/

/-- The walk collects the rest of the chain; the induction is on the clusters left. -/
theorem readClusterChainFrom_returns (h : Represents g d fs) (fuel : Nat) {c : Nat}
    {rest : List Nat} (acc : List Nat)
    (hlinked : Linked d.fat isLink (c :: rest)) (hheap : ∀ c' ∈ c :: rest, g.InHeap c')
    (hlen : acc.length + rest.length + 1 ≤ g.clusterCount)
    (hfuel : rest.length + 2 ≤ fuel) :
    Returns (readClusterChainFrom fuel acc c) fs fun chain fs' =>
      chain = acc ++ c :: rest ∧ Represents g d fs' := by
  induction rest generalizing c acc fuel fs with
  | nil =>
    obtain ⟨fuel, rfl⟩ : ∃ n, fuel = n + 2 := ⟨fuel - 2, by simp at hfuel; omega⟩
    have hc := hheap c List.mem_cons_self
    rw [readClusterChainFrom, if_pos (hc.isLink h.valid)]
    refine Returns.bind (readFatEntry_returns h hc.2) ?_
    rintro next fs' ⟨rfl, h'⟩
    have hshort : ¬ (acc ++ [c]).length > g.clusterCount := by
      simp only [List.length_append, List.length_singleton, List.length_nil] at hlen ⊢
      omega
    have hstop : isLink (d.fat c) = false := hlinked
    have hparams := h'.params
    refine Returns.of_eq (a := acc ++ [c]) (t := fs') ?_ ⟨rfl, h'⟩
    rw [run_get_bind, hparams, if_neg hshort, readClusterChainFrom, hstop, if_neg (by decide),
      run_pure]
  | cons c' rest ih =>
    obtain ⟨fuel, rfl⟩ : ∃ n, fuel = n + 1 := ⟨fuel - 1, by simp at hfuel; omega⟩
    have hc := hheap c List.mem_cons_self
    rw [readClusterChainFrom, if_pos (hc.isLink h.valid)]
    refine Returns.bind (readFatEntry_returns h hc.2) ?_
    rintro next fs' ⟨rfl, h'⟩
    have hshort : ¬ (acc ++ [c]).length > g.clusterCount := by
      simp only [List.length_append, List.length_cons, List.length_nil] at hlen ⊢
      omega
    have hnext : d.fat c = c' := hlinked.1
    obtain ⟨chain, fs'', hrun, heq, h''⟩ := ih h' fuel (acc ++ [c]) hlinked.2
      (fun x hx => hheap x (List.mem_cons_of_mem _ hx))
      (by simp only [List.length_append, List.length_cons, List.length_nil] at hlen ⊢; omega)
      (by simp only [List.length_cons] at hfuel; omega)
    have hparams := h'.params
    refine Returns.of_eq (a := chain) (t := fs'') ?_ ⟨?_, h''⟩
    · rw [run_get_bind, hparams, if_neg hshort, hnext, hrun]
    · rw [heq, List.append_assoc]
      rfl

/-- A chain of the volume is read back completely. -/
theorem readClusterChain_returns (h : Represents g d fs) {c : Nat} {rest : List Nat}
    (hchain : d.IsChain g (c :: rest)) :
    Returns (readClusterChain c) fs fun chain fs' =>
      chain = c :: rest ∧ Represents g d fs' := by
  have hlen := hchain.length_le
  have hparams := h.params
  simp only [List.length_cons] at hlen
  subst hparams
  obtain ⟨chain, fs', hrun, heq, h'⟩ := readClusterChainFrom_returns h (fs.clusterCount + 1)
    [] hchain.linked hchain.inHeap
    (by simp only [List.length_nil]; omega) (by omega)
  refine Returns.of_eq (a := chain) (t := fs') ?_ ⟨heq, h'⟩
  rw [readClusterChain, run_get_bind, hrun]

/-! ## Marks -/

/-- A cluster is marked in the allocation bitmap. -/
def Disk.allocated (d : Disk) (c : Nat) : Bool := isClusterAllocated (d.cluster 2) c

/-- Mark or unmark a list of clusters. -/
def markAll (bitmap : List UInt8) (clusters : List Nat) (allocated : Bool) : List UInt8 :=
  clusters.foldl (fun bitmap c => setClusterAllocated bitmap c allocated) bitmap

@[simp] theorem length_markAll (bitmap : List UInt8) (clusters : List Nat) (allocated : Bool) :
    (markAll bitmap clusters allocated).length = bitmap.length := by
  induction clusters generalizing bitmap with
  | nil => rfl
  | cons c rest ih =>
    rw [markAll, List.foldl_cons]
    exact (ih _).trans (Bitmap.length_assign ..)

/-- Clusters that are not in the list keep their mark. -/
theorem isClusterAllocated_markAll_of_notMem {bitmap : List UInt8} {clusters : List Nat}
    (allocated : Bool) {c : Nat} (hlo : 2 ≤ c) (hhi : c < 2 ^ 32)
    (hclusters : ∀ x ∈ clusters, 2 ≤ x ∧ x < 2 ^ 32) (hc : c ∉ clusters) :
    isClusterAllocated (markAll bitmap clusters allocated) c = isClusterAllocated bitmap c := by
  induction clusters generalizing bitmap with
  | nil => rfl
  | cons x rest ih =>
    obtain ⟨hx, hx'⟩ := hclusters x List.mem_cons_self
    have hne : wrappingSub32 x 2 ≠ wrappingSub32 c 2 := by
      have hcx : c ≠ x := fun h => hc (h ▸ List.mem_cons_self)
      rw [wrappingSub32_of_le hx' hx, wrappingSub32_of_le hhi hlo]
      omega
    rw [markAll, List.foldl_cons]
    refine (ih (fun y hy => hclusters y (List.mem_cons_of_mem _ hy))
      fun h => hc (List.mem_cons_of_mem _ h)).trans ?_
    exact Bitmap.test_assign_of_ne _ hne _

/-- Clusters of the list that have a bit get the mark. -/
theorem isClusterAllocated_markAll_of_mem {bitmap : List UInt8} {clusters : List Nat}
    (allocated : Bool) {c : Nat} (hclusters : ∀ x ∈ clusters, 2 ≤ x ∧ x < 2 ^ 32)
    (hbit : (c - 2) / 8 < bitmap.length) (hc : c ∈ clusters) :
    isClusterAllocated (markAll bitmap clusters allocated) c = allocated := by
  induction clusters generalizing bitmap with
  | nil => cases hc
  | cons x rest ih =>
    rw [markAll, List.foldl_cons]
    have hrest : ∀ y ∈ rest, 2 ≤ y ∧ y < 2 ^ 32 :=
      fun y hy => hclusters y (List.mem_cons_of_mem _ hy)
    have hbit' : (c - 2) / 8 < (setClusterAllocated bitmap x allocated).length := by
      rwa [setClusterAllocated, Bitmap.length_assign]
    by_cases hmem : c ∈ rest
    · exact ih hrest hbit' hmem
    · obtain ⟨hx, hx'⟩ := hclusters c hc
      have heq : x = c := ((List.mem_cons.mp hc).resolve_right hmem).symm
      subst heq
      refine (isClusterAllocated_markAll_of_notMem allocated hx hx' hrest hmem).trans ?_
      refine Bitmap.test_assign_self ?_ _
      rwa [wrappingSub32_of_le hx' hx]

/-! ## Allocating -/

/-- The unmarked clusters behind the root directory's first. -/
def Disk.freeClusters (g : VolumeParams) (d : Disk) : List Nat :=
  (List.range' (g.firstClusterOfRoot + 1) (g.clusterCount + 2 - (g.firstClusterOfRoot + 1))).filter
    fun c => !d.allocated c

/-- The scan takes the first `count` free clusters. -/
theorem collectFree_eq (bitmap : List UInt8) {count : Nat} (clusters : List Nat) {free : List Nat}
    (hfree : free.length < count) :
    collectFree bitmap count free clusters
      = free ++ (clusters.filter fun c => !isClusterAllocated bitmap c).take
          (count - free.length) := by
  induction clusters generalizing free with
  | nil => simp [collectFree]
  | cons c rest ih =>
    rw [collectFree]
    by_cases hc : isClusterAllocated bitmap c = true
    · rw [if_pos hc, ih hfree, List.filter_cons_of_neg (by simp [hc])]
    · have hstep : count - free.length = (count - (free ++ [c]).length) + 1 := by
        simp only [List.length_append, List.length_singleton]
        omega
      rw [if_neg hc, List.filter_cons_of_pos (by simp [hc]), hstep, List.take_succ_cons]
      by_cases hdone : (free ++ [c]).length ≥ count
      · rw [if_pos hdone, Nat.sub_eq_zero_of_le hdone, List.take_zero]
      · rw [if_neg hdone, ih (Nat.lt_of_not_le hdone), List.append_assoc]
        rfl

/-- What `find_free_clusters` answers, from the disk alone. -/
theorem findFreeClusters_eq (h : Represents g d fs) {count : Nat} (hcount : 0 < count) :
    (findFreeClusters count).run fs =
      if (d.freeClusters g).length < count then
        .error (.filesystemError
          s!"Not enough free space: need {count} clusters, found {(d.freeClusters g).length}")
          { fs with bitmapCache := some (d.cluster 2) }
      else .ok ((d.freeClusters g).take count) { fs with bitmapCache := some (d.cluster 2) } := by
  have hparams := h.params
  subst hparams
  have htop := h.valid.countLt
  have hroot := h.valid.rootHi
  have hstart : wrap32 (fs.firstClusterOfRoot + 1) = fs.firstClusterOfRoot + 1 :=
    wrap32_of_lt (by omega)
  have hend : wrap32 (fs.clusterCount + 2) = fs.clusterCount + 2 := wrap32_of_lt (by omega)
  have hscan : collectFree (d.cluster 2) count []
      (List.range' (fs.firstClusterOfRoot + 1)
        (fs.clusterCount + 2 - (fs.firstClusterOfRoot + 1)))
      = (d.freeClusters fs.toVolumeParams).take count := by
    rw [collectFree_eq _ _ (by simpa using hcount)]
    rfl
  simp only [findFreeClusters, bind_of_ok (readBitmap_eq h), run_get_bind, hstart, hend, hscan,
    List.length_take]
  by_cases hfew : (d.freeClusters fs.toVolumeParams).length < count
  · have hmin : min count (d.freeClusters fs.toVolumeParams).length
        = (d.freeClusters fs.toVolumeParams).length := by omega
    rw [if_pos hfew, if_pos (by omega), hmin, run_throw]
  · rw [if_neg hfew, if_neg (by omega), run_pure]

/-- Clusters that may be handed out. -/
structure Disk.Fresh (g : VolumeParams) (d : Disk) (chain : List Nat) : Prop where
  nodup : chain.Nodup
  behindRoot : ∀ c ∈ chain, g.firstClusterOfRoot < c
  inHeap : ∀ c ∈ chain, g.InHeap c
  unmarked : ∀ c ∈ chain, d.allocated c = false

/-- The free clusters the scan finds may be handed out. -/
theorem Disk.fresh_take {size : Nat} (hvalid : g.Valid size) (d : Disk) (count : Nat) :
    d.Fresh g ((d.freeClusters g).take count) := by
  have hroot := hvalid.rootLo
  have hmem : ∀ c ∈ (d.freeClusters g).take count,
      g.firstClusterOfRoot < c ∧ c < g.clusterCount + 2 ∧ d.allocated c = false := by
    intro c hc
    have hfree := List.mem_of_mem_take hc
    simp only [freeClusters, List.mem_filter, List.mem_range'_1, Bool.not_eq_true'] at hfree
    exact ⟨by omega, by omega, hfree.2⟩
  refine ⟨?_, fun c hc => (hmem c hc).1, fun c hc => ?_, fun c hc => (hmem c hc).2.2⟩
  · exact (List.nodup_range' ..).sublist ((List.take_sublist _ _).trans List.filter_sublist)
  · obtain ⟨hlo, hhi, -⟩ := hmem c hc
    exact ⟨by omega, hhi⟩

/-- The disk after allocating a chain: its clusters marked and linked. -/
def Disk.alloc (d : Disk) (chain : List Nat) : Disk where
  fat := linkAll fatEntryEndOfChain chain d.fat
  cluster := Function.update d.cluster 2 (markAll (d.cluster 2) chain true)

/-- Writing the links of a chain links it. -/
theorem writeFatChain_returns (h : Represents g d fs) {chain : List Nat}
    (hheap : ∀ c ∈ chain, g.InHeap c) :
    Returns (writeFatChain chain) fs fun _ fs' =>
      Represents g { d with fat := linkAll fatEntryEndOfChain chain d.fat } fs' := by
  induction chain generalizing d fs with
  | nil => exact Returns.pure h
  | cons c rest ih =>
    have hc := hheap c List.mem_cons_self
    cases rest with
    | nil => exact writeFatEntry_returns h hc.2 _ (by decide)
    | cons c' rest =>
      have hc' := (hheap c' (List.mem_cons_of_mem _ List.mem_cons_self)).2
      have hcount := h.valid.countLt
      refine Returns.bind (writeFatEntry_returns h hc.2 c' (by omega)) ?_
      intro _ fs' h'
      exact ih h' fun x hx => hheap x (List.mem_cons_of_mem _ hx)

/-- With enough free clusters, the first ones are allocated as a chain. -/
theorem allocateClusters_returns (h : Represents g d fs) {count : Nat} (hcount : 0 < count)
    (henough : count ≤ (d.freeClusters g).length) :
    Returns (allocateClusters count) fs fun first fs' =>
      first = ((d.freeClusters g).take count).getD 0 0 ∧
        Represents g (d.alloc ((d.freeClusters g).take count)) fs' := by
  have hfind := findFreeClusters_eq h hcount
  rw [if_neg (Nat.not_lt.mpr henough)] at hfind
  have hfresh := Disk.fresh_take h.valid d count
  obtain ⟨_, fs₂, hrun₂, h₂⟩ := updateBitmap_returns h.cache_bitmap
    (f := fun bitmap => markAll bitmap ((d.freeClusters g).take count) true)
    (fun _ => length_markAll _ _ _)
  obtain ⟨_, fs₃, hrun₃, h₃⟩ := writeFatChain_returns h₂ hfresh.inHeap
  obtain ⟨_, fs', hmodify, hflush⟩ := bind_eq_ok.mp hrun₂
  refine Returns.of_eq (t := fs₃) ?_ ⟨rfl, h₃⟩
  simp only [markAll] at hmodify
  rw [allocateClusters, if_neg (Nat.pos_iff_ne_zero.mp hcount), bind_of_ok hfind,
    bind_of_ok hmodify, bind_of_ok hflush, bind_of_ok hrun₃, run_pure]

/-- Without enough free clusters nothing is allocated. -/
theorem allocateClusters_error (h : Represents g d fs) {count : Nat}
    (hfew : count = 0 ∨ (d.freeClusters g).length < count) :
    ∃ e fs', (allocateClusters count).run fs = .error e fs' ∧ Represents g d fs' := by
  by_cases hzero : count = 0
  · refine ⟨.filesystemError "Cannot allocate 0 clusters", fs, ?_, h⟩
    rw [allocateClusters, if_pos hzero, run_throw]
  · have hfind := findFreeClusters_eq h (Nat.pos_of_ne_zero hzero)
    rw [if_pos (hfew.resolve_left hzero)] at hfind
    rw [allocateClusters, if_neg hzero]
    exact ⟨_, _, bind_of_error hfind, h.cache_bitmap⟩

/-- A successful allocation hands out a fresh chain. -/
theorem allocateClusters_ensures (h : Represents g d fs) (count : Nat) :
    Ensures (allocateClusters count) fs fun first fs' =>
      ∃ rest, (first :: rest).length = count ∧ d.Fresh g (first :: rest) ∧
        Represents g (d.alloc (first :: rest)) fs' := by
  by_cases hfew : count = 0 ∨ (d.freeClusters g).length < count
  · obtain ⟨e, fs', hrun, -⟩ := allocateClusters_error h hfew
    intro first fs'' hrun'
    rw [hrun] at hrun'
    cases hrun'
  · have hcount : 0 < count := by omega
    have henough : count ≤ (d.freeClusters g).length := by omega
    refine (allocateClusters_returns h hcount henough).ensures.mono ?_
    rintro first fs' ⟨rfl, h'⟩
    have hfresh := Disk.fresh_take h.valid d count
    have hlen : ((d.freeClusters g).take count).length = count := by
      rw [List.length_take]
      omega
    generalize (d.freeClusters g).take count = chain at *
    cases chain with
    | nil => simp only [List.length_nil] at hlen; omega
    | cons c rest => exact ⟨rest, hlen, hfresh, h'⟩

/-! ## Freeing -/

/-- Clear the FAT entries of a list of clusters. -/
def Disk.eraseLinks : Disk → List Nat → Disk
  | d, [] => d
  | d, c :: rest => (d.setFat c fatEntryFree).eraseLinks rest

theorem Disk.cluster_eraseLinks (d : Disk) (chain : List Nat) :
    (d.eraseLinks chain).cluster = d.cluster := by
  induction chain generalizing d with
  | nil => rfl
  | cons c rest ih => exact (ih _).trans (Disk.cluster_setFat d c _)

theorem Disk.fat_eraseLinks_of_notMem (d : Disk) {chain : List Nat} {c : Nat} (hc : c ∉ chain) :
    (d.eraseLinks chain).fat c = d.fat c := by
  induction chain generalizing d with
  | nil => rfl
  | cons x rest ih =>
    have hne : c ≠ x := fun h => hc (h ▸ List.mem_cons_self)
    have hrest : c ∉ rest := fun h => hc (List.mem_cons_of_mem _ h)
    exact (ih _ hrest).trans (Disk.fat_setFat_of_ne _ _ hne)

/-- The disk after freeing a chain: its clusters unmarked and unlinked. -/
def Disk.release (d : Disk) (chain : List Nat) : Disk :=
  (d.setCluster 2 (markAll (d.cluster 2) chain false)).eraseLinks chain

/-- Freeing a chain clears its marks and links. -/
theorem freeClusterChain_returns (h : Represents g d fs) {c : Nat} {rest : List Nat}
    (hchain : d.IsChain g (c :: rest)) :
    Returns (freeClusterChain c) fs fun _ fs' => Represents g (d.release (c :: rest)) fs' := by
  refine Returns.bind (readClusterChain_returns h hchain) ?_
  rintro chain fs₁ ⟨rfl, h₁⟩
  obtain ⟨_, fs₂, hrun₂, h₂⟩ := updateBitmap_returns h₁
    (f := fun bitmap => markAll bitmap (c :: rest) false) (fun _ => length_markAll _ _ _)
  obtain ⟨_, fs', hmodify, hflush⟩ := bind_eq_ok.mp hrun₂
  -- the links are cleared one by one, towards the released disk
  have hloop := Returns.forM (f := fun c => writeFatEntry c fatEntryFree)
    (fun chain s => (∀ c ∈ chain, g.InHeap c) ∧
      ∃ d', Represents g d' s ∧ d'.eraseLinks chain = d.release (c :: rest)) (by
      rintro c l s ⟨hheap, d', hd', herase⟩
      refine (writeFatEntry_returns hd' (hheap c List.mem_cons_self).2 _ (by decide)).mono ?_
      intro _ s' hs'
      exact ⟨fun x hx => hheap x (List.mem_cons_of_mem _ hx), _, hs', herase⟩)
    (c :: rest) fs₂ ⟨hchain.inHeap, _, h₂, rfl⟩
  obtain ⟨_, fs₃, hrun₃, -, d', h₃, rfl⟩ := hloop
  refine Returns.of_eq (a := ()) (t := fs₃) ?_ h₃
  simp only [markAll] at hmodify
  rw [bind_of_ok hmodify, bind_of_ok hflush]
  exact hrun₃

/-! ## Extending -/

/-- The disk after extending the chain that ends in `last` by `new`, a zeroed cluster. -/
def Disk.extend (g : VolumeParams) (d : Disk) (last new : Nat) : Disk :=
  ((d.alloc [new]).setFat last new).setCluster new (List.replicate g.clusterSize 0)

/-- A successful extension appends a fresh zeroed cluster to the chain. -/
theorem extendClusterChain_ensures (h : Represents g d fs) {c : Nat} {rest : List Nat}
    (hchain : d.IsChain g (c :: rest)) :
    Ensures (extendClusterChain c) fs fun new fs' =>
      d.Fresh g [new] ∧
        Represents g (d.extend g ((c :: rest).getLast (List.cons_ne_nil _ _)) new) fs' := by
  refine Ensures.bind (readClusterChain_returns h hchain).ensures ?_
  rintro chain fs₁ ⟨rfl, h₁⟩
  have hlast : (c :: rest).getLast? = some ((c :: rest).getLast (List.cons_ne_nil _ _)) :=
    List.getLast?_eq_some_getLast _
  generalize hlastEq : (c :: rest).getLast (List.cons_ne_nil _ _) = last at *
  have hlastHeap : g.InHeap last := hchain.inHeap last (hlastEq ▸ List.getLast_mem _)
  simp only [hlast]
  refine Ensures.bind (allocateClusters_ensures h₁ 1) ?_
  rintro new fs₂ ⟨rest', hlen, hfresh, h₂⟩
  have hnil : rest' = [] := List.eq_nil_of_length_eq_zero (by simpa using hlen)
  subst hnil
  have hnew := hfresh.inHeap new List.mem_cons_self
  have hroot := hfresh.behindRoot new List.mem_cons_self
  have htop := h.valid.countLt
  have hlo := h.valid.rootLo
  refine Ensures.bind (writeFatEntry_returns h₂ hlastHeap.2
    new (by have := hnew.2; omega)).ensures ?_
  intro _ fs₃ h₃
  have hparams := h₃.params
  intro a fs' hrun
  rw [run_get_bind, hparams] at hrun
  have hlen' : (List.replicate g.clusterSize (0 : UInt8)).length = g.clusterSize :=
    List.length_replicate
  obtain ⟨_, fs₄, hwrite, h₄⟩ := writeCluster_returns h₃ hnew (by omega) (Nat.le_of_eq hlen')
  rw [bind_of_ok hwrite, run_pure] at hrun
  cases hrun
  rw [VolumeParams.pad_of_full hlen'] at h₄
  exact ⟨hfresh, h₄⟩

end StreamBox.Exfat
