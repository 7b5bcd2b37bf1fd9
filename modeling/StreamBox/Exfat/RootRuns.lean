import StreamBox.Exfat.Formatted

/-!
# Operations in a root directory of one cluster

Runs that succeed: in a root directory that is one cluster with free slots behind its
items, and on a volume with enough free clusters.

* **Lookup** — a name that no item answers to is not found, the first item that does is.
* **Entries** — a new entry set stands in the first free slots.
* **Files** — a new file has its clusters and its entry; nothing is asked of the bitmap's
  size, so this covers volumes whose bitmap is too small.
-/

namespace StreamBox.Exfat

/-- The root directory is one cluster with these items. -/
structure RootIs (g : VolumeParams) (d : Disk) (items : List Item) : Prop where
  ok : ∀ item ∈ items, item.Ok
  data : d.cluster g.firstClusterOfRoot = render items
  single : isLink (d.fat g.firstClusterOfRoot) = false

/-- This many blank slots. -/
def blanks (n : Nat) : List Item := List.replicate n (.slot (List.replicate 32 0))

theorem blankSlots_eq (clusterSize : Nat) : blankSlots clusterSize = blanks (clusterSize / 32) := rfl

@[simp] theorem sets_blanks (n : Nat) : sets (blanks n) = [] := by
  induction n with
  | zero => rfl
  | succ n ih => exact ih

theorem blanks_ok (n : Nat) : ∀ item ∈ blanks n, item.Ok := by
  intro item hitem
  rw [List.eq_of_mem_replicate hitem]
  exact ⟨List.length_replicate, by decide⟩

theorem blanks_split {n k : Nat} (h : k ≤ n) : blanks n = blanks k ++ blanks (n - k) := by
  rw [blanks, blanks, blanks, List.replicate_append_replicate]
  congr 1
  omega

/-! ## Free slots -/

/-- Items that are not free are passed over. -/
theorem freeSlotItems_passed (needed i start : Nat) {before : List Item}
    (hbefore : ∀ item ∈ before, item.Ok ∧ item.isFree = false) (items : List Item) :
    freeSlotItems needed i 0 start (before ++ items)
      = freeSlotItems needed (i + (render before).length) 0 start items := by
  induction before generalizing i with
  | nil => rfl
  | cons item rest ih =>
    obtain ⟨hok, hfree⟩ := hbefore item List.mem_cons_self
    have hrest := ih (i + item.bytes.length) fun x hx => hbefore x (List.mem_cons_of_mem _ hx)
    rw [render_cons, List.length_append, ← Nat.add_assoc, ← hrest, List.cons_append]
    cases item with
    | set e => rfl
    | slot raw =>
      have hraw : (Item.slot raw).bytes.length = 32 := hok.1
      have htype : ¬ isFreeType (byteAt raw 0) = true := by
        rw [show isFreeType (byteAt raw 0) = false from hfree]
        decide
      rw [freeSlotItems, if_neg htype, hraw]

/-- Enough blank slots are a run of free ones. -/
theorem freeSlotItems_blanks {needed i k start n : Nat} (hk : k < needed) (hn : needed ≤ k + n) :
    freeSlotItems needed i k start (blanks n) = some (if k = 0 then i else start) := by
  induction n generalizing i k start with
  | zero => omega
  | succ n ih =>
    have hblank : isFreeType (byteAt (List.replicate 32 0) 0) = true := by decide
    show freeSlotItems needed i k start (.slot (List.replicate 32 0) :: blanks n) = _
    rw [freeSlotItems, if_pos hblank]
    by_cases hdone : k + 1 ≥ needed
    · rw [if_pos hdone]
    · rw [if_neg hdone, ih (by omega) (by omega), if_neg (Nat.succ_ne_zero k)]

section

variable {g : VolumeParams} {d : Disk} {fs : ExfatFs} {items before : List Item} {n : Nat}

theorem VolumeParams.Valid.root_inHeap {size : Nat} (h : g.Valid size) :
    g.InHeap g.firstClusterOfRoot :=
  ⟨Nat.le_of_lt (Nat.lt_trans (by decide) h.rootLo), h.rootHi⟩

/-- The root directory's chain is its one cluster. -/
theorem RootIs.isChain (hroot : RootIs g d items) (h : Represents g d fs) :
    d.IsChain g [g.firstClusterOfRoot] := by
  refine ⟨hroot.single, fun c hc => ?_, List.pairwise_singleton ..⟩
  rw [List.mem_singleton.mp hc]
  exact h.valid.root_inHeap

/-- The items fill the cluster. -/
theorem RootIs.length_render (hroot : RootIs g d items) (h : Represents g d fs) :
    (render items).length = g.clusterSize := by
  rw [← hroot.data]
  exact h.length_cluster h.valid.root_inHeap

/-- Scans of the cluster have fuel for every item. -/
theorem RootIs.length_lt (hroot : RootIs g d items) (h : Represents g d fs) :
    items.length < (render items).length := by
  have hlen := (Exfat.length_render hroot.ok).1
  have hfull := hroot.length_render h
  have hsize := h.valid.sizeLo
  omega

/-! ## Lookup -/

/-- Looking up a name scans the items. -/
theorem RootIs.findEntry_returns [Lowercase] (hroot : RootIs g d items) (h : Represents g d fs)
    (name : String) :
    Returns (findEntryInDirectory g.firstClusterOfRoot name) fs fun found fs' =>
      Represents g d fs' ∧
        found = match findItems (toLowercase name) g.firstClusterOfRoot 0 items with
          | .found location => some location
          | _ => none := by
  refine Returns.bind (readClusterChain_returns h (hroot.isChain h)) ?_
  rintro chain fs₁ ⟨rfl, h₁⟩
  have hread := readCluster_eq h₁ h₁.valid.root_inHeap
  rw [hroot.data] at hread
  have hscan : findInCluster (toLowercase name) g.firstClusterOfRoot (render items)
      (render items).length 0 = findItems (toLowercase name) g.firstClusterOfRoot 0 items :=
    findInCluster_eq _ _ hroot.ok List.drop_zero (Nat.le_of_lt (hroot.length_lt h))
  refine Returns.of_eq (t := fs₁) ?_ ⟨h₁, rfl⟩
  rw [findInClusters, bind_of_ok hread, hscan]
  cases findItems (toLowercase name) g.firstClusterOfRoot 0 items <;> rfl

/-- A name that no item answers to is not found. -/
theorem RootIs.findEntry_absent [Lowercase] (hroot : RootIs g d items) (h : Represents g d fs)
    {name : String} (habsent : ∀ e ∈ sets items, ¬ e.Named (toLowercase name)) :
    Returns (findEntryInDirectory g.firstClusterOfRoot name) fs fun found fs' =>
      found = none ∧ Represents g d fs' := by
  refine (hroot.findEntry_returns h name).mono ?_
  rintro found fs' ⟨h', rfl⟩
  refine ⟨?_, h'⟩
  rcases findItems_cases (toLowercase name) g.firstClusterOfRoot 0 hroot.ok with
    ⟨pre, e, post, rfl, hnamed, -, -⟩ | ⟨-, -, -, -, -, -, hend⟩ | ⟨-, hend⟩
  · exact absurd hnamed (habsent e (by simp [sets]))
  · rw [hend]
  · rw [hend]

/-- Items before the end mark that do not have the name are passed over. -/
theorem findItems_passed [Lowercase] {targetLower : String} (cluster i : Nat) {before : List Item}
    (hbefore : ∀ item ∈ before, item.Ok ∧ item.isFree = false)
    (hnone : ∀ e ∈ sets before, ¬ e.Named targetLower) (items : List Item) :
    findItems targetLower cluster i (before ++ items)
      = findItems targetLower cluster (i + (render before).length) items := by
  induction before generalizing i with
  | nil => rfl
  | cons item rest ih =>
    obtain ⟨hok, hfree⟩ := hbefore item List.mem_cons_self
    have hrest := ih (i + item.bytes.length) (fun x hx => hbefore x (List.mem_cons_of_mem _ hx))
      (fun e he => hnone e (by cases item <;> simp_all [sets]))
    rw [render_cons, List.length_append, ← Nat.add_assoc, ← hrest, List.cons_append]
    cases item with
    | set e =>
      rw [findItems, if_neg (hnone e (by simp [sets]))]
      rfl
    | slot raw =>
      have hraw : (Item.slot raw).bytes.length = 32 := hok.1
      have htype : byteAt raw 0 ≠ entryTypeEnd := by
        intro hend
        rw [Item.isFree, hend] at hfree
        exact absurd hfree (by decide)
      rw [findItems, if_neg htype, hraw]

/-- The first set of a name, behind items that are not free, is found. -/
theorem RootIs.findEntry_present [Lowercase] {after : List Item} {e : EntrySet}
    (hroot : RootIs g d (before ++ .set e :: after)) (h : Represents g d fs)
    (hbefore : ∀ item ∈ before, item.isFree = false) {name : String}
    (hnone : ∀ e' ∈ sets before, ¬ e'.Named (toLowercase name)) (hnamed : e.Named (toLowercase name)) :
    Returns (findEntryInDirectory g.firstClusterOfRoot name) fs fun found fs' =>
      found = some (e.locate g.firstClusterOfRoot (render before).length) ∧ Represents g d fs' := by
  refine (hroot.findEntry_returns h name).mono ?_
  rintro found fs' ⟨h', rfl⟩
  have hok : ∀ item ∈ before, item.Ok ∧ item.isFree = false := fun item hitem =>
    ⟨hroot.ok item (List.mem_append_left _ hitem), hbefore item hitem⟩
  refine ⟨?_, h'⟩
  rw [findItems_passed _ _ hok hnone, findItems, if_pos hnamed, Nat.zero_add]

/-- Listing the directory gives the records of its named sets. -/
theorem RootIs.list_returns (hroot : RootIs g d items) (h : Represents g d fs)
    (hordered : items.Pairwise fun a b => a.isEnd = true → b.isEnd = true) (currentPath : String) :
    Returns (listFilesInDirectory g.firstClusterOfRoot currentPath) fs fun files _ =>
      files = infos currentPath (sets items) := by
  refine Returns.bind (readClusterChain_returns h (hroot.isChain h)) ?_
  rintro chain fs₁ ⟨rfl, h₁⟩
  have hread := readCluster_eq h₁ h₁.valid.root_inHeap
  rw [hroot.data] at hread
  obtain ⟨ended, hitems, -⟩ := listItems_eq true currentPath hordered []
  have hscan : listInCluster true currentPath (render items) (render items).length 0 []
      = (infos currentPath (sets items), ended) := by
    rw [listInCluster_eq true currentPath hroot.ok List.drop_zero (Nat.le_of_lt (hroot.length_lt h)),
      hitems, List.nil_append]
  refine Returns.of_eq (t := fs₁) ?_ rfl
  rw [listInClusters, bind_of_ok hread, hscan]
  cases ended <;> rfl

/-- Items that are not free, with blank slots behind them. -/
theorem blanks_ordered {before : List Item} (hbefore : ∀ item ∈ before, item.isFree = false)
    (n : Nat) :
    (before ++ blanks n).Pairwise fun a b => a.isEnd = true → b.isEnd = true := by
  have hopened : ∀ item ∈ before, item.isEnd = false := fun item hitem => by
    by_contra hend
    have hfree := Item.isFree_of_isEnd (Bool.of_not_eq_false hend)
    rw [hbefore item hitem] at hfree
    cases hfree
  refine List.pairwise_append.mpr ⟨?_, ?_, fun a ha _ _ hend => ?_⟩
  · refine List.pairwise_of_forall_mem_list fun a ha _ _ hend => ?_
    rw [hopened a ha] at hend
    cases hend
  · exact List.pairwise_replicate.mpr (Or.inr fun hend => hend)
  · rw [hopened a ha] at hend
    cases hend

/-! ## Entries -/

/-- A new entry set stands in the first free slots of the root directory. -/
theorem RootIs.createEntry_returns (hroot : RootIs g d (before ++ blanks n))
    (h : Represents g d fs) (hbefore : ∀ item ∈ before, item.isFree = false) (name : String)
    (firstCluster size : Nat) (isDir : Bool)
    (hok : ∀ now, (EntrySet.mk name firstCluster size isDir now).Ok)
    (hroom : 2 + (nameChunks (encodeUtf16 name)).length ≤ n) :
    Returns (createEntryInDirectory g.firstClusterOfRoot name firstCluster size isDir) fs
      fun _ fs' => ∃ now d', Represents g d' fs' ∧
        RootIs g d' (before ++ [.set ⟨name, firstCluster, size, isDir, now⟩] ++
          blanks (n - (2 + (nameChunks (encodeUtf16 name)).length))) ∧
        d'.fat = d.fat ∧ ∀ c, c ≠ g.firstClusterOfRoot → d'.cluster c = d.cluster c := by
  generalize hnow : wrap32 (fs.clock.headD 0) = now
  have hclock : readClock.run fs = .ok now { fs with clock := fs.clock.tail } := by
    rw [readClock, run_get_bind, run_modify_bind, run_pure, hnow]
  generalize he : EntrySet.mk name firstCluster size isDir now = e
  have hentries : createFileEntries name firstCluster size isDir now = e.entries := by
    rw [← he]
    rfl
  have hchunks : (nameChunks (encodeUtf16 name)).length = e.chunks.length := by
    rw [← he]
    rfl
  have hcount : e.entries.length = 2 + e.chunks.length := e.length_entries
  rw [hchunks] at hroom ⊢
  obtain ⟨chain, fs₁, hreadChain, rfl, h₁⟩ :=
    readClusterChain_returns (h.of_clock fs.clock.tail) (hroot.isChain h)
  have hread := readCluster_eq h₁ h₁.valid.root_inHeap
  rw [hroot.data] at hread
  have hslot : freeSlotInCluster (render (before ++ blanks n)) e.entries.length
      (render (before ++ blanks n)).length 0 0 0 = some (render before).length := by
    rw [freeSlotInCluster_eq _ hroot.ok List.drop_zero (hroot.length_lt h),
      freeSlotItems_passed _ _ _ (fun item hitem =>
        ⟨hroot.ok item (List.mem_append_left _ hitem), hbefore item hitem⟩),
      freeSlotItems_blanks (by omega) (by omega), if_pos rfl, Nat.zero_add]
  have hfind : (findFreeSlotInDirectory g.firstClusterOfRoot e.entries.length).run
      { fs with clock := fs.clock.tail } = .ok (g.firstClusterOfRoot, (render before).length) fs₁ := by
    have hscan : (freeSlotInClusters e.entries.length [g.firstClusterOfRoot]).run fs₁
        = .ok (some (g.firstClusterOfRoot, (render before).length)) fs₁ := by
      simp only [freeSlotInClusters, bind_of_ok hread, hslot]
      rfl
    rw [findFreeSlotInDirectory, bind_of_ok hreadChain, bind_of_ok hscan]
    rfl
  -- the set is written over as many blank slots
  have hslots : ∀ item ∈ blanks (2 + e.chunks.length), item.Ok ∧ item.isFree = true :=
    fun item hitem => ⟨blanks_ok _ item hitem, by rw [List.eq_of_mem_replicate hitem]; rfl⟩
  have hlen := (length_render_free hslots).1
  rw [blanks, List.length_replicate] at hlen
  have hset : render [.set e] = e.entries.flatten := List.append_nil _
  have hsplit : before ++ blanks n
      = before ++ blanks (2 + e.chunks.length) ++ blanks (n - (2 + e.chunks.length)) := by
    rw [List.append_assoc, ← blanks_split hroom]
  have hcopy : copyEntries (render (before ++ blanks n)) (render before).length e.entries
      = render (before ++ [.set e] ++ blanks (n - (2 + e.chunks.length))) := by
    rw [hsplit, render_append, render_append, render_append, render_append, List.append_assoc,
      List.append_assoc, hset]
    exact copyEntries_eq (fun _ => EntrySet.length_of_mem_entries) _ _ (by rw [hcount]; exact hlen)
  have hbytes : (render (before ++ [.set e] ++ blanks (n - (2 + e.chunks.length)))).length
      = g.clusterSize := by
    have hfull := hroot.length_render h
    rw [hsplit] at hfull
    have hsetLen : (render [.set e]).length = 32 * (2 + e.chunks.length) := by
      rw [hset, length_flatten_of_entries (fun _ => EntrySet.length_of_mem_entries), hcount]
    simp only [render_append, List.length_append, hsetLen] at hfull ⊢
    rw [blanks, hlen] at hfull
    exact hfull
  have htwo : g.firstClusterOfRoot ≠ 2 := by
    have := h₁.valid.rootLo
    omega
  obtain ⟨_, fs₂, hwrite, h₂⟩ := writeCluster_returns h₁ h₁.valid.root_inHeap htwo
    (Nat.le_of_eq hbytes)
  rw [VolumeParams.pad_of_full hbytes] at h₂
  refine Returns.of_eq (a := ()) (t := fs₂) ?_ ⟨now, _, h₂, ⟨?_, ?_, hroot.single⟩, rfl, ?_⟩
  · simp only [createEntryInDirectory, bind_of_ok hclock, hentries, bind_of_ok hfind,
      bind_of_ok hread, hcopy, hwrite]
  · rw [he]
    intro item hitem
    rcases List.mem_append.mp hitem with hitem | hitem
    · rcases List.mem_append.mp hitem with hitem | hitem
      · exact hroot.ok item (List.mem_append_left _ hitem)
      · rw [List.mem_singleton.mp hitem, ← he]
        exact hok now
    · exact blanks_ok _ item hitem
  · rw [he, Disk.cluster_setCluster_self]
  · exact fun c hc => Disk.cluster_setCluster_of_ne _ _ hc

/-! ## Files -/

/-- Writing data over a chain changes its clusters only. -/
theorem Represents.writeChunks_returns (h : Represents g d fs) {chain : List Nat}
    (hchain : ∀ c ∈ chain, g.InHeap c ∧ c ≠ 2) (data : List UInt8) :
    Returns (writeChunks g.clusterSize chain data) fs fun _ fs' => ∃ d', Represents g d' fs' ∧
      d'.fat = d.fat ∧ ∀ c, c ∉ chain → d'.cluster c = d.cluster c := by
  induction chain generalizing d fs data with
  | nil => exact Returns.pure ⟨d, h, rfl, fun _ _ => rfl⟩
  | cons c rest ih =>
    obtain ⟨hheap, htwo⟩ := hchain c List.mem_cons_self
    have hlen : (data.take g.clusterSize).length ≤ g.clusterSize := List.length_take_le ..
    refine Returns.bind (writeCluster_returns h hheap htwo hlen) ?_
    intro _ fs₁ h₁
    refine (ih h₁ (fun x hx => hchain x (List.mem_cons_of_mem _ hx)) _).mono ?_
    rintro _ fs' ⟨d', h', hfat, hcluster⟩
    refine ⟨d', h', hfat, fun x hx => ?_⟩
    have hne : x ≠ c := fun heq => hx (heq ▸ List.mem_cons_self)
    have hrest : x ∉ rest := fun hmem => hx (List.mem_cons_of_mem _ hmem)
    rw [hcluster x hrest, Disk.cluster_setCluster_of_ne _ _ hne]

/-- What a new chain changes: its links, its marks and its own clusters. -/
structure Takes (d : Disk) (chain : List Nat) (d' : Disk) : Prop where
  fat : d'.fat = linkAll fatEntryEndOfChain chain d.fat
  bitmap : d'.cluster 2 = markAll (d.cluster 2) chain true

/-- Fresh clusters are linked as a chain of the volume. -/
theorem Disk.Fresh.isChain {chain : List Nat} (hfresh : d.Fresh g chain) :
    (d.alloc chain).IsChain g chain :=
  ⟨linked_linkAll rfl hfresh.nodup _, hfresh.inHeap, hfresh.nodup⟩

/-- Allocating leaves the root directory as it is. -/
theorem RootIs.alloc (hroot : RootIs g d items) (h : Represents g d fs) {chain : List Nat}
    (hfresh : d.Fresh g chain) : RootIs g (d.alloc chain) items := by
  have hlo := h.valid.rootLo
  have hnot : g.firstClusterOfRoot ∉ chain := fun hmem =>
    Nat.lt_irrefl _ (hfresh.behindRoot _ hmem)
  refine ⟨hroot.ok, ?_, ?_⟩
  · rw [Disk.cluster_alloc_of_ne _ _ (by omega), hroot.data]
  · show isLink (linkAll fatEntryEndOfChain chain d.fat g.firstClusterOfRoot) = false
    rw [linkAll_of_notMem _ hnot, hroot.single]

/-- Storing a new file: its clusters are taken, and its entry stands in the root directory. -/
theorem RootIs.writeFileData_returns (hroot : RootIs g d (before ++ blanks n))
    (h : Represents g d fs) (hbefore : ∀ item ∈ before, item.isFree = false) {name : String}
    (hname : NameFits name) (hroom : 2 + (nameChunks (encodeUtf16 name)).length ≤ n)
    {data : List UInt8} (hbytes : data.length < 2 ^ 64) {first : Nat} {rest : List Nat}
    (hneeded : 0 < clustersNeeded data.length g.clusterSize)
    (hlen : (first :: rest).length = clustersNeeded data.length g.clusterSize)
    (hchain : (d.freeClusters g).take (clustersNeeded data.length g.clusterSize) = first :: rest) :
    Returns (writeFileDataAndEntry g.firstClusterOfRoot name data) fs fun _ fs' =>
      ∃ now d', Represents g d' fs' ∧
        RootIs g d' (before ++ [.set ⟨name, first, data.length, false, now⟩] ++
          blanks (n - (2 + (nameChunks (encodeUtf16 name)).length))) ∧
        Takes d (first :: rest) d' := by
  have hfresh := Disk.fresh_take h.valid d (clustersNeeded data.length g.clusterSize)
  rw [hchain] at hfresh
  have hrootLo := h.valid.rootLo
  have hcountLt := h.valid.countLt
  have hfirst := hfresh.inHeap first List.mem_cons_self
  have henough : clustersNeeded data.length g.clusterSize ≤ (d.freeClusters g).length := by
    have htake := congrArg List.length hchain
    rw [List.length_take, hlen] at htake
    omega
  have hparams := h.params
  obtain ⟨_, fs₁, halloc, rfl, h₁⟩ := allocateClusters_returns h hneeded henough
  rw [hchain] at h₁ halloc
  obtain ⟨chain, fs₂, hread, rfl, h₂⟩ := readClusterChain_returns h₁ hfresh.isChain
  have hheap : ∀ c ∈ first :: rest, g.InHeap c ∧ c ≠ 2 := fun c hc => ⟨hfresh.inHeap c hc, by
    have := hfresh.behindRoot c hc
    omega⟩
  obtain ⟨_, fs₃, hwrite, d₃, h₃, hfat₃, hcluster₃⟩ := h₂.writeChunks_returns hheap data
  have hnot : g.firstClusterOfRoot ∉ first :: rest := fun hmem =>
    Nat.lt_irrefl _ (hfresh.behindRoot _ hmem)
  have htwo : 2 ∉ first :: rest := fun hmem => by
    have := hfresh.behindRoot 2 hmem
    omega
  have hroot₁ := hroot.alloc h hfresh
  have hroot₃ : RootIs g d₃ (before ++ blanks n) := by
    refine ⟨hroot.ok, ?_, ?_⟩
    · rw [hcluster₃ _ hnot, hroot₁.data]
    · rw [hfat₃, hroot₁.single]
  obtain ⟨_, fs', hentry, now, d', h', hroot', hfat', hcluster'⟩ := hroot₃.createEntry_returns h₃
    hbefore name first data.length false (fun _ => hname.ok (by have := hfirst.2; omega) hbytes) hroom
  refine Returns.of_eq (a := ()) (t := fs') ?_ ⟨now, d', h', hroot', ?_, ?_⟩
  · have hget : ∀ (f : ExfatFs → ExfatM Unit), (get >>= f).run fs = (f fs).run fs :=
      fun f => run_get_bind f fs
    rw [writeFileDataAndEntry, hget, hparams, if_pos hneeded, bind_of_ok halloc]
    exact (bind_of_ok hread).trans ((bind_of_ok hwrite).trans hentry)
  · rw [hfat', hfat₃]
    rfl
  · rw [hcluster' 2 (by omega), hcluster₃ 2 htwo]
    simp only [Disk.alloc, Function.update_self]

/-! ## Paths of one component -/

instance (name : String) : Decidable (NameFits name) := inferInstanceAs (Decidable (¬ _))

/-- Resolving a path of one component that is not there. -/
theorem RootIs.resolvePath_absent [Lowercase] (hroot : RootIs g d items) (h : Represents g d fs)
    {path name : String} (hparse : parsePath path = [name])
    (habsent : ∀ e ∈ sets items, ¬ e.Named (toLowercase name)) (createParents : Bool) :
    Returns (resolvePath path createParents) fs fun resolved fs' =>
      resolved = ⟨g.firstClusterOfRoot, name, none⟩ ∧ Represents g d fs' := by
  have hparams := h.params
  obtain ⟨_, fs₁, hfind, rfl, h₁⟩ := hroot.findEntry_absent h habsent
  refine Returns.of_eq (t := fs₁) ?_ ⟨rfl, h₁⟩
  rw [resolvePath, run_get_bind, hparse, hparams]
  exact bind_of_ok hfind

/-- Writing a new file at a path of one component. -/
theorem RootIs.writeFilePath_returns [Lowercase] (hroot : RootIs g d (before ++ blanks n))
    (h : Represents g d fs) (hbefore : ∀ item ∈ before, item.isFree = false) {path name : String}
    (hparse : parsePath path = [name]) (hname : NameFits name)
    (habsent : ∀ e ∈ sets before, ¬ e.Named (toLowercase name))
    (hroom : 2 + (nameChunks (encodeUtf16 name)).length ≤ n) {data : List UInt8}
    (hbytes : data.length < 2 ^ 64) {first : Nat} {rest : List Nat}
    (hneeded : 0 < clustersNeeded data.length g.clusterSize)
    (hlen : (first :: rest).length = clustersNeeded data.length g.clusterSize)
    (hchain : (d.freeClusters g).take (clustersNeeded data.length g.clusterSize) = first :: rest)
    (createParents overwrite : Bool) :
    Returns (writeFilePath path data createParents overwrite) fs fun _ fs' =>
      ∃ now d', Represents g d' fs' ∧
        RootIs g d' (before ++ [.set ⟨name, first, data.length, false, now⟩] ++
          blanks (n - (2 + (nameChunks (encodeUtf16 name)).length))) ∧
        Takes d (first :: rest) d' := by
  obtain ⟨resolved, fs₁, hresolve, rfl, h₁⟩ := hroot.resolvePath_absent h hparse (by
    rwa [sets_append, sets_blanks, List.append_nil]) createParents
  obtain ⟨_, fs₂, hwrite, h₂⟩ := hroot.writeFileData_returns h₁ hbefore hname hroom hbytes hneeded
    hlen hchain
  refine Returns.of_eq (a := ()) (t := fs₂) ?_ h₂
  rw [writeFilePath, bind_of_ok hresolve, if_neg hname]
  exact hwrite

/-- Writing an empty file at a path of one component asks for no clusters. -/
theorem RootIs.writeEmpty_returns [Lowercase] (hroot : RootIs g d (before ++ blanks n))
    (h : Represents g d fs) (hbefore : ∀ item ∈ before, item.isFree = false) {path name : String}
    (hparse : parsePath path = [name]) (hname : NameFits name)
    (habsent : ∀ e ∈ sets before, ¬ e.Named (toLowercase name))
    (hroom : 2 + (nameChunks (encodeUtf16 name)).length ≤ n) (createParents overwrite : Bool) :
    Returns (writeFilePath path [] createParents overwrite) fs fun _ fs' =>
      ∃ now d', Represents g d' fs' ∧
        RootIs g d' (before ++ [.set ⟨name, 0, 0, false, now⟩] ++
          blanks (n - (2 + (nameChunks (encodeUtf16 name)).length))) := by
  obtain ⟨resolved, fs₁, hresolve, rfl, h₁⟩ := hroot.resolvePath_absent h hparse (by
    rwa [sets_append, sets_blanks, List.append_nil]) createParents
  obtain ⟨_, fs', hentry, now, d', h', hroot', -⟩ := hroot.createEntry_returns h₁ hbefore name 0 0
    false (fun _ => hname.ok (by decide) (by decide)) hroom
  refine Returns.of_eq (a := ()) (t := fs') ?_ ⟨now, d', h', hroot'⟩
  rw [writeFilePath, bind_of_ok hresolve, if_neg hname]
  exact hentry

/-- Creating a directory at a path of one component, on a volume with a free cluster. -/
theorem RootIs.createDirectory_returns [Lowercase] (hroot : RootIs g d (before ++ blanks n))
    (h : Represents g d fs) (hbefore : ∀ item ∈ before, item.isFree = false) {path name : String}
    (hparse : parsePath path = [name]) (hname : NameFits name)
    (habsent : ∀ e ∈ sets before, ¬ e.Named (toLowercase name))
    (hroom : 2 + (nameChunks (encodeUtf16 name)).length ≤ n) {first : Nat}
    (hfree : (d.freeClusters g).take 1 = [first]) (createParents : Bool) :
    Returns (createDirectory path createParents) fs fun _ fs' => ∃ now d', Represents g d' fs' ∧
      RootIs g d' (before ++ [.set ⟨name, first, 0, true, now⟩] ++
        blanks (n - (2 + (nameChunks (encodeUtf16 name)).length))) := by
  have habsent' : ∀ e ∈ sets (before ++ blanks n), ¬ e.Named (toLowercase name) := by
    rwa [sets_append, sets_blanks, List.append_nil]
  obtain ⟨resolved, fs₁, hresolve, rfl, h₁⟩ := hroot.resolvePath_absent h hparse habsent'
    createParents
  obtain ⟨found, fs₂, hfind, rfl, h₂⟩ := hroot.findEntry_absent h₁ habsent'
  have hfresh := Disk.fresh_take h.valid d 1
  rw [hfree] at hfresh
  have hfirst := hfresh.inHeap first List.mem_cons_self
  have hbehind := hfresh.behindRoot first List.mem_cons_self
  have hrootLo := h.valid.rootLo
  have hcountLt := h.valid.countLt
  have henough : 1 ≤ (d.freeClusters g).length := by
    have htake := congrArg List.length hfree
    rw [List.length_take, List.length_singleton] at htake
    omega
  obtain ⟨_, fs₃, halloc, rfl, h₃⟩ := allocateClusters_returns h₂ (by decide) henough
  rw [hfree] at h₃ halloc
  have hzeros : (List.replicate g.clusterSize (0 : UInt8)).length ≤ g.clusterSize :=
    Nat.le_of_eq List.length_replicate
  obtain ⟨_, fs₄, hwrite, h₄⟩ := writeCluster_returns h₃ hfirst (by omega) hzeros
  have hroot₁ := hroot.alloc h hfresh
  have hroot₄ : RootIs g ((d.alloc [first]).setCluster first
      (g.pad (List.replicate g.clusterSize 0))) (before ++ blanks n) :=
    ⟨hroot.ok, by rw [Disk.cluster_setCluster_of_ne _ _ (by omega), hroot₁.data], hroot₁.single⟩
  obtain ⟨_, fs', hentry, now, d', h', hroot', -⟩ := hroot₄.createEntry_returns h₄ hbefore name
    first 0 true (fun _ => hname.ok (by have := hfirst.2; omega) (by decide)) hroom
  refine Returns.of_eq (a := ()) (t := fs') ?_ ⟨now, d', h', hroot'⟩
  have hin : (createDirectoryIn g.firstClusterOfRoot name).run fs₁ = .ok first fs' := by
    rw [createDirectoryIn, if_neg hname, bind_of_ok hfind]
    refine (bind_of_ok halloc).trans ((run_get_bind _ _).trans ?_)
    rw [h₃.params]
    exact (bind_of_ok hwrite).trans (bind_of_ok hentry)
  rw [createDirectory, bind_of_ok hresolve]
  exact bind_of_ok hin

end

/-! ## The formatted root directory -/

/-- What is left of a row of numbers whose first ones fail a test. -/
theorem filter_range' {p : Nat → Bool} {start n m : Nat} (hm : start ≤ m)
    (hlow : ∀ c, start ≤ c → c < m → p c = false)
    (hhigh : ∀ c, m ≤ c → c < start + n → p c = true) :
    (List.range' start n).filter p = List.range' m (start + n - m) := by
  induction n generalizing start with
  | zero => rw [Nat.sub_eq_zero_of_le (by omega)]; rfl
  | succ n ih =>
    rw [List.range'_succ]
    rcases Nat.eq_or_lt_of_le hm with rfl | hlt
    · rw [List.filter_cons_of_pos (hhigh start (Nat.le_refl _) (by omega)), List.filter_eq_self.mpr,
        show start + (n + 1) - start = n + 1 by omega, List.range'_succ]
      intro c hc
      rw [List.mem_range'_1] at hc
      exact hhigh c (by omega) (by omega)
    · have hfail := hlow start (Nat.le_refl _) hlt
      rw [List.filter_cons_of_neg (by rw [hfail]; decide),
        ih (by omega) (fun c hc => hlow c (by omega)) (fun c hc hc' => hhigh c hc (by omega)),
        show start + 1 + n - m = start + (n + 1) - m by omega]

/-- The formatter's own entries of the root directory. -/
def Volume.formatItems (sectors : Nat) (label : String) : List Item :=
  [.slot (createVolumeLabelEntry label),
    .slot (createBitmapEntry 2 (bitmapSize (clusterCount sectors))),
    .slot (createUpcaseEntry 3 generateUpcaseTable.length
      (calculateUpcaseChecksum generateUpcaseTable))]

theorem Volume.rootItems_eq (sectors : Nat) (label : String) :
    rootItems sectors label
      = formatItems sectors label ++ blanks ((getClusterSize sectors - 96) / 32) := rfl

/-- The formatter's entries are no free slots. -/
theorem Volume.formatItems_taken (sectors : Nat) (label : String) :
    ∀ item ∈ formatItems sectors label, item.isFree = false := by
  intro item hitem
  simp only [formatItems, List.mem_cons, List.not_mem_nil, or_false] at hitem
  rcases hitem with rfl | rfl | rfl
  · show isFreeType 0x83 = false
    rfl
  · show isFreeType 0x81 = false
    rfl
  · show isFreeType 0x82 = false
    rfl

/-- There is room for more than a hundred entries behind them. -/
theorem Volume.blanks_room (sectors : Nat) : 100 ≤ (getClusterSize sectors - 96) / 32 := by
  have hsize := (sectorsPerCluster_mul sectors).2.1
  omega

section

variable {file : Image} {base sectors : Nat} (serial : Nat) (label : String)

/-- The root directory of a new volume. -/
theorem formatted_rootIs (h : Volume.Sized sectors) (hroom : base + sectors * 512 ≤ file.size)
    (clock : List Nat) :
    RootIs (Volume.params base sectors) (formattedFs file base sectors serial label clock).disk
      (Volume.formatItems sectors label ++ blanks ((getClusterSize sectors - 96) / 32)) := by
  have hup := (Volume.upcaseClusters_mul sectors).2
  refine ⟨?_, ?_, ?_⟩
  · rw [← Volume.rootItems_eq]
    exact (Volume.shaped_root sectors label).ok _ List.mem_cons_self
  · rw [← Volume.rootItems_eq, Volume.render_rootItems]
    exact formatted_root_cluster serial label h hroom clock
  · show isLink ((formattedFs file base sectors serial label clock).disk.fat
      (3 + Volume.upcaseClusters sectors)) = false
    rw [formatted_fat serial label h clock (by omega), formatFat_root]
    rfl

/-- The bitmap's cluster of a new volume. -/
theorem formatted_bitmap_cluster (h : Volume.Sized sectors)
    (hroom : base + sectors * 512 ≤ file.size) (clock : List Nat) :
    (formattedFs file base sectors serial label clock).disk.cluster 2
      = Volume.bitmapData sectors := by
  have hrep := formatted_represents serial label h hroom clock
  have hvalid := hrep.valid
  have hin := hrep.bitmap_inHeap
  have hoffset : (Volume.params base sectors).clusterToOffset 2
      = base + Volume.heapOffset sectors * 512 := by
    rw [VolumeParams.clusterToOffset_eq hvalid hin, Nat.sub_self, Nat.zero_mul]
    rfl
  have hsegment := slice_writeSegments file (Volume.segments_disjoint h base serial label)
    (s := ⟨.bitmap, base + Volume.heapOffset sectors * 512, Volume.bitmapData sectors⟩)
    (by simp [Volume.segments])
  rw [Volume.length_bitmapData] at hsegment
  rw [← hrep.cluster_eq hin, hoffset]
  exact hsegment

/-- The first two clusters behind the root directory are marked already, and no later one. -/
theorem formatted_freeClusters (h : Volume.Sized sectors)
    (hroom : base + sectors * 512 ≤ file.size) (clock : List Nat) :
    (formattedFs file base sectors serial label clock).disk.freeClusters
        (Volume.params base sectors)
      = List.range' (Volume.rootCluster sectors + 3)
          (Volume.clusterCount sectors + 2 - (Volume.rootCluster sectors + 3)) := by
  have hcount := (Volume.params_valid h hroom).countLt
  have hcount : Volume.clusterCount sectors + 2 < 0xFFFFFFF8 := hcount
  have hheap := (Volume.fat_bounds h).2.2.2
  have hup := (Volume.upcaseClusters_mul sectors).2
  generalize hd : (formattedFs file base sectors serial label clock).disk = d
  have hcluster : d.cluster 2 = Volume.bitmapData sectors := by
    rw [← hd]
    exact formatted_bitmap_cluster serial label h hroom clock
  have hmark : ∀ c, 2 ≤ c → c < 2 ^ 32 →
      (d.allocated c = true ↔ 4 ≤ c ∧ c ≤ Volume.rootCluster sectors + 2) := by
    intro c hlo hhi
    rw [Disk.allocated, hcluster]
    exact formatted_marks sectors hlo hhi
  show (List.range' (Volume.rootCluster sectors + 1) _).filter (fun c => !d.allocated c) = _
  have hroot : Volume.rootCluster sectors = 3 + Volume.upcaseClusters sectors := rfl
  rw [filter_range' (m := Volume.rootCluster sectors + 3) (by omega)]
  · congr 1
    show Volume.rootCluster sectors + 1 + (Volume.clusterCount sectors + 2 -
      (Volume.rootCluster sectors + 1)) - (Volume.rootCluster sectors + 3) = _
    omega
  · intro c hlo hhi
    have hmarked := (hmark c (by omega) (by omega)).mpr ⟨by omega, by omega⟩
    rw [hmarked]
    rfl
  · intro c hlo hhi
    have hin : c < Volume.rootCluster sectors + 1 + (Volume.clusterCount sectors + 2 -
      (Volume.rootCluster sectors + 1)) := hhi
    have hfree : ¬ d.allocated c = true := by
      rw [hmark c (by omega) (by omega)]
      omega
    rw [Bool.eq_false_of_not_eq_true hfree]
    rfl

end

/-! ## A small volume -/

/-- A new volume in an image of 64MB. -/
def volume64MB : ExfatFs :=
  formattedFs ⟨64 * 1024 * 1024, fun _ => 0⟩ (PartitionLayout.ofSize (64 * 1024 * 1024)).dataOffset
    (PartitionLayout.ofSize (64 * 1024 * 1024)).dataSizeSectors (volumeSerial none).val "Ventoy" []

/-- Its root directory has room behind the formatter's entries, which are no files, and its
free clusters are a row. -/
theorem volume64MB_root : ∃ g d before n first m, Represents g d volume64MB ∧
    RootIs g d (before ++ blanks n) ∧ 100 ≤ n ∧ (∀ item ∈ before, item.isFree = false) ∧
    sets before = [] ∧ d.freeClusters g = List.range' first (m + 1) := by
  have h : Volume.Sized (PartitionLayout.ofSize (64 * 1024 * 1024)).dataSizeSectors :=
    ⟨by decide, by decide⟩
  have hroom : (PartitionLayout.ofSize (64 * 1024 * 1024)).dataOffset +
      (PartitionLayout.ofSize (64 * 1024 * 1024)).dataSizeSectors * 512
        ≤ (⟨64 * 1024 * 1024, fun _ => 0⟩ : Image).size := by
    decide
  have hfree := formatted_freeClusters (volumeSerial none).val "Ventoy" h hroom []
  have hlen : Volume.clusterCount (PartitionLayout.ofSize (64 * 1024 * 1024)).dataSizeSectors + 2 -
      (Volume.rootCluster (PartitionLayout.ofSize (64 * 1024 * 1024)).dataSizeSectors + 3)
        = 7888 + 1 := by
    decide
  rw [hlen] at hfree
  exact ⟨_, _, _, _, _, _, formatted_represents _ _ h hroom [], formatted_rootIs _ _ h hroom [],
    Volume.blanks_room _, Volume.formatItems_taken _ _, rfl, hfree⟩

/-- A small file can be written to it under any name. -/
theorem volume64MB_written [Lowercase] {name : String} (hparse : parsePath name = [name])
    (hname : NameFits name) (hroom : 2 + (nameChunks (encodeUtf16 name)).length ≤ 100)
    {data : List UInt8} (hsome : 0 < data.length) (hsmall : data.length ≤ 4096) :
    ∃ fs g d before after first now, (writeFilePath name data false false).run volume64MB = .ok () fs ∧
      Represents g d fs ∧
      RootIs g d (before ++ .set ⟨name, first, data.length, false, now⟩ :: after) ∧
      (∀ item ∈ before, item.isFree = false) ∧ sets before = [] := by
  obtain ⟨g, d, before, n, first, m, h, hroot, hn, htaken, hnone, hfree⟩ := volume64MB_root
  have habsent : ∀ e ∈ sets before, ¬ e.Named (toLowercase name) := by
    rw [hnone]
    exact fun e he => nomatch he
  have hsize := h.valid.sizeLo
  have hneeded : clustersNeeded data.length g.clusterSize = 1 := by
    rw [clustersNeeded, if_neg (by omega)]
    exact Nat.div_eq_of_lt_le (by omega) (by omega)
  have hchain : (d.freeClusters g).take 1 = [first] := by
    rw [hfree, List.range'_succ]
    rfl
  obtain ⟨_, fs, hrun, now, d', h', hroot', -⟩ := hroot.writeFilePath_returns h htaken hparse hname
    habsent (Nat.le_trans hroom hn) (show data.length < 2 ^ 64 by omega) (by omega)
    (show [first].length = _ from hneeded.symm) (by rw [hneeded, hchain]) false false
  rw [List.append_assoc] at hroot'
  exact ⟨fs, g, d', before, _, first, now, hrun, h', hroot', htaken, hnone⟩

end StreamBox.Exfat
