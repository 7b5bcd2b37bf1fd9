import StreamBox.Exfat.Chains
import StreamBox.Exfat.Items

/-!
# Files and directories on the disk

A table has the objects of a volume by their first clusters: files and directories,
each the row of its clusters with what they hold.

* **Holds** — the disk has the contents and the chains of the table's objects, their
  clusters are marked, and no cluster is in two of them.
* **Operations** — allocating adds a file to the table, freeing removes an object,
  writing a cluster and extending a chain change one object.
-/

namespace StreamBox.Exfat

/-- A file or a directory: the clusters of its chain, each with its contents. -/
inductive Obj where
  | file (rows : List (Nat × List UInt8))
  | dir (rows : List (Nat × List Item))

namespace Obj

/-- The clusters with their bytes. -/
def rows : Obj → List (Nat × List UInt8)
  | file rows => rows
  | dir rows => rows.map fun row => (row.1, render row.2)

/-- The clusters of the chain. -/
def chain (o : Obj) : List Nat := o.rows.map Prod.fst

@[simp] theorem rows_file (rows : List (Nat × List UInt8)) : (file rows).rows = rows := rfl

@[simp] theorem rows_dir (rows : List (Nat × List Item)) :
    (dir rows).rows = rows.map fun row => (row.1, render row.2) := rfl

@[simp] theorem chain_file (rows : List (Nat × List UInt8)) :
    (file rows).chain = rows.map Prod.fst := rfl

@[simp] theorem chain_dir (rows : List (Nat × List Item)) :
    (dir rows).chain = rows.map Prod.fst := by
  simp [chain]

end Obj

/-- The objects of a volume by their first clusters. -/
abbrev Table := Nat → Option Obj

/-- The disk has the objects of the table. -/
structure Holds (g : VolumeParams) (d : Disk) (t : Table) : Prop where
  stored : ∀ k o, t k = some o → ∀ row ∈ o.rows, d.cluster row.1 = row.2
  keyed : ∀ k o, t k = some o → ∃ rest, o.chain = k :: rest
  chained : ∀ k o, t k = some o → d.IsChain g o.chain
  owned : ∀ k o, t k = some o → ∀ c ∈ o.chain,
    c ≠ 2 ∧ (g.firstClusterOfRoot < c → d.allocated c = true)
  apart : ∀ k k' o o', t k = some o → t k' = some o' → ∀ c ∈ o.chain, c ∈ o'.chain → k = k'
  bitmapEnd : isLink (d.fat 2) = false

namespace Holds

variable {g : VolumeParams} {d d' : Disk} {t : Table} {k : Nat} {o : Obj}

/-- The objects stay when neither their clusters nor their links change and they keep
their marks. -/
theorem frame (h : Holds g d t) (hbitmap : d'.fat 2 = d.fat 2)
    (hkept : ∀ k o, t k = some o → ∀ c ∈ o.chain, d'.fat c = d.fat c ∧ d'.cluster c = d.cluster c ∧
      (d.allocated c = true → d'.allocated c = true)) : Holds g d' t := by
  refine ⟨?_, h.keyed, ?_, ?_, h.apart, ?_⟩
  · intro k o ho row hrow
    rw [(hkept k o ho row.1 (List.mem_map_of_mem hrow)).2.1]
    exact h.stored k o ho row hrow
  · intro k o ho
    obtain ⟨hlinked, hheap, hnodup⟩ := h.chained k o ho
    exact ⟨hlinked.congr fun c hc => (hkept k o ho c hc).1, hheap, hnodup⟩
  · intro k o ho c hc
    obtain ⟨htwo, hmarked⟩ := h.owned k o ho c hc
    exact ⟨htwo, fun hroot => (hkept k o ho c hc).2.2 (hmarked hroot)⟩
  · rw [hbitmap]
    exact h.bitmapEnd

/-- An object may be dropped from the table. -/
theorem erase (h : Holds g d t) (k : Nat) : Holds g d (Function.update t k none) := by
  have hold : ∀ k' o', Function.update t k none k' = some o' → t k' = some o' := by
    intro k' o' ho'
    by_cases hk : k' = k
    · subst hk
      simp at ho'
    · rwa [Function.update_of_ne hk] at ho'
  refine ⟨?_, ?_, ?_, ?_, ?_, h.bitmapEnd⟩
  · exact fun k' o' ho' => h.stored k' o' (hold k' o' ho')
  · exact fun k' o' ho' => h.keyed k' o' (hold k' o' ho')
  · exact fun k' o' ho' => h.chained k' o' (hold k' o' ho')
  · exact fun k' o' ho' => h.owned k' o' (hold k' o' ho')
  · exact fun k₁ k₂ o₁ o₂ h₁ h₂ => h.apart k₁ k₂ o₁ o₂ (hold _ _ h₁) (hold _ _ h₂)

/-- An object whose clusters belong to no other one may be put into the table. -/
theorem put (h : Holds g d t) (hstored : ∀ row ∈ o.rows, d.cluster row.1 = row.2)
    (hkeyed : ∃ rest, o.chain = k :: rest) (hchain : d.IsChain g o.chain)
    (howned : ∀ c ∈ o.chain, c ≠ 2 ∧ (g.firstClusterOfRoot < c → d.allocated c = true))
    (hapart : ∀ k' o', k' ≠ k → t k' = some o' → ∀ c ∈ o'.chain, c ∉ o.chain) :
    Holds g d (Function.update t k (some o)) := by
  have hcases : ∀ k' o', Function.update t k (some o) k' = some o' →
      (k' = k ∧ o' = o) ∨ (k' ≠ k ∧ t k' = some o') := by
    intro k' o' ho'
    by_cases hk : k' = k
    · subst hk
      rw [Function.update_self] at ho'
      exact Or.inl ⟨rfl, (Option.some.inj ho').symm⟩
    · rw [Function.update_of_ne hk] at ho'
      exact Or.inr ⟨hk, ho'⟩
  refine ⟨?_, ?_, ?_, ?_, ?_, h.bitmapEnd⟩
  · intro k' o' ho'
    rcases hcases k' o' ho' with ⟨rfl, rfl⟩ | ⟨-, hold⟩
    · exact hstored
    · exact h.stored k' o' hold
  · intro k' o' ho'
    rcases hcases k' o' ho' with ⟨rfl, rfl⟩ | ⟨-, hold⟩
    · exact hkeyed
    · exact h.keyed k' o' hold
  · intro k' o' ho'
    rcases hcases k' o' ho' with ⟨rfl, rfl⟩ | ⟨-, hold⟩
    · exact hchain
    · exact h.chained k' o' hold
  · intro k' o' ho'
    rcases hcases k' o' ho' with ⟨rfl, rfl⟩ | ⟨-, hold⟩
    · exact howned
    · exact h.owned k' o' hold
  · intro k₁ k₂ o₁ o₂ h₁ h₂ c hc₁ hc₂
    rcases hcases k₁ o₁ h₁ with ⟨rfl, rfl⟩ | ⟨hne₁, hold₁⟩ <;>
      rcases hcases k₂ o₂ h₂ with ⟨rfl, rfl⟩ | ⟨hne₂, hold₂⟩
    · rfl
    · exact absurd hc₁ (hapart k₂ o₂ hne₂ hold₂ c hc₂)
    · exact absurd hc₂ (hapart k₁ o₁ hne₁ hold₁ c hc₁)
    · exact h.apart k₁ k₂ o₁ o₂ hold₁ hold₂ c hc₁ hc₂

/-- The first cluster is on the chain. -/
theorem key_mem (h : Holds g d t) (ho : t k = some o) : k ∈ o.chain := by
  obtain ⟨rest, hrest⟩ := h.keyed k o ho
  rw [hrest]
  exact List.mem_cons_self

/-- A cluster of the chain of one object is on no other chain. -/
theorem notMem (h : Holds g d t) (ho : t k = some o) {k' : Nat} {o' : Obj} (ho' : t k' = some o')
    (hne : k' ≠ k) {c : Nat} (hc : c ∈ o'.chain) : c ∉ o.chain :=
  fun hc' => hne (h.apart k' k o' o ho' ho c hc hc')

/-- Fresh clusters are on no chain. -/
theorem notMem_fresh (h : Holds g d t) {chain : List Nat} (hfresh : d.Fresh g chain)
    (ho : t k = some o) {c : Nat} (hc : c ∈ o.chain) : c ∉ chain := by
  intro hmem
  have hmarked := (h.owned k o ho c hc).2 (hfresh.behindRoot c hmem)
  rw [hfresh.unmarked c hmem] at hmarked
  cases hmarked

end Holds

/-! ## Marks -/

/-- The bitmap's one cluster has a bit for every cluster of the heap. -/
def VolumeParams.BitmapFits (g : VolumeParams) : Prop := g.clusterCount ≤ 8 * g.clusterSize

section

variable {g : VolumeParams} {d : Disk} {fs : ExfatFs}

theorem VolumeParams.InHeap.bounds {size c : Nat} (hvalid : g.Valid size) (hc : g.InHeap c) :
    2 ≤ c ∧ c < 2 ^ 32 := by
  have hcount := hvalid.countLt
  obtain ⟨hlo, hhi⟩ := hc
  omega

/-- Allocated clusters are marked, and marks stay. -/
theorem Disk.allocated_alloc (h : Represents g d fs) (hfits : g.BitmapFits) {chain : List Nat}
    (hheap : ∀ c ∈ chain, g.InHeap c) {c : Nat} (hc : g.InHeap c)
    (hmarked : c ∈ chain ∨ d.allocated c = true) : (d.alloc chain).allocated c = true := by
  have hbounds : ∀ x ∈ chain, 2 ≤ x ∧ x < 2 ^ 32 := fun x hx => (hheap x hx).bounds h.valid
  obtain ⟨hlo, hhi⟩ := hc.bounds h.valid
  have hcluster : (d.alloc chain).cluster 2 = markAll (d.cluster 2) chain true := by
    simp only [alloc, Function.update_self]
  rw [Disk.allocated, hcluster]
  by_cases hmem : c ∈ chain
  · refine isClusterAllocated_markAll_of_mem true hbounds ?_ hmem
    have hlen := h.length_cluster h.bitmap_inHeap
    have hcount := hc.2
    unfold VolumeParams.BitmapFits at hfits
    omega
  · rw [isClusterAllocated_markAll_of_notMem true hlo hhi hbounds hmem]
    exact hmarked.resolve_left hmem

/-- Freeing keeps the marks of all other clusters. -/
theorem Disk.allocated_release (h : Represents g d fs) {chain : List Nat}
    (hheap : ∀ c ∈ chain, g.InHeap c) {c : Nat} (hc : g.InHeap c) (hmem : c ∉ chain) :
    (d.release chain).allocated c = d.allocated c := by
  have hbounds : ∀ x ∈ chain, 2 ≤ x ∧ x < 2 ^ 32 := fun x hx => (hheap x hx).bounds h.valid
  obtain ⟨hlo, hhi⟩ := hc.bounds h.valid
  rw [Disk.allocated, release, Disk.cluster_eraseLinks, Disk.cluster_setCluster_self]
  exact isClusterAllocated_markAll_of_notMem false hlo hhi hbounds hmem

/-- Clusters other than the bitmap keep their contents when a chain is allocated. -/
theorem Disk.cluster_alloc_of_ne (d : Disk) (chain : List Nat) {c : Nat} (hc : c ≠ 2) :
    (d.alloc chain).cluster c = d.cluster c := Function.update_of_ne hc ..

theorem Disk.cluster_release_of_ne (d : Disk) (chain : List Nat) {c : Nat} (hc : c ≠ 2) :
    (d.release chain).cluster c = d.cluster c := by
  rw [release, Disk.cluster_eraseLinks, Disk.cluster_setCluster_of_ne _ _ hc]

/-- Writing a cluster other than the bitmap changes no mark. -/
theorem Disk.allocated_setCluster (d : Disk) {c : Nat} (hc : c ≠ 2) (data : List UInt8) (x : Nat) :
    (d.setCluster c data).allocated x = d.allocated x := by
  rw [Disk.allocated, Disk.allocated, Disk.cluster_setCluster_of_ne _ _ (Ne.symm hc)]

end

namespace Holds

variable {g : VolumeParams} {d : Disk} {fs : ExfatFs} {t : Table} {k : Nat} {o : Obj}

/-- The objects of the table stay when fresh clusters are allocated. -/
theorem alloc_frame (h : Holds g d t) (hrep : Represents g d fs) (hfits : g.BitmapFits)
    {chain : List Nat} (hfresh : d.Fresh g chain) : Holds g (d.alloc chain) t := by
  have htwo : (2 : Nat) ∉ chain := by
    intro hmem
    have := hfresh.behindRoot 2 hmem
    have := hrep.valid.rootLo
    omega
  refine h.frame (linkAll_of_notMem _ htwo _) ?_
  intro k o ho x hx
  refine ⟨linkAll_of_notMem _ (h.notMem_fresh hfresh ho hx) _,
    Disk.cluster_alloc_of_ne _ _ (h.owned k o ho x hx).1, fun hmark => ?_⟩
  exact Disk.allocated_alloc hrep hfits hfresh.inHeap ((h.chained k o ho).inHeap x hx)
    (Or.inr hmark)

/-- Allocating a chain puts a file into the table. -/
theorem alloc (h : Holds g d t) (hrep : Represents g d fs) (hfits : g.BitmapFits) {c : Nat}
    {rest : List Nat} (hfresh : d.Fresh g (c :: rest)) :
    Holds g (d.alloc (c :: rest))
      (Function.update t c (some (.file ((c :: rest).map fun x => (x, d.cluster x))))) := by
  have hroot := hrep.valid.rootLo
  have htwo : ∀ x ∈ c :: rest, x ≠ 2 := by
    intro x hx
    have := hfresh.behindRoot x hx
    omega
  have hchain : (Obj.file ((c :: rest).map fun x => (x, d.cluster x))).chain = c :: rest := by
    rw [Obj.chain_file, List.map_map]
    exact List.map_id _
  refine (h.alloc_frame hrep hfits hfresh).put ?_ ⟨rest, hchain⟩ ?_ ?_ ?_
  · intro row hrow
    obtain ⟨x, hx, rfl⟩ := List.mem_map.mp hrow
    exact Disk.cluster_alloc_of_ne _ _ (htwo x hx)
  · rw [hchain]
    exact ⟨linked_linkAll (by decide) hfresh.nodup _, hfresh.inHeap, hfresh.nodup⟩
  · rw [hchain]
    intro x hx
    exact ⟨htwo x hx, fun _ =>
      Disk.allocated_alloc hrep hfits hfresh.inHeap (hfresh.inHeap x hx) (Or.inl hx)⟩
  · intro k' o' _ ho' x hx
    rw [hchain]
    exact h.notMem_fresh hfresh ho' hx

/-- Freeing the chain of an object takes it out of the table. -/
theorem release (h : Holds g d t) (hrep : Represents g d fs) (ho : t k = some o) :
    Holds g (d.release o.chain) (Function.update t k none) := by
  have htwo : (2 : Nat) ∉ o.chain := fun hmem => (h.owned k o ho 2 hmem).1 rfl
  refine (h.erase k).frame ?_ ?_
  · rw [Disk.release, Disk.fat_eraseLinks_of_notMem _ htwo, Disk.fat_setCluster]
  · intro k' o' ho' x hx
    have hne : k' ≠ k := by
      rintro rfl
      simp at ho'
    rw [Function.update_of_ne hne] at ho'
    have hmem := h.notMem ho ho' hne hx
    refine ⟨?_, Disk.cluster_release_of_ne _ _ (h.owned k' o' ho' x hx).1, fun hmark => ?_⟩
    · rw [Disk.release, Disk.fat_eraseLinks_of_notMem _ hmem, Disk.fat_setCluster]
    · rw [Disk.allocated_release hrep (h.chained k o ho).inHeap
        ((h.chained k' o' ho').inHeap x hx) hmem]
      exact hmark

/-- Writing one cluster of an object changes that object. -/
theorem write (h : Holds g d t) (ho : t k = some o) {o' : Obj} {pre post : List (Nat × List UInt8)}
    {c : Nat} {old data : List UInt8} (hrows : o.rows = pre ++ (c, old) :: post)
    (hrows' : o'.rows = pre ++ (c, data) :: post) :
    Holds g (d.setCluster c data) (Function.update t k (some o')) := by
  have hchain : o'.chain = o.chain := by
    simp only [Obj.chain, hrows, hrows', List.map_append, List.map_cons]
  have hmem : c ∈ o.chain := by
    simp only [Obj.chain, hrows, List.map_append, List.map_cons]
    exact List.mem_append_right _ List.mem_cons_self
  have htwo := (h.owned k o ho c hmem).1
  have hnodup : (pre ++ (c, old) :: post).map Prod.fst |>.Nodup := by
    rw [← hrows]
    exact (h.chained k o ho).nodup
  rw [List.map_append, List.map_cons, List.nodup_append] at hnodup
  obtain ⟨-, hpost, hpre⟩ := hnodup
  have hother : ∀ row ∈ pre ++ post, row.1 ≠ c := by
    intro row hrow heq
    rcases List.mem_append.mp hrow with hrow | hrow
    · exact hpre row.1 (List.mem_map_of_mem hrow) c List.mem_cons_self heq
    · exact (List.nodup_cons.mp hpost).1 (heq ▸ List.mem_map.mpr ⟨row, hrow, rfl⟩)
  have hframe : Holds g (d.setCluster c data) (Function.update t k none) := by
    refine (h.erase k).frame rfl ?_
    intro k' o' ho' x hx
    have hne : k' ≠ k := by
      rintro rfl
      simp at ho'
    rw [Function.update_of_ne hne] at ho'
    have hxc : x ≠ c := by
      rintro rfl
      exact h.notMem ho ho' hne hx hmem
    refine ⟨rfl, Disk.cluster_setCluster_of_ne _ _ hxc, fun hmark => ?_⟩
    rwa [Disk.allocated_setCluster _ htwo]
  have hput := hframe.put (k := k) (o := o') ?_ ?_ ?_ ?_ ?_
  · rwa [Function.update_idem] at hput
  · intro row hrow
    rw [hrows'] at hrow
    rcases List.mem_append.mp hrow with hpre | hrest
    · rw [Disk.cluster_setCluster_of_ne _ _ (hother row (List.mem_append_left _ hpre))]
      exact h.stored k o ho row (hrows ▸ List.mem_append_left _ hpre)
    · rcases List.mem_cons.mp hrest with rfl | hpost
      · exact Disk.cluster_setCluster_self ..
      · rw [Disk.cluster_setCluster_of_ne _ _ (hother row (List.mem_append_right _ hpost))]
        exact h.stored k o ho row
          (hrows ▸ List.mem_append_right _ (List.mem_cons_of_mem _ hpost))
  · rw [hchain]
    exact h.keyed k o ho
  · rw [hchain]
    obtain ⟨hlinked, hheap, hnodup⟩ := h.chained k o ho
    exact ⟨hlinked, hheap, hnodup⟩
  · rw [hchain]
    intro x hx
    obtain ⟨hx2, hmark⟩ := h.owned k o ho x hx
    exact ⟨hx2, fun hroot => by rw [Disk.allocated_setCluster _ htwo]; exact hmark hroot⟩
  · intro k' o' hne ho' x hx
    rw [Function.update_of_ne hne] at ho'
    rw [hchain]
    exact h.notMem ho ho' hne hx

/-- Extending the chain of an object adds a zeroed cluster to it. -/
theorem extend (h : Holds g d t) (hrep : Represents g d fs) (hfits : g.BitmapFits)
    (ho : t k = some o) (o' : Obj) (new : Nat) (hfresh : d.Fresh g [new])
    (hne : o.chain ≠ [])
    (hrows : o'.rows = o.rows ++ [(new, List.replicate g.clusterSize 0)]) :
    Holds g (d.extend g (o.chain.getLast hne) new) (Function.update t k (some o')) := by
  have hold := h.alloc_frame hrep hfits hfresh
  have hnew : new ∉ o.chain := fun hmem => h.notMem_fresh hfresh ho hmem List.mem_cons_self
  have hroot := hfresh.behindRoot new List.mem_cons_self
  have hrootLo := hrep.valid.rootLo
  have hnew2 : new ≠ 2 := by omega
  obtain ⟨last, hlast⟩ : ∃ last, o.chain.getLast hne = last := ⟨_, rfl⟩
  have hlastMem : last ∈ o.chain := hlast ▸ List.getLast_mem hne
  have hlast2 := (h.owned k o ho last hlastMem).1
  have hchain : o'.chain = o.chain ++ [new] := by
    simp only [Obj.chain, hrows, List.map_append, List.map_cons, List.map_nil]
  have hmark : ∀ x, (d.extend g last new).allocated x = (d.alloc [new]).allocated x := fun x =>
    Disk.allocated_setCluster _ hnew2 _ x
  have hframe : Holds g (d.extend g last new) (Function.update t k none) := by
    refine (hold.erase k).frame (Disk.fat_setFat_of_ne _ _ (Ne.symm hlast2)) ?_
    intro k' o' ho' x hx
    have hne : k' ≠ k := by
      rintro rfl
      simp at ho'
    rw [Function.update_of_ne hne] at ho'
    have hxl : x ≠ last := by
      rintro rfl
      exact h.notMem ho ho' hne hx hlastMem
    have hxn : x ≠ new := by
      rintro rfl
      exact h.notMem_fresh hfresh ho' hx List.mem_cons_self
    refine ⟨Disk.fat_setFat_of_ne _ _ hxl, Disk.cluster_setCluster_of_ne _ _ hxn, fun hm => ?_⟩
    rwa [hmark]
  rw [hlast]
  have hput := hframe.put (k := k) (o := o') ?_ ?_ ?_ ?_ ?_
  · rwa [Function.update_idem] at hput
  · intro row hrow
    rw [hrows] at hrow
    rcases List.mem_append.mp hrow with hrow | hrow
    · have hxn : row.1 ≠ new := by
        intro heq
        exact hnew (heq ▸ List.mem_map.mpr ⟨row, hrow, rfl⟩)
      rw [← hold.stored k o ho row hrow]
      exact Disk.cluster_setCluster_of_ne _ _ hxn
    · rw [List.mem_singleton] at hrow
      subst hrow
      exact Disk.cluster_setCluster_self ..
  · obtain ⟨rest, hrest⟩ := h.keyed k o ho
    exact ⟨rest ++ [new], by rw [hchain, hrest, List.cons_append]⟩
  · obtain ⟨hlinked, hheap, hnodup⟩ := hold.chained k o ho
    obtain ⟨l, hl⟩ : ∃ l, o.chain = l ++ [last] :=
      ⟨o.chain.dropLast, by rw [← hlast, List.dropLast_concat_getLast]⟩
    rw [hchain, hl]
    rw [hl] at hlinked hheap hnodup hnew
    have hstop : isLink ((d.alloc [new]).fat new) = false := by
      simp only [Disk.alloc, linkAll, Function.update_self]
      decide
    refine ⟨?_, ?_, ?_⟩
    · have hsnoc := hlinked.snoc hnodup hnew hstop
      rwa [List.append_assoc]
    · intro x hx
      rcases List.mem_append.mp hx with hx | hx
      · exact hheap x hx
      · exact hfresh.inHeap x hx
    · rw [List.nodup_append]
      refine ⟨hnodup, List.pairwise_singleton _ new, ?_⟩
      intro x hx y hy heq
      rw [List.mem_singleton] at hy
      subst hy
      exact hnew (heq ▸ hx)
  · rw [hchain]
    intro x hx
    rw [hmark]
    rcases List.mem_append.mp hx with hx | hx
    · exact hold.owned k o ho x hx
    · rw [List.mem_singleton] at hx
      subst hx
      exact ⟨hnew2, fun _ => Disk.allocated_alloc hrep hfits hfresh.inHeap
        (hfresh.inHeap x List.mem_cons_self) (Or.inl List.mem_cons_self)⟩
  · intro k' o'' hne ho'' x hx
    rw [Function.update_of_ne hne] at ho''
    rw [hchain, List.mem_append, List.mem_singleton]
    rintro (hmem | rfl)
    · exact h.notMem ho ho'' hne hx hmem
    · exact h.notMem_fresh hfresh ho'' hx List.mem_cons_self

end Holds

/-! ## Operations on the table -/

/-- The filesystem stores the objects of the table. -/
def Stores (g : VolumeParams) (t : Table) (fs : ExfatFs) : Prop :=
  ∃ d, Represents g d fs ∧ Holds g d t

namespace Stores

variable {g : VolumeParams} {fs : ExfatFs} {t : Table} {k : Nat} {o : Obj}

theorem params (h : Stores g t fs) : fs.toVolumeParams = g := by
  obtain ⟨d, hrep, -⟩ := h
  exact hrep.params

theorem valid (h : Stores g t fs) : g.Valid fs.file.size := by
  obtain ⟨d, hrep, -⟩ := h
  exact hrep.valid

theorem of_clock (h : Stores g t fs) (clock : List Nat) :
    Stores g t { fs with clock := clock } := by
  obtain ⟨d, hrep, hholds⟩ := h
  exact ⟨d, hrep.of_clock clock, hholds⟩

/-- A cluster of an object is full. -/
theorem length_row (h : Stores g t fs) (ho : t k = some o) {c : Nat} {data : List UInt8}
    (hrow : (c, data) ∈ o.rows) : data.length = g.clusterSize := by
  obtain ⟨d, hrep, hholds⟩ := h
  have hheap := (hholds.chained k o ho).inHeap c (List.mem_map.mpr ⟨_, hrow, rfl⟩)
  rw [← hrep.length_cluster hheap, hholds.stored k o ho _ hrow]

/-- The chain of an object is read back. -/
theorem readClusterChain_returns (h : Stores g t fs) (ho : t k = some o) :
    Returns (readClusterChain k) fs fun chain fs' => chain = o.chain ∧ Stores g t fs' := by
  obtain ⟨d, hrep, hholds⟩ := h
  have hchain := hholds.chained k o ho
  obtain ⟨rest, hrest⟩ := hholds.keyed k o ho
  rw [hrest] at hchain ⊢
  refine (Exfat.readClusterChain_returns hrep hchain).mono ?_
  rintro chain fs' ⟨rfl, hrep'⟩
  exact ⟨rfl, d, hrep', hholds⟩

/-- A cluster of an object is read back. -/
theorem readCluster_eq (h : Stores g t fs) (ho : t k = some o) {c : Nat} {data : List UInt8}
    (hrow : (c, data) ∈ o.rows) : (readCluster c).run fs = .ok data fs := by
  obtain ⟨d, hrep, hholds⟩ := h
  have hheap := (hholds.chained k o ho).inHeap c (List.mem_map.mpr ⟨_, hrow, rfl⟩)
  rw [Exfat.readCluster_eq hrep hheap, hholds.stored k o ho _ hrow]

/-- A successful allocation adds a file of that many clusters, which were free. -/
theorem allocateClusters_ensures (h : Stores g t fs) (hfits : g.BitmapFits) (count : Nat) :
    Ensures (allocateClusters count) fs fun first fs' => ∃ rows,
      Stores g (Function.update t first (some (.file rows))) fs' ∧ t first = none ∧
        g.firstClusterOfRoot < first ∧ rows.length = count ∧ fs.disk.allocated first = false ∧
        ∃ rest, rows.map Prod.fst = first :: rest := by
  obtain ⟨d, hrep, hholds⟩ := h
  refine (Exfat.allocateClusters_ensures hrep count).mono ?_
  rintro first fs' ⟨rest, hlen, hfresh, hrep'⟩
  refine ⟨_, ⟨_, hrep', hholds.alloc hrep hfits hfresh⟩, ?_,
    hfresh.behindRoot first List.mem_cons_self, by rw [List.length_map, hlen], ?_, rest, ?_⟩
  · cases ho : t first with
    | none => rfl
    | some o => exact absurd List.mem_cons_self (hholds.notMem_fresh hfresh ho (hholds.key_mem ho))
  · rw [hrep.disk]
    exact hfresh.unmarked first List.mem_cons_self
  · rw [List.map_map]
    exact List.map_id _

/-- Freeing the chain of an object takes it out of the table. -/
theorem freeClusterChain_returns (h : Stores g t fs) (ho : t k = some o) :
    Returns (freeClusterChain k) fs fun _ fs' => Stores g (Function.update t k none) fs' := by
  obtain ⟨d, hrep, hholds⟩ := h
  have hchain := hholds.chained k o ho
  have hrelease := hholds.release hrep ho
  obtain ⟨rest, hrest⟩ := hholds.keyed k o ho
  rw [hrest] at hchain hrelease
  refine (Exfat.freeClusterChain_returns hrep hchain).mono ?_
  intro _ fs' hrep'
  exact ⟨_, hrep', hrelease⟩

/-- Writing a cluster of an object changes that object. -/
theorem writeCluster_returns (h : Stores g t fs) (ho : t k = some o) (o' : Obj)
    {pre post : List (Nat × List UInt8)} {c : Nat} {old data : List UInt8}
    (hlen : data.length ≤ g.clusterSize) (hrows : o.rows = pre ++ (c, old) :: post)
    (hrows' : o'.rows = pre ++ (c, g.pad data) :: post) :
    Returns (writeCluster c data) fs fun _ fs' =>
      Stores g (Function.update t k (some o')) fs' := by
  obtain ⟨d, hrep, hholds⟩ := h
  have hmem : c ∈ o.chain := by
    rw [Obj.chain, hrows]
    exact List.mem_map.mpr ⟨(c, old), List.mem_append_right _ List.mem_cons_self, rfl⟩
  have hheap := (hholds.chained k o ho).inHeap c hmem
  refine (Exfat.writeCluster_returns hrep hheap (hholds.owned k o ho c hmem).1 hlen).mono ?_
  intro _ fs' hrep'
  exact ⟨_, hrep', hholds.write ho hrows hrows'⟩

/-- A successful extension adds a zeroed cluster to an object. -/
theorem extendClusterChain_ensures (h : Stores g t fs) (hfits : g.BitmapFits) (ho : t k = some o) :
    Ensures (extendClusterChain k) fs fun new fs' =>
      ∀ o' : Obj, o'.rows = o.rows ++ [(new, List.replicate g.clusterSize 0)] →
        Stores g (Function.update t k (some o')) fs' := by
  obtain ⟨d, hrep, hholds⟩ := h
  have hchain := hholds.chained k o ho
  have hextend := fun (o' : Obj) new hfresh hne hrows =>
    hholds.extend hrep hfits ho o' new hfresh hne hrows
  obtain ⟨rest, hrest⟩ := hholds.keyed k o ho
  rw [hrest] at hchain
  simp only [hrest] at hextend
  refine (Exfat.extendClusterChain_ensures hrep hchain).mono ?_
  rintro new fs' ⟨hfresh, hrep'⟩ o' hrows
  exact ⟨_, hrep', hextend o' new hfresh (List.cons_ne_nil _ _) hrows⟩

end Stores

end StreamBox.Exfat
