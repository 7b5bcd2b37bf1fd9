import StreamBox.Exfat.Formatted

/-!
# Cluster ownership

Which chain a cluster belongs to, over whole runs.

* **Owners** — a live chain is owned by the bitmap, the up-case table, the root
  directory or one entry of a live directory.
* **Trees** — on a volume that stores a well-formed tree no cluster is on the chains of
  two owners, and allocation hands out clusters of none (`IsTree.exclusive`,
  `IsTree.unowned`).
* **Runs** — on a new volume whose bitmap fits its cluster every successful operation
  keeps the tree (`Operation.run_ensures`), so every run does (`clusters_owned_once`).
-/

namespace StreamBox.Exfat

/-! ## Owners -/

/-- What owns a live chain; a file entry by its directory cluster and its offset there. -/
inductive Owner
  | bitmap
  | upcase
  | root
  | entry (cluster offset : Nat)
  deriving DecidableEq, Repr

/-- The first clusters of the live chains, by their owners. -/
inductive Disk.Owns (root : Nat) (d : Disk) : Owner → Nat → Prop
  | bitmap : Owns root d .bitmap 2
  | upcase : Owns root d .upcase 3
  | root : Owns root d .root root
  | entry {dir c offset} : d.LiveDirectory root dir → d.Chained dir c →
      FileEntryAt (d.cluster c) offset →
      Owns root d (.entry c offset) (parseEntrySet (d.cluster c) offset).firstCluster

/-- No cluster is on the live chains of two owners. -/
def Disk.Exclusive (root : Nat) (d : Disk) : Prop :=
  ∀ a b first first' c, d.Owns root a first → d.Owns root b first' →
    d.Chained first c → d.Chained first' c → a = b

/-- Cluster ownership of the images of a size: after every run of successful operations on
the formatted volume, no cluster belongs to two live chains, and an allocation hands out
no cluster of a live chain. -/
structure ClusterOwnership [Lowercase] (totalSize : Nat) (layout : PartitionLayout)
    (label : String) (now : Option Nat) : Prop where
  exclusive : ∀ boot segments,
    (formatExfat layout.dataOffset layout.dataSize label now).val = (boot, segments) →
    ∀ file : Image, file.size = totalSize → ∀ clock fs fs',
      ExfatFs.openImage (writeSegments file segments) layout clock = .ok fs →
      Succeeds fs fs' → fs'.disk.Exclusive fs'.firstClusterOfRoot
  unowned : ∀ boot segments,
    (formatExfat layout.dataOffset layout.dataSize label now).val = (boot, segments) →
    ∀ file : Image, file.size = totalSize → ∀ clock fs fs',
      ExfatFs.openImage (writeSegments file segments) layout clock = .ok fs →
      Succeeds fs fs' → ∀ count, Ensures (allocateClusters count) fs' fun first fs'' =>
        ∀ c, fs''.disk.Chained first c → ¬ fs'.Live c

/-! ## Chains -/

section

variable {g : VolumeParams} {d : Disk} {first c : Nat}

/-- The empty chain has no clusters. -/
theorem Disk.Chained.isLink_first (h : d.Chained first c) : isLink first = true := by
  induction h with
  | first hlink => exact hlink
  | next _ _ ih => exact ih

/-- What follows the links of a chain stays on it. -/
theorem Disk.Chained.mem {rest : List Nat} (h : d.Chained first c)
    (hchain : d.IsChain g (first :: rest)) : c ∈ first :: rest := by
  induction h with
  | first _ => exact List.mem_cons_self
  | next _ hlink ih => exact hchain.linked.next_mem ih hlink

/-- Every cluster of a chain is reached from its first one. -/
theorem Disk.IsChain.chained {rest : List Nat} {size : Nat} (hchain : d.IsChain g (first :: rest))
    (hvalid : g.Valid size) (hc : c ∈ first :: rest) : d.Chained first c := by
  have hlink : ∀ x ∈ first :: rest, isLink x = true :=
    fun x hx => (hchain.inHeap x hx).isLink hvalid
  refine hchain.linked.induct_mem (P := d.Chained first) (.first (hlink _ List.mem_cons_self)) ?_ hc
  intro x hx hnext
  exact .next hx (hlink _ hnext)

end

/-! ## File entries of a rendered cluster -/

/-- A byte behind some data. -/
theorem byteAt_append_right {a b : List UInt8} {offset : Nat} (h : a.length ≤ offset) :
    byteAt (a ++ b) offset = byteAt b (offset - a.length) := by
  simp only [byteAt, List.getD_eq_getElem?_getD, List.getElem?_append_right h]

/-- The first byte of one of a row of 32-byte entries. -/
theorem byteAt_flatten {entries : List (List UInt8)} (hlen : ∀ entry ∈ entries, entry.length = 32)
    (rest : List UInt8) {j : Nat} (hj : j < entries.length) :
    byteAt (entries.flatten ++ rest) (32 * j) = byteAt entries[j] 0 := by
  induction entries generalizing j with
  | nil => cases hj
  | cons entry entries ih =>
    have hentry := hlen entry List.mem_cons_self
    rw [List.flatten_cons, List.append_assoc]
    cases j with
    | zero =>
      have hpos : 0 < entry.length := by omega
      exact byteAt_of_drop (o := 0) List.drop_zero hpos
    | succ j =>
      rw [byteAt_append_right (by omega), hentry, show 32 * (j + 1) - 32 = 32 * j by omega]
      exact ih (fun x hx => hlen x (List.mem_cons_of_mem _ hx)) (by simpa using hj)

/-- The types of a set's entries. -/
theorem EntrySet.type_at (e : EntrySet) (rest : List UInt8) {offset : Nat}
    (hoffset : offset % 32 = 0) (hlt : offset < e.bytes.length) :
    (offset = 0 ∧ byteAt (e.bytes ++ rest) offset = entryTypeFile) ∨
      offset ≠ 0 ∧ (byteAt (e.bytes ++ rest) offset = entryTypeStream ∨
        byteAt (e.bytes ++ rest) offset = entryTypeFileName) := by
  obtain ⟨j, rfl⟩ : ∃ j, offset = 32 * j := ⟨offset / 32, by omega⟩
  obtain ⟨stamp, checksum, hentries⟩ := e.entries_eq
  have hj : j < e.entries.length := by
    rw [e.length_bytes] at hlt
    rw [e.length_entries]
    omega
  rw [EntrySet.bytes, byteAt_flatten (fun _ => EntrySet.length_of_mem_entries) rest hj]
  simp only [hentries]
  cases j with
  | zero => exact Or.inl ⟨rfl, rfl⟩
  | succ j =>
    refine Or.inr ⟨by omega, ?_⟩
    cases j with
    | zero => exact Or.inl rfl
    | succ j =>
      right
      simp only [List.getElem_cons_succ, List.getElem_map, byteAt_nameEntry]

/-- An entry of a rendered cluster is one of an item's. -/
theorem aligned_item {items : List Item} (hitems : ∀ item ∈ items, item.Ok) {offset : Nat}
    (haligned : offset % 32 = 0) (hlt : offset < (render items).length) :
    ∃ before item after inside, items = before ++ item :: after ∧
      offset = (render before).length + inside ∧ inside % 32 = 0 ∧ inside < item.bytes.length ∧
      byteAt (render items) offset = byteAt (item.bytes ++ render after) inside := by
  induction items generalizing offset with
  | nil => cases hlt
  | cons item rest ih =>
    obtain ⟨hlo, hentries⟩ := (hitems item List.mem_cons_self).length_bytes
    rw [render_cons] at hlt
    by_cases hin : offset < item.bytes.length
    · exact ⟨[], item, rest, offset, rfl, (Nat.zero_add _).symm, haligned, hin, rfl⟩
    · rw [List.length_append] at hlt
      obtain ⟨before, item', after, inside, rfl, hoffset, hinside⟩ := ih
        (fun x hx => hitems x (List.mem_cons_of_mem _ hx))
        (show (offset - item.bytes.length) % 32 = 0 by omega) (by omega)
      refine ⟨item :: before, item', after, inside, rfl, ?_, ?_⟩
      · rw [render_cons, List.length_append]
        omega
      · rwa [render_cons, byteAt_append_right (by omega)]

/-- A slot is one entry. -/
theorem Item.Ok.slot_first {raw : List UInt8} (h : (Item.slot raw).Ok) (rest : List UInt8)
    {inside : Nat} (haligned : inside % 32 = 0) (hlt : inside < raw.length) :
    inside = 0 ∧ byteAt (raw ++ rest) inside = byteAt raw 0 := by
  have hraw : raw.length = 32 := h.1
  have hzero : inside = 0 := by omega
  have hdata : (raw ++ rest).drop 0 = (Item.slot raw).bytes ++ rest := List.drop_zero
  rw [hzero, byteAt_item h hdata]
  exact ⟨rfl, rfl⟩

/-- The bytes from a set of a row on. -/
theorem drop_render (before after : List Item) (e : EntrySet) :
    (render (before ++ .set e :: after)).drop (render before).length = e.bytes ++ render after := by
  rw [render_append, List.drop_left' rfl]
  rfl

/-- A set of a row is a File entry of the rendered cluster. -/
theorem fileEntryAt_set {before after : List Item} {e : EntrySet}
    (hitems : ∀ item ∈ before ++ .set e :: after, item.Ok) :
    FileEntryAt (render (before ++ .set e :: after)) (render before).length := by
  have hdrop := drop_render before after e
  have hbytes := e.length_bytes
  have hlen := length_of_drop hdrop (by omega)
  refine ⟨?_, by omega, EntrySet.byteAt_type hdrop⟩
  exact Nat.mod_eq_zero_of_dvd
    (length_render fun item hitem => hitems item (List.mem_append_left _ hitem)).2

/-- A File entry of a rendered cluster is the first entry of one of its sets. -/
theorem fileEntryAt_render {items : List Item} (hitems : ∀ item ∈ items, item.Ok) {offset : Nat}
    (h : FileEntryAt (render items) offset) :
    ∃ before e after, items = before ++ .set e :: after ∧ offset = (render before).length := by
  obtain ⟨haligned, hlt, hfile⟩ := h
  obtain ⟨before, item, after, inside, rfl, hoffset, hinside, hlast, hbyte⟩ :=
    aligned_item hitems haligned hlt
  have hitem := hitems item (List.mem_append_right _ List.mem_cons_self)
  rw [hbyte] at hfile
  cases item with
  | set e =>
    rcases e.type_at (render after) hinside hlast with ⟨rfl, -⟩ | ⟨-, hstream | hname⟩
    · exact ⟨before, e, after, rfl, hoffset⟩
    · exact absurd (hstream.symm.trans hfile) (by decide)
    · exact absurd (hname.symm.trans hfile) (by decide)
  | slot raw =>
    obtain ⟨-, htype⟩ := hitem.slot_first (render after) hinside hlast
    exact absurd (htype.symm.trans hfile) hitem.2

/-- An END marker of a rendered cluster is a slot. -/
theorem end_render {items : List Item} (hitems : ∀ item ∈ items, item.Ok) {offset : Nat}
    (haligned : offset % 32 = 0) (hlt : offset < (render items).length)
    (hend : byteAt (render items) offset = entryTypeEnd) :
    ∃ before item after, items = before ++ item :: after ∧ item.isEnd = true ∧
      offset = (render before).length := by
  obtain ⟨before, item, after, inside, rfl, hoffset, hinside, hlast, hbyte⟩ :=
    aligned_item hitems haligned hlt
  have hitem := hitems item (List.mem_append_right _ List.mem_cons_self)
  rw [hbyte] at hend
  cases item with
  | set e =>
    rcases e.type_at (render after) hinside hlast with ⟨-, hfile⟩ | ⟨-, hstream | hname⟩
    · exact absurd (hfile.symm.trans hend) (by decide)
    · exact absurd (hstream.symm.trans hend) (by decide)
    · exact absurd (hname.symm.trans hend) (by decide)
  | slot raw =>
    obtain ⟨rfl, htype⟩ := hitem.slot_first (render after) hinside hlast
    exact ⟨before, .slot raw, after, rfl, beq_iff_eq.mpr (htype.symm.trans hend), hoffset⟩

/-- Two cuts of one list: at the same place, or one before the other. -/
theorem append_cons_cases {α : Type} {a b a' b' : List α} {x x' : α}
    (h : a ++ x :: b = a' ++ x' :: b') :
    (a = a' ∧ x = x') ∨ (∃ m, a' = a ++ x :: m) ∨ ∃ m, a = a' ++ x' :: m := by
  rcases List.append_eq_append_iff.mp h with ⟨m, rfl, hm⟩ | ⟨m, rfl, hm⟩
  · cases m with
    | nil =>
      rw [List.nil_append] at hm
      exact Or.inl ⟨(List.append_nil _).symm, (List.cons.inj hm).1⟩
    | cons y m => exact Or.inr (Or.inl ⟨m, by rw [(List.cons.inj hm).1]⟩)
  · cases m with
    | nil =>
      rw [List.nil_append] at hm
      exact Or.inl ⟨List.append_nil _, (List.cons.inj hm).1.symm⟩
    | cons y m => exact Or.inr (Or.inr ⟨m, by rw [(List.cons.inj hm).1]⟩)

/-- Two sets of one directory stand at the same place, or one before the other. -/
theorem Place.fill_cases {p p' : Place} {e e' : EntrySet}
    (h : p.fill [.set e] = p'.fill [.set e']) :
    (p.cluster = p'.cluster ∧ p.before = p'.before) ∨ e ∈ p'.setsBefore ∨ e' ∈ p.setsBefore := by
  have hrow : ∀ q : Place, ∀ x : EntrySet, x ∈ sets (q.before ++ [.set x] ++ q.after) := by
    intro q x
    rw [sets_append, sets_append]
    exact List.mem_append_left _ (List.mem_append_right _ List.mem_cons_self)
  have hpre : ∀ {q q' : Place} {x : EntrySet} {m : Rows},
      q'.pre = q.pre ++ (q.cluster, q.before ++ [.set x] ++ q.after) :: m → x ∈ q'.setsBefore := by
    intro q q' x m hq
    rw [Place.setsBefore, hq, rowSets_append, rowSets_cons]
    exact List.mem_append_left _ (List.mem_append_right _ (List.mem_append_left _ (hrow q x)))
  have hbefore : ∀ {q q' : Place} {x : EntrySet} {m : List Item},
      q'.before = q.before ++ .set x :: m → x ∈ q'.setsBefore := by
    intro q q' x m hq
    rw [Place.setsBefore, hq, sets_append]
    exact List.mem_append_right _ (List.mem_append_right _ List.mem_cons_self)
  rcases append_cons_cases h with ⟨-, hsame⟩ | ⟨m, hm⟩ | ⟨m, hm⟩
  · obtain ⟨hcluster, hitems⟩ := Prod.mk.inj hsame
    simp only [List.append_assoc, List.singleton_append] at hitems
    rcases append_cons_cases hitems with ⟨hsame, -⟩ | ⟨m, hm⟩ | ⟨m, hm⟩
    · exact Or.inl ⟨hcluster, hsame⟩
    · exact Or.inr (Or.inl (hbefore hm))
    · exact Or.inr (Or.inr (hbefore hm))
  · exact Or.inr (Or.inl (hpre hm))
  · exact Or.inr (Or.inr (hpre hm))

/-! ## Live chains of a tree -/

/-- The filesystem stores a well-formed tree. -/
def IsTree [Lowercase] (g : VolumeParams) (fs : ExfatFs) : Prop :=
  ∃ t label, Stores g t fs ∧ Wf g t label

section

variable [Lowercase] {g : VolumeParams} {d : Disk} {t : Table} {label : Nat → List String}

omit [Lowercase] in
/-- A cluster chained to an object is one of the object's. -/
theorem Holds.chained_iff (h : Holds g d t) {size k c : Nat} {o : Obj} (hvalid : g.Valid size)
    (ho : t k = some o) : d.Chained k c ↔ c ∈ o.chain := by
  obtain ⟨rest, hrest⟩ := h.keyed k o ho
  have hchain := h.chained k o ho
  rw [hrest] at hchain ⊢
  exact ⟨fun hc => hc.mem hchain, hchain.chained hvalid⟩

/-- A File entry in a cluster of a directory is a set of the directory. -/
theorem Holds.entry_set (h : Holds g d t) (hwf : Wf g t label) {size k c offset : Nat} {rows : Rows}
    (hvalid : g.Valid size) (ho : t k = some (.dir rows)) (hc : d.Chained k c)
    (hfile : FileEntryAt (d.cluster c) offset) :
    ∃ (p : Place) (e : EntrySet), rows = p.fill [.set e] ∧ p.cluster = c ∧
      offset = (render p.before).length ∧
      (parseEntrySet (d.cluster c) offset).firstCluster = e.firstCluster ∧
      isDirectoryAt (d.cluster c) offset = e.isDir := by
  have hmem := (h.chained_iff hvalid ho).mp hc
  rw [Obj.chain_dir] at hmem
  obtain ⟨row, hrow, rfl⟩ := List.mem_map.mp hmem
  have hdata : d.cluster row.1 = render row.2 :=
    h.stored k _ ho _ (List.mem_map.mpr ⟨row, hrow, rfl⟩)
  have hitems := (hwf.shaped k rows ho).ok row hrow
  rw [hdata] at hfile ⊢
  obtain ⟨before, e, after, hrow2, hoffset⟩ := fileEntryAt_render hitems hfile
  obtain ⟨pre, post, hrows⟩ := List.append_of_mem hrow
  have hdrop : (render row.2).drop offset = e.bytes ++ render after := by
    rw [hrow2, render_append, hoffset, List.drop_left' rfl]
    rfl
  have hok : e.Ok := hitems (.set e) (hrow2 ▸ List.mem_append_right _ List.mem_cons_self)
  refine ⟨⟨pre, row.1, before, after, post⟩, e, ?_, rfl, hoffset, ?_, e.isDirectoryAt_eq hdrop⟩
  · rw [hrows, Place.fill, List.append_assoc, List.singleton_append, ← hrow2]
  · rw [EntrySet.parseEntrySet_eq hok hdrop]

/-- The live directories are directories of the tree. -/
theorem Holds.liveDirectory (h : Holds g d t) (hwf : Wf g t label) {size k : Nat}
    (hvalid : g.Valid size) (hlive : d.LiveDirectory g.firstClusterOfRoot k) :
    ∃ rows, t k = some (.dir rows) := by
  induction hlive with
  | root => exact hwf.root
  | entry _ hc hfile hdir ih =>
    obtain ⟨rows, ho⟩ := ih
    obtain ⟨p, e, rfl, -, -, hfirst, hisDir⟩ := h.entry_set hwf hvalid ho hc hfile
    rw [hfirst]
    exact (hwf.dir_of_mem ho (p.mem_fill e) (hisDir ▸ hdir)).2.2

/-- Where an owner's chain is in the tree. -/
inductive Owned (g : VolumeParams) (t : Table) : Owner → Nat → Prop
  | bitmap : Owned g t .bitmap 2
  | upcase {o} : t 3 = some o → Owned g t .upcase 3
  | root {o} : t g.firstClusterOfRoot = some o → Owned g t .root g.firstClusterOfRoot
  | entry {k o} (p : Place) (e : EntrySet) : t k = some (.dir (p.fill [.set e])) →
      e.firstCluster ≠ 0 → g.firstClusterOfRoot < e.firstCluster → t e.firstCluster = some o →
      Owned g t (.entry p.cluster (render p.before).length) e.firstCluster

theorem Holds.owned_of_owns (h : Holds g d t) (hwf : Wf g t label) {size first c : Nat}
    {a : Owner} (hvalid : g.Valid size) (howns : d.Owns g.firstClusterOfRoot a first)
    (hc : d.Chained first c) : Owned g t a first := by
  cases howns with
  | bitmap => exact .bitmap
  | upcase =>
    obtain ⟨o, ho⟩ := hwf.upcase
    exact .upcase ho
  | root =>
    obtain ⟨rows, ho⟩ := hwf.root
    exact .root ho
  | entry hlive hchained hfile =>
    obtain ⟨rows, ho⟩ := h.liveDirectory hwf hvalid hlive
    obtain ⟨p, e, rfl, rfl, rfl, hfirst, -⟩ := h.entry_set hwf hvalid ho hchained hfile
    rw [hfirst] at hc ⊢
    have hne : e.firstCluster ≠ 0 := by
      intro hzero
      have hlink := hc.isLink_first
      rw [hzero] at hlink
      cases hlink
    obtain ⟨hroot, ⟨o, hobject⟩, -⟩ := (hwf.entries _ _ ho e (p.mem_fill e)).2.object hne
    exact .entry p e ho hne hroot hobject

/-- Sets of a tree that refer to one object stand at one place. -/
theorem Wf.same_place (hwf : Wf g t label) {k k' : Nat} {p p' : Place} {e e' : EntrySet}
    (ho : t k = some (.dir (p.fill [.set e]))) (ho' : t k' = some (.dir (p'.fill [.set e'])))
    (hne : e.firstCluster ≠ 0) (hsame : e.firstCluster = e'.firstCluster) :
    p.cluster = p'.cluster ∧ p.before = p'.before := by
  by_cases hk : k = k'
  · subst hk
    have hrows : p.fill [.set e] = p'.fill [.set e'] := by
      rw [ho] at ho'
      injection ho' with hobject
      injection hobject
    have honce := hwf.once k _ ho
    have honce' := hwf.once k _ ho'
    rw [Place.rowSets_fill, List.append_assoc] at honce honce'
    rcases Place.fill_cases hrows with hplace | hmem | hmem
    · exact hplace
    · have hdistinct := (List.pairwise_append.mp honce').2.2 e hmem e' List.mem_cons_self
      exact absurd (hdistinct hsame) hne
    · have hdistinct := (List.pairwise_append.mp honce).2.2 e' hmem e List.mem_cons_self
      exact absurd (hdistinct hsame.symm) (hsame ▸ hne)
  · have hdistinct := hwf.across k k' _ _ hk ho ho' e (p.mem_fill e) e' (p'.mem_fill e')
    exact absurd (hdistinct hsame) hne

/-- The chains of two owners that start at one cluster are one owner's. -/
theorem Owned.unique {size first : Nat} {a b : Owner} (hwf : Wf g t label) (hvalid : g.Valid size)
    (ha : Owned g t a first) (hb : Owned g t b first) : a = b := by
  have hroot := hvalid.rootLo
  cases ha with
  | bitmap =>
    generalize htwo : 2 = first at hb
    cases hb with
    | bitmap => rfl
    | upcase _ => omega
    | root _ => omega
    | entry p e _ _ hbehind _ => omega
  | upcase _ =>
    generalize hthree : 3 = first at hb
    cases hb with
    | bitmap => omega
    | upcase _ => rfl
    | root _ => omega
    | entry p e _ _ hbehind _ => omega
  | root _ =>
    generalize hself : g.firstClusterOfRoot = first at hb
    cases hb with
    | bitmap => omega
    | upcase _ => omega
    | root _ => rfl
    | entry p e _ _ hbehind _ => omega
  | entry p e ho hne hbehind _ =>
    generalize hsame : e.firstCluster = first at hb
    cases hb with
    | bitmap => omega
    | upcase _ => omega
    | root _ => omega
    | entry p' e' ho' _ _ _ =>
      obtain ⟨hcluster, hbefore⟩ := hwf.same_place ho ho' hne hsame
      rw [hcluster, hbefore]

omit [Lowercase] in
/-- The clusters of an owner's chain: the bitmap's own, or those of an object. -/
theorem Owned.cluster {first c size : Nat} {a : Owner} (h : Holds g d t) (hvalid : g.Valid size)
    (howned : Owned g t a first) (hc : d.Chained first c) :
    (first = 2 ∧ c = 2) ∨ ∃ o, t first = some o ∧ c ∈ o.chain := by
  cases howned with
  | bitmap =>
    have honly : d.IsChain g [2] :=
      ⟨h.bitmapEnd, fun x hx => by
        have hlo := hvalid.rootLo
        have hhi := hvalid.rootHi
        rw [List.mem_singleton.mp hx]
        exact ⟨Nat.le_refl 2, by omega⟩, List.pairwise_singleton ..⟩
    exact Or.inl ⟨rfl, List.mem_singleton.mp (hc.mem honly)⟩
  | upcase ho => exact Or.inr ⟨_, ho, (h.chained_iff hvalid ho).mp hc⟩
  | root ho => exact Or.inr ⟨_, ho, (h.chained_iff hvalid ho).mp hc⟩
  | entry p e _ _ _ ho => exact Or.inr ⟨_, ho, (h.chained_iff hvalid ho).mp hc⟩

/-- **One owner for each cluster.** In a tree no cluster is on the chains of two owners. -/
theorem Holds.exclusive (h : Holds g d t) (hwf : Wf g t label) {size : Nat} (hvalid : g.Valid size) :
    d.Exclusive g.firstClusterOfRoot := by
  intro a b first first' c howns howns' hc hc'
  have howned := h.owned_of_owns hwf hvalid howns hc
  have howned' := h.owned_of_owns hwf hvalid howns' hc'
  have hsame : first = first' := by
    rcases howned.cluster h hvalid hc with ⟨rfl, rfl⟩ | ⟨o, ho, hmem⟩ <;>
      rcases howned'.cluster h hvalid hc' with ⟨rfl, htwo⟩ | ⟨o', ho', hmem'⟩
    · rfl
    · exact absurd rfl (h.owned _ _ ho' _ hmem').1
    · exact absurd htwo (h.owned _ _ ho _ hmem).1
    · exact h.apart _ _ _ _ ho ho' c hmem hmem'
  subst hsame
  exact howned.unique hwf hvalid howned'

omit [Lowercase] in
/-- Every live chain has an owner. -/
theorem Disk.LiveChain.owner {root first : Nat} (h : d.LiveChain root first) :
    ∃ a, d.Owns root a first := by
  cases h with
  | bitmap => exact ⟨_, .bitmap⟩
  | upcase => exact ⟨_, .upcase⟩
  | root => exact ⟨_, .root⟩
  | entry hlive hc hfile => exact ⟨_, .entry hlive hc hfile⟩

/-- Fresh clusters are on no live chain. -/
theorem Holds.fresh_not_live (h : Holds g d t) (hwf : Wf g t label) {size : Nat}
    (hvalid : g.Valid size) {chain : List Nat} (hfresh : d.Fresh g chain) {first c : Nat}
    (hmem : c ∈ chain) (hlive : d.LiveChain g.firstClusterOfRoot first) : ¬ d.Chained first c := by
  intro hc
  obtain ⟨a, howns⟩ := hlive.owner
  rcases (h.owned_of_owns hwf hvalid howns hc).cluster h hvalid hc with ⟨-, rfl⟩ | ⟨o, ho, hmem'⟩
  · have hroot := hvalid.rootLo
    have hbehind := hfresh.behindRoot 2 hmem
    omega
  · exact h.notMem_fresh hfresh ho hmem' hmem

variable {fs : ExfatFs}

/-- No cluster of a stored tree belongs to two live chains. -/
theorem IsTree.exclusive (h : IsTree g fs) : fs.disk.Exclusive fs.firstClusterOfRoot := by
  obtain ⟨t, label, ⟨d, hrep, hholds⟩, hwf⟩ := h
  have hparams := hrep.params
  have hvalid := hrep.valid
  subst hparams
  rw [hrep.disk]
  exact hholds.exclusive hwf hvalid

/-- An allocation on a stored tree hands out no cluster of a live chain. -/
theorem IsTree.unowned (h : IsTree g fs) (count : Nat) :
    Ensures (allocateClusters count) fs fun first fs' =>
      ∀ c, fs'.disk.Chained first c → ¬ fs.Live c := by
  obtain ⟨t, label, ⟨d, hrep, hholds⟩, hwf⟩ := h
  have hparams := hrep.params
  have hvalid := hrep.valid
  subst hparams
  refine (allocateClusters_ensures hrep count).mono ?_
  rintro first fs' ⟨rest, -, hfresh, hrep'⟩ c hc ⟨first', hlive, hc'⟩
  have hchain : (d.alloc (first :: rest)).IsChain fs.toVolumeParams (first :: rest) :=
    ⟨linked_linkAll rfl hfresh.nodup _, hfresh.inHeap, hfresh.nodup⟩
  rw [hrep'.disk] at hc
  rw [hrep.disk] at hlive hc'
  exact hholds.fresh_not_live hwf hvalid hfresh (hc.mem hchain) hlive hc'

/-! ## Runs -/

/-- Every successful operation keeps the tree. -/
theorem Operation.run_ensures (op : Operation) (h : IsTree g fs) (hfits : g.BitmapFits)
    (hbytes : g.clusterCount * g.clusterSize < 2 ^ 64) :
    Ensures op.run fs fun _ fs' => IsTree g fs' := by
  obtain ⟨t, label, h, hwf⟩ := h
  cases op with
  | writeFilePath path data createParents overwrite =>
    refine (h.writeFilePath_ensures hfits hbytes hwf path data createParents overwrite).mono ?_
    rintro _ fs' ⟨_, _, _, _, _, t', label', h', -, _, _, -, -, -, hwf', -⟩
    exact ⟨t', label', h', hwf'⟩
  | stream target totalSize chunks =>
    cases target with
    | root name overwrite =>
      obtain ⟨rows, hroot⟩ := hwf.root
      have hparams := h.params
      intro _ fs' hrun
      rw [Operation.run, Target.writer, ExfatFileWriter.createOverwrite, bind_assoc, run_get_bind,
        hparams] at hrun
      obtain ⟨t', label', h', _, _, -, -, -, hwf', -⟩ := h.session_ensures hfits hbytes hwf hroot name
        totalSize overwrite (fun hne => absurd rfl hne) chunks _ fs' hrun
      exact ⟨t', label', h', hwf'⟩
    | path path createParents overwrite =>
      refine (h.sessionAtPath_ensures hfits hbytes hwf path totalSize createParents overwrite
        chunks).mono ?_
      rintro _ fs' ⟨_, _, _, _, _, t', label', h', -, _, _, -, -, -, hwf', -⟩
      exact ⟨t', label', h', hwf'⟩
  | createDirectory path createParents =>
    refine (h.createDirectory_ensures hfits hwf path createParents).mono ?_
    rintro _ fs' ⟨_, _, _, _, _, t', label', _, h', -, -, hwf', -⟩
    exact ⟨t', label', h', hwf'⟩
  | deletePath path =>
    refine (h.deletePath_ensures hfits hwf path).mono ?_
    rintro _ fs' ⟨t', h', hwf', -⟩
    exact ⟨t', label, h', hwf'⟩
  | deleteRecursive depth path =>
    refine (deleteRecursive_ensures hfits depth path t fs h hwf).mono ?_
    rintro _ fs' ⟨t', h', hwf', -⟩
    exact ⟨t', label, h', hwf'⟩

/-- Every run of successful operations keeps the tree. -/
theorem Succeeds.isTree {fs' : ExfatFs} (hrun : Succeeds fs fs') (h : IsTree g fs)
    (hfits : g.BitmapFits) (hbytes : g.clusterCount * g.clusterSize < 2 ^ 64) : IsTree g fs' := by
  induction hrun with
  | nil => exact h
  | step op _ hop ih => exact op.run_ensures ih hfits hbytes () _ hop

/-- A new volume is a tree. -/
theorem formattedFs_isTree {file : Image} {base sectors : Nat} (serial : Nat) (label : String)
    (h : Volume.Sized sectors) (hroom : base + sectors * 512 ≤ file.size) (clock : List Nat) :
    IsTree (Volume.params base sectors) (formattedFs file base sectors serial label clock) :=
  ⟨_, _, formatted_stores serial label h hroom clock, Volume.table_wf base sectors label _⟩

omit [Lowercase] in
/-- The bitmap of a volume fits the volume's parameters. -/
theorem Volume.params_fits {sectors : Nat} (h : BitmapFits sectors) (base : Nat) :
    (params base sectors).BitmapFits := h

omit [Lowercase] in
/-- The heap of a volume is smaller than `2 ^ 64` bytes. -/
theorem Volume.params_bytes {sectors : Nat} (h : Sized sectors) (base : Nat) :
    (params base sectors).clusterCount * (params base sectors).clusterSize < 2 ^ 64 := by
  have hend := heap_end sectors h
  have hlt := h.lt32
  show clusterCount sectors * getClusterSize sectors < 2 ^ 64
  omega

/-- Ownership on image sizes whose bitmap fits its cluster. -/
theorem clusters_owned_once {totalSize : Nat} {layout : PartitionLayout} (hsize : totalSize < 2 ^ 64)
    (haccepted : (PartitionLayout.calculate totalSize).val = .ok layout)
    (hfits : PartitionLayout.BitmapFits totalSize) (label : String) (now : Option Nat) :
    ClusterOwnership totalSize layout label now := by
  obtain ⟨hmin, rfl⟩ := (PartitionLayout.calculate_eq_ok hsize layout).mp haccepted
  obtain ⟨hsized, hfits⟩ := (PartitionLayout.bitmapFits_iff hmin).mp hfits
  have htree : ∀ boot segments,
      (formatExfat (PartitionLayout.ofSize totalSize).dataOffset
        (PartitionLayout.ofSize totalSize).dataSize label now).val = (boot, segments) →
      ∀ file : Image, file.size = totalSize → ∀ clock fs fs',
        ExfatFs.openImage (writeSegments file segments) (.ofSize totalSize) clock = .ok fs →
        Succeeds fs fs' → IsTree (Volume.params (PartitionLayout.ofSize totalSize).dataOffset
          (PartitionLayout.ofSize totalSize).dataSizeSectors) fs' := by
    intro boot segments hformat file hfile clock fs fs' hopen hrun
    obtain ⟨-, hroom, rfl⟩ := opened_formatted hsize haccepted hsized.lt32 hformat hfile hopen
    have htree := formattedFs_isTree (volumeSerial now).val label hsized hroom clock
    exact hrun.isTree htree (Volume.params_fits hfits _) (Volume.params_bytes hsized _)
  refine ⟨?_, ?_⟩
  · intro boot segments hformat file hfile clock fs fs' hopen hrun
    exact (htree boot segments hformat file hfile clock fs fs' hopen hrun).exclusive
  · intro boot segments hformat file hfile clock fs fs' hopen hrun
    exact (htree boot segments hformat file hfile clock fs fs' hopen hrun).unowned

end

end StreamBox.Exfat
