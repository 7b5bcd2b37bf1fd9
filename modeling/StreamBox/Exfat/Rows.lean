import StreamBox.Exfat.Items

/-!
# Directories as rows of clusters

A directory is the row of its clusters, each with its items.

* **Shape** — END markers stand in the last cluster only, behind all other items; so
  every scan sees all sets.
* **Places** — an edit of a directory replaces the items at one place by others of the
  same size: a set by deleted entries, free slots by a set.
-/

namespace StreamBox.Exfat

/-- The clusters of a directory with their items. -/
abbrev Rows := List (Nat × List Item)

/-- The sets of a directory, in the order of the scans. -/
def rowSets (rows : Rows) : List EntrySet := rows.flatMap fun row => sets row.2

@[simp] theorem rowSets_nil : rowSets [] = [] := rfl

@[simp] theorem rowSets_cons (row : Nat × List Item) (rows : Rows) :
    rowSets (row :: rows) = sets row.2 ++ rowSets rows := rfl

@[simp] theorem rowSets_append (a b : Rows) : rowSets (a ++ b) = rowSets a ++ rowSets b := by
  simp [rowSets]

/-- END markers stand in the last cluster only, and behind all other items. -/
structure Shaped (rows : Rows) : Prop where
  ok : ∀ row ∈ rows, ∀ item ∈ row.2, item.Ok
  opened : ∀ row ∈ rows.dropLast, ∀ item ∈ row.2, item.isEnd = false
  ordered : ∀ row ∈ rows, row.2.Pairwise fun a b => a.isEnd = true → b.isEnd = true

/-! ## Places -/

/-- A place in a directory: what stands before and behind it. -/
structure Place where
  pre : Rows
  cluster : Nat
  before : List Item
  after : List Item
  post : Rows

namespace Place

/-- The directory with these items at the place. -/
def fill (p : Place) (items : List Item) : Rows :=
  p.pre ++ (p.cluster, p.before ++ items ++ p.after) :: p.post

/-- The sets before the place. -/
def setsBefore (p : Place) : List EntrySet := rowSets p.pre ++ sets p.before

/-- The sets behind the place. -/
def setsAfter (p : Place) : List EntrySet := sets p.after ++ rowSets p.post

@[simp] theorem rowSets_fill (p : Place) (items : List Item) :
    rowSets (p.fill items) = p.setsBefore ++ sets items ++ p.setsAfter := by
  simp [fill, setsBefore, setsAfter]

end Place

/-- Items that are no END marker may be put where nothing before the place is one. -/
theorem Shaped.refill {p : Place} {old new : List Item} (h : Shaped (p.fill old))
    (hnew : ∀ item ∈ new, item.Ok ∧ item.isEnd = false)
    (hbefore : ∀ item ∈ p.before, item.isEnd = false) : Shaped (p.fill new) := by
  have hrow : (p.cluster, p.before ++ old ++ p.after) ∈ p.fill old :=
    List.mem_append_right _ List.mem_cons_self
  have hok := h.ok _ hrow
  have hordered := h.ordered _ hrow
  refine ⟨?_, ?_, ?_⟩
  · intro row hmem item hitem
    rcases List.mem_append.mp hmem with hpre | hrest
    · exact h.ok row (List.mem_append_left _ hpre) item hitem
    · rcases List.mem_cons.mp hrest with rfl | hpost
      · rcases List.mem_append.mp hitem with hitem | hafter
        · rcases List.mem_append.mp hitem with hbefore' | hitem
          · exact hok item (List.mem_append_left _ (List.mem_append_left _ hbefore'))
          · exact (hnew item hitem).1
        · exact hok item (List.mem_append_right _ hafter)
      · exact h.ok row (List.mem_append_right _ (List.mem_cons_of_mem _ hpost)) item hitem
  · have hopened := h.opened
    intro row hmem
    simp only [Place.fill, List.dropLast_append_cons] at hopened hmem
    rcases List.mem_append.mp hmem with hpre | hrest
    · exact hopened row (List.mem_append_left _ hpre)
    · cases hpost : p.post with
      | nil =>
        rw [hpost] at hrest
        cases hrest
      | cons next rest =>
        rw [hpost, List.dropLast_cons_cons] at hrest hopened
        rcases List.mem_cons.mp hrest with rfl | hrest
        · intro item hitem
          rcases List.mem_append.mp hitem with hitem | hafter
          · rcases List.mem_append.mp hitem with hbefore' | hitem
            · exact hbefore item hbefore'
            · exact (hnew item hitem).2
          · exact hopened (p.cluster, p.before ++ old ++ p.after)
              (List.mem_append_right _ List.mem_cons_self) item (List.mem_append_right _ hafter)
        · exact hopened row (List.mem_append_right _ (List.mem_cons_of_mem _ hrest))
  · intro row hmem
    rcases List.mem_append.mp hmem with hpre | hrest
    · exact h.ordered row (List.mem_append_left _ hpre)
    · rcases List.mem_cons.mp hrest with rfl | hpost
      · have hafter := (List.pairwise_append.mp hordered).2.1
        have hnone : ∀ item ∈ p.before ++ new, item.isEnd = false := by
          intro item hitem
          rcases List.mem_append.mp hitem with hitem | hitem
          · exact hbefore item hitem
          · exact (hnew item hitem).2
        have hne : ∀ a ∈ p.before ++ new, ∀ b : Item, a.isEnd = true → b.isEnd = true := by
          intro a ha b hend
          rw [hnone a ha] at hend
          cases hend
        refine List.pairwise_append.mpr ⟨?_, hafter, fun a ha b _ => hne a ha b⟩
        exact List.pairwise_of_forall_mem_list fun a ha b _ => hne a ha b
      · exact h.ordered row (List.mem_append_right _ (List.mem_cons_of_mem _ hpost))

/-- Before a set there is no END marker. -/
theorem Shaped.before_set {p : Place} {e : EntrySet} (h : Shaped (p.fill [.set e])) :
    ∀ item ∈ p.before, item.isEnd = false := by
  intro item hitem
  have hordered := h.ordered _ (List.mem_append_right _ List.mem_cons_self)
  have hpair := (List.pairwise_append.mp (List.pairwise_append.mp hordered).1).2.2 item hitem
    (.set e) List.mem_cons_self
  cases hend : item.isEnd with
  | false => rfl
  | true => exact absurd (hpair hend) (by simp [Item.isEnd])

/-! ## Deleting a set -/

/-- The slots a deleted set leaves. -/
def EntrySet.deleted (e : EntrySet) : List Item :=
  .slot ((e.entries.headD []).set 0 entryTypeDeletedFile) ::
    e.entries.tail.map fun entry => .slot (entry.modify 0 deletedType)

/-- Rewriting the first byte of every entry of a row, from the `j`-th one on. -/
theorem foldl_markDeleted {entries : List (List UInt8)} (hlen : ∀ entry ∈ entries, entry.length = 32)
    {data rest : List UInt8} {o j : Nat} (hdata : data.length = o + j * 32) :
    (List.range' j entries.length).foldl (fun data i =>
      if o + i * 32 < data.length then data.modify (o + i * 32) deletedType else data)
      (data ++ (entries.flatten ++ rest))
    = data ++ ((entries.map fun entry => entry.modify 0 deletedType).flatten ++ rest) := by
  induction entries generalizing data j with
  | nil => rfl
  | cons entry entries ih =>
    have hentry := hlen entry List.mem_cons_self
    have hroom : o + j * 32 < (data ++ ((entry :: entries).flatten ++ rest)).length := by
      simp only [List.length_append, List.flatten_cons, hdata, hentry]
      omega
    have hmodify : (data ++ ((entry :: entries).flatten ++ rest)).modify (o + j * 32) deletedType
        = (data ++ entry.modify 0 deletedType) ++ (entries.flatten ++ rest) := by
      cases entry with
      | nil => simp at hentry
      | cons byte entry =>
        rw [← hdata, List.flatten_cons, List.append_assoc, List.append_assoc]
        exact List.modifyTailIdx_add (List.modifyHead deletedType) 0 data _
    rw [List.length_cons, List.range'_succ, List.foldl_cons, if_pos hroom, hmodify,
      ih (fun x hx => hlen x (List.mem_cons_of_mem _ hx))
        (by rw [List.length_append, List.length_modify, hentry, hdata]; omega)]
    simp

/-- Marking a rendered set as deleted leaves its deleted slots. -/
theorem markDeleted_eq (e : EntrySet) (before after : List UInt8) :
    markDeleted (before ++ (e.bytes ++ after)) before.length (1 + e.chunks.length)
      = before ++ (render e.deleted ++ after) := by
  obtain ⟨stamp, checksum, hentries⟩ := e.entries_eq
  have hlen : ∀ entry ∈ e.entries, entry.length = 32 := fun _ => EntrySet.length_of_mem_entries
  have hcount := e.length_entries
  simp only [EntrySet.deleted, EntrySet.bytes]
  cases hcases : e.entries with
  | nil =>
    rw [hcases, List.length_nil] at hcount
    omega
  | cons entry entries =>
    rw [hcases] at hlen hcount
    have hentry := hlen entry List.mem_cons_self
    have hset : (before ++ ((entry :: entries).flatten ++ after)).set before.length
        entryTypeDeletedFile
        = (before ++ entry.set 0 entryTypeDeletedFile) ++ (entries.flatten ++ after) := by
      cases entry with
      | nil => simp at hentry
      | cons byte entry => simp
    rw [List.length_cons] at hcount
    have hcount' : 1 + e.chunks.length = entries.length := by omega
    rw [markDeleted, hset, hcount', foldl_markDeleted
      (fun x hx => hlen x (List.mem_cons_of_mem _ hx)) (by simp [hentry])]
    simp [render, Item.bytes, List.flatMap_def, Function.comp_def]

theorem length_markDeleted (data : List UInt8) (offset secondaryCount : Nat) :
    (markDeleted data offset secondaryCount).length = data.length := by
  have hfold : ∀ (l : List Nat) (data : List UInt8), (l.foldl (fun data i =>
      if offset + i * 32 < data.length then data.modify (offset + i * 32) deletedType else data)
      data).length = data.length := by
    intro l
    induction l with
    | nil => exact fun _ => rfl
    | cons i l ih =>
      intro data
      rw [List.foldl_cons, ih]
      split
      · rw [List.length_modify]
      · rfl
  rw [markDeleted, hfold, List.length_set]

/-- The slots of a deleted set are no File entries and no END markers. -/
theorem EntrySet.deleted_ok (e : EntrySet) : ∀ item ∈ e.deleted, item.Ok ∧ item.isEnd = false := by
  obtain ⟨stamp, checksum, hentries⟩ := e.entries_eq
  intro item hitem
  rw [deleted, hentries, List.headD_cons, List.tail_cons, List.map_cons, List.mem_cons,
    List.mem_cons, List.map_map] at hitem
  rcases hitem with rfl | rfl | hitem
  · refine ⟨⟨?_, ?_⟩, rfl⟩
    · rw [List.length_set, length_fileEntry]
    · show entryTypeDeletedFile ≠ entryTypeFile
      decide
  · refine ⟨⟨?_, ?_⟩, rfl⟩
    · rw [List.length_modify, length_streamEntry]
    · show entryTypeDeletedStream ≠ entryTypeFile
      decide
  · obtain ⟨chunk, hchunk, rfl⟩ := List.mem_map.mp hitem
    refine ⟨⟨?_, ?_⟩, rfl⟩
    · rw [List.length_modify, length_nameEntry (chunk_ok hchunk).1]
    · show entryTypeDeletedName ≠ entryTypeFile
      decide

/-! ## Writing a set -/

/-- Writing a row of entries over as many bytes. -/
theorem copyEntries_eq {entries : List (List UInt8)} (hlen : ∀ entry ∈ entries, entry.length = 32)
    (before after : List UInt8) {old : List UInt8} (hold : old.length = 32 * entries.length) :
    copyEntries (before ++ (old ++ after)) before.length entries
      = before ++ (entries.flatten ++ after) := by
  induction entries generalizing before old with
  | nil =>
    have hnil : old = [] := List.eq_nil_of_length_eq_zero (by simpa using hold)
    rw [copyEntries, hnil, List.flatten_nil]
  | cons entry entries ih =>
    have hentry := hlen entry List.mem_cons_self
    rw [List.length_cons] at hold
    have hcopy : copyAt (before ++ (old ++ after)) before.length entry
        = (before ++ entry) ++ (old.drop 32 ++ after) := by
      rw [copyAt, List.take_left, hentry, ← List.drop_drop, List.drop_left,
        List.drop_append_of_le_length (by omega)]
    have hnext : before.length + 32 = (before ++ entry).length := by
      rw [List.length_append, hentry]
    rw [copyEntries, hcopy, hnext,
      ih (fun x hx => hlen x (List.mem_cons_of_mem _ hx)) _ (by rw [List.length_drop]; omega)]
    simp

/-! ## Clearing END markers -/

/-- An END marker becomes an invalid entry. -/
def Item.clear : Item → Item
  | set e => set e
  | slot raw => if byteAt raw 0 = entryTypeEnd then slot (raw.set 0 0xFF) else slot raw

/-- Blocks of whole entries are cleared one by one. -/
theorem clearEndMarkers_append {a : List UInt8} (h : 32 ∣ a.length) (b : List UInt8) :
    clearEndMarkers (a ++ b) = clearEndMarkers a ++ clearEndMarkers b := by
  obtain ⟨n, hn⟩ := h
  rw [clearEndMarkers, List.mapIdx_append]
  congr 1
  rw [clearEndMarkers]
  congr 1
  funext i byte
  rw [hn, Nat.add_mul_mod_self_left]

/-- Only the type byte of an entry can be an END marker. -/
theorem clearEndMarkers_entry {raw : List UInt8} (h : raw.length = 32) :
    clearEndMarkers raw = if byteAt raw 0 = entryTypeEnd then raw.set 0 0xFF else raw := by
  cases raw with
  | nil => simp at h
  | cons byte rest =>
    have hrest : rest.mapIdx (fun i byte =>
        if (i + 1) % 32 = 0 ∧ byte = entryTypeEnd then 0xFF else byte) = rest := by
      apply List.ext_getElem
      · rw [List.length_mapIdx]
      · intro i hi hi'
        rw [List.length_cons] at h
        have hne : ¬ ((i + 1) % 32 = 0 ∧ rest[i] = entryTypeEnd) := by omega
        rw [List.getElem_mapIdx, if_neg hne]
    have hbyte : byteAt (byte :: rest) 0 = byte := rfl
    rw [clearEndMarkers, List.mapIdx_cons, hrest, hbyte]
    by_cases hend : byte = entryTypeEnd
    · rw [if_pos ⟨rfl, hend⟩, if_pos hend]
      rfl
    · rw [if_neg (fun h => hend h.2), if_neg hend]

theorem clearEndMarkers_entries {entries : List (List UInt8)}
    (h : ∀ entry ∈ entries, entry.length = 32 ∧ byteAt entry 0 ≠ entryTypeEnd) :
    clearEndMarkers entries.flatten = entries.flatten := by
  induction entries with
  | nil => rfl
  | cons entry entries ih =>
    obtain ⟨hlen, hne⟩ := h entry List.mem_cons_self
    rw [List.flatten_cons, clearEndMarkers_append ⟨1, hlen⟩, clearEndMarkers_entry hlen,
      if_neg hne, ih fun x hx => h x (List.mem_cons_of_mem _ hx)]

/-- Clearing the bytes of an item clears the item. -/
theorem clearEndMarkers_item {item : Item} (h : item.Ok) :
    clearEndMarkers item.bytes = item.clear.bytes := by
  cases item with
  | set e =>
    refine clearEndMarkers_entries fun entry hentry => ⟨EntrySet.length_of_mem_entries hentry, ?_⟩
    obtain ⟨stamp, checksum, hentries⟩ := e.entries_eq
    rw [hentries, List.mem_cons, List.mem_cons] at hentry
    rcases hentry with rfl | rfl | hentry
    · show entryTypeFile ≠ entryTypeEnd
      decide
    · show entryTypeStream ≠ entryTypeEnd
      decide
    · obtain ⟨chunk, -, rfl⟩ := List.mem_map.mp hentry
      show entryTypeFileName ≠ entryTypeEnd
      decide
  | slot raw =>
    rw [Item.bytes, clearEndMarkers_entry h.1, Item.clear]
    split <;> rfl

theorem clearEndMarkers_render {items : List Item} (h : ∀ item ∈ items, item.Ok) :
    clearEndMarkers (render items) = render (items.map Item.clear) := by
  induction items with
  | nil => rfl
  | cons item rest ih =>
    have hitem := h item List.mem_cons_self
    rw [render_cons, clearEndMarkers_append hitem.length_bytes.2, clearEndMarkers_item hitem,
      ih fun x hx => h x (List.mem_cons_of_mem _ hx), List.map_cons, render_cons]

/-- A cleared item is none of the END markers, and of the same kind. -/
theorem Item.clear_ok {item : Item} (h : item.Ok) : item.clear.Ok ∧ item.clear.isEnd = false := by
  cases item with
  | set e => exact ⟨h, rfl⟩
  | slot raw =>
    obtain ⟨hlen, hfile⟩ := h
    rw [clear]
    split
    · have hbyte : byteAt (raw.set 0 0xFF) 0 = 0xFF := by
        cases raw with
        | nil => simp at hlen
        | cons byte rest => rfl
      refine ⟨⟨by rw [List.length_set, hlen], ?_⟩, ?_⟩
      · rw [hbyte]
        decide
      · rw [isEnd, hbyte]
        decide
    · rename_i hend
      exact ⟨⟨hlen, hfile⟩, by simpa [isEnd] using hend⟩

@[simp] theorem sets_map_clear (items : List Item) : sets (items.map Item.clear) = sets items := by
  induction items with
  | nil => rfl
  | cons item rest ih =>
    cases item with
    | set e => exact congrArg (e :: ·) ih
    | slot raw =>
      rw [List.map_cons, Item.clear]
      split <;> exact ih

/-! ## Extending a directory -/

/-- The blank slots of a new cluster. -/
def blankSlots (clusterSize : Nat) : List Item :=
  List.replicate (clusterSize / 32) (.slot (List.replicate 32 0))

theorem render_blankSlots {clusterSize : Nat} (h : 32 ∣ clusterSize) :
    render (blankSlots clusterSize) = List.replicate clusterSize 0 := by
  obtain ⟨n, rfl⟩ := h
  rw [blankSlots, Nat.mul_div_cancel_left _ (by decide)]
  induction n with
  | zero => rfl
  | succ n ih =>
    rw [List.replicate_succ, render_cons, ih, Nat.mul_succ, Nat.add_comm, List.replicate_add]
    rfl

@[simp] theorem sets_blankSlots (clusterSize : Nat) : sets (blankSlots clusterSize) = [] := by
  unfold blankSlots
  induction clusterSize / 32 with
  | zero => rfl
  | succ n ih => exact ih

/-- The blank slots are END markers. -/
theorem blankSlots_ok (clusterSize : Nat) :
    ∀ item ∈ blankSlots clusterSize, item.Ok ∧ item.isEnd = true := by
  intro item hitem
  rw [(List.mem_replicate.mp hitem).2]
  exact ⟨⟨rfl, by decide⟩, rfl⟩

/-- A directory extended by a blank cluster, its old END markers cleared. -/
def extendRows (rows : Rows) (new clusterSize : Nat) : Rows :=
  rows.map (fun row => (row.1, row.2.map Item.clear)) ++ [(new, blankSlots clusterSize)]

@[simp] theorem rowSets_extendRows (rows : Rows) (new clusterSize : Nat) :
    rowSets (extendRows rows new clusterSize) = rowSets rows := by
  have hmap : rowSets (rows.map fun row => (row.1, row.2.map Item.clear)) = rowSets rows := by
    induction rows with
    | nil => rfl
    | cons row rows ih => rw [List.map_cons, rowSets_cons, rowSets_cons, sets_map_clear, ih]
  rw [extendRows, rowSets_append, hmap, rowSets_cons, sets_blankSlots, rowSets_nil]
  simp

/-- An extended directory has its END markers in the new cluster. -/
theorem Shaped.extend {rows : Rows} (h : Shaped rows) (new clusterSize : Nat) :
    Shaped (extendRows rows new clusterSize) := by
  have hcleared : ∀ row ∈ rows.map (fun row => (row.1, row.2.map Item.clear)),
      ∀ item ∈ row.2, item.Ok ∧ item.isEnd = false := by
    intro row hrow item hitem
    obtain ⟨old, hold, rfl⟩ := List.mem_map.mp hrow
    obtain ⟨oldItem, holdItem, rfl⟩ := List.mem_map.mp hitem
    exact Item.clear_ok (h.ok old hold oldItem holdItem)
  have hblank := blankSlots_ok clusterSize
  refine ⟨?_, ?_, ?_⟩
  · intro row hrow item hitem
    rcases List.mem_append.mp hrow with hrow | hrow
    · exact (hcleared row hrow item hitem).1
    · rw [List.mem_singleton] at hrow
      subst hrow
      exact (hblank item hitem).1
  · intro row hrow item hitem
    rw [extendRows, List.dropLast_concat] at hrow
    exact (hcleared row hrow item hitem).2
  · intro row hrow
    rcases List.mem_append.mp hrow with hrow | hrow
    · refine List.pairwise_of_forall_mem_list fun a ha b _ hend => ?_
      rw [(hcleared row hrow a ha).2] at hend
      cases hend
    · rw [List.mem_singleton] at hrow
      subst hrow
      exact List.pairwise_of_forall_mem_list fun a _ b hb _ => (hblank b hb).2

/-- A new directory of one blank cluster. -/
theorem Shaped.blank (new clusterSize : Nat) : Shaped [(new, blankSlots clusterSize)] := by
  have hnil : Shaped [] :=
    ⟨fun _ h => (nomatch h), fun _ h => (nomatch h), fun _ h => (nomatch h)⟩
  exact hnil.extend new clusterSize

end StreamBox.Exfat
