import StreamBox.Exfat.Objects
import StreamBox.Exfat.Rows

/-!
# Directory operations on the table

The scans and edits of a directory, on the rows of the directory object.

* **Scans** — a lookup finds the first set of that name, and a listing has the named
  sets in order, in a directory of the right shape.
* **Creating** — a new set stands in free slots of a cluster, or at the start of a new
  cluster; the other sets keep their order.
* **Deleting** — the set at the place found is taken out, and no other.
-/

namespace StreamBox.Exfat

/-! ## Lookup -/

/-- END markers are free, and no sets. -/
theorem Item.isFree_of_isEnd {item : Item} (h : item.isEnd = true) : item.isFree = true := by
  cases item with
  | set e => cases h
  | slot raw =>
    have hbyte : byteAt raw 0 = entryTypeEnd := by simpa [isEnd] using h
    rw [isFree, hbyte]
    rfl

theorem sets_of_isEnd {items : List Item} (h : ∀ item ∈ items, item.isEnd = true) :
    sets items = [] := by
  induction items with
  | nil => rfl
  | cons item rest ih =>
    cases item with
    | set e => cases h _ List.mem_cons_self
    | slot raw => exact ih fun x hx => h x (List.mem_cons_of_mem _ hx)

section

variable [Lowercase]

/-- Where a lookup says the set at a place is. -/
def Place.locate (p : Place) (e : EntrySet) : FileEntryLocation :=
  e.locate p.cluster (render p.before).length

/-- The outcome of a lookup: the place of the first set of that name, or none. -/
inductive Finds (targetLower : String) (rows : Rows) : Option FileEntryLocation → Prop
  | found (p : Place) (e : EntrySet) : rows = p.fill [.set e] → e.Named targetLower →
      (∀ e' ∈ p.setsBefore, ¬ e'.Named targetLower) → Finds targetLower rows (some (p.locate e))
  | absent : (∀ e ∈ rowSets rows, ¬ e.Named targetLower) → Finds targetLower rows none

/-- How the lookup in one cluster ends. -/
theorem findItems_cases (targetLower : String) (cluster i : Nat) {items : List Item}
    (hitems : ∀ item ∈ items, item.Ok) :
    (∃ before e after, items = before ++ .set e :: after ∧ e.Named targetLower ∧
      (∀ e' ∈ sets before, ¬ e'.Named targetLower) ∧
      findItems targetLower cluster i items
        = .found (e.locate cluster (i + (render before).length))) ∨
    (∃ before raw after, items = before ++ .slot raw :: after ∧ byteAt raw 0 = entryTypeEnd ∧
      (∀ e' ∈ sets before, ¬ e'.Named targetLower) ∧
      findItems targetLower cluster i items = .endMarker) ∨
    ((∀ e ∈ sets items, ¬ e.Named targetLower) ∧
      findItems targetLower cluster i items = .exhausted) := by
  induction items generalizing i with
  | nil => exact Or.inr (Or.inr ⟨fun e he => (nomatch he), rfl⟩)
  | cons item rest ih =>
    have ih := fun i => ih i fun x hx => hitems x (List.mem_cons_of_mem _ hx)
    cases item with
    | set e =>
      by_cases hnamed : e.Named targetLower
      · refine Or.inl ⟨[], e, rest, rfl, hnamed, fun e' he' => (nomatch he'), ?_⟩
        rw [findItems, if_pos hnamed, render_nil, List.length_nil, Nat.add_zero]
      · rw [findItems, if_neg hnamed]
        have hmore : ∀ before, (∀ e' ∈ sets before, ¬ e'.Named targetLower) →
            ∀ e' ∈ sets (.set e :: before), ¬ e'.Named targetLower := by
          intro before hbefore e' he'
          rcases List.mem_cons.mp he' with rfl | he'
          · exact hnamed
          · exact hbefore e' he'
        rcases ih (i + e.bytes.length) with
          ⟨before, e', after, rfl, he', hbefore, heq⟩ | ⟨before, raw, after, rfl, hraw, hbefore, heq⟩ |
          ⟨hnone, heq⟩
        · refine Or.inl ⟨.set e :: before, e', after, rfl, he', hmore before hbefore, ?_⟩
          rw [heq, render_cons, List.length_append, Nat.add_assoc]
          rfl
        · exact Or.inr (Or.inl ⟨.set e :: before, raw, after, rfl, hraw, hmore before hbefore, heq⟩)
        · exact Or.inr (Or.inr ⟨hmore rest hnone, heq⟩)
    | slot raw =>
      by_cases hend : byteAt raw 0 = entryTypeEnd
      · refine Or.inr (Or.inl ⟨[], raw, rest, rfl, hend, fun e' he' => (nomatch he'), ?_⟩)
        rw [findItems, if_pos hend]
      · have hlen : raw.length = 32 := (hitems _ List.mem_cons_self).1
        rw [findItems, if_neg hend]
        rcases ih (i + 32) with
          ⟨before, e', after, rfl, he', hbefore, heq⟩ | ⟨before, raw', after, rfl, hraw, hbefore, heq⟩ |
          ⟨hnone, heq⟩
        · refine Or.inl ⟨.slot raw :: before, e', after, rfl, he', hbefore, ?_⟩
          rw [heq, render_cons, List.length_append, Item.bytes, hlen, Nat.add_assoc]
        · exact Or.inr (Or.inl ⟨.slot raw :: before, raw', after, rfl, hraw, hbefore, heq⟩)
        · exact Or.inr (Or.inr ⟨hnone, heq⟩)

variable {g : VolumeParams} {t : Table} {fs : ExfatFs} {k : Nat} {rows : Rows}

omit [Lowercase] in
theorem Stores.readRow_eq (h : Stores g t fs) (ho : t k = some (.dir rows)) {row : Nat × List Item}
    (hrow : row ∈ rows) : (readCluster row.1).run fs = .ok (render row.2) fs :=
  h.readCluster_eq ho (List.mem_map.mpr ⟨row, hrow, rfl⟩)

/-- The lookup over the clusters from one on; the ones before it have no such set. -/
theorem Stores.findInClusters_eq (h : Stores g t fs) (ho : t k = some (.dir rows))
    (hshaped : Shaped rows) (targetLower : String) (pre post : Rows) (hrows : rows = pre ++ post)
    (hpre : ∀ e ∈ rowSets pre, ¬ e.Named targetLower) : ∃ found,
      (findInClusters targetLower (post.map Prod.fst)).run fs = .ok found fs ∧
        Finds targetLower rows found := by
  induction post generalizing pre with
  | nil =>
    rw [List.append_nil] at hrows
    subst hrows
    exact ⟨none, rfl, .absent hpre⟩
  | cons row rest ih =>
    have hrow : row ∈ rows := hrows ▸ List.mem_append_right _ List.mem_cons_self
    have hitems := hshaped.ok row hrow
    have hfuel : row.2.length ≤ (render row.2).length := by
      have := (length_render hitems).1
      omega
    have hscan : findInCluster targetLower row.1 (render row.2) (render row.2).length 0
        = findItems targetLower row.1 0 row.2 :=
      findInCluster_eq targetLower row.1 hitems List.drop_zero hfuel
    rw [List.map_cons, findInClusters, bind_of_ok (h.readRow_eq ho hrow), hscan]
    obtain ⟨cluster, items⟩ := row
    rcases findItems_cases targetLower cluster 0 hitems with
      ⟨before, e, after, hsplit, hnamed, hbefore, heq⟩ | ⟨before, raw, after, hsplit, hraw, hbefore, heq⟩ |
      ⟨hnone, heq⟩
    · rw [Nat.zero_add] at heq
      refine ⟨_, by rw [heq]; rfl, .found ⟨pre, cluster, before, after, rest⟩ e ?_ hnamed ?_⟩
      · simp [hrows, Place.fill, show items = _ from hsplit]
      · intro e' he'
        rcases List.mem_append.mp he' with he' | he'
        · exact hpre e' he'
        · exact hbefore e' he'
    · -- an END marker: nothing but END markers follows, in this cluster the last
      refine ⟨none, by rw [heq]; rfl, .absent ?_⟩
      have hlast : rest = [] := by
        cases rest with
        | nil => rfl
        | cons next rest =>
          have hmem : (cluster, items) ∈ rows.dropLast := by
            rw [hrows, List.dropLast_append_cons, List.dropLast_cons_cons]
            exact List.mem_append_right _ List.mem_cons_self
          have hopen := hshaped.opened _ hmem (.slot raw)
            (by rw [show items = _ from hsplit]; exact List.mem_append_right _ List.mem_cons_self)
          simp [Item.isEnd, hraw] at hopen
      have hordered := hshaped.ordered _ hrow
      rw [show items = _ from hsplit] at hordered
      have hafter : sets after = [] := by
        refine sets_of_isEnd fun item hitem => ?_
        refine (List.pairwise_cons.mp (List.pairwise_append.mp hordered).2.1).1 item hitem ?_
        simp [Item.isEnd, hraw]
      intro e he
      rw [hrows, hlast, rowSets_append, rowSets_cons, rowSets_nil, List.append_nil,
        show items = _ from hsplit, sets_append, show sets (.slot raw :: after) = sets after from rfl,
        hafter, List.append_nil] at he
      rcases List.mem_append.mp he with he | he
      · exact hpre e he
      · exact hbefore e he
    · rw [heq]
      refine ih (pre ++ [(cluster, items)]) (by rw [hrows, List.append_assoc]; rfl) ?_
      intro e he
      rw [rowSets_append, rowSets_cons, rowSets_nil, List.append_nil] at he
      rcases List.mem_append.mp he with he | he
      · exact hpre e he
      · exact hnone e he

/-- Looking up a name finds the first set of that name. -/
theorem Stores.findEntryInDirectory_returns (h : Stores g t fs) (ho : t k = some (.dir rows))
    (hshaped : Shaped rows) (name : String) :
    Returns (findEntryInDirectory k name) fs fun found fs' =>
      Stores g t fs' ∧ Finds (toLowercase name) rows found := by
  refine Returns.bind (h.readClusterChain_returns ho) ?_
  rintro chain fs' ⟨rfl, h'⟩
  obtain ⟨found, hrun, hfinds⟩ := h'.findInClusters_eq ho hshaped (toLowercase name) [] rows rfl
    fun e he => (nomatch he)
  rw [Obj.chain_dir]
  exact Returns.of_eq hrun ⟨h', hfinds⟩

end

/-! ## Listing -/

section

variable {g : VolumeParams} {t : Table} {fs : ExfatFs} {k : Nat} {rows : Rows}

/-- The records of the sets that have a name. -/
def infos (currentPath : String) (sets : List EntrySet) : List FileInfo :=
  (sets.filter fun e => decodedName e.name ≠ "").map (·.info currentPath)

/-- The listing of one cluster: its sets, unless an END marker cuts off the first. -/
theorem listItems_eq (isFirst : Bool) (currentPath : String) {items : List Item}
    (hordered : items.Pairwise fun a b => a.isEnd = true → b.isEnd = true)
    (files : List FileInfo) : ∃ ended,
      listItems isFirst currentPath items files = (files ++ infos currentPath (sets items), ended) ∧
        (ended = true → ∃ item ∈ items, item.isEnd = true) := by
  induction items generalizing files with
  | nil => exact ⟨false, by simp [listItems, infos, sets], fun h => nomatch h⟩
  | cons item rest ih =>
    obtain ⟨hfirst, hrest⟩ := List.pairwise_cons.mp hordered
    cases item with
    | set e =>
      obtain ⟨ended, heq, hended⟩ := ih hrest
        (if decodedName e.name = "" then files else files ++ [e.info currentPath])
      refine ⟨ended, ?_, fun h => ?_⟩
      · rw [listItems, heq]
        by_cases hname : decodedName e.name = "" <;> simp [infos, sets, hname]
      · obtain ⟨item, hitem, hend⟩ := hended h
        exact ⟨item, List.mem_cons_of_mem _ hitem, hend⟩
    | slot raw =>
      rw [listItems]
      by_cases hend : byteAt raw 0 = entryTypeEnd ∧ isFirst = true
      · have hraw : (Item.slot raw).isEnd = true := by simp [Item.isEnd, hend.1]
        have hnil : sets rest = [] := sets_of_isEnd fun x hx => hfirst x hx hraw
        refine ⟨true, ?_, fun _ => ⟨_, List.mem_cons_self, hraw⟩⟩
        rw [if_pos hend, sets, hnil]
        simp [infos]
      · obtain ⟨ended, heq, hended⟩ := ih hrest files
        rw [if_neg hend]
        refine ⟨ended, heq, fun h => ?_⟩
        obtain ⟨item, hitem, hend⟩ := hended h
        exact ⟨item, List.mem_cons_of_mem _ hitem, hend⟩

theorem Stores.listInClusters_eq (h : Stores g t fs) (ho : t k = some (.dir rows))
    (hshaped : Shaped rows) (currentPath : String) (isFirst : Bool) (pre post : Rows)
    (hrows : rows = pre ++ post) (files : List FileInfo) :
    (listInClusters currentPath isFirst (post.map Prod.fst) files).run fs
      = .ok (files ++ infos currentPath (rowSets post)) fs := by
  induction post generalizing pre files isFirst with
  | nil => simp [listInClusters, infos]
  | cons row rest ih =>
    have hrow : row ∈ rows := hrows ▸ List.mem_append_right _ List.mem_cons_self
    have hitems := hshaped.ok row hrow
    have hfuel : row.2.length ≤ (render row.2).length := by
      have := (length_render hitems).1
      omega
    have hscan : listInCluster isFirst currentPath (render row.2) (render row.2).length 0 files
        = listItems isFirst currentPath row.2 files :=
      listInCluster_eq isFirst currentPath hitems List.drop_zero hfuel files
    obtain ⟨ended, heq, hended⟩ := listItems_eq isFirst currentPath (hshaped.ordered row hrow) files
    rw [List.map_cons, listInClusters, bind_of_ok (h.readRow_eq ho hrow), hscan, heq]
    cases ended with
    | true =>
      obtain ⟨item, hitem, hend⟩ := hended rfl
      have hlast : rest = [] := by
        cases rest with
        | nil => rfl
        | cons next rest =>
          have hmem : row ∈ rows.dropLast := by
            rw [hrows, List.dropLast_append_cons, List.dropLast_cons_cons]
            exact List.mem_append_right _ List.mem_cons_self
          rw [hshaped.opened row hmem item hitem] at hend
          cases hend
      simp [hlast]
    | false =>
      refine (ih false (pre ++ [row]) (by rw [hrows, List.append_assoc]; rfl) _).trans ?_
      rw [rowSets_cons, List.append_assoc]
      simp [infos]

/-- Listing a directory gives the records of its named sets. -/
theorem Stores.listFilesInDirectory_returns (h : Stores g t fs) (ho : t k = some (.dir rows))
    (hshaped : Shaped rows) (currentPath : String) :
    Returns (listFilesInDirectory k currentPath) fs fun files fs' =>
      Stores g t fs' ∧ files = infos currentPath (rowSets rows) := by
  refine Returns.bind (h.readClusterChain_returns ho) ?_
  rintro chain fs' ⟨rfl, h'⟩
  have hrun := h'.listInClusters_eq ho hshaped currentPath true [] rows rfl []
  rw [Obj.chain_dir]
  exact Returns.of_eq hrun ⟨h', rfl⟩

end

/-! ## Free slots -/

/-- Free slots of 32 bytes. -/
theorem length_render_free {items : List Item} (h : ∀ item ∈ items, item.Ok ∧ item.isFree = true) :
    (render items).length = 32 * items.length ∧ sets items = [] := by
  induction items with
  | nil => exact ⟨rfl, rfl⟩
  | cons item rest ih =>
    obtain ⟨hlen, hsets⟩ := ih fun x hx => h x (List.mem_cons_of_mem _ hx)
    cases item with
    | set e => exact absurd (h _ List.mem_cons_self).2 (by simp [Item.isFree])
    | slot raw =>
      have hraw : raw.length = 32 := (h _ List.mem_cons_self).1.1
      refine ⟨?_, hsets⟩
      rw [render_cons, List.length_append, Item.bytes, hraw, hlen, List.length_cons]
      omega

/-- The search of one cluster finds a run of free slots behind an item that is not free.
`run` are the free slots just passed, `passed` the items before them. -/
theorem freeSlotItems_some {needed : Nat} {items : List Item} (passed run : List Item)
    (start : Nat) {found : Nat} (hitems : ∀ item ∈ items, item.Ok) (hrun : ∀ item ∈ run, item.isFree = true)
    (hshort : run.length < needed)
    (hpassed : ∀ last, passed.getLast? = some last → last.isFree = false)
    (hstart : run ≠ [] → start = (render passed).length)
    (h : freeSlotItems needed (render (passed ++ run)).length run.length start items = some found) :
    ∃ before free after, passed ++ run ++ items = before ++ free ++ after ∧
      free.length = needed ∧ (∀ item ∈ free, item.isFree = true) ∧ found = (render before).length ∧
      ∀ last, before.getLast? = some last → last.isFree = false := by
  induction items generalizing passed run start with
  | nil =>
    rw [freeSlotItems, if_neg (by omega)] at h
    cases h
  | cons item rest ih =>
    have ih := fun passed run start =>
      ih passed run start fun x hx => hitems x (List.mem_cons_of_mem _ hx)
    have hskip : item.isFree = false →
        freeSlotItems needed (render (passed ++ run ++ [item])).length 0 start rest = some found →
        ∃ before free after, passed ++ run ++ item :: rest = before ++ free ++ after ∧
          free.length = needed ∧ (∀ item ∈ free, item.isFree = true) ∧
          found = (render before).length ∧
          ∀ last, before.getLast? = some last → last.isFree = false := by
      intro hfree h
      obtain ⟨before, free, after, heq, hspec⟩ := ih (passed ++ run ++ [item]) [] start
        (by simp) (Nat.lt_of_le_of_lt (Nat.zero_le _) hshort)
        (by
          intro last hlast
          rw [List.getLast?_concat] at hlast
          cases hlast
          exact hfree)
        (fun hne => absurd rfl hne) (by rwa [List.append_nil])
      exact ⟨before, free, after, by rw [← heq]; simp, hspec⟩
    cases item with
    | set e =>
      refine hskip rfl ?_
      rw [render_append, render_cons, render_nil, List.append_nil, List.length_append]
      exact h
    | slot raw =>
      have hraw : raw.length = 32 := (hitems _ List.mem_cons_self).1
      have hnext : (render (passed ++ run ++ [.slot raw])).length
          = (render (passed ++ run)).length + 32 := by
        rw [render_append (passed ++ run), render_cons, render_nil, List.append_nil,
          List.length_append, Item.bytes, hraw]
      rw [freeSlotItems] at h
      by_cases hfree : isFreeType (byteAt raw 0) = true
      · have hrun' : ∀ item ∈ run ++ [.slot raw], item.isFree = true := by
          intro item hitem
          rcases List.mem_append.mp hitem with hitem | hitem
          · exact hrun item hitem
          · rw [List.mem_singleton.mp hitem]
            exact hfree
        have hstart' : (if run.length = 0 then (render (passed ++ run)).length else start)
            = (render passed).length := by
          by_cases hnil : run = []
          · rw [hnil, List.length_nil, if_pos rfl, List.append_nil]
          · rw [if_neg (fun h => hnil (List.eq_nil_of_length_eq_zero h)), hstart hnil]
        rw [if_pos hfree, hstart'] at h
        by_cases hdone : run.length + 1 ≥ needed
        · rw [if_pos hdone] at h
          refine ⟨passed, run ++ [.slot raw], rest, by simp, ?_, hrun', (Option.some.inj h).symm,
            hpassed⟩
          rw [List.length_append, List.length_singleton]
          omega
        · rw [if_neg hdone, ← hnext, List.append_assoc] at h
          obtain ⟨before, free, after, heq, hspec⟩ := ih passed (run ++ [.slot raw]) _ hrun'
            (by rw [List.length_append, List.length_singleton]; omega) hpassed (fun _ => rfl)
            (by rwa [List.length_append, List.length_singleton])
          exact ⟨before, free, after, by rw [← heq]; simp, hspec⟩
      · rw [if_neg hfree, ← hnext] at h
        exact hskip (by simpa [Item.isFree] using hfree) h

/-- Nothing before a run of free slots found is an END marker. -/
theorem not_isEnd_of_ordered {items : List Item}
    (hordered : items.Pairwise fun a b => a.isEnd = true → b.isEnd = true)
    (hlast : ∀ last, items.getLast? = some last → last.isFree = false) :
    ∀ item ∈ items, item.isEnd = false := by
  intro item hitem
  obtain ⟨init, last, rfl⟩ : ∃ init last, items = init ++ [last] :=
    ⟨_, _, (List.dropLast_concat_getLast (List.ne_nil_of_mem hitem)).symm⟩
  have hfree : last.isFree = false := hlast last List.getLast?_concat
  have hopen : last.isEnd = false := by
    cases hend : last.isEnd with
    | false => rfl
    | true =>
      rw [Item.isFree_of_isEnd hend] at hfree
      cases hfree
  rcases List.mem_append.mp hitem with hinit | hsame
  · cases hend : item.isEnd with
    | false => rfl
    | true =>
      have := (List.pairwise_append.mp hordered).2.2 item hinit last List.mem_cons_self hend
      rw [hopen] at this
      cases this
  · rw [List.mem_singleton.mp hsame]
    exact hopen

/-- A place with enough free slots, and no END marker before it. -/
structure Place.Free (p : Place) (slots : List Item) (needed : Nat) : Prop where
  count : slots.length = needed
  free : ∀ item ∈ slots, item.isFree = true
  opened : ∀ item ∈ p.before, item.isEnd = false

section

variable {g : VolumeParams} {t : Table} {fs : ExfatFs} {k : Nat} {rows : Rows}

/-- The search over the clusters finds a place for that many entries, or nothing. -/
theorem Stores.freeSlotInClusters_eq (h : Stores g t fs) (ho : t k = some (.dir rows))
    (hshaped : Shaped rows) {needed : Nat} (hneeded : 0 < needed) (pre post : Rows)
    (hrows : rows = pre ++ post) : ∃ found,
      (freeSlotInClusters needed (post.map Prod.fst)).run fs = .ok found fs ∧
        ∀ slot, found = some slot → ∃ (p : Place) (slots : List Item), rows = p.fill slots ∧ p.Free slots needed ∧
          slot = (p.cluster, (render p.before).length) := by
  induction post generalizing pre with
  | nil => exact ⟨none, rfl, fun slot h => nomatch h⟩
  | cons row rest ih =>
    have hrow : row ∈ rows := hrows ▸ List.mem_append_right _ List.mem_cons_self
    have hitems := hshaped.ok row hrow
    have hfuel : row.2.length < (render row.2).length := by
      have hlen := (length_render hitems).1
      have hfull := h.length_row ho (List.mem_map.mpr ⟨row, hrow, rfl⟩)
      have := h.valid.sizeLo
      omega
    rw [List.map_cons, freeSlotInClusters, bind_of_ok (h.readRow_eq ho hrow)]
    have hscan : freeSlotInCluster (render row.2) needed (render row.2).length 0 0 0
        = freeSlotItems needed 0 0 0 row.2 :=
      freeSlotInCluster_eq needed hitems List.drop_zero hfuel
    rw [hscan]
    cases hfound : freeSlotItems needed 0 0 0 row.2 with
    | none => exact ih (pre ++ [row]) (by rw [hrows, List.append_assoc]; rfl)
    | some offset =>
      obtain ⟨before, free, after, heq, hcount, hfree, hoffset, hlast⟩ :=
        freeSlotItems_some [] [] 0 hitems
          (fun x hx => nomatch hx) hneeded (fun last h => nomatch h) (fun h => absurd rfl h) hfound
      rw [List.nil_append, List.nil_append] at heq
      have hordered := hshaped.ordered row hrow
      rw [heq, List.append_assoc] at hordered
      refine ⟨some (row.1, offset), rfl, fun slot hslot => ?_⟩
      refine ⟨⟨pre, row.1, before, after, rest⟩, free, ?_, ⟨hcount, hfree, ?_⟩, ?_⟩
      · rw [hrows, Place.fill, ← heq]
      · exact not_isEnd_of_ordered (List.pairwise_append.mp hordered).1 hlast
      · rw [← hoffset]
        exact (Option.some.inj hslot).symm

/-! ## Edits -/

/-- The rows of a directory object, as bytes. -/
theorem Place.rows_fill (p : Place) (items : List Item) :
    (Obj.dir (p.fill items)).rows
      = p.pre.map (fun row => (row.1, render row.2)) ++
        (p.cluster, render p.before ++ (render items ++ render p.after)) ::
          p.post.map fun row => (row.1, render row.2) := by
  simp [fill]

/-- Writing the cluster of a place with the bytes of other items at the place. -/
theorem Stores.writePlace_returns (h : Stores g t fs) {p : Place} {old new : List Item}
    (ho : t k = some (.dir (p.fill old))) (hlen : (render new).length = (render old).length) :
    Returns (writeCluster p.cluster (render p.before ++ (render new ++ render p.after))) fs
      fun _ fs' => Stores g (Function.update t k (some (.dir (p.fill new)))) fs' := by
  have hrow := p.rows_fill old
  have hfull : (render p.before ++ (render new ++ render p.after)).length = g.clusterSize := by
    have := h.length_row ho (hrow ▸ List.mem_append_right _ List.mem_cons_self)
    simp only [List.length_append] at this ⊢
    omega
  refine h.writeCluster_returns ho _ (Nat.le_of_eq hfull) hrow ?_
  rw [VolumeParams.pad_of_full hfull, p.rows_fill new]

/-- Clearing the END markers cluster by cluster; the clusters `done` are cleared already,
and the cluster behind the last one is new. -/
theorem Stores.clearEndMarkers_returns (h : Stores g t fs) {new : Nat × List Item}
    (hok : ∀ row ∈ rows, ∀ item ∈ row.2, item.Ok)
    (ho : t k = some (.dir (rows ++ [new]))) :
    Returns ((rows.map Prod.fst).forM fun cluster => do
        let data ← readCluster cluster
        writeCluster cluster (clearEndMarkers data)) fs fun _ fs' =>
      Stores g (Function.update t k (some (.dir
        (rows.map (fun row => (row.1, row.2.map Item.clear)) ++ [new])))) fs' := by
  have hloop := Returns.forM (f := fun cluster => do
      let data ← readCluster cluster
      writeCluster cluster (clearEndMarkers data))
    (fun clusters s => ∃ done todo : Rows, rows = done ++ todo ∧ clusters = todo.map Prod.fst ∧
      Stores g (Function.update t k (some (.dir
        (done.map (fun row => (row.1, row.2.map Item.clear)) ++ todo ++ [new])))) s) ?_
    (rows.map Prod.fst) fs ⟨[], rows, rfl, rfl, ?_⟩
  · refine hloop.mono ?_
    rintro _ fs' ⟨done, todo, hrows, htodo, h'⟩
    have hnil : todo = [] := List.map_eq_nil_iff.mp htodo.symm
    rw [hnil, List.append_nil] at hrows h'
    rwa [hrows]
  · rintro c clusters s ⟨done, todo, hrows, htodo, h'⟩
    cases todo with
    | nil => cases htodo
    | cons row rest =>
      obtain ⟨rfl, rfl⟩ := List.cons.inj htodo
      have ho' : Function.update t k (some (.dir
          (done.map (fun row => (row.1, row.2.map Item.clear)) ++ row :: rest ++ [new]))) k
          = some (.dir (Place.fill ⟨done.map (fun row => (row.1, row.2.map Item.clear)), row.1, [],
              [], rest ++ [new]⟩ row.2)) := by
        rw [Function.update_self]
        simp [Place.fill]
      have hmem : row ∈ done.map (fun row => (row.1, row.2.map Item.clear)) ++ row :: rest ++ [new] :=
        List.mem_append_left _ (List.mem_append_right _ List.mem_cons_self)
      have hitems := hok row (hrows ▸ List.mem_append_right _ List.mem_cons_self)
      have hread := h'.readRow_eq (Function.update_self ..) hmem
      have hlen : (render (row.2.map Item.clear)).length = (render row.2).length := by
        rw [← clearEndMarkers_render hitems, clearEndMarkers, List.length_mapIdx]
      obtain ⟨_, s', hwrite, h''⟩ := h'.writePlace_returns ho' hlen
      refine Returns.of_eq (a := ()) (t := s') ?_
        ⟨done ++ [row], rest, by rw [hrows, List.append_assoc]; rfl, rfl, ?_⟩
      · rw [bind_of_ok hread, clearEndMarkers_render hitems]
        simpa using hwrite
      · rw [Function.update_idem] at h''
        simpa [Place.fill] using h''
  · rw [List.map_nil, List.nil_append]
    rwa [Function.update_eq_self_iff.mpr ho.symm]

/-- A free slot is found in the directory, or in a new cluster of it. -/
theorem Stores.findFreeSlotInDirectory_ensures (h : Stores g t fs) (hfits : g.BitmapFits)
    (ho : t k = some (.dir rows)) (hshaped : Shaped rows) {needed : Nat} (hneeded : 0 < needed)
    (hroom : needed ≤ 128) :
    Ensures (findFreeSlotInDirectory k needed) fs fun slot fs' =>
      ∃ (p : Place) (slots : List Item),
        Stores g (Function.update t k (some (.dir (p.fill slots)))) fs' ∧
          Shaped (p.fill slots) ∧ rowSets (p.fill slots) = rowSets rows ∧ p.Free slots needed ∧
          slot = (p.cluster, (render p.before).length) := by
  refine Ensures.bind (h.readClusterChain_returns ho).ensures ?_
  rintro chain fs₁ ⟨rfl, h₁⟩
  rw [Obj.chain_dir]
  obtain ⟨found, hrun, hfound⟩ := h₁.freeSlotInClusters_eq ho hshaped hneeded [] rows rfl
  intro slot fs' hok
  rw [bind_of_ok hrun] at hok
  cases found with
  | some found =>
    obtain ⟨p, slots, rfl, hfree, hslot⟩ := hfound found rfl
    cases hok
    refine ⟨p, slots, ?_, hshaped, rfl, hfree, hslot⟩
    rwa [Function.update_eq_self_iff.mpr ho.symm]
  | none =>
    revert slot fs'
    show Ensures _ fs₁ _
    refine Ensures.bind (h₁.extendClusterChain_ensures hfits ho) ?_
    intro new fs₂ h₂
    have hblank := render_blankSlots h₁.valid.sizeEntries
    have h₂ := h₂ (.dir (rows ++ [(new, blankSlots g.clusterSize)])) (by simp [hblank])
    refine Ensures.bind (h₂.readClusterChain_returns (Function.update_self ..)).ensures ?_
    rintro chain fs₃ ⟨rfl, h₃⟩
    rw [Obj.chain_dir, List.map_append, List.map_cons, List.map_nil, List.dropLast_concat]
    refine Ensures.bind (h₃.clearEndMarkers_returns hshaped.ok (Function.update_self ..)).ensures ?_
    intro _ fs₄ h₄
    rw [Function.update_idem] at h₄
    have hsize := h₁.valid.sizeLo
    have hsplit : blankSlots g.clusterSize
        = (blankSlots g.clusterSize).take needed ++ (blankSlots g.clusterSize).drop needed :=
      (List.take_append_drop ..).symm
    have hfill : Place.fill ⟨rows.map (fun row => (row.1, row.2.map Item.clear)), new, [],
        (blankSlots g.clusterSize).drop needed, []⟩ ((blankSlots g.clusterSize).take needed)
        = extendRows rows new g.clusterSize := by
      rw [Place.fill, List.nil_append, ← hsplit, extendRows]
    refine Ensures.pure ⟨⟨rows.map (fun row => (row.1, row.2.map Item.clear)), new, [],
      (blankSlots g.clusterSize).drop needed, []⟩, (blankSlots g.clusterSize).take needed, ?_, ?_,
      ?_, ⟨?_, ?_, ?_⟩, rfl⟩
    · rw [hfill]
      exact h₄
    · rw [hfill]
      exact hshaped.extend new g.clusterSize
    · rw [hfill, rowSets_extendRows]
    · rw [List.length_take, blankSlots, List.length_replicate]
      omega
    · intro item hitem
      exact Item.isFree_of_isEnd (blankSlots_ok _ item (List.mem_of_mem_take hitem)).2
    · simp

theorem readClock_eq (fs : ExfatFs) :
    readClock.run fs = .ok (wrap32 (fs.clock.headD 0)) { fs with clock := fs.clock.tail } := rfl

/-- `new` has the sets of `old` and one more. -/
def Inserts (e : EntrySet) (old new : Rows) : Prop :=
  ∃ before after, rowSets old = before ++ after ∧ rowSets new = before ++ e :: after

/-- An entry set is written over free slots. -/
theorem Stores.writeEntries_returns (h : Stores g t fs) {p : Place} {slots : List Item}
    {e : EntrySet} (ho : t k = some (.dir (p.fill slots))) (hshaped : Shaped (p.fill slots))
    (hfree : p.Free slots e.entries.length) (hok : e.Ok) :
    Returns (do
        let data ← readCluster p.cluster
        writeCluster p.cluster (copyEntries data (render p.before).length e.entries)) fs
      fun _ fs' => Stores g (Function.update t k (some (.dir (p.fill [.set e])))) fs' ∧
        Shaped (p.fill [.set e]) ∧ Inserts e (p.fill slots) (p.fill [.set e]) := by
  have hmem : (p.cluster, p.before ++ slots ++ p.after) ∈ p.fill slots :=
    List.mem_append_right _ List.mem_cons_self
  have hread := h.readRow_eq ho hmem
  have hslots : ∀ item ∈ slots, item.Ok ∧ item.isFree = true := fun item hitem =>
    ⟨hshaped.ok _ hmem item (List.mem_append_left _ (List.mem_append_right _ hitem)),
      hfree.free item hitem⟩
  obtain ⟨hlen, hnone⟩ := length_render_free hslots
  have hset : render [.set e] = e.entries.flatten := List.append_nil _
  have hcopy : copyEntries (render (p.before ++ slots ++ p.after)) (render p.before).length e.entries
      = render p.before ++ (render [.set e] ++ render p.after) := by
    rw [render_append, render_append, List.append_assoc, hset]
    exact copyEntries_eq (fun _ => EntrySet.length_of_mem_entries) _ _ (by rw [hlen, hfree.count])
  have hlen' : (render [.set e]).length = (render slots).length := by
    rw [hset, length_flatten_of_entries (fun _ => EntrySet.length_of_mem_entries), hlen, hfree.count]
  obtain ⟨_, fs', hwrite, h'⟩ := h.writePlace_returns ho hlen'
  refine Returns.of_run hread (Returns.of_eq (t := fs') (a := ()) ?_
    ⟨h', hshaped.refill ?_ hfree.opened, p.setsBefore, p.setsAfter, ?_, ?_⟩)
  · exact (congrArg (fun data => (writeCluster p.cluster data).run fs) hcopy).trans hwrite
  · intro item hitem
    rw [List.mem_singleton.mp hitem]
    exact ⟨hok, rfl⟩
  · rw [Place.rowSets_fill, hnone, List.append_nil]
  · rw [Place.rowSets_fill]
    simp [sets]

/-- A created entry set is one more set of the directory. -/
theorem Stores.createEntryInDirectory_ensures (h : Stores g t fs) (hfits : g.BitmapFits)
    (ho : t k = some (.dir rows)) (hshaped : Shaped rows) (name : String)
    (firstCluster size : Nat) (isDir : Bool)
    (hok : ∀ now, (EntrySet.mk name firstCluster size isDir now).Ok) :
    Ensures (createEntryInDirectory k name firstCluster size isDir) fs fun _ fs' =>
      ∃ now rows', Stores g (Function.update t k (some (.dir rows'))) fs' ∧ Shaped rows' ∧
        Inserts ⟨name, firstCluster, size, isDir, now⟩ rows rows' := by
  refine Ensures.of_run (readClock_eq fs) ?_
  generalize wrap32 (fs.clock.headD 0) = now
  generalize he : EntrySet.mk name firstCluster size isDir now = e
  have hok : e.Ok := he ▸ hok now
  have hentries : createFileEntries name firstCluster size isDir now = e.entries := by
    rw [← he]
    rfl
  have hcount : e.entries.length = 2 + e.chunks.length := e.length_entries
  have hbounds := hok.chunks_bounds
  rw [hentries]
  refine Ensures.bind ((h.of_clock fs.clock.tail).findFreeSlotInDirectory_ensures hfits ho hshaped
    (by omega) (by omega)) ?_
  rintro slot fs₁ ⟨p, slots, h₁, hshaped₁, hsets, hfree, rfl⟩
  refine (h₁.writeEntries_returns (Function.update_self ..) hshaped₁ hfree hok).ensures.mono ?_
  rintro _ fs' ⟨h', hshaped', before, after, hbefore, hafter⟩
  rw [Function.update_idem] at h'
  exact ⟨now, p.fill [.set e], h', hshaped', before, after, hsets ▸ hbefore, by rw [hafter, he]⟩

/-- Deleting the entry at a place found leaves the other sets. -/
theorem Stores.deleteFileEntry_returns (h : Stores g t fs) {p : Place} {e : EntrySet}
    (ho : t k = some (.dir (p.fill [.set e]))) :
    Returns (deleteFileEntry (p.locate e)) fs fun _ fs' =>
      Stores g (Function.update t k (some (.dir (p.fill e.deleted)))) fs' := by
  have hmem : (p.cluster, p.before ++ [.set e] ++ p.after) ∈ p.fill [.set e] :=
    List.mem_append_right _ List.mem_cons_self
  have hread := h.readRow_eq ho hmem
  have hset : render [.set e] = e.bytes := List.append_nil _
  have hmark : markDeleted (render (p.before ++ [.set e] ++ p.after)) (render p.before).length
      (1 + e.chunks.length) = render p.before ++ (render e.deleted ++ render p.after) := by
    rw [render_append, render_append, List.append_assoc, hset]
    exact markDeleted_eq e _ _
  have hlen : (render e.deleted).length = (render [.set e]).length := by
    have hmarked := congrArg List.length hmark
    rw [length_markDeleted] at hmarked
    simp only [List.length_append, render_append] at hmarked
    omega
  obtain ⟨_, fs', hwrite, h'⟩ := h.writePlace_returns ho hlen
  refine Returns.of_eq (a := ()) ?_ h'
  simp only [deleteFileEntry, Place.locate, EntrySet.locate, bind_of_ok hread, hmark, hwrite]

end

end StreamBox.Exfat
