import StreamBox.Exfat.UniqueNames
import StreamBox.Exfat.RootRuns

/-!
# The structure of directories on the disk

What stands in the clusters of a live directory, byte by byte.

* **Entry sets** — every live set is whole: its secondary count and its checksum describe it,
  and it ends before the next one (`Reached.soundDirectory`).
* **END markers** — nothing live stands behind one.
* **Names** — in a run that creates only whole names, the listing has each name that a lookup
  finds, once (`directory_structure`).
-/

namespace StreamBox.Exfat

/-! ## Sets in the bytes -/

/-- The entries of the set at an offset. -/
def entriesAt (data : List UInt8) (offset : Nat) : List (List UInt8) :=
  (List.range (1 + secondaryCountAt data offset)).map fun j => (data.drop (offset + 32 * j)).take 32

/-- The set at an offset is a File entry, a Stream entry and as many Name entries as the name's
length asks for, within the cluster and under its checksum. -/
structure WholeSet (data : List UInt8) (offset : Nat) : Prop where
  inside : offset + 32 * (1 + secondaryCountAt data offset) ≤ data.length
  stream : byteAt data (offset + 32) = entryTypeStream
  names : ∀ j, 2 ≤ j → j ≤ secondaryCountAt data offset →
    byteAt data (offset + 32 * j) = entryTypeFileName
  count : secondaryCountAt data offset = 1 + ((byteAt data (offset + 35)).toNat + 14) / 15
  checksum : leAt data (offset + 2) 2 = calculateEntrySetChecksum (entriesAt data offset)

theorem drop_flatten {entries : List (List UInt8)} (hlen : ∀ entry ∈ entries, entry.length = 32)
    (rest : List UInt8) {j : Nat} (hj : j ≤ entries.length) :
    (entries.flatten ++ rest).drop (32 * j) = (entries.drop j).flatten ++ rest := by
  induction entries generalizing j with
  | nil =>
    cases Nat.le_zero.mp hj
    rfl
  | cons entry entries ih =>
    cases j with
    | zero => rfl
    | succ j =>
      have hentry : entry.length = 32 := hlen entry List.mem_cons_self
      have hsplit : 32 * (j + 1) = entry.length + 32 * j := by omega
      rw [List.flatten_cons, List.append_assoc, hsplit, ← List.drop_drop, List.drop_left]
      exact ih (fun x hx => hlen x (List.mem_cons_of_mem _ hx)) (Nat.le_of_succ_le_succ hj)

/-- The checksum field does not count. -/
theorem calculateEntrySetChecksum_congr (count attrs stamp checksum checksum' : Nat)
    (rest : List (List UInt8)) :
    calculateEntrySetChecksum (fileEntry count attrs stamp checksum :: rest)
      = calculateEntrySetChecksum (fileEntry count attrs stamp checksum' :: rest) := by
  have hfields : ∃ first second tail, ∀ checksum, ∃ low high,
      fileEntry count attrs stamp checksum = first :: second :: low :: high :: tail :=
    ⟨_, _, _, fun _ => ⟨_, _, rfl⟩⟩
  obtain ⟨first, second, tail, hfields⟩ := hfields
  obtain ⟨low, high, hentry⟩ := hfields checksum
  obtain ⟨low', high', hentry'⟩ := hfields checksum'
  rw [hentry, hentry']
  simp only [calculateEntrySetChecksum, List.zipIdx_cons, List.foldl_cons, Nat.zero_add, or_true,
    true_or, if_true, true_and]

theorem calculateEntrySetChecksum_lt (entries : List (List UInt8)) :
    calculateEntrySetChecksum entries < 2 ^ 16 := by
  refine List.foldlRecOn (motive := (· < 2 ^ 16)) _ _ (by decide)
    fun checksum hchecksum (entry, entryIdx) _ => ?_
  refine List.foldlRecOn (motive := (· < 2 ^ 16)) _ _ hchecksum
    fun checksum hchecksum (byte, byteIdx) _ => ?_
  show (if _ then _ else _) < _
  split
  · exact hchecksum
  · exact Nat.mod_lt _ (by decide)

section

variable {data rest : List UInt8} {o : Nat} {e : EntrySet}

/-- The entries of a set stand where the set does. -/
theorem EntrySet.entriesAt_eq (hok : e.Ok) (h : data.drop o = e.bytes ++ rest) :
    entriesAt data o = e.entries := by
  have hcount := e.secondaryCountAt_eq hok h
  refine List.ext_getElem ?_ fun j hj hj' => ?_
  · rw [entriesAt, List.length_map, List.length_range, hcount, e.length_entries]
    omega
  · have hlen : e.entries[j].length = 32 := e.length_of_mem_entries (List.getElem_mem hj')
    have hdrop := drop_flatten (fun _ => e.length_of_mem_entries) rest (Nat.le_of_lt hj')
    rw [List.drop_eq_getElem_cons hj', List.flatten_cons, List.append_assoc] at hdrop
    simp only [entriesAt, List.getElem_map, List.getElem_range]
    rw [← List.drop_drop, h, EntrySet.bytes, hdrop, ← hlen, List.take_left]

theorem byteAt_drop (data : List UInt8) (o k : Nat) :
    byteAt (data.drop o) k = byteAt data (o + k) := by
  rw [byteAt, byteAt, List.getD_eq_getElem?_getD, List.getD_eq_getElem?_getD, List.getElem?_drop]

theorem leAt_fileEntry (count attrs stamp : Nat) {checksum : Nat} (h : checksum < 2 ^ 16) :
    leAt (fileEntry count attrs stamp checksum) 2 2 = checksum := by
  have hlt : checksum < 256 ^ 2 := h
  have hfield : ((fileEntry count attrs stamp checksum).drop 2).take 2 = leBytes 2 checksum := rfl
  rw [leAt, hfield, ofLeBytes_leBytes_of_lt hlt]

/-- The checksum field of a set is the checksum of its entries. -/
theorem EntrySet.leAt_checksum (h : data.drop o = e.bytes ++ rest) :
    leAt data (o + 2) 2 = calculateEntrySetChecksum e.entries := by
  have hentries : ∃ count attrs stamp tail, e.entries
      = fileEntry count attrs stamp
          (calculateEntrySetChecksum (fileEntry count attrs stamp 0 :: tail)) :: tail :=
    ⟨_, _, _, _, rfl⟩
  obtain ⟨count, attrs, stamp, tail, hentries⟩ := hentries
  rw [EntrySet.bytes, hentries, List.flatten_cons, List.append_assoc] at h
  have hfield : 2 + 2 ≤ (fileEntry count attrs stamp
      (calculateEntrySetChecksum (fileEntry count attrs stamp 0 :: tail))).length := by
    rw [length_fileEntry]
    omega
  rw [leAt_of_drop h hfield, leAt_fileEntry _ _ _ (calculateEntrySetChecksum_lt _), hentries]
  exact calculateEntrySetChecksum_congr _ _ _ _ _ _

/-- The sets that the operations write are whole. -/
theorem EntrySet.wholeSet (hok : e.Ok) (h : data.drop o = e.bytes ++ rest) : WholeSet data o := by
  have hcount := e.secondaryCountAt_eq hok h
  have hbounds := hok.chunks_bounds
  obtain ⟨stamp, checksum, hfile, hstream, hnames⟩ := EntrySet.drop_bytes h
  refine ⟨?_, ?_, fun j hlo hhi => ?_, ?_, ?_⟩
  · have hlen := length_of_drop h (by rw [e.length_bytes]; omega)
    rw [e.length_bytes] at hlen
    omega
  · exact byteAt_of_drop (k := 0) hstream (by rw [length_streamEntry]; omega)
  · have hj : j - 2 < (e.chunks.map nameEntry).length := by
      rw [List.length_map]
      omega
    have hentry : ∀ entry ∈ e.chunks.map nameEntry, entry.length = 32 := by
      intro entry hentry
      obtain ⟨chunk, hchunk, rfl⟩ := List.mem_map.mp hentry
      exact length_nameEntry (chunk_ok hchunk).1
    have hsplit : o + 32 * j = o + 2 * 32 + 32 * (j - 2) := by omega
    rw [hsplit, ← byteAt_drop, hnames, byteAt_flatten hentry rest hj, List.getElem_map]
    rfl
  · have hlength : byteAt data (o + 32 + 3) = UInt8.ofNat (encodeUtf16 e.name).length :=
      byteAt_of_drop hstream (by rw [length_streamEntry]; omega)
    have hshort := hok.short
    rw [hcount, hlength, UInt8.toNat_ofNat', Nat.mod_eq_of_lt (by omega), EntrySet.chunks,
      length_nameChunks]
  · rw [EntrySet.leAt_checksum h, EntrySet.entriesAt_eq hok h]

end

/-! ## Directories -/

/-- The live sets of a directory are whole and apart, and none stands behind an END marker. -/
structure SoundDirectory (d : Disk) (dir : Nat) : Prop where
  whole : ∀ c offset, d.Chained dir c → FileEntryAt (d.cluster c) offset →
    WholeSet (d.cluster c) offset
  apart : ∀ c offset offset', d.Chained dir c → FileEntryAt (d.cluster c) offset →
    FileEntryAt (d.cluster c) offset' → offset < offset' →
    offset + 32 * (1 + secondaryCountAt (d.cluster c) offset) ≤ offset'
  ended : ∀ c i, d.Chained dir c → i % 32 = 0 → i < (d.cluster c).length →
    byteAt (d.cluster c) i = entryTypeEnd →
    (∀ offset, FileEntryAt (d.cluster c) offset → offset < i) ∧
      ∀ c' offset, d.Chained c c' → c' ≠ c → ¬ FileEntryAt (d.cluster c') offset

section

variable [Lowercase] {g : VolumeParams} {d : Disk} {t : Table} {label : Nat → List String}
  {fs : ExfatFs} {k : Nat} {rows : Rows}

omit [Lowercase] in
/-- A cluster of a directory is a row of the directory. -/
theorem Holds.row (h : Holds g d t) {size c : Nat} (hvalid : g.Valid size)
    (ho : t k = some (.dir rows)) (hc : d.Chained k c) :
    ∃ pre items post, rows = pre ++ (c, items) :: post ∧ d.cluster c = render items := by
  have hmem := (h.chained_iff hvalid ho).mp hc
  rw [Obj.chain_dir] at hmem
  obtain ⟨row, hrow, rfl⟩ := List.mem_map.mp hmem
  obtain ⟨pre, post, hrows⟩ := List.append_of_mem hrow
  exact ⟨pre, row.2, post, hrows, h.stored k _ ho _ (List.mem_map.mpr ⟨row, hrow, rfl⟩)⟩

omit [Lowercase] in
/-- Nothing is chained behind a cluster whose link ends the chain. -/
theorem Disk.Chained.stops {c c' : Nat} (h : d.Chained c c') (hstop : isLink (d.fat c) = false) :
    c' = c := by
  induction h with
  | first _ => rfl
  | next _ hlink ih =>
    rw [ih, hstop] at hlink
    cases hlink

omit [Lowercase] in
/-- A set stands before another one of its row, or behind it. -/
theorem set_order {before after before' after' : List Item} {e e' : EntrySet}
    (hcut : before ++ .set e :: after = before' ++ .set e' :: after')
    (hlt : (render before).length < (render before').length) :
    (render before).length + 32 * (2 + e.chunks.length) ≤ (render before').length := by
  rcases append_cons_cases hcut with ⟨rfl, -⟩ | ⟨between, rfl⟩ | ⟨between, rfl⟩
  · exact absurd hlt (Nat.lt_irrefl _)
  · have hlen : (Item.set e).bytes.length = 32 * (2 + e.chunks.length) := e.length_bytes
    rw [render_append, render_cons, List.length_append, List.length_append]
    omega
  · rw [render_append, List.length_append] at hlt
    omega

omit [Lowercase] in
/-- In an ordered row the sets stand before the END markers. -/
theorem set_before_end {before after before' after' : List Item} {e : EntrySet} {marker : Item}
    (hordered : (before ++ marker :: after).Pairwise fun a b => a.isEnd = true → b.isEnd = true)
    (hmarker : marker.isEnd = true) (hcut : before ++ marker :: after = before' ++ .set e :: after') :
    (render before').length < (render before).length := by
  rcases append_cons_cases hcut with ⟨-, rfl⟩ | ⟨between, rfl⟩ | ⟨between, rfl⟩
  · cases hmarker
  · rw [hcut, List.append_assoc] at hordered
    have hbehind := (List.pairwise_cons.mp (List.pairwise_append.mp hordered).2.1).1 (.set e)
      (List.mem_append_right _ List.mem_cons_self)
    cases hbehind hmarker
  · have hlen : 0 < (Item.set e).bytes.length := by
      rw [Item.bytes, e.length_bytes]
      omega
    rw [render_append, render_cons, List.length_append, List.length_append]
    omega

/-- Directories of the tree are sound. -/
theorem Holds.soundDirectory (h : Holds g d t) (hwf : Wf g t label) {size : Nat}
    (hvalid : g.Valid size) (ho : t k = some (.dir rows)) : SoundDirectory d k := by
  have hshaped := hwf.shaped k rows ho
  refine ⟨fun c offset hc hfile => ?_, fun c offset offset' hc hfile hfile' hlt => ?_,
    fun c i hc haligned hlt hend => ?_⟩ <;>
    obtain ⟨pre, items, post, hrows, hdata⟩ := h.row hvalid ho hc <;>
    have hitems := hshaped.ok (c, items) (hrows ▸ List.mem_append_right _ List.mem_cons_self)
  · rw [hdata] at hfile ⊢
    obtain ⟨before, e, after, rfl, rfl⟩ := fileEntryAt_render hitems hfile
    exact e.wholeSet (hitems (.set e) (List.mem_append_right _ List.mem_cons_self))
      (drop_render before after e)
  · rw [hdata] at hfile hfile' ⊢
    obtain ⟨before, e, after, rfl, rfl⟩ := fileEntryAt_render hitems hfile
    obtain ⟨before', e', after', hcut, rfl⟩ := fileEntryAt_render hitems hfile'
    have hok : e.Ok := hitems (.set e) (List.mem_append_right _ List.mem_cons_self)
    have horder := set_order hcut hlt
    rw [e.secondaryCountAt_eq hok (drop_render before after e)]
    omega
  · rw [hdata] at hlt hend
    obtain ⟨before, marker, after, rfl, hmarker, rfl⟩ := end_render hitems haligned hlt hend
    have hmem : (c, before ++ marker :: after) ∈ rows :=
      hrows ▸ List.mem_append_right _ List.mem_cons_self
    refine ⟨fun offset hfile => ?_, fun c' offset hc' hne _ => hne (hc'.stops ?_)⟩
    · rw [hdata] at hfile
      obtain ⟨before', e, after', hcut, rfl⟩ := fileEntryAt_render hitems hfile
      exact set_before_end (hshaped.ordered _ hmem) hmarker hcut
    · -- only the last cluster has END markers
      cases post with
      | nil =>
        have hchain := (h.chained k _ ho).linked
        rw [Obj.chain_dir, hrows, List.map_append] at hchain
        exact hchain.last
      | cons row post =>
        have hinit : (c, before ++ marker :: after) ∈ rows.dropLast := by
          rw [hrows, List.dropLast_append_of_ne_nil (by simp), List.dropLast_cons_of_ne_nil (by simp)]
          exact List.mem_append_right _ List.mem_cons_self
        have hopened := hshaped.opened _ hinit marker (List.mem_append_right _ List.mem_cons_self)
        exact absurd (hmarker.symm.trans hopened) (by decide)

/-! ## Names -/

/-- The listing of a directory has the names that a lookup finds, each once up to case. -/
def ListsNames (fs : ExfatFs) (dir : Nat) : Prop :=
  Returns (listFilesInDirectory dir "") fs fun items _ =>
    (items.map fun item => toLowercase item.name).Nodup ∧
      ∀ name, Returns (findEntryInDirectory dir name) fs fun found _ =>
        found.isSome = true ↔ ∃ item ∈ items, toLowercase item.name = toLowercase name

/-- A lookup finds a name exactly when a set has it. -/
theorem Finds.isSome_iff {f : String} {found : Option FileEntryLocation} (h : Finds f rows found) :
    found.isSome = true ↔ ∃ e ∈ rowSets rows, e.folded = f := by
  cases h with
  | found p e hrows hnamed _ =>
    exact iff_of_true rfl ⟨e, hrows ▸ p.mem_fill e, hnamed⟩
  | absent hnone =>
    exact iff_of_false (by decide) fun ⟨e, he, hfolded⟩ => hnone e he hfolded

/-- Unique names are listed once each. -/
theorem Stores.listsNames (h : Stores g t fs) (hwf : Wf g t label) (hunique : Unique t)
    (ho : t k = some (.dir rows)) : ListsNames fs k := by
  have hshaped := hwf.shaped k rows ho
  obtain ⟨hdiffer, hdecoded⟩ := hunique k rows ho
  -- no set has the empty name, so all are listed
  have hlisted : infos "" (rowSets rows) = (rowSets rows).map (·.info "") := by
    rw [infos, List.filter_eq_self.mpr]
    intro e he
    refine decide_eq_true fun hempty => (hwf.entries k rows ho e he).1.named ?_
    rw [← hdecoded e he, hempty]
    rfl
  refine (h.listFilesInDirectory_returns ho hshaped "").mono ?_
  rintro items fs' ⟨-, rfl⟩
  rw [hlisted]
  refine ⟨?_, fun name => (h.findEntryInDirectory_returns ho hshaped name).mono ?_⟩
  · rw [List.map_map]
    exact List.pairwise_map.mpr hdiffer
  · rintro found fs' ⟨-, hfinds⟩
    rw [hfinds.isSome_iff]
    constructor
    · rintro ⟨e, he, hfolded⟩
      exact ⟨e.info "", List.mem_map.mpr ⟨e, he, rfl⟩, hfolded⟩
    · rintro ⟨item, hitem, hfolded⟩
      obtain ⟨e, he, rfl⟩ := List.mem_map.mp hitem
      exact ⟨e, he, hfolded⟩

/-! ## Runs -/

/-- In every reached state the live directories are sound. -/
theorem ReachedBy.soundDirectory {allowed : Change → Prop} (h : ReachedBy allowed fs)
    (hlive : fs.disk.LiveDirectory fs.firstClusterOfRoot k) : SoundDirectory fs.disk k := by
  obtain ⟨g, -, t, label, ⟨d, hrep, hholds⟩, hwf⟩ := h.isTree
  obtain rfl := hrep.params
  rw [hrep.disk] at hlive ⊢
  obtain ⟨rows, ho⟩ := hholds.liveDirectory hwf hrep.valid hlive
  exact hholds.soundDirectory hwf hrep.valid ho

/-- Two empty files in the root directory of a new volume. -/
theorem volume64MB_two {a b : String} (hparse : parsePath a = [a]) (hparse' : parsePath b = [b])
    (hname : NameFits a) (hname' : NameFits b)
    (hroom : 2 + (nameChunks (encodeUtf16 a)).length ≤ 50)
    (hroom' : 2 + (nameChunks (encodeUtf16 b)).length ≤ 50)
    (hdiffer : toLowercase (decodedName a) ≠ toLowercase b) :
    ∃ fs₁ fs₂, (Creation.writeFilePath a [] false false).run.run volume64MB = .ok () fs₁ ∧
      (Creation.writeFilePath b [] false false).run.run fs₁ = .ok () fs₂ ∧
      Returns (listFilesInDirectory fs₂.firstClusterOfRoot "") fs₂ fun files _ =>
        ∃ now now', files = infos "" [⟨a, 0, 0, false, now⟩, ⟨b, 0, 0, false, now'⟩] := by
  obtain ⟨g, d, before, n, _, _, h, hroot, hn, htaken, hnone, -⟩ := volume64MB_root
  have habsent : ∀ e ∈ sets before, ¬ e.Named (toLowercase a) := by
    rw [hnone]
    exact fun e he => nomatch he
  obtain ⟨_, fs₁, hrun₁, now, d₁, h₁, hroot₁⟩ := hroot.writeEmpty_returns h htaken hparse hname
    habsent (by omega) false false
  have htaken₁ : ∀ item ∈ before ++ [.set ⟨a, 0, 0, false, now⟩], item.isFree = false := by
    intro item hitem
    rcases List.mem_append.mp hitem with hitem | hitem
    · exact htaken item hitem
    · rw [List.mem_singleton.mp hitem]
      rfl
  have hsets₁ : sets (before ++ [.set ⟨a, 0, 0, false, now⟩]) = [⟨a, 0, 0, false, now⟩] := by
    rw [sets_append, hnone]
    rfl
  have habsent₁ : ∀ e ∈ sets (before ++ [.set ⟨a, 0, 0, false, now⟩]),
      ¬ e.Named (toLowercase b) := by
    rw [hsets₁]
    intro e he
    rw [List.mem_singleton.mp he]
    exact hdiffer
  obtain ⟨_, fs₂, hrun₂, now', d₂, h₂, hroot₂⟩ := hroot₁.writeEmpty_returns h₁ htaken₁ hparse'
    hname' habsent₁ (by omega) false false
  have htaken₂ : ∀ item ∈ before ++ [.set ⟨a, 0, 0, false, now⟩] ++ [.set ⟨b, 0, 0, false, now'⟩],
      item.isFree = false := by
    intro item hitem
    rcases List.mem_append.mp hitem with hitem | hitem
    · exact htaken₁ item hitem
    · rw [List.mem_singleton.mp hitem]
      rfl
  refine ⟨fs₁, fs₂, hrun₁, hrun₂, ?_⟩
  rw [h₂.params]
  refine (hroot₂.list_returns h₂ (blanks_ordered htaken₂ _) "").mono ?_
  rintro files fs' rfl
  exact ⟨now, now', by rw [sets_append, sets_append, hsets₁, sets_blanks, List.append_nil]; rfl⟩

end

end StreamBox.Exfat
