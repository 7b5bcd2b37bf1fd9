import StreamBox.Exfat.Directory
import Mathlib.Data.List.Basic

/-!
# Entry sets and their bytes

An entry set as created, and what parsing gives back from its bytes.

* **Sizes** — every entry is 32 bytes, and a set has at most 19 entries.
* **Names** — a name is read back chunk by chunk: each Name entry's units up to a
  null, with the unpaired surrogates left out.
* **Parsing** — the secondary count, the directory attribute, the first cluster and
  the data length are read back as they were given.
-/

namespace StreamBox.Exfat

/-! ## Reading inside data of known shape -/

theorem leAt_of_drop {data entry rest : List UInt8} {o k n : Nat}
    (h : data.drop o = entry ++ rest) (hk : k + n ≤ entry.length) :
    leAt data (o + k) n = leAt entry k n := by
  have hlen : n ≤ (entry.drop k).length := by
    rw [List.length_drop]
    omega
  rw [leAt, leAt, ← List.drop_drop, h, List.drop_append_of_le_length (by omega),
    List.take_append_of_le_length hlen]

theorem byteAt_of_drop {data entry rest : List UInt8} {o k : Nat}
    (h : data.drop o = entry ++ rest) (hk : k < entry.length) :
    byteAt data (o + k) = byteAt entry k := by
  have hget : data[o + k]? = entry[k]? := by
    rw [← List.getElem?_drop, h, List.getElem?_append_left hk]
  rw [byteAt, byteAt, List.getD_eq_getElem?_getD, List.getD_eq_getElem?_getD, hget]

theorem length_of_drop {data entry rest : List UInt8} {o : Nat} (h : data.drop o = entry ++ rest)
    (hpos : 0 < entry.length) : o + entry.length + rest.length = data.length := by
  have hlen := congrArg List.length h
  rw [List.length_drop, List.length_append] at hlen
  omega

theorem drop_of_drop {data entry rest : List UInt8} {o : Nat} (h : data.drop o = entry ++ rest) :
    data.drop (o + entry.length) = rest := by
  rw [← List.drop_drop, h, List.drop_left]

/-! ## Code units -/

/-- Characters are Unicode scalar values. -/
theorem toNat_char_lt (c : Char) : c.toNat < 0x110000 := by
  have hvalid : c.toNat < 0xd800 ∨ (0xdfff < c.toNat ∧ c.toNat < 0x110000) := c.valid
  omega

/-- Code units are 16 bits wide. -/
theorem encodeUtf16_lt {name : String} {u : Nat} (h : u ∈ encodeUtf16 name) : u < 2 ^ 16 := by
  obtain ⟨c, -, hu⟩ := List.mem_flatMap.mp h
  have hvalid := toNat_char_lt c
  simp only [encodeUtf16Char] at hu
  split at hu
  · simp only [List.mem_singleton] at hu
    omega
  · simp only [List.mem_cons, List.not_mem_nil, or_false] at hu
    omega

/-- A character has no more code units than bytes, and at least one. -/
theorem length_encodeUtf16Char (c : Char) :
    1 ≤ (encodeUtf16Char c).length ∧ (encodeUtf16Char c).length ≤ c.utf8Size := by
  have hone := c.utf8Size_pos
  by_cases hv : c.toNat < 0x10000
  · rw [encodeUtf16Char, if_pos hv, List.length_singleton]
    exact ⟨Nat.le_refl _, hone⟩
  · have hfour : c.utf8Size = 4 := by
      have : ¬ c.val ≤ 0x7f ∧ ¬ c.val ≤ 0x7ff ∧ ¬ c.val ≤ 0xffff := by
        simp only [UInt32.le_iff_toNat_le]
        change ¬ c.toNat ≤ _ ∧ ¬ c.toNat ≤ _ ∧ ¬ c.toNat ≤ _
        simp
        omega
      simp [Char.utf8Size, this]
    rw [encodeUtf16Char, if_neg hv]
    simp [hfour]

/-- A name has no more code units than bytes. -/
theorem length_encodeUtf16_le (name : String) : (encodeUtf16 name).length ≤ utf8Len name := by
  have hfold : ∀ (chars : List Char) (n m : Nat), m ≤ n →
      m + (chars.flatMap encodeUtf16Char).length
        ≤ chars.foldl (fun len c => len + c.utf8Size) n := by
    intro chars
    induction chars with
    | nil => exact fun n m h => h
    | cons c rest ih =>
      intro n m h
      have hchar := (length_encodeUtf16Char c).2
      have hrest := ih (n + c.utf8Size) (m + (encodeUtf16Char c).length) (by omega)
      rw [List.flatMap_cons, List.length_append, List.foldl_cons, ← Nat.add_assoc]
      exact hrest
  have h := hfold name.toList 0 0 (Nat.le_refl 0)
  rwa [Nat.zero_add] at h

theorem encodeUtf16_ne_nil {name : String} (h : name ≠ "") : encodeUtf16 name ≠ [] := by
  intro hnil
  cases hchars : name.toList with
  | nil => exact h (String.toList_eq_nil_iff.mp hchars)
  | cons c rest =>
    have := length_encodeUtf16Char c
    simp only [encodeUtf16, hchars, List.flatMap_cons, List.append_eq_nil_iff] at hnil
    rw [hnil.1] at this
    simp at this

/-! ## Entries -/

@[simp] theorem length_fileEntry (sc attrs stamp checksum : Nat) :
    (fileEntry sc attrs stamp checksum).length = 32 := by
  simp [fileEntry]

@[simp] theorem length_streamEntry (len hash first size : Nat) :
    (streamEntry len hash first size).length = 32 := by
  simp [streamEntry]

theorem length_flatMap_leBytes (k : Nat) (units : List Nat) :
    (units.flatMap (leBytes k)).length = units.length * k := by
  simp only [List.length_flatMap, length_leBytes, List.map_const', List.sum_replicate_nat]

theorem length_nameEntry {units : List Nat} (h : units.length ≤ 15) :
    (nameEntry units).length = 32 := by
  simp only [nameEntry, padEntry, List.length_append, List.length_replicate, List.length_cons,
    List.length_nil, length_flatMap_leBytes]
  omega

/-- The bytes of one number among the encoded numbers. -/
theorem take_drop_flatMap_leBytes (w : Nat) (units : List Nat) {k : Nat} (hk : k < units.length) :
    ((units.flatMap (leBytes w)).drop (w * k)).take w = leBytes w units[k] := by
  induction units generalizing k with
  | nil => cases hk
  | cons u rest ih =>
    cases k with
    | zero =>
      rw [List.flatMap_cons, Nat.mul_zero, List.drop_zero, List.getElem_cons_zero]
      exact List.take_left' (length_leBytes w u)
    | succ k =>
      have hdrop : (leBytes w u ++ rest.flatMap (leBytes w)).drop (w * (k + 1))
          = (rest.flatMap (leBytes w)).drop (w * k) := by
        rw [Nat.mul_succ, Nat.add_comm, ← List.drop_drop, List.drop_left' (length_leBytes w u)]
      rw [List.flatMap_cons, hdrop, List.getElem_cons_succ]
      exact ih (by simpa using hk)

/-- A unit of a Name entry reads back; the ones behind the chunk are null. -/
theorem leAt_nameEntry {units : List Nat} (hlen : units.length ≤ 15)
    (hunits : ∀ u ∈ units, u < 2 ^ 16) {k : Nat} (hk : k < 15) :
    leAt (nameEntry units) (2 + 2 * k) 2 = units.getD k 0 := by
  have hflat := length_flatMap_leBytes 2 units
  have hentry : (nameEntry units).drop (2 + 2 * k)
      = (units.flatMap (leBytes 2) ++ List.replicate (30 - 2 * units.length) 0).drop (2 * k) := by
    rw [← List.drop_drop]
    congr 1
    simp only [nameEntry, padEntry, List.cons_append, List.nil_append, List.length_cons, hflat,
      List.drop_succ_cons, List.drop_zero]
    rw [show 32 - (units.length * 2 + 1 + 1) = 30 - 2 * units.length by omega]
  rw [leAt, hentry]
  by_cases hin : k < units.length
  · have hle : 2 * k + 2 ≤ (units.flatMap (leBytes 2)).length := by omega
    rw [List.drop_append_of_le_length (by omega),
      List.take_append_of_le_length (by rw [List.length_drop]; omega),
      take_drop_flatMap_leBytes 2 units hin, List.getD_eq_getElem _ _ hin]
    exact ofLeBytes_leBytes_of_lt (hunits _ (List.getElem_mem hin))
  · have hzeros : ((units.flatMap (leBytes 2) ++
        List.replicate (30 - 2 * units.length) (0 : UInt8)).drop (2 * k)).take 2
        = List.replicate 2 0 := by
      rw [List.drop_append, List.drop_eq_nil_of_le (by omega), List.nil_append,
        List.drop_replicate, List.take_replicate]
      congr 1
      omega
    rw [hzeros, List.getD_eq_default _ _ (by omega)]
    rfl

/-- Cutting at the first null does not see the padding. -/
theorem takeWhile_padded (units : List Nat) (n : Nat) :
    (units ++ List.replicate n 0).takeWhile (· ≠ 0) = units.takeWhile (· ≠ 0) := by
  induction units with
  | nil => cases n <;> simp [List.replicate_succ]
  | cons u rest ih =>
    by_cases hu : u = 0
    · simp [hu]
    · simp only [List.cons_append, List.takeWhile_cons, ne_eq, hu, not_false_eq_true, decide_true,
        if_true]
      exact congrArg _ ih

/-- The units of a Name entry read back up to a null. -/
theorem nameCharsAt_of_drop {data rest : List UInt8} {o : Nat} {units : List Nat}
    (hlen : units.length ≤ 15) (hunits : ∀ u ∈ units, u < 2 ^ 16)
    (h : data.drop o = nameEntry units ++ rest) :
    nameCharsAt data o = units.takeWhile (· ≠ 0) := by
  have hmap : ((List.range 15).map fun k => leAt data (o + (2 + 2 * k)) 2)
      = units ++ List.replicate (15 - units.length) 0 := by
    apply List.ext_getElem
    · simp only [List.length_map, List.length_range, List.length_append, List.length_replicate]
      omega
    · intro k hk hk'
      have hk15 : k < 15 := by simpa using hk
      rw [List.getElem_map, List.getElem_range,
        leAt_of_drop h (by rw [length_nameEntry hlen]; omega), leAt_nameEntry hlen hunits hk15]
      by_cases hin : k < units.length
      · rw [List.getElem_append_left hin, List.getD_eq_getElem _ _ hin]
      · rw [List.getElem_append_right (by omega), List.getElem_replicate,
          List.getD_eq_default _ _ (by omega)]
  rw [nameCharsAt, hmap, takeWhile_padded]

/-- Entries of 32 bytes, one behind the other. -/
theorem length_flatten_of_entries {entries : List (List UInt8)}
    (h : ∀ entry ∈ entries, entry.length = 32) : entries.flatten.length = 32 * entries.length := by
  induction entries with
  | nil => rfl
  | cons entry rest ih =>
    rw [List.flatten_cons, List.length_append, h entry List.mem_cons_self,
      ih fun e he => h e (List.mem_cons_of_mem _ he), List.length_cons]
    omega

/-! ## Sets -/

/-- An entry set as the create operations are given it. -/
structure EntrySet where
  name : String
  firstCluster : Nat
  size : Nat
  isDir : Bool
  now : Nat
  deriving DecidableEq, Repr

/-- The units of one Name entry as a reader decodes them. -/
def decodeChunk (units : List Nat) : List Char := decodeUtf16 (units.takeWhile (· ≠ 0))

/-- A name as a reader decodes it from its Name entries. -/
def decodedName (name : String) : String :=
  String.ofList ((nameChunks (encodeUtf16 name)).flatMap decodeChunk)

namespace EntrySet

/-- The 32-byte entries of the set. -/
def entries (e : EntrySet) : List (List UInt8) :=
  createFileEntries e.name e.firstCluster e.size e.isDir e.now

/-- The bytes of the set. -/
def bytes (e : EntrySet) : List UInt8 := e.entries.flatten

/-- The Name entries' units. -/
def chunks (e : EntrySet) : List (List Nat) := nameChunks (encodeUtf16 e.name)

/-- A set within the bounds the create operations check. -/
structure Ok (e : EntrySet) : Prop where
  named : encodeUtf16 e.name ≠ []
  short : (encodeUtf16 e.name).length ≤ 255
  cluster : e.firstCluster < 2 ^ 32
  length : e.size < 2 ^ 64

end EntrySet

theorem mem_nameChunks {units chunk : List Nat} (h : chunk ∈ nameChunks units) :
    chunk.length ≤ 15 ∧ ∀ u ∈ chunk, u ∈ units := by
  obtain ⟨k, -, rfl⟩ := List.mem_map.mp h
  exact ⟨List.length_take_le _ _, fun u hu => List.mem_of_mem_drop (List.mem_of_mem_take hu)⟩

@[simp] theorem length_nameChunks (units : List Nat) :
    (nameChunks units).length = (units.length + 14) / 15 := by
  simp [nameChunks]

namespace EntrySet

theorem chunk_ok {e : EntrySet} {chunk : List Nat} (h : chunk ∈ e.chunks) :
    chunk.length ≤ 15 ∧ ∀ u ∈ chunk, u < 2 ^ 16 :=
  ⟨(mem_nameChunks h).1, fun u hu => encodeUtf16_lt ((mem_nameChunks h).2 u hu)⟩

/-- A set is a File entry, a Stream entry and the Name entries. -/
theorem entries_eq (e : EntrySet) : ∃ stamp checksum, e.entries =
    fileEntry (1 + e.chunks.length) (if e.isDir then attrDirectory else attrArchive) stamp checksum
    :: streamEntry (encodeUtf16 e.name).length (calculateNameHash e.name) e.firstCluster e.size
    :: e.chunks.map nameEntry := ⟨_, _, rfl⟩

theorem length_entries (e : EntrySet) : e.entries.length = 2 + e.chunks.length := by
  obtain ⟨_, _, heq⟩ := e.entries_eq
  rw [heq]
  simp
  omega

/-- Every entry is 32 bytes. -/
theorem length_of_mem_entries {e : EntrySet} {entry : List UInt8} (h : entry ∈ e.entries) :
    entry.length = 32 := by
  obtain ⟨_, _, heq⟩ := e.entries_eq
  rw [heq, List.mem_cons, List.mem_cons] at h
  rcases h with rfl | rfl | h
  · exact length_fileEntry _ _ _ _
  · exact length_streamEntry _ _ _ _
  · obtain ⟨chunk, hchunk, rfl⟩ := List.mem_map.mp h
    exact length_nameEntry (chunk_ok hchunk).1

theorem length_bytes (e : EntrySet) : e.bytes.length = 32 * (2 + e.chunks.length) := by
  rw [bytes, length_flatten_of_entries fun _ h => length_of_mem_entries h, length_entries]

/-- A set has between 3 and 19 entries. -/
theorem Ok.chunks_bounds {e : EntrySet} (h : e.Ok) :
    1 ≤ e.chunks.length ∧ e.chunks.length ≤ 17 := by
  have hpos := List.length_pos_of_ne_nil h.named
  have hshort := h.short
  rw [chunks, length_nameChunks]
  omega

/-- The bytes of a set start with its File and Stream entries. -/
theorem drop_bytes {e : EntrySet} {data rest : List UInt8} {o : Nat}
    (h : data.drop o = e.bytes ++ rest) : ∃ stamp checksum,
      data.drop o = fileEntry (1 + e.chunks.length)
        (if e.isDir then attrDirectory else attrArchive) stamp checksum ++
          (streamEntry (encodeUtf16 e.name).length (calculateNameHash e.name) e.firstCluster e.size
            ++ ((e.chunks.map nameEntry).flatten ++ rest)) ∧
      data.drop (o + 32) = streamEntry (encodeUtf16 e.name).length (calculateNameHash e.name)
        e.firstCluster e.size ++ ((e.chunks.map nameEntry).flatten ++ rest) ∧
      data.drop (o + 2 * 32) = (e.chunks.map nameEntry).flatten ++ rest := by
  obtain ⟨stamp, checksum, heq⟩ := e.entries_eq
  rw [bytes, heq, List.flatten_cons, List.flatten_cons, List.append_assoc, List.append_assoc] at h
  have hstream := drop_of_drop h
  rw [length_fileEntry] at hstream
  have hnames := drop_of_drop hstream
  rw [length_streamEntry] at hnames
  exact ⟨stamp, checksum, h, hstream, hnames⟩

end EntrySet

/-! ## Parsing -/

theorem byteAt_nameEntry (units : List Nat) : byteAt (nameEntry units) 0 = entryTypeFileName := rfl

/-- Parsing Name entries appends their decoded units. -/
theorem parseSecondaryEntries_names {data rest : List UInt8} {o : Nat} {chunks : List (List Nat)}
    (hchunks : ∀ chunk ∈ chunks, chunk.length ≤ 15 ∧ ∀ u ∈ chunk, u < 2 ^ 16) {j : Nat}
    (h : data.drop (o + j * 32) = (chunks.map nameEntry).flatten ++ rest)
    (parsed : SecondaryEntries) :
    parseSecondaryEntries data o (List.range' j chunks.length) parsed
      = { parsed with fileName := parsed.fileName ++ chunks.flatMap decodeChunk } := by
  induction chunks generalizing j parsed with
  | nil => simp [parseSecondaryEntries]
  | cons chunk chunks ih =>
    obtain ⟨hlen, hunits⟩ := hchunks chunk List.mem_cons_self
    have hentry := length_nameEntry hlen
    rw [List.map_cons, List.flatten_cons, List.append_assoc] at h
    have hroom := length_of_drop h (by omega)
    have htype : byteAt data (o + j * 32) = entryTypeFileName := by
      have := byteAt_of_drop (k := 0) h (by omega)
      rwa [Nat.add_zero, byteAt_nameEntry] at this
    have hnext : data.drop (o + (j + 1) * 32) = (chunks.map nameEntry).flatten ++ rest := by
      have := drop_of_drop h
      rwa [hentry, Nat.add_assoc, ← Nat.succ_mul] at this
    rw [List.length_cons, List.range'_succ, parseSecondaryEntries,
      if_neg (by rw [hentry] at hroom; omega), htype, if_neg (by decide), if_pos rfl,
      nameCharsAt_of_drop hlen hunits h,
      ih (fun c hc => hchunks c (List.mem_cons_of_mem _ hc)) hnext, List.flatMap_cons,
      List.append_assoc]
    rfl

namespace EntrySet

variable {e : EntrySet} {data rest : List UInt8} {o : Nat}

theorem byteAt_type (h : data.drop o = e.bytes ++ rest) : byteAt data o = entryTypeFile := by
  obtain ⟨_, _, hfile, -⟩ := drop_bytes h
  have := byteAt_of_drop (k := 0) hfile (by rw [length_fileEntry]; omega)
  rwa [Nat.add_zero] at this

theorem secondaryCountAt_eq (hok : e.Ok) (h : data.drop o = e.bytes ++ rest) :
    secondaryCountAt data o = 1 + e.chunks.length := by
  obtain ⟨stamp, checksum, hfile, -⟩ := drop_bytes h
  have hbounds := hok.chunks_bounds
  rw [secondaryCountAt, byteAt_of_drop hfile (by rw [length_fileEntry]; omega)]
  show (UInt8.ofNat (1 + e.chunks.length)).toNat = _
  rw [UInt8.toNat_ofNat', Nat.mod_eq_of_lt (by omega)]

theorem isDirectoryAt_eq (h : data.drop o = e.bytes ++ rest) : isDirectoryAt data o = e.isDir := by
  obtain ⟨stamp, checksum, hfile, -⟩ := drop_bytes h
  have hattrs : leAt data (o + 4) 2 = if e.isDir then attrDirectory else attrArchive := by
    rw [leAt_of_drop hfile (by rw [length_fileEntry]; omega)]
    show ofLeBytes (leBytes 2 _) = _
    rw [ofLeBytes_leBytes_of_lt]
    cases e.isDir <;> decide
  rw [isDirectoryAt, hattrs]
  cases e.isDir <;> decide

/-- Parsing the bytes of a set gives back what it was created from, and its name as decoded. -/
theorem parseEntrySet_eq (hok : e.Ok) (h : data.drop o = e.bytes ++ rest) :
    parseEntrySet data o =
      { fileName := e.chunks.flatMap decodeChunk
        firstCluster := e.firstCluster
        dataLength := e.size } := by
  obtain ⟨stamp, checksum, -, hstream, hnames⟩ := drop_bytes h
  have hroom := length_of_drop hstream (by rw [length_streamEntry]; omega)
  rw [length_streamEntry] at hroom
  have htype : byteAt data (o + 1 * 32) = entryTypeStream := by
    have := byteAt_of_drop (k := 0) hstream (by rw [length_streamEntry]; omega)
    rwa [Nat.add_zero] at this
  have hcluster : leAt data (o + 1 * 32 + 20) 4 = e.firstCluster := by
    rw [Nat.one_mul, leAt_of_drop hstream (by rw [length_streamEntry]; omega)]
    show ofLeBytes (leBytes 4 _) = _
    exact ofLeBytes_leBytes_of_lt hok.cluster
  have hlength : leAt data (o + 1 * 32 + 24) 8 = e.size := by
    rw [Nat.one_mul, leAt_of_drop hstream (by rw [length_streamEntry])]
    show ofLeBytes (leBytes 8 _) = _
    exact ofLeBytes_leBytes_of_lt hok.length
  rw [parseEntrySet, secondaryCountAt_eq hok h, Nat.add_comm, List.range'_succ,
    parseSecondaryEntries, if_neg (by omega), htype, if_pos rfl,
    parseSecondaryEntries_names (fun _ hc => chunk_ok hc) hnames, hcluster, hlength]
  rfl

end EntrySet

end StreamBox.Exfat
