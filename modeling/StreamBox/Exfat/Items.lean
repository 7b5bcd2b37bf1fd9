import StreamBox.Exfat.EntrySets

/-!
# Directories as lists of items

A directory cluster is a row of items: entry sets, and single slots that hold no
live set (deleted entries, the formatter's own entries, END markers). The byte
scans of a cluster are recursions over its items.

* **Scans** — lookup, listing and slot search of a rendered cluster.
* **Edits** — writing a set over a run of slots, deleting a set, and clearing END
  markers, as changes of the items.
* **Shape** — in a directory only the last cluster has END markers, and only
  behind its sets; then every scan sees all sets.
-/

namespace StreamBox.Exfat

/-- An item of a directory cluster. -/
inductive Item where
  | set (e : EntrySet)
  | slot (raw : List UInt8)
  deriving DecidableEq, Repr

namespace Item

/-- The bytes of an item. -/
def bytes : Item → List UInt8
  | set e => e.bytes
  | slot raw => raw

/-- A set within bounds, or 32 bytes that are no File entry. -/
def Ok : Item → Prop
  | set e => e.Ok
  | slot raw => raw.length = 32 ∧ byteAt raw 0 ≠ entryTypeFile

/-- An END marker. -/
def isEnd : Item → Bool
  | set _ => false
  | slot raw => byteAt raw 0 == entryTypeEnd

/-- A slot a new set may be written over. -/
def isFree : Item → Bool
  | set _ => false
  | slot raw => isFreeType (byteAt raw 0)

end Item

/-- The bytes of a row of items. -/
def render (items : List Item) : List UInt8 := items.flatMap Item.bytes

/-- The entry sets of a row of items. -/
def sets : List Item → List EntrySet
  | [] => []
  | .set e :: rest => e :: sets rest
  | .slot _ :: rest => sets rest

@[simp] theorem render_nil : render [] = [] := rfl

@[simp] theorem render_cons (item : Item) (rest : List Item) :
    render (item :: rest) = item.bytes ++ render rest := rfl

@[simp] theorem render_append (a b : List Item) : render (a ++ b) = render a ++ render b := by
  simp [render]

@[simp] theorem sets_append (a b : List Item) : sets (a ++ b) = sets a ++ sets b := by
  induction a with
  | nil => rfl
  | cons item rest ih => cases item <;> simp [sets, ih]

/-- Items take a positive multiple of 32 bytes. -/
theorem Item.Ok.length_bytes {item : Item} (h : item.Ok) :
    32 ≤ item.bytes.length ∧ 32 ∣ item.bytes.length := by
  cases item with
  | set e =>
    rw [bytes, EntrySet.length_bytes]
    exact ⟨by omega, Nat.dvd_mul_right _ _⟩
  | slot raw =>
    have hlen : raw.length = 32 := h.1
    rw [bytes, hlen]
    exact ⟨Nat.le_refl _, Nat.dvd_refl _⟩

theorem length_render {items : List Item} (h : ∀ item ∈ items, item.Ok) :
    32 * items.length ≤ (render items).length ∧ 32 ∣ (render items).length := by
  induction items with
  | nil => exact ⟨Nat.le_refl _, Nat.dvd_zero _⟩
  | cons item rest ih =>
    obtain ⟨hlen, hdvd⟩ := (h item List.mem_cons_self).length_bytes
    obtain ⟨hrest, hrestDvd⟩ := ih fun x hx => h x (List.mem_cons_of_mem _ hx)
    rw [render_cons, List.length_append, List.length_cons]
    exact ⟨by omega, Nat.dvd_add hdvd hrestDvd⟩

/-- The type byte of an item. -/
theorem byteAt_item {item : Item} (h : item.Ok) {data rest : List UInt8} {i : Nat}
    (hdata : data.drop i = item.bytes ++ rest) : byteAt data i = byteAt item.bytes 0 := by
  have := byteAt_of_drop (k := 0) hdata (by have := h.length_bytes.1; omega)
  rwa [Nat.add_zero] at this

theorem byteAt_set (e : EntrySet) : byteAt e.bytes 0 = entryTypeFile := by
  have h : e.bytes.drop 0 = e.bytes ++ [] := by simp
  exact EntrySet.byteAt_type h

/-! ## Lookup -/

section

variable [Lowercase]

/-- Where a lookup says a set is. -/
def EntrySet.locate (e : EntrySet) (cluster offset : Nat) : FileEntryLocation where
  directoryCluster := cluster
  entryOffset := offset
  firstCluster := e.firstCluster
  dataLength := e.size
  secondaryCount := 1 + e.chunks.length
  isDirectory := e.isDir

/-- A set answers to a lower-case name. -/
def EntrySet.Named (e : EntrySet) (targetLower : String) : Prop :=
  toLowercase (decodedName e.name) = targetLower

instance (e : EntrySet) (targetLower : String) : Decidable (e.Named targetLower) :=
  inferInstanceAs (Decidable (_ = _))

/-- The lookup over the items from an offset on. -/
def findItems (targetLower : String) (cluster : Nat) : Nat → List Item → FindResult
  | _, [] => .exhausted
  | i, .set e :: rest =>
    if e.Named targetLower then .found (e.locate cluster i)
    else findItems targetLower cluster (i + e.bytes.length) rest
  | i, .slot raw :: rest =>
    if byteAt raw 0 = entryTypeEnd then .endMarker
    else findItems targetLower cluster (i + 32) rest

/-- The byte scan of a rendered cluster is the lookup over its items. -/
theorem findInCluster_eq (targetLower : String) (cluster : Nat) {data : List UInt8}
    {items : List Item} (hitems : ∀ item ∈ items, item.Ok) {i fuel : Nat}
    (hdata : data.drop i = render items) (hfuel : items.length ≤ fuel) :
    findInCluster targetLower cluster data fuel i = findItems targetLower cluster i items := by
  induction items generalizing i fuel with
  | nil =>
    have hend : data.length ≤ i := List.drop_eq_nil_iff.mp hdata
    cases fuel with
    | zero => rfl
    | succ fuel => rw [findInCluster, if_neg (by omega), findItems]
  | cons item rest ih =>
    have hitem := hitems item List.mem_cons_self
    have hrest : ∀ x ∈ rest, x.Ok := fun x hx => hitems x (List.mem_cons_of_mem _ hx)
    obtain ⟨fuel, rfl⟩ : ∃ n, fuel = n + 1 := ⟨fuel - 1, by simp at hfuel; omega⟩
    have hleft : rest.length ≤ fuel := by simpa using hfuel
    rw [render_cons] at hdata
    have hlen := length_of_drop hdata (by have := hitem.length_bytes.1; omega)
    have htype := byteAt_item hitem hdata
    have hnext := drop_of_drop hdata
    have hlt : i < data.length := by have := hitem.length_bytes.1; omega
    rw [findInCluster, if_pos hlt, htype]
    cases item with
    | set e =>
      have hset : byteAt (Item.set e).bytes 0 = entryTypeFile := byteAt_set e
      have hsize : (Item.set e).bytes.length = (1 + (1 + e.chunks.length)) * 32 := by
        rw [Item.bytes, EntrySet.length_bytes]
        omega
      rw [hset, if_neg (by decide), if_pos rfl, EntrySet.parseEntrySet_eq hitem hdata,
        EntrySet.secondaryCountAt_eq hitem hdata, EntrySet.isDirectoryAt_eq hdata, findItems]
      show (if e.Named targetLower then _ else _) = _
      by_cases hnamed : e.Named targetLower
      · rw [if_pos hnamed, if_pos hnamed]
        rfl
      · rw [if_neg hnamed, if_neg hnamed, ← hsize]
        exact ih hrest hnext hleft
    | slot raw =>
      obtain ⟨hraw, hnotFile⟩ := hitem
      rw [findItems]
      by_cases hend : byteAt raw 0 = entryTypeEnd
      · rw [if_pos hend, if_pos (show byteAt (Item.slot raw).bytes 0 = _ from hend)]
      · rw [if_neg hend, if_neg (show ¬ byteAt (Item.slot raw).bytes 0 = _ from hend),
          if_neg (show ¬ byteAt (Item.slot raw).bytes 0 = _ from hnotFile)]
        rw [show (Item.slot raw).bytes.length = 32 from hraw] at hnext
        exact ih hrest hnext hleft

end

/-! ## Listing -/

/-- The listing's record of a set. -/
def EntrySet.info (e : EntrySet) (currentPath : String) : FileInfo where
  name := decodedName e.name
  size := e.size
  isDirectory := e.isDir
  path := if currentPath = "" then decodedName e.name else currentPath ++ "/" ++ decodedName e.name

/-- The listing over the items. -/
def listItems (isFirst : Bool) (currentPath : String) :
    List Item → List FileInfo → List FileInfo × Bool
  | [], files => (files, false)
  | .set e :: rest, files =>
    listItems isFirst currentPath rest
      (if decodedName e.name = "" then files else files ++ [e.info currentPath])
  | .slot raw :: rest, files =>
    if byteAt raw 0 = entryTypeEnd ∧ isFirst then (files, true)
    else listItems isFirst currentPath rest files

theorem decodedName_eq_empty (e : EntrySet) :
    decodedName e.name = "" ↔ e.chunks.flatMap decodeChunk = [] := by
  rw [decodedName, ← EntrySet.chunks]
  constructor
  · intro h
    have := congrArg String.toList h
    simpa using this
  · intro h
    rw [h]

/-- The byte listing of a rendered cluster is the listing over its items. -/
theorem listInCluster_eq (isFirst : Bool) (currentPath : String) {data : List UInt8}
    {items : List Item} (hitems : ∀ item ∈ items, item.Ok) {i fuel : Nat}
    (hdata : data.drop i = render items) (hfuel : items.length ≤ fuel) (files : List FileInfo) :
    listInCluster isFirst currentPath data fuel i files
      = listItems isFirst currentPath items files := by
  induction items generalizing i fuel files with
  | nil =>
    have hend : data.length ≤ i := List.drop_eq_nil_iff.mp hdata
    cases fuel with
    | zero => rfl
    | succ fuel => rw [listInCluster, if_neg (by omega), listItems]
  | cons item rest ih =>
    have hitem := hitems item List.mem_cons_self
    have hrest : ∀ x ∈ rest, x.Ok := fun x hx => hitems x (List.mem_cons_of_mem _ hx)
    obtain ⟨fuel, rfl⟩ : ∃ n, fuel = n + 1 := ⟨fuel - 1, by simp at hfuel; omega⟩
    have hleft : rest.length ≤ fuel := by simpa using hfuel
    rw [render_cons] at hdata
    have hlen := length_of_drop hdata (by have := hitem.length_bytes.1; omega)
    have htype := byteAt_item hitem hdata
    have hnext := drop_of_drop hdata
    have hlt : i < data.length := by have := hitem.length_bytes.1; omega
    rw [listInCluster, if_pos hlt, htype]
    cases item with
    | set e =>
      have hset : byteAt (Item.set e).bytes 0 = entryTypeFile := byteAt_set e
      have hsize : (Item.set e).bytes.length = (1 + (1 + e.chunks.length)) * 32 := by
        rw [Item.bytes, EntrySet.length_bytes]
        omega
      have hnotEnd : ¬ (entryTypeFile = entryTypeEnd ∧ isFirst = true) := fun h => by
        cases h.1
      rw [hset, if_neg hnotEnd, if_pos rfl, EntrySet.parseEntrySet_eq hitem hdata,
        EntrySet.secondaryCountAt_eq hitem hdata, EntrySet.isDirectoryAt_eq hdata, listItems,
        ← hsize]
      simp only [decodedName_eq_empty]
      exact ih hrest hnext hleft _
    | slot raw =>
      obtain ⟨hraw, hnotFile⟩ := hitem
      rw [listItems]
      by_cases hend : byteAt raw 0 = entryTypeEnd ∧ isFirst
      · rw [if_pos hend, if_pos (show byteAt (Item.slot raw).bytes 0 = _ ∧ _ from hend)]
      · rw [if_neg hend, if_neg (show ¬ (byteAt (Item.slot raw).bytes 0 = _ ∧ _) from hend),
          if_neg (show ¬ byteAt (Item.slot raw).bytes 0 = _ from hnotFile)]
        rw [show (Item.slot raw).bytes.length = 32 from hraw] at hnext
        exact ih hrest hnext hleft _

/-! ## Free slots -/

/-- The slot search over the items from an offset on. -/
def freeSlotItems (needed : Nat) : Nat → Nat → Nat → List Item → Option Nat
  | _, consecutiveFree, slotStart, [] =>
    if consecutiveFree ≥ needed then some slotStart else none
  | i, _, slotStart, .set e :: rest => freeSlotItems needed (i + e.bytes.length) 0 slotStart rest
  | i, consecutiveFree, slotStart, .slot raw :: rest =>
    if isFreeType (byteAt raw 0) then
      if consecutiveFree + 1 ≥ needed then some (if consecutiveFree = 0 then i else slotStart)
      else freeSlotItems needed (i + 32) (consecutiveFree + 1)
        (if consecutiveFree = 0 then i else slotStart) rest
    else freeSlotItems needed (i + 32) 0 slotStart rest

/-- The byte search of a rendered cluster is the search over its items. -/
theorem freeSlotInCluster_eq (needed : Nat) {data : List UInt8}
    {items : List Item} (hitems : ∀ item ∈ items, item.Ok) {i fuel k start : Nat}
    (hdata : data.drop i = render items) (hfuel : items.length < fuel) :
    freeSlotInCluster data needed fuel i k start = freeSlotItems needed i k start items := by
  induction items generalizing i fuel k start with
  | nil =>
    have hend : data.length ≤ i := List.drop_eq_nil_iff.mp hdata
    obtain ⟨fuel, rfl⟩ : ∃ n, fuel = n + 1 := ⟨fuel - 1, by simp at hfuel; omega⟩
    rw [freeSlotInCluster, if_neg (by omega), freeSlotItems]
  | cons item rest ih =>
    have hitem := hitems item List.mem_cons_self
    have hrest : ∀ x ∈ rest, x.Ok := fun x hx => hitems x (List.mem_cons_of_mem _ hx)
    obtain ⟨fuel, rfl⟩ : ∃ n, fuel = n + 1 := ⟨fuel - 1, by simp at hfuel; omega⟩
    have hleft : rest.length < fuel := by simpa using hfuel
    rw [render_cons] at hdata
    have hlen := length_of_drop hdata (by have := hitem.length_bytes.1; omega)
    have htype := byteAt_item hitem hdata
    have hnext := drop_of_drop hdata
    have hlt : i < data.length := by have := hitem.length_bytes.1; omega
    rw [freeSlotInCluster, if_pos hlt, htype]
    cases item with
    | set e =>
      have hset : byteAt (Item.set e).bytes 0 = entryTypeFile := byteAt_set e
      have hsize : (Item.set e).bytes.length = (1 + (1 + e.chunks.length)) * 32 := by
        rw [Item.bytes, EntrySet.length_bytes]
        omega
      rw [hset, if_neg (by decide), if_pos rfl, EntrySet.secondaryCountAt_eq hitem hdata, ← hsize,
        freeSlotItems]
      exact ih hrest hnext hleft
    | slot raw =>
      obtain ⟨hraw, hnotFile⟩ := hitem
      rw [show (Item.slot raw).bytes.length = 32 from hraw] at hnext
      rw [freeSlotItems]
      by_cases hfree : isFreeType (byteAt raw 0) = true
      · rw [if_pos hfree, if_pos (show isFreeType (byteAt (Item.slot raw).bytes 0) = _ from hfree)]
        by_cases hdone : k + 1 ≥ needed
        · rw [if_pos hdone, if_pos hdone]
        · rw [if_neg hdone, if_neg hdone]
          exact ih hrest hnext hleft
      · rw [if_neg hfree,
          if_neg (show ¬ isFreeType (byteAt (Item.slot raw).bytes 0) = _ from hfree),
          if_neg (show ¬ byteAt (Item.slot raw).bytes 0 = _ from hnotFile)]
        exact ih hrest hnext hleft

end StreamBox.Exfat
