import StreamBox.Exfat.Creations

/-!
# Streaming reader

`ExfatFileReader`: reads at a position in the file, with seeks.

* **State** — the reader borrows the filesystem, so its state has the filesystem's; the
  cluster it read last is cached.
* **Widths** — positions are `u64` and seeks compute in `i64`, so their sums wrap.
* **Cursor** — what the calls come to on the bytes of the file: a position in a list. The
  calls of a reader on a stored file are those of its cursor (`reader_follows_cursor`).
-/

namespace StreamBox.Exfat

/-- The text of an error. -/
def VentoyError.text : VentoyError → String
  | .io reason => "IO error: " ++ reason
  | .invalidSize size => "Invalid image size: " ++ size ++ ". Minimum is 64MB"
  | .sizeParseError text => "Failed to parse size string: " ++ text
  | .partitionError reason => "Partition error: " ++ reason
  | .filesystemError reason => "Filesystem error: " ++ reason
  | .imageError reason => "Image not found or invalid: " ++ reason
  | .fileNotFound path => "File not found: " ++ path
  | .resourceNotFound name => "Resource not found: " ++ name

/-- `std::io::Error`, by the kinds the reader gives it. -/
inductive IoError
  | other (text : String)
  | invalidInput (text : String)
  deriving DecidableEq, Repr

/-- `std::io::SeekFrom`. -/
inductive SeekFrom
  | start (offset : UInt64)
  | fromEnd (offset : Int64)
  | current (offset : Int64)

/-- A number as an `i64`. -/
def wrapI64 (x : Int) : Int := x.bmod (2 ^ 64)

/-- Streaming file reader for large files. -/
structure ExfatFileReader where
  fs : ExfatFs
  /-- Cluster chain for this file. -/
  clusterChain : List Nat
  /-- Total file size in bytes. -/
  fileSize : Nat
  /-- Current position in the file. -/
  position : Nat := 0
  /-- Cached current cluster data. -/
  clusterCache : Option (Nat × List UInt8) := none

/-- Where a file is looked up to be read. -/
inductive Source
  | root (name : String)
  | path (path : String)

namespace ExfatFileReader

/-- Create reader from file entry location. -/
def fromLocation (location : FileEntryLocation) : ExfatM ExfatFileReader := do
  let clusterChain ←
    if location.firstCluster ≥ 2 ∧ location.dataLength > 0 then
      readClusterChain location.firstCluster
    else pure []
  let fs ← get
  pure { fs := fs, clusterChain := clusterChain, fileSize := location.dataLength }

section

variable [Lowercase]

/-- Open a file for reading from root directory. -/
def «open» (name : String) : ExfatM ExfatFileReader := do
  let fs ← get
  match ← findEntryInDirectory fs.firstClusterOfRoot name with
  | none => throw (.filesystemError s!"File '{name}' not found")
  | some location =>
    if location.isDirectory then throw (.filesystemError s!"'{name}' is a directory")
    else fromLocation location

/-- Open a file for reading from a specific path. -/
def openPath (path : String) : ExfatM ExfatFileReader := do
  let resolved ← resolvePath path false
  match resolved.location with
  | none => throw (.filesystemError s!"File '{path}' not found")
  | some location =>
    if location.isDirectory then throw (.filesystemError s!"'{path}' is a directory")
    else fromLocation location

end

/-- An operation of the filesystem that the reader borrows. -/
def onFs {α : Type} (op : ExfatM α) : EStateM VentoyError ExfatFileReader α := fun reader =>
  match op.run reader.fs with
  | .ok a fs => .ok a { reader with fs := fs }
  | .error e fs => .error e { reader with fs := fs }

/-- Read the cluster at the given index, using cache if available. -/
def readClusterCached (clusterIndex : Nat) : EStateM VentoyError ExfatFileReader (List UInt8) := do
  let reader ← get
  match reader.clusterChain[clusterIndex]? with
  | none => throw (.filesystemError "Cluster index out of range")
  | some clusterNum =>
    match reader.clusterCache.filter (·.1 = clusterNum) with
    | some (_, data) => pure data
    | none => do
      let data ← onFs (readCluster clusterNum)
      modify fun reader => { reader with clusterCache := some (clusterNum, data) }
      pure data

/-- `map_err` to an I/O error. -/
def mapErr {α : Type} (op : EStateM VentoyError ExfatFileReader α) :
    EStateM IoError ExfatFileReader α := fun reader =>
  match op.run reader with
  | .ok a reader => .ok a reader
  | .error e reader => .error (.other e.text) reader

/-- The loop of `read`, with the bytes put into the buffer; every pass takes at least one, so
as many passes as the buffer has bytes are enough. -/
def readLoop (clusterSize fileSize : Nat) :
    Nat → Nat → EStateM IoError ExfatFileReader (List UInt8)
  | 0, _ => pure []
  | fuel + 1, remainingInBuf => do
    let reader ← get
    if 0 < remainingInBuf ∧ reader.position < fileSize then do
      let clusterIndex := reader.position / clusterSize
      let offsetInCluster := reader.position % clusterSize
      let remainingInCluster := clusterSize - offsetInCluster
      let remainingInFile := fileSize - reader.position
      let toRead := min (min remainingInCluster remainingInFile) remainingInBuf
      let clusterData ← mapErr (readClusterCached clusterIndex)
      modify fun reader => { reader with position := reader.position + toRead }
      let more ← readLoop clusterSize fileSize fuel (remainingInBuf - toRead)
      pure ((clusterData.drop offsetInCluster).take toRead ++ more)
    else pure []

/-- Read into a buffer of this length. -/
def read (len : Nat) : EStateM IoError ExfatFileReader (List UInt8) := do
  let reader ← get
  if reader.position ≥ reader.fileSize ∨ len = 0 then pure []
  else readLoop reader.fs.clusterSize reader.fileSize len len

/-- The position a seek asks for, as the `i64` it is computed in. -/
def seekTarget (reader : ExfatFileReader) : SeekFrom → Int
  | .start offset => wrapI64 offset.toNat
  | .fromEnd offset => wrapI64 (wrapI64 reader.fileSize + offset.toInt)
  | .current offset => wrapI64 (wrapI64 reader.position + offset.toInt)

/-- Seek, with the new position. -/
def seek (pos : SeekFrom) : EStateM IoError ExfatFileReader Nat := do
  let reader ← get
  let newPos := reader.seekTarget pos
  if newPos < 0 then throw (.invalidInput "Seek to negative position")
  else do
    modify fun reader => { reader with position := newPos.toNat }
    pure newPos.toNat

end ExfatFileReader

namespace Source

variable [Lowercase]

/-- What the source is found to be. -/
def resolve : Source → ExfatM ResolvedPath
  | .root name => resolveRoot name
  | .path file => resolvePath file false

/-- The whole file at once. -/
def readWhole : Source → ExfatM (List UInt8)
  | .root name => readFile name
  | .path file => readFilePath file

def «open» : Source → ExfatM ExfatFileReader
  | .root name => ExfatFileReader.open name
  | .path file => ExfatFileReader.openPath file

end Source

/-! ## Calls -/

/-- The calls on an open reader. -/
inductive ReaderCall
  | read (len : Nat)
  | seek (pos : SeekFrom)

/-- What a call answers. -/
inductive Answer
  | bytes (data : List UInt8)
  | position (p : Nat)
  | error (e : IoError)
  deriving DecidableEq, Repr

/-- A call on the reader; an error keeps the state it has reached. -/
def ReaderCall.run (reader : ExfatFileReader) : ReaderCall → Answer × ExfatFileReader
  | read len =>
    match (ExfatFileReader.read len).run reader with
    | .ok data reader => (.bytes data, reader)
    | .error e reader => (.error e, reader)
  | seek pos =>
    match (ExfatFileReader.seek pos).run reader with
    | .ok p reader => (.position p, reader)
    | .error e reader => (.error e, reader)

/-- The answers to a row of calls, and the reader behind them. -/
def ExfatFileReader.answers : ExfatFileReader → List ReaderCall → List Answer × ExfatFileReader
  | reader, [] => ([], reader)
  | reader, call :: rest =>
    let (answer, reader) := call.run reader
    let (more, reader) := reader.answers rest
    (answer :: more, reader)

/-! ## The cursor -/

/-- A position in the bytes of a file. -/
structure Cursor where
  data : List UInt8
  position : Nat := 0
  deriving DecidableEq, Repr

namespace Cursor

/-- Where a seek leads, counted from the start of the file. -/
def target (cursor : Cursor) : SeekFrom → Int
  | .start offset => offset.toNat
  | .fromEnd offset => cursor.data.length + offset.toInt
  | .current offset => cursor.position + offset.toInt

/-- A read gives the bytes at the position, as many as there are up to the length asked for. A
seek goes where it leads, unless that is before the start or no `i64`. -/
def call (cursor : Cursor) : ReaderCall → Answer × Cursor
  | .read len =>
    let bytes := (cursor.data.drop cursor.position).take len
    (.bytes bytes, { cursor with position := cursor.position + bytes.length })
  | .seek pos =>
    if 0 ≤ cursor.target pos ∧ cursor.target pos < 2 ^ 63 then
      (.position (cursor.target pos).toNat, { cursor with position := (cursor.target pos).toNat })
    else (.error (.invalidInput "Seek to negative position"), cursor)

/-- The answers to a row of calls, and the cursor behind them. -/
def answers : Cursor → List ReaderCall → List Answer × Cursor
  | cursor, [] => ([], cursor)
  | cursor, call :: rest =>
    let (answer, cursor) := cursor.call call
    let (more, cursor) := cursor.answers rest
    (answer :: more, cursor)

end Cursor

/-! ## Clusters and the bytes of a file -/

/-- The blocks from one on, when all are of one length. -/
theorem drop_flatMap_blocks {rows : List (Nat × List UInt8)} {n i : Nat}
    (hlen : ∀ row ∈ rows, row.2.length = n) (hi : i < rows.length) :
    (rows.flatMap Prod.snd).drop (i * n) = rows[i].2 ++ (rows.drop (i + 1)).flatMap Prod.snd := by
  induction rows generalizing i with
  | nil => simp at hi
  | cons row rest ih =>
    have hrow : row.2.length = n := hlen row List.mem_cons_self
    cases i with
    | zero => simp
    | succ i =>
      have hrest := ih (fun r hr => hlen r (List.mem_cons_of_mem _ hr)) (Nat.lt_of_succ_lt_succ hi)
      have hskip : (i + 1) * n = row.2.length + i * n := by
        rw [hrow, Nat.succ_mul, Nat.add_comm]
      rw [List.flatMap_cons, hskip, List.drop_length_add_append, hrest]
      rfl

/-- The bytes of a file at a position, up to the end of the cluster there and of the file, are
bytes of that cluster. -/
theorem take_drop_fileBytes {rows : List (Nat × List UInt8)} {n size p k : Nat} (hn : 0 < n)
    (hlen : ∀ row ∈ rows, row.2.length = n) (hsize : size ≤ rows.length * n) (hp : p < size)
    (hk : k ≤ min (n - p % n) (size - p)) : ∃ row, rows[p / n]? = some row ∧ row ∈ rows ∧
      ((fileBytes rows size).drop p).take k = (row.2.drop (p % n)).take k := by
  have hi : p / n < rows.length := Nat.div_lt_of_lt_mul (by rw [Nat.mul_comm]; omega)
  have hmod : p % n < n := Nat.mod_lt p hn
  have hsplit : p = p / n * n + p % n := by
    rw [Nat.mul_comm]
    exact (Nat.div_add_mod p n).symm
  refine ⟨rows[p / n], List.getElem?_eq_getElem hi, List.getElem_mem hi, ?_⟩
  have hrow : rows[p / n].2.length = n := hlen _ (List.getElem_mem hi)
  have hdrop : (rows.flatMap Prod.snd).drop p
      = rows[p / n].2.drop (p % n) ++ (rows.drop (p / n + 1)).flatMap Prod.snd := by
    conv_lhs => rw [hsplit]
    rw [← List.drop_drop, drop_flatMap_blocks hlen hi, List.drop_append_of_le_length (by omega)]
  rw [fileBytes, List.drop_take, List.take_take, Nat.min_eq_left (by omega), hdrop,
    List.take_append_of_le_length (by rw [List.length_drop]; omega)]

/-! ## The reader and its cursor -/

namespace ExfatFileReader

/-- The reader is open on a file of `size` bytes in these clusters. -/
structure OpenOn (g : VolumeParams) (t : Table) (rows : List (Nat × List UInt8)) (size : Nat)
    (reader : ExfatFileReader) : Prop where
  stores : Stores g t reader.fs
  stored : ∀ row ∈ rows, ∃ k o, t k = some o ∧ row ∈ o.rows
  chain : reader.clusterChain = rows.map Prod.fst
  fileSize : reader.fileSize = size
  room : size ≤ rows.length * g.clusterSize
  cached : ∀ row, reader.clusterCache = some row → row ∈ rows
  size63 : size < 2 ^ 63
  position63 : reader.position < 2 ^ 63

variable {g : VolumeParams} {t : Table} {rows : List (Nat × List UInt8)} {size : Nat}
  {reader : ExfatFileReader}

/-- A reader starts with nothing cached. -/
theorem OpenOn.start {fs : ExfatFs} (h : Stores g t fs)
    (hstored : ∀ row ∈ rows, ∃ k o, t k = some o ∧ row ∈ o.rows)
    (hroom : size ≤ rows.length * g.clusterSize) (hsize : size < 2 ^ 63) :
    OpenOn g t rows size { fs := fs, clusterChain := rows.map Prod.fst, fileSize := size } where
  stores := h
  stored := hstored
  chain := rfl
  fileSize := rfl
  room := hroom
  cached := by
    intro row hrow
    cases hrow
  size63 := hsize
  position63 := Nat.two_pow_pos 63

theorem OpenOn.clusterSize_pos (h : OpenOn g t rows size reader) : 0 < g.clusterSize := by
  have hsize := h.stores.valid.sizeLo
  omega

theorem OpenOn.length_row (h : OpenOn g t rows size reader) :
    ∀ row ∈ rows, row.2.length = g.clusterSize := by
  intro row hrow
  obtain ⟨k, o, ho, hmem⟩ := h.stored row hrow
  exact h.stores.length_row ho hmem

/-- A cluster of the file is read as it is stored. -/
theorem OpenOn.readCluster_eq (h : OpenOn g t rows size reader) {row : Nat × List UInt8}
    (hrow : row ∈ rows) : (readCluster row.1).run reader.fs = .ok row.2 reader.fs := by
  obtain ⟨k, o, ho, hmem⟩ := h.stored row hrow
  exact h.stores.readCluster_eq ho hmem

theorem OpenOn.length_fileBytes (h : OpenOn g t rows size reader) :
    (fileBytes rows size).length = size := by
  have hlen : (rows.flatMap Prod.snd).length = rows.length * g.clusterSize := by
    rw [List.length_flatMap]
    have hmap : rows.map (fun row => row.2.length) = rows.map fun _ => g.clusterSize :=
      List.map_congr_left h.length_row
    rw [hmap]
    simp
  have hroom := h.room
  rw [fileBytes, List.length_take, hlen]
  omega


theorem onFs_run {α : Type} {op : ExfatM α} {a : α} {fs : ExfatFs} {reader : ExfatFileReader}
    (h : op.run reader.fs = .ok a fs) : (onFs op).run reader = .ok a { reader with fs := fs } := by
  show onFs op reader = _
  rw [onFs, h]

theorem mapErr_run {α : Type} {op : EStateM VentoyError ExfatFileReader α} {a : α}
    {reader' : ExfatFileReader} (h : op.run reader = .ok a reader') :
    (mapErr op).run reader = .ok a reader' := by
  show mapErr op reader = _
  rw [mapErr, h]

/-- A cluster of the chain is given as it is stored, cached or not. -/
theorem OpenOn.readClusterCached_returns (h : OpenOn g t rows size reader) {i : Nat}
    {row : Nat × List UInt8} (hi : rows[i]? = some row) :
    Returns (readClusterCached i) reader fun data reader' =>
      data = row.2 ∧ OpenOn g t rows size reader' ∧ reader'.position = reader.position := by
  have hrow : row ∈ rows := List.mem_of_getElem? hi
  have hchain : reader.clusterChain[i]? = some row.1 := by
    rw [h.chain, List.getElem?_map, hi]
    rfl
  have hread := h.readCluster_eq hrow
  unfold readClusterCached
  refine Returns.of_run (x := get) rfl ?_
  rw [hchain]
  dsimp only
  cases hcache : reader.clusterCache.filter (·.1 = row.1) with
  | some cached =>
    obtain ⟨hsome, hsame⟩ := Option.filter_eq_some_iff.mp hcache
    have hsame : cached.1 = row.1 := by simpa using hsame
    have hcached := h.readCluster_eq (h.cached cached hsome)
    rw [hsame, hread] at hcached
    injection hcached with hdata
    exact Returns.pure ⟨hdata.symm, h, rfl⟩
  | none =>
    refine Returns.of_run (onFs_run hread) (Returns.of_run (run_modify _ _) (Returns.pure ⟨rfl, ?_, rfl⟩))
    refine ⟨h.stores, h.stored, h.chain, h.fileSize, h.room, ?_, h.size63, h.position63⟩
    intro cached hcached
    rw [← Option.some.inj hcached]
    exact hrow

/-- The loop of a read gives the bytes at the position, as many as there are up to the length
asked for. -/
theorem OpenOn.readLoop_returns (fuel : Nat) : ∀ {len : Nat} {reader : ExfatFileReader},
    OpenOn g t rows size reader → len ≤ fuel →
      Returns (readLoop g.clusterSize size fuel len) reader fun bytes reader' =>
        bytes = ((fileBytes rows size).drop reader.position).take len ∧
          OpenOn g t rows size reader' ∧ reader'.position = reader.position + bytes.length := by
  induction fuel with
  | zero =>
    intro len reader h hlen
    have hzero : len = 0 := by omega
    subst hzero
    exact Returns.pure ⟨by simp, h, rfl⟩
  | succ fuel ih =>
    intro len reader h hlen
    refine Returns.of_run (x := get) rfl ?_
    by_cases hmore : 0 < len ∧ reader.position < size
    · rw [if_pos hmore]
      dsimp only
      generalize hk : min (min (g.clusterSize - reader.position % g.clusterSize)
        (size - reader.position)) len = toRead
      obtain ⟨row, hrow, hmem, hslice⟩ := take_drop_fileBytes (k := toRead) h.clusterSize_pos
        h.length_row h.room hmore.2 (by omega)
      have hmod := Nat.mod_lt reader.position h.clusterSize_pos
      have hlength := h.length_row row hmem
      obtain ⟨_, reader₁, hcached, rfl, h₁, hposition⟩ := h.readClusterCached_returns hrow
      refine Returns.of_run (mapErr_run hcached) (Returns.of_run (run_modify _ _) ?_)
      have hmoved : OpenOn g t rows size { reader₁ with position := reader₁.position + toRead } :=
        ⟨h₁.stores, h₁.stored, h₁.chain, h₁.fileSize, h₁.room, h₁.cached, h₁.size63, by
          have hsize := h.size63
          show reader₁.position + toRead < 2 ^ 63
          omega⟩
      obtain ⟨more, reader₂, hloop, rfl, h₂, hend⟩ := ih hmoved (show len - toRead ≤ fuel by omega)
      refine Returns.of_run hloop (Returns.pure ⟨?_, h₂, ?_⟩)
      · have hle : len = toRead + (len - toRead) := by omega
        conv_rhs => rw [hle]
        rw [List.take_add, hslice, List.drop_drop, ← hposition]
      · have htaken : ((row.2.drop (reader.position % g.clusterSize)).take toRead).length
            = toRead := by
          rw [List.length_take, List.length_drop]
          omega
        rw [hend, List.length_append, htaken, ← hposition, Nat.add_assoc]
    · rw [if_neg hmore]
      have hdone : ((fileBytes rows size).drop reader.position).take len = [] := by
        have hlength := h.length_fileBytes
        rw [List.take_eq_nil_iff, List.drop_eq_nil_iff]
        omega
      exact Returns.pure ⟨hdone.symm, h, rfl⟩

/-- A read gives the bytes at the position. -/
theorem OpenOn.read_returns (h : OpenOn g t rows size reader) (len : Nat) :
    Returns (read len) reader fun bytes reader' =>
      bytes = ((fileBytes rows size).drop reader.position).take len ∧
        OpenOn g t rows size reader' ∧ reader'.position = reader.position + bytes.length := by
  have hparams := h.stores.params
  refine Returns.of_run (x := get) rfl ?_
  rw [h.fileSize, hparams]
  by_cases hdone : reader.position ≥ size ∨ len = 0
  · rw [if_pos hdone]
    have hnone : ((fileBytes rows size).drop reader.position).take len = [] := by
      have hlength := h.length_fileBytes
      rw [List.take_eq_nil_iff, List.drop_eq_nil_iff]
      omega
    exact Returns.pure ⟨hnone.symm, h, rfl⟩
  · rw [if_neg hdone]
    exact OpenOn.readLoop_returns len h (Nat.le_refl len)

/-- A number that is no `i64`, but a sum of two, is negative when it is wrapped. -/
theorem wrapI64_spec {x : Int} (hlo : -2 ^ 63 ≤ x) (hhi : x < 2 ^ 64) :
    (0 ≤ x ∧ x < 2 ^ 63 → wrapI64 x = x) ∧ (¬ (0 ≤ x ∧ x < 2 ^ 63) → wrapI64 x < 0) := by
  rw [wrapI64, Int.bmod_def]
  constructor <;> intro _ <;> split <;> omega

/-- A seek goes where the cursor's does, in wrapped arithmetic. -/
theorem OpenOn.seekTarget_eq (h : OpenOn g t rows size reader) (pos : SeekFrom) :
    reader.seekTarget pos = wrapI64 (Cursor.target ⟨fileBytes rows size, reader.position⟩ pos) := by
  have hsize : wrapI64 (reader.fileSize : Int) = size := by
    have hsize := h.size63
    rw [h.fileSize]
    exact (wrapI64_spec (by omega) (by omega)).1 (by omega)
  have hposition : wrapI64 (reader.position : Int) = reader.position := by
    have hposition := h.position63
    exact (wrapI64_spec (by omega) (by omega)).1 (by omega)
  cases pos with
  | start offset => rfl
  | fromEnd offset => rw [seekTarget, Cursor.target, hsize, h.length_fileBytes]
  | current offset => rw [seekTarget, Cursor.target, hposition]

theorem OpenOn.target_bounds (h : OpenOn g t rows size reader) (pos : SeekFrom) :
    -2 ^ 63 ≤ Cursor.target ⟨fileBytes rows size, reader.position⟩ pos ∧
      Cursor.target ⟨fileBytes rows size, reader.position⟩ pos < 2 ^ 64 := by
  have hsize := h.size63
  have hposition := h.position63
  cases pos with
  | start offset =>
    have hoffset := offset.toNat_lt
    show -2 ^ 63 ≤ (offset.toNat : Int) ∧ (offset.toNat : Int) < 2 ^ 64
    omega
  | fromEnd offset =>
    have hlo := offset.le_toInt
    have hhi := offset.toInt_lt
    rw [Cursor.target, h.length_fileBytes]
    omega
  | current offset =>
    have hlo := offset.le_toInt
    have hhi := offset.toInt_lt
    show -2 ^ 63 ≤ (reader.position : Int) + offset.toInt ∧
      (reader.position : Int) + offset.toInt < 2 ^ 64
    omega

/-- A call on the reader does what it does on its cursor. -/
theorem OpenOn.call_follows (h : OpenOn g t rows size reader) (call : ReaderCall) :
    OpenOn g t rows size (call.run reader).2 ∧
      Cursor.call ⟨fileBytes rows size, reader.position⟩ call
        = ((call.run reader).1, ⟨fileBytes rows size, (call.run reader).2.position⟩) := by
  cases call with
  | read len =>
    obtain ⟨_, reader', hread, rfl, h', hposition⟩ := h.read_returns len
    rw [ReaderCall.run, hread, hposition]
    exact ⟨h', rfl⟩
  | seek pos =>
    have htarget := h.seekTarget_eq pos
    obtain ⟨hlo, hhi⟩ := h.target_bounds pos
    obtain ⟨hsame, hnegative⟩ := wrapI64_spec hlo hhi
    rw [ReaderCall.run, Cursor.call]
    generalize Cursor.target ⟨fileBytes rows size, reader.position⟩ pos = x at *
    by_cases hx : 0 ≤ x ∧ x < 2 ^ 63
    · have hseek : (seek pos).run reader = .ok x.toNat { reader with position := x.toNat } := by
        rw [seek, run_get_bind, htarget, hsame hx, if_neg (by omega)]
        rfl
      rw [hseek, if_pos hx]
      refine ⟨⟨h.stores, h.stored, h.chain, h.fileSize, h.room, h.cached, h.size63, ?_⟩, rfl⟩
      show x.toNat < 2 ^ 63
      omega
    · have hseek : (seek pos).run reader
          = .error (.invalidInput "Seek to negative position") reader := by
        rw [seek, run_get_bind, htarget, if_pos (hnegative hx)]
        rfl
      rw [hseek, if_neg hx]
      exact ⟨h, rfl⟩

/-- A row of calls on the reader does what it does on its cursor. -/
theorem OpenOn.answers_follow (calls : List ReaderCall) : ∀ {reader : ExfatFileReader},
    OpenOn g t rows size reader → Cursor.answers ⟨fileBytes rows size, reader.position⟩ calls
      = ((reader.answers calls).1, ⟨fileBytes rows size, (reader.answers calls).2.position⟩) := by
  induction calls with
  | nil =>
    intro reader _
    rfl
  | cons call rest ih =>
    intro reader h
    obtain ⟨h', hcall⟩ := h.call_follows call
    rw [Cursor.answers, hcall]
    dsimp only
    rw [ih h']
    rfl

end ExfatFileReader

/-! ## Stored files -/

section

variable [Lowercase] {g : VolumeParams} {t : Table} {label : Nat → List String} {fs : ExfatFs}

/-- The file found in a directory can be read at once, and it can be opened. -/
theorem Stores.found_file (h : Stores g t fs) (hwf : Wf g t label)
    (hbytes : g.clusterCount * g.clusterSize < 2 ^ 63) {k : Nat} {dir : Rows}
    (ho : t k = some (.dir dir)) {targetLower : String} {location : FileEntryLocation}
    (hfinds : Finds targetLower dir (some location)) (hfile : location.isDirectory = false) :
    ∃ rows, Returns (readFileFromLocation location) fs (fun data _ =>
        data = fileBytes rows location.dataLength) ∧
      Returns (ExfatFileReader.fromLocation location) fs fun reader _ =>
        reader.OpenOn g t rows location.dataLength ∧ reader.position = 0 := by
  obtain ⟨p, e, rfl, -, -⟩ := hfinds
  have hmem : e ∈ rowSets (p.fill [.set e]) := by simp [sets]
  have hparams := h.params
  obtain ⟨-, hrefers⟩ := hwf.entries k _ ho e hmem
  cases hrefers with
  | empty hfirst hdir hsize =>
    have hlength : (p.locate e).dataLength = 0 := hsize
    refine ⟨[], Returns.of_eq (a := []) (t := fs) ?_ (by simp [fileBytes]), ?_⟩
    · rw [readFileFromLocation, if_pos hlength]
      rfl
    · rw [ExfatFileReader.fromLocation, if_neg (by omega), hlength]
      refine Returns.of_run (run_pure _ _) (Returns.of_run (x := get) rfl (Returns.pure ⟨?_, rfl⟩))
      exact .start h (fun row hrow => absurd hrow List.not_mem_nil) (Nat.zero_le _)
        (Nat.two_pow_pos 63)
  | file rows hafter hobject hdir hlen hlabel =>
    have hroot := h.valid.rootLo
    have hclusterSize := h.valid.sizeLo
    have hsize : (p.locate e).dataLength ≤ g.clusterCount * g.clusterSize :=
      h.size_le hobject hlen
    have hroom : (p.locate e).dataLength ≤ rows.length * g.clusterSize := by
      rw [hlen]
      exact le_clustersNeeded (by omega)
    -- a file that has a chain has bytes
    have hsome : (p.locate e).dataLength > 0 := by
      obtain ⟨d, -, hholds⟩ := h
      obtain ⟨rest, hkeyed⟩ := hholds.keyed _ _ hobject
      have hpos : 0 < rows.length := by
        rw [← List.length_map (f := Prod.fst), ← Obj.chain_file, hkeyed]
        simp
      rw [hlen, clustersNeeded] at hpos
      show e.size > 0
      by_contra hzero
      rw [if_pos (by omega)] at hpos
      exact absurd hpos (Nat.lt_irrefl 0)
    refine ⟨rows, (h.readFileFromLocation_returns hobject rfl).mono fun _ _ hread => hread.1, ?_⟩
    rw [ExfatFileReader.fromLocation, if_pos ⟨show e.firstCluster ≥ 2 by omega, hsome⟩]
    obtain ⟨chain, fs', hchain, rfl, h'⟩ := h.readClusterChain_returns hobject
    refine Returns.of_run hchain (Returns.of_run (x := get) rfl (Returns.pure ⟨?_, rfl⟩))
    exact .start h' (fun row hrow => ⟨_, _, hobject, hrow⟩) hroom (by omega)
  | dir rows _ _ hdir => exact absurd (hdir.symm.trans hfile) (by simp)

/-- Reading and opening a source start where it is found. -/
theorem Source.runs_of_resolve {source : Source} {resolved : ResolvedPath} {fs₁ : ExfatFs}
    (hresolve : source.resolve.run fs = .ok resolved fs₁) {location : FileEntryLocation}
    (hfound : resolved.location = some location) (hfile : location.isDirectory = false) :
    source.readWhole.run fs = (readFileFromLocation location).run fs₁ ∧
      source.open.run fs = (ExfatFileReader.fromLocation location).run fs₁ := by
  cases source with
  | root name =>
    obtain ⟨found, hfind, rfl⟩ := resolveRoot_eq_ok hresolve
    have hfound : found = some location := hfound
    subst hfound
    constructor
    · rw [Source.readWhole, readFile, run_get_bind, bind_of_ok hfind]
    · rw [Source.open, ExfatFileReader.open, run_get_bind, bind_of_ok hfind]
      simp [hfile]
  | path path =>
    have hresolve : (resolvePath path false).run fs = .ok resolved fs₁ := hresolve
    constructor
    · rw [Source.readWhole, readFilePath, bind_of_ok hresolve, hfound]
      simp [hfile]
    · rw [Source.open, ExfatFileReader.openPath, bind_of_ok hresolve, hfound]
      simp [hfile]

/-- A source is looked up in a directory. -/
theorem Source.resolve_ensures (h : Stores g t fs) (hfits : g.BitmapFits) (hwf : Wf g t label)
    (source : Source) :
    Ensures source.resolve fs fun resolved fs' => ∃ t' label' rows, Stores g t' fs' ∧
      Wf g t' label' ∧ t' resolved.parentCluster = some (.dir rows) ∧
        Finds (toLowercase resolved.name) rows resolved.location := by
  cases source with
  | root name =>
    refine (h.resolveRoot_returns hwf name).ensures.mono ?_
    rintro resolved fs' ⟨h', rows, hlands⟩
    exact ⟨t, label, rows, h', hlands.wf, hlands.parent, hlands.finds⟩
  | path path =>
    refine (h.resolvePath_lands hfits hwf path false).mono ?_
    rintro resolved fs' ⟨t', label', rows, h', hlands⟩
    exact ⟨t', label', rows, h', hlands.wf, hlands.parent, hlands.finds⟩

omit [Lowercase] in
/-- The clusters of a volume have less than `2 ^ 63` bytes. -/
theorem Volume.heap_lt {sectors : Nat} (h : Sized sectors) (base : Nat) :
    (params base sectors).clusterCount * (params base sectors).clusterSize < 2 ^ 63 := by
  have hend := heap_end sectors h
  have hlt := h.lt32
  show clusterCount sectors * getClusterSize sectors < 2 ^ 63
  omega

omit [Lowercase] in
theorem NewVolume.heap_lt (h : NewVolume fs) : fs.clusterCount * fs.clusterSize < 2 ^ 63 := by
  obtain ⟨hsize, haccepted, hfits, hformat, hfile, hopen⟩ := h
  obtain ⟨hmin, rfl⟩ := (PartitionLayout.calculate_eq_ok hsize _).mp haccepted
  have hsized := hfits.sized hmin
  obtain ⟨-, hroom, rfl⟩ := opened_formatted hsize haccepted hsized.lt32 hformat hfile hopen
  rw [(formatted_stores _ _ hsized hroom _).params]
  exact Volume.heap_lt hsized _

/-- Every reached state has the clusters of a volume. -/
theorem ReachedBy.heap_lt {allowed : Change → Prop} (h : ReachedBy allowed fs) :
    fs.clusterCount * fs.clusterSize < 2 ^ 63 := by
  induction h with
  | opened hnew => exact hnew.heap_lt
  | step change hreached _ hrun ih =>
    obtain ⟨g, hg, htree⟩ := hreached.isTree
    obtain ⟨_, _, hstores', -⟩ := change.run_ensures htree hg () _ hrun
    obtain ⟨_, _, hstores, -⟩ := htree
    rw [hstores'.params]
    rwa [hstores.params] at ih

end

end StreamBox.Exfat
