import StreamBox.Exfat.Objects
import StreamBox.Exfat.Operations

/-!
# File contents

Writing and reading the clusters of a file, at once and in a stream.

* **Whole files** — the clusters of a chain get the data cluster by cluster, and
  reading them gives it back.
* **Streams** — a writer has its data in the first clusters and its buffer, at any cut
  of the data into writes; more than the announced size is not taken.
-/

namespace StreamBox.Exfat

variable {g : VolumeParams} {t : Table} {fs : ExfatFs} {k : Nat}

/-! ## Whole files -/

/-- The clusters of a chain with data, cluster by cluster, padded with zeros. -/
def chunkRows (g : VolumeParams) : List Nat → List UInt8 → List (Nat × List UInt8)
  | [], _ => []
  | c :: rest, data =>
    (c, g.pad (data.take g.clusterSize)) :: chunkRows g rest (data.drop g.clusterSize)

@[simp] theorem map_fst_chunkRows (chain : List Nat) (data : List UInt8) :
    (chunkRows g chain data).map Prod.fst = chain := by
  induction chain generalizing data with
  | nil => rfl
  | cons c rest ih => rw [chunkRows, List.map_cons, ih]

@[simp] theorem length_chunkRows (chain : List Nat) (data : List UInt8) :
    (chunkRows g chain data).length = chain.length := by
  rw [← List.length_map (f := Prod.fst), map_fst_chunkRows]

/-- The bytes of a file of this size in the clusters of its chain. -/
def fileBytes (rows : List (Nat × List UInt8)) (size : Nat) : List UInt8 :=
  (rows.flatMap Prod.snd).take size

/-- The clusters have the data, if there are enough of them. -/
theorem fileBytes_chunkRows (chain : List Nat) {data : List UInt8}
    (h : data.length ≤ chain.length * g.clusterSize) :
    fileBytes (chunkRows g chain data) data.length = data := by
  unfold fileBytes
  induction chain generalizing data with
  | nil =>
    have hnil : data = [] := List.eq_nil_of_length_eq_zero (by simpa using h)
    rw [hnil]
    rfl
  | cons c rest ih =>
    rw [chunkRows, List.flatMap_cons]
    by_cases hlast : data.length ≤ g.clusterSize
    · rw [List.take_of_length_le hlast, VolumeParams.pad, List.append_assoc]
      exact List.take_left' rfl
    · have hfull : (data.take g.clusterSize).length = g.clusterSize := by
        rw [List.length_take]
        omega
      have hrest : (data.drop g.clusterSize).length ≤ rest.length * g.clusterSize := by
        rw [List.length_cons, Nat.add_mul, Nat.one_mul] at h
        rw [List.length_drop]
        omega
      have hlen : data.length - (data.take g.clusterSize).length
          = (data.drop g.clusterSize).length := by
        rw [hfull, List.length_drop]
      have hwhole : (data.take g.clusterSize).length ≤ data.length := by
        rw [hfull]
        omega
      rw [VolumeParams.pad_of_full hfull, List.take_append, hlen, ih hrest,
        List.take_of_length_le hwhole, List.take_append_drop]

/-- Writing the data over the clusters of a file, the ones before `todo` being written. -/
theorem Stores.writeChunks_returns (h : Stores g t fs) (done : List (Nat × List UInt8))
    {todo : List (Nat × List UInt8)} (ho : t k = some (.file (done ++ todo)))
    (data : List UInt8) :
    Returns (writeChunks g.clusterSize (todo.map Prod.fst) data) fs fun _ fs' =>
      Stores g (Function.update t k (some (.file
        (done ++ chunkRows g (todo.map Prod.fst) data)))) fs' := by
  induction todo generalizing done data t fs with
  | nil =>
    refine Returns.pure ?_
    rw [List.map_nil, chunkRows, Function.update_eq_self_iff.mpr ho.symm]
    exact h
  | cons row rest ih =>
    rw [List.map_cons, writeChunks]
    refine Returns.bind (h.writeCluster_returns ho
      (.file (done ++ (row.1, g.pad (data.take g.clusterSize)) :: rest))
      (List.length_take_le _ _) rfl rfl) ?_
    intro _ fs₁ h₁
    have hself : Function.update t k (some (.file
        (done ++ (row.1, g.pad (data.take g.clusterSize)) :: rest))) k
        = some (.file ((done ++ [(row.1, g.pad (data.take g.clusterSize))]) ++ rest)) := by
      rw [Function.update_self, List.append_assoc]
      rfl
    have hrest := ih h₁ (done ++ [(row.1, g.pad (data.take g.clusterSize))]) hself
      (data.drop g.clusterSize)
    rw [Function.update_idem, List.append_assoc] at hrest
    exact hrest

/-- Reading the clusters of a file, the bytes before `todo` being read. -/
theorem Stores.readChunks_eq (h : Stores g t fs) (done : List (Nat × List UInt8))
    {todo : List (Nat × List UInt8)} (ho : t k = some (.file (done ++ todo))) (size : Nat)
    (data : List UInt8) :
    (readChunks g.clusterSize size (todo.map Prod.fst) data).run fs
      = .ok (data ++ (todo.flatMap Prod.snd).take (size - data.length)) fs := by
  induction todo generalizing done data with
  | nil => simp [readChunks]
  | cons row rest ih =>
    have hrow : row ∈ done ++ row :: rest := List.mem_append_right _ List.mem_cons_self
    have hlen : row.2.length = g.clusterSize := h.length_row ho hrow
    have htake : row.2.take (min (size - data.length) g.clusterSize)
        = row.2.take (size - data.length) := by
      rw [← hlen, ← List.take_take, List.take_length]
    have hnext := ih (done ++ [row]) (by rw [ho, List.append_assoc]; rfl)
      (data ++ row.2.take (size - data.length))
    rw [List.map_cons, readChunks, bind_of_ok (h.readCluster_eq ho hrow)]
    show (readChunks g.clusterSize size (rest.map Prod.fst) (data ++
      row.2.take (min (size - data.length) g.clusterSize))).run fs = _
    rw [htake, hnext, List.append_assoc, List.flatMap_cons, List.take_append]
    congr 4
    rw [List.length_append, List.length_take]
    omega

/-- Reading a stored file gives its bytes. -/
theorem Stores.readFileFromLocation_returns (h : Stores g t fs)
    {rows : List (Nat × List UInt8)} (ho : t k = some (.file rows)) {location : FileEntryLocation}
    (hk : location.firstCluster = k) :
    Returns (readFileFromLocation location) fs fun data fs' =>
      data = fileBytes rows location.dataLength ∧ Stores g t fs' := by
  unfold readFileFromLocation
  by_cases hzero : location.dataLength = 0
  · rw [if_pos hzero, hzero]
    exact Returns.pure ⟨rfl, h⟩
  · have hparams := h.params
    obtain ⟨chain, fs₁, hchain, rfl, h₁⟩ := h.readClusterChain_returns ho
    have hread := h₁.readChunks_eq [] ho location.dataLength []
    refine Returns.of_eq (a := fileBytes rows location.dataLength) (t := fs₁) ?_ ⟨rfl, h₁⟩
    rw [if_neg hzero, run_get_bind, hk, bind_of_ok hchain, hparams, Obj.chain_file]
    exact hread

/-! ## Streams -/

namespace ExfatFileWriter

/-- The writer has taken the bytes `data`: those in the clusters `done`, and then its
buffer. -/
structure Taken (g : VolumeParams) (writer : ExfatFileWriter) (done todo : List (Nat × List UInt8))
    (data : List UInt8) : Prop where
  clusters : writer.allocatedClusters = (done ++ todo).map Prod.fst
  index : writer.currentClusterIndex = done.length
  written : writer.bytesWritten = data.length
  stored : done.flatMap Prod.snd ++ writer.clusterBuffer = data
  full : (done.flatMap Prod.snd).length = done.length * g.clusterSize
  short : writer.clusterBuffer.length < g.clusterSize
  bound : data.length ≤ writer.totalSize
  room : writer.totalSize ≤ (done ++ todo).length * g.clusterSize

/-- What a session keeps of its writer. -/
structure SameFile (a b : ExfatFileWriter) : Prop where
  name : b.name = a.name
  dirCluster : b.dirCluster = a.dirCluster
  totalSize : b.totalSize = a.totalSize
  allocatedClusters : b.allocatedClusters = a.allocatedClusters

theorem SameFile.refl (a : ExfatFileWriter) : SameFile a a := ⟨rfl, rfl, rfl, rfl⟩

theorem SameFile.trans {a b c : ExfatFileWriter} (h : SameFile a b) (h' : SameFile b c) :
    SameFile a c :=
  ⟨h'.name.trans h.name, h'.dirCluster.trans h.dirCluster, h'.totalSize.trans h.totalSize,
    h'.allocatedClusters.trans h.allocatedClusters⟩

variable {writer : ExfatFileWriter} {done todo : List (Nat × List UInt8)} {data : List UInt8}

/-- While the buffer has bytes, there is a cluster for them. -/
theorem Taken.next (h : Taken g writer done todo data) {size : Nat}
    (hsize : done.length * g.clusterSize < size) (hle : size ≤ writer.totalSize) :
    ∃ c old rest, todo = (c, old) :: rest ∧
      writer.allocatedClusters[writer.currentClusterIndex]? = some c := by
  have hroom := h.room
  cases todo with
  | nil =>
    rw [List.append_nil] at hroom
    omega
  | cons row rest =>
    refine ⟨row.1, row.2, rest, rfl, ?_⟩
    rw [h.clusters, h.index, List.map_append, List.map_cons,
      List.getElem?_append_right (by rw [List.length_map]), List.length_map, Nat.sub_self]
    rfl

/-- A pass of the buffer loop that does not fill the buffer. -/
theorem writeLoop_fill {clusterSize fuel chunkSize : Nat} {more : List UInt8}
    (hmore : more ≠ [] ∧ writer.bytesWritten < writer.totalSize)
    (hchunk : min (min (clusterSize - writer.clusterBuffer.length) more.length)
      (writer.totalSize - writer.bytesWritten) = chunkSize)
    (hshort : ¬ (writer.clusterBuffer ++ more.take chunkSize).length ≥ clusterSize) :
    writeLoop clusterSize (fuel + 1) writer more =
      writeLoop clusterSize fuel { writer with
        clusterBuffer := writer.clusterBuffer ++ more.take chunkSize
        bytesWritten := writer.bytesWritten + chunkSize } (more.drop chunkSize) := by
  subst hchunk
  rw [writeLoop, if_pos hmore]
  exact if_neg hshort

/-- A pass of the buffer loop that fills the buffer writes it to the next cluster. -/
theorem writeLoop_flush {clusterSize fuel chunkSize cluster : Nat} {more : List UInt8}
    (hmore : more ≠ [] ∧ writer.bytesWritten < writer.totalSize)
    (hchunk : min (min (clusterSize - writer.clusterBuffer.length) more.length)
      (writer.totalSize - writer.bytesWritten) = chunkSize)
    (hfull : (writer.clusterBuffer ++ more.take chunkSize).length ≥ clusterSize)
    (hcluster : writer.allocatedClusters[writer.currentClusterIndex]? = some cluster) :
    writeLoop clusterSize (fuel + 1) writer more = (do
      writeCluster cluster (writer.clusterBuffer ++ more.take chunkSize)
      writeLoop clusterSize fuel { writer with
        clusterBuffer := []
        bytesWritten := writer.bytesWritten + chunkSize
        currentClusterIndex := writer.currentClusterIndex + 1 } (more.drop chunkSize)) := by
  subst hchunk
  rw [writeLoop, if_pos hmore]
  refine (if_pos hfull).trans ?_
  simp only [hcluster]

/-- The buffer loop takes the data up to the announced size. -/
theorem writeLoop_returns (fuel : Nat) (h : Stores g t fs)
    (ho : t k = some (.file (done ++ todo))) (htaken : Taken g writer done todo data)
    {more : List UInt8} (hfuel : more.length ≤ fuel) :
    Returns (writeLoop g.clusterSize fuel writer more) fs fun result fs' =>
      ∃ done' todo', Stores g (Function.update t k (some (.file (done' ++ todo')))) fs' ∧
        Taken g result.1 done' todo' (data ++ more.take (writer.totalSize - data.length)) ∧
        SameFile writer result.1 := by
  induction fuel generalizing writer done todo data more t fs with
  | zero =>
    have hnil : more = [] := List.eq_nil_of_length_eq_zero (Nat.le_zero.mp hfuel)
    subst hnil
    refine Returns.pure ⟨done, todo, ?_, ?_, SameFile.refl writer⟩
    · rwa [Function.update_eq_self_iff.mpr ho.symm]
    · rwa [List.take_nil, List.append_nil]
  | succ fuel ih =>
    have hbound := htaken.bound
    have hwritten := htaken.written
    have hshort := htaken.short
    by_cases hmore : more ≠ [] ∧ writer.bytesWritten < writer.totalSize
    · obtain ⟨hne, hless⟩ := hmore
      have hpos : 0 < more.length := List.length_pos_iff.mpr hne
      generalize hchunk : min (min (g.clusterSize - writer.clusterBuffer.length) more.length)
        (writer.totalSize - writer.bytesWritten) = chunkSize
      have hchunkPos : 0 < chunkSize := by omega
      have hchunkMore : chunkSize ≤ more.length := by omega
      have hchunkRest : chunkSize ≤ writer.totalSize - data.length := by omega
      have htake : (more.take chunkSize).length = chunkSize := List.length_take_of_le hchunkMore
      have hfuel' : (more.drop chunkSize).length ≤ fuel := by
        rw [List.length_drop]
        omega
      -- the data taken by this pass and by the following ones
      have hsplit : data ++ more.take chunkSize ++
          (more.drop chunkSize).take (writer.totalSize - (data ++ more.take chunkSize).length)
          = data ++ more.take (writer.totalSize - data.length) := by
        have hrest : writer.totalSize - data.length
            = chunkSize + (writer.totalSize - (data ++ more.take chunkSize).length) := by
          rw [List.length_append, htake]
          omega
        rw [hrest, List.take_add, List.append_assoc]
      have hlen : (data ++ more.take chunkSize).length = data.length + chunkSize := by
        rw [List.length_append, htake]
      have hbuffer : (writer.clusterBuffer ++ more.take chunkSize).length
          = writer.clusterBuffer.length + chunkSize := by
        rw [List.length_append, htake]
      by_cases hflush : (writer.clusterBuffer ++ more.take chunkSize).length ≥ g.clusterSize
      · have hfull : (writer.clusterBuffer ++ more.take chunkSize).length = g.clusterSize := by
          omega
        have hdone : data.length = done.length * g.clusterSize + writer.clusterBuffer.length := by
          rw [← htaken.stored, List.length_append, htaken.full]
        have hnext : done.length * g.clusterSize < data.length + chunkSize := by omega
        obtain ⟨c, old, rest, rfl, hcluster⟩ := htaken.next hnext (by omega)
        have hwrite := h.writeCluster_returns ho
          (.file ((done ++ [(c, writer.clusterBuffer ++ more.take chunkSize)]) ++ rest))
          (Nat.le_of_eq hfull) rfl (by
            rw [VolumeParams.pad_of_full hfull, List.append_assoc]
            rfl)
        have htaken' : Taken g { writer with
            clusterBuffer := []
            bytesWritten := writer.bytesWritten + chunkSize
            currentClusterIndex := writer.currentClusterIndex + 1 }
            (done ++ [(c, writer.clusterBuffer ++ more.take chunkSize)]) rest
            (data ++ more.take chunkSize) := by
          refine ⟨?_, ?_, ?_, ?_, ?_, ?_, ?_, ?_⟩
          · rw [htaken.clusters]
            simp
          · rw [List.length_append, ← htaken.index]
            rfl
          · rw [hlen, ← hwritten]
          · rw [← htaken.stored]
            simp
          · rw [List.flatMap_append, List.length_append, htaken.full, List.length_append,
              Nat.add_mul]
            simpa using hfull
          · show 0 < g.clusterSize
            omega
          · show (data ++ more.take chunkSize).length ≤ writer.totalSize
            omega
          · show writer.totalSize ≤ _
            refine Nat.le_trans htaken.room (Nat.le_of_eq ?_)
            simp
        rw [writeLoop_flush ⟨hne, hless⟩ hchunk hflush hcluster]
        refine Returns.bind hwrite ?_
        intro _ fs₁ h₁
        refine (ih h₁ (Function.update_self ..) htaken' hfuel').mono ?_
        rintro result fs' ⟨done', todo', h', htaken', hname, hdir, hsize, hclusters⟩
        rw [Function.update_idem] at h'
        exact ⟨done', todo', h', hsplit ▸ htaken', hname, hdir, hsize, hclusters⟩
      · have htaken' : Taken g { writer with
            clusterBuffer := writer.clusterBuffer ++ more.take chunkSize
            bytesWritten := writer.bytesWritten + chunkSize } done todo
            (data ++ more.take chunkSize) := by
          refine ⟨htaken.clusters, htaken.index, ?_, ?_, htaken.full, ?_, ?_, htaken.room⟩
          · rw [hlen, ← hwritten]
          · rw [← htaken.stored, List.append_assoc]
          · exact Nat.lt_of_not_le hflush
          · show (data ++ more.take chunkSize).length ≤ writer.totalSize
            omega
        rw [writeLoop_fill ⟨hne, hless⟩ hchunk hflush]
        refine (ih h ho htaken' hfuel').mono ?_
        rintro result fs' ⟨done', todo', h', htaken', hname, hdir, hsize, hclusters⟩
        exact ⟨done', todo', h', hsplit ▸ htaken', hname, hdir, hsize, hclusters⟩
    · rw [writeLoop, if_neg hmore]
      have hnone : more.take (writer.totalSize - data.length) = [] := by
        by_cases hne : more = []
        · rw [hne, List.take_nil]
        · have hnot : ¬ writer.bytesWritten < writer.totalSize := fun hlt => hmore ⟨hne, hlt⟩
          have hzero : writer.totalSize - data.length = 0 := by omega
          rw [hzero, List.take_zero]
      refine Returns.pure ⟨done, todo, ?_, ?_, SameFile.refl writer⟩
      · rwa [Function.update_eq_self_iff.mpr ho.symm]
      · rwa [hnone, List.append_nil]

/-- Writing the chunks one after the other takes their bytes up to the announced size. -/
theorem writeAll_returns (chunks : List (List UInt8)) (h : Stores g t fs)
    (ho : t k = some (.file (done ++ todo))) (htaken : Taken g writer done todo data) :
    Returns (writeAll writer chunks) fs fun writer' fs' =>
      ∃ done' todo', Stores g (Function.update t k (some (.file (done' ++ todo')))) fs' ∧
        Taken g writer' done' todo' (data ++ chunks.flatten.take (writer.totalSize - data.length)) ∧
        SameFile writer writer' := by
  induction chunks generalizing writer done todo data t fs with
  | nil =>
    refine Returns.pure ⟨done, todo, ?_, ?_, SameFile.refl writer⟩
    · rwa [Function.update_eq_self_iff.mpr ho.symm]
    · rwa [List.flatten_nil, List.take_nil, List.append_nil]
  | cons chunk rest ih =>
    have hparams := h.params
    obtain ⟨⟨writer₁, left⟩, fs₁, hrun, done₁, todo₁, h₁, htaken₁, hsame₁⟩ :=
      writeLoop_returns chunk.length h ho htaken (Nat.le_refl _)
    have hwrite : (write writer chunk).run fs = .ok (writer₁, chunk.length - left.length) fs₁ := by
      rw [write, run_get_bind, hparams, bind_of_ok hrun]
      rfl
    obtain ⟨writer₂, fs₂, hrest, done₂, todo₂, h₂, htaken₂, hsame₂⟩ :=
      ih h₁ (Function.update_self ..) htaken₁
    refine Returns.of_eq ((bind_of_ok hwrite).trans hrest) ⟨done₂, todo₂, ?_, ?_, hsame₁.trans hsame₂⟩
    · rwa [Function.update_idem] at h₂
    · have htotal : writer₁.totalSize = writer.totalSize := hsame₁.totalSize
      have hsplit : data ++ chunk.take (writer.totalSize - data.length) ++
          rest.flatten.take (writer₁.totalSize -
            (data ++ chunk.take (writer.totalSize - data.length)).length)
          = data ++ (chunk :: rest).flatten.take (writer.totalSize - data.length) := by
        rw [List.flatten_cons, List.take_append, List.append_assoc, htotal]
        congr 3
        rw [List.length_append, List.length_take]
        omega
      rwa [hsplit] at htaken₂

/-- The bytes taken by a writer whose buffer is written. -/
theorem Taken.fileBytes_append (h : Taken g writer done todo data) {bytes : List UInt8}
    (hbytes : ∃ more, bytes = writer.clusterBuffer ++ more) (rest : List (Nat × List UInt8)) (c : Nat) :
    fileBytes (done ++ (c, bytes) :: rest) data.length = data := by
  obtain ⟨more, rfl⟩ := hbytes
  rw [fileBytes, List.flatMap_append, List.flatMap_cons, ← List.append_assoc, ← List.append_assoc,
    h.stored, List.append_assoc]
  exact List.take_left' rfl

/-- Finishing writes the buffer, so that the file has the bytes taken, and creates the entry. -/
theorem finish_eq (h : Stores g t fs) (ho : t k = some (.file (done ++ todo)))
    (htaken : Taken g writer done todo data) :
    ∃ rows fs', Stores g (Function.update t k (some (.file rows))) fs' ∧
      rows.map Prod.fst = writer.allocatedClusters ∧ fileBytes rows data.length = data ∧
      (finish writer).run fs = (createEntryInDirectory writer.dirCluster writer.name
        (writer.allocatedClusters.headD 0) writer.totalSize false).run fs' := by
  have hstored := htaken.stored
  cases hbuffer : writer.clusterBuffer with
  | nil =>
    rw [hbuffer, List.append_nil] at hstored
    refine ⟨done ++ todo, fs, ?_, htaken.clusters.symm, ?_, by rw [finish, hbuffer]⟩
    · rwa [Function.update_eq_self_iff.mpr ho.symm]
    · rw [fileBytes, List.flatMap_append, hstored, List.take_left]
  | cons byte buffer =>
    have hlen : data.length = done.length * g.clusterSize + (byte :: buffer).length := by
      rw [← hstored, List.length_append, htaken.full, hbuffer]
    have hfirst : done.length * g.clusterSize < data.length := by
      rw [hlen, List.length_cons]
      omega
    obtain ⟨c, old, rest, rfl, hcluster⟩ := htaken.next hfirst htaken.bound
    have hshort : (byte :: buffer).length ≤ g.clusterSize := by
      rw [← hbuffer]
      exact Nat.le_of_lt htaken.short
    obtain ⟨u, fs', hwrite, h'⟩ := h.writeCluster_returns ho
      (.file (done ++ (c, g.pad (byte :: buffer)) :: rest)) hshort rfl rfl
    refine ⟨_, fs', h', ?_, htaken.fileBytes_append ⟨_, by rw [hbuffer]; rfl⟩ rest c, ?_⟩
    · rw [htaken.clusters, List.map_append, List.map_append]
      rfl
    · rw [finish, hbuffer, hcluster]
      exact bind_of_ok hwrite

end ExfatFileWriter

end StreamBox.Exfat
