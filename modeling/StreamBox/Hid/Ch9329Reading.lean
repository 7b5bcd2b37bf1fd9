import StreamBox.Hid.Ch9329Frames

/-!
# Reading CH9329 frames

What `xfer_packet` gets out of the bytes that come over the line.

* **Resynchronisation** — a frame behind garbage is returned exactly when no header of the
  garbage asks for bytes that are not there (`resyncs_iff`).
* **Chunks** — packets come back however their bytes are cut into reads, and none comes back
  with one byte changed (`packets_survive_chunks`).
-/

namespace StreamBox.Hid.Ch9329

/-! ## Resynchronisation -/

/-- The scan returns a frame of the buffer, and uses up no part of another one. -/
def Resyncs (buffer : List UInt8) : Prop :=
  ∃ p r, FrameAt buffer p r ∧ tryExtractResponse buffer = some (r, p + r.size) ∧
    ∀ q r', FrameAt buffer q r' → q = p ∨ p + r.size ≤ q

/-- No header before the first frame asks for bytes that are not there, and no second frame
begins inside the first one. -/
def Clear (buffer : List UInt8) : Prop :=
  ∀ p r, FrameAt buffer p r → (∀ q < p, ∀ r', ¬ FrameAt buffer q r') →
    (∀ q < p, ¬ Waits buffer q) ∧ ∀ q r', FrameAt buffer q r' → q = p ∨ p + r.size ≤ q

/-- A buffer with a frame has a first one. -/
theorem exists_first {buffer : List UInt8} (h : ∃ p r, FrameAt buffer p r) :
    ∃ p r, FrameAt buffer p r ∧ ∀ q < p, ∀ r', ¬ FrameAt buffer q r' := by
  classical
  obtain ⟨r, hr⟩ := Nat.find_spec h
  exact ⟨Nat.find h, r, hr, fun q hq r' hq' => Nat.find_min h hq ⟨r', hq'⟩⟩

/-- In a buffer with a frame the scan finds its way exactly when nothing hides that frame. -/
theorem resyncs_iff (buffer : List UInt8) (h : ∃ p r, FrameAt buffer p r) :
    Resyncs buffer ↔ Clear buffer := by
  constructor
  · rintro ⟨p, r, hframe, hextract, hothers⟩ p' r' hframe' hfirst'
    obtain ⟨p₀, hforemost, hconsumed⟩ := tryExtractResponse_eq_some_iff.1 hextract
    obtain rfl : p = p₀ := Nat.add_right_cancel hconsumed
    obtain rfl : p' = p := by
      refine Nat.le_antisymm (Nat.le_of_not_lt fun hlt => hfirst' p hlt r hframe)
        (Nat.le_of_not_lt fun hlt => ?_)
      exact (hforemost.2 p' hlt).1 r' hframe'
    cases hframe.unique hframe'
    exact ⟨fun q hq => (hforemost.2 q hq).2, hothers⟩
  · intro hclear
    obtain ⟨p, r, hframe, hfirst⟩ := exists_first h
    obtain ⟨hwaits, hothers⟩ := hclear p r hframe hfirst
    have hforemost : Foremost buffer p r :=
      ⟨hframe, fun q hq => ⟨hfirst q hq, hwaits q hq⟩⟩
    exact ⟨p, r, hframe, tryExtractResponse_eq_some_iff.2 ⟨p, hforemost, rfl⟩, hothers⟩

/-- A frame behind two bytes that begin no frame. -/
theorem resyncs_behind_noise :
    Resyncs [0x12, 0x57, 0x57, 0xAB, 0x00, 0x82, 0x01, 0x00, 0x85] ↔
      Clear [0x12, 0x57, 0x57, 0xAB, 0x00, 0x82, 0x01, 0x00, 0x85] :=
  resyncs_iff _ ⟨2, _, parse_drop_iff.1 rfl⟩

/-- A frame behind a header that asks for 255 bytes of data. -/
def hidden : List UInt8 :=
  [0x57, 0xAB, 0x00, 0x81, 0xFF, 0x57, 0xAB, 0x00, 0x82, 0x01, 0x00, 0x85]

theorem hidden_not_resyncs : (∃ p r, FrameAt hidden p r) ∧ ¬ Resyncs hidden := by
  refine ⟨⟨5, _, parse_drop_iff.1 rfl⟩, ?_⟩
  rintro ⟨p, r, -, hextract, -⟩
  have hnone : tryExtractResponse hidden = none := by decide
  rw [hnone] at hextract
  cases hextract

/-! ## Chunks -/

/-- Some bytes are used up with every response. -/
theorem consumed_pos {buffer : List UInt8} {r : Response} {consumed : Nat}
    (h : tryExtractResponse buffer = some (r, consumed)) :
    0 < consumed ∧ consumed ≤ buffer.length := by
  obtain ⟨p, hforemost, rfl⟩ := tryExtractResponse_eq_some_iff.1 h
  have hfits := hforemost.1.fits
  unfold Response.size at hfits ⊢
  omega

/-- The responses taken from the pending bytes, and the bytes left. -/
def drainResponses (pending : List UInt8) : List Response × List UInt8 :=
  match _hextract : tryExtractResponse pending with
  | some (response, consumed) =>
    let (responses, pending) := drainResponses (pending.drop consumed)
    (response :: responses, pending)
  | none => ([], pending)
termination_by pending.length
decreasing_by
  have hconsumed := consumed_pos _hextract
  rw [List.length_drop]
  omega

/-- One read of `xfer_packet`: its responses, and the bytes that stay pending. -/
def readChunk (pending chunk : List UInt8) : List Response × List UInt8 :=
  let (responses, pending) := drainResponses (pending ++ chunk)
  let pending :=
    if MAX_PACKET_SIZE * 4 < pending.length then pending.drop (pending.length - MAX_PACKET_SIZE)
    else pending
  (responses, pending)

/-- Read after read, while none of the responses is the one that is waited for. -/
def readChunks (pending : List UInt8) : List (List UInt8) → List Response × List UInt8
  | [] => ([], pending)
  | chunk :: chunks =>
    let (responses, pending) := readChunk pending chunk
    let (more, pending) := readChunks pending chunks
    (responses ++ more, pending)

/-- What a packet is built of. -/
structure Content where
  address : UInt8
  cmd : UInt8
  data : List UInt8
  fits : data.length ≤ MAX_DATA_LEN

namespace Content

def build (c : Content) : Option (List UInt8) := buildPacket c.address c.cmd c.data

def bytes (c : Content) : List UInt8 := frame c.address c.cmd c.data

def response (c : Content) : Response := Ch9329.response c.address c.cmd c.data

theorem build_eq (c : Content) : c.build = some c.bytes := buildPacket_eq c.address c.cmd c.fits

theorem data_lt (c : Content) : c.data.length < 256 := Nat.lt_of_le_of_lt c.fits (by decide)

theorem length_bytes (c : Content) : c.bytes.length = c.response.size := length_frame ..

theorem length_bytes_le (c : Content) : c.bytes.length ≤ MAX_PACKET_SIZE := by
  have hfits := c.fits
  rw [bytes, length_frame]
  unfold MAX_DATA_LEN at hfits
  unfold MAX_PACKET_SIZE
  omega

theorem mapM_build (cs : List Content) : cs.mapM build = some (cs.map bytes) := by
  induction cs with
  | nil => rfl
  | cons c cs ih =>
    rw [List.mapM_cons, build_eq, ih]
    rfl

/-- The packet at the front of the buffer is returned. -/
theorem extract_append (c : Content) (rest : List UInt8) :
    tryExtractResponse (c.bytes ++ rest) = some (c.response, c.bytes.length) := by
  have hframe : FrameAt (c.bytes ++ rest) 0 c.response :=
    ⟨c.address, c.cmd, c.data, rest, c.data_lt, rfl, rfl⟩
  refine tryExtractResponse_eq_some_iff.2
    ⟨0, ⟨hframe, fun q hq => absurd hq (Nat.not_lt_zero q)⟩, ?_⟩
  rw [length_bytes, Nat.zero_add]

/-- From the beginning of a packet nothing is returned. -/
theorem extract_begun {c : Content} {begun rest : List UInt8} (h : begun ++ rest = c.bytes)
    (hrest : rest ≠ []) : tryExtractResponse begun = none := by
  have hframe : FrameAt (begun ++ rest) 0 c.response :=
    ⟨c.address, c.cmd, c.data, [], c.data_lt, by rw [h, List.append_nil]; rfl, rfl⟩
  obtain ⟨hfirst, hsecond, hsize⟩ := hframe.head
  have hlength : begun.length < c.response.size := by
    rw [← length_bytes, ← h, List.length_append]
    exact Nat.lt_add_of_pos_right (List.length_pos_iff.2 hrest)
  rw [Option.eq_none_iff_forall_ne_some]
  rintro ⟨r, consumed⟩ hextract
  obtain ⟨p, hforemost, -⟩ := tryExtractResponse_eq_some_iff.1 hextract
  have hfits := hforemost.1.fits
  have hsix : p + 6 ≤ begun.length := Nat.le_trans (by unfold Response.size; omega) hfits
  have hsame : ∀ i < 6, (begun ++ rest).getD i 0 = begun.getD i 0 := fun i hi =>
    List.getD_append _ _ _ _ (by omega)
  rw [hsame 0 (by decide)] at hfirst
  rw [hsame 1 (by decide)] at hsecond
  rw [hsame 4 (by decide)] at hsize
  cases p with
  | zero =>
    have := hforemost.1.head.2.2
    omega
  | succ p =>
    refine (hforemost.2 0 (Nat.succ_pos p)).2 ⟨by omega, hfirst, hsecond, ?_⟩
    rw [Nat.zero_add, Nat.zero_add, hsize]
    exact hlength

end Content

/-- The pending bytes are what has come of the next packet. -/
def Begun (pending : List UInt8) : List Content → Prop
  | [] => pending = []
  | c :: _ => ∃ rest, rest ≠ [] ∧ pending ++ rest = c.bytes

theorem Begun.length_le {pending : List UInt8} {left : List Content} (h : Begun pending left) :
    pending.length ≤ MAX_PACKET_SIZE := by
  cases left with
  | nil =>
    obtain rfl : pending = [] := h
    exact Nat.zero_le _
  | cons c cs =>
    obtain ⟨rest, -, hbytes⟩ := h
    have hle := c.length_bytes_le
    rw [← hbytes, List.length_append] at hle
    omega

theorem Begun.extract {pending : List UInt8} {left : List Content} (h : Begun pending left) :
    tryExtractResponse pending = none := by
  cases left with
  | nil =>
    obtain rfl : pending = [] := h
    rfl
  | cons c cs =>
    obtain ⟨rest, hrest, hbytes⟩ := h
    exact Content.extract_begun hbytes hrest

theorem drainResponses_of_none {pending : List UInt8} (h : tryExtractResponse pending = none) :
    drainResponses pending = ([], pending) := by
  rw [drainResponses]
  split
  · next heq =>
    rw [h] at heq
    cases heq
  · rfl

theorem drainResponses_of_some {pending : List UInt8} {response : Response} {consumed : Nat}
    (h : tryExtractResponse pending = some (response, consumed)) :
    drainResponses pending = (response :: (drainResponses (pending.drop consumed)).1,
      (drainResponses (pending.drop consumed)).2) := by
  rw [drainResponses]
  split
  · next heq =>
    rw [h] at heq
    cases heq
    rfl
  · next heq =>
    rw [h] at heq
    cases heq

/-- The packets that are there whole are taken, the next one stays. -/
theorem drainResponses_spec {bytes coming : List UInt8} {left : List Content}
    (h : bytes ++ coming = (left.map Content.bytes).flatten) :
    ∃ done left' pending, left = done ++ left' ∧
      drainResponses bytes = (done.map Content.response, pending) ∧
      pending ++ coming = (left'.map Content.bytes).flatten ∧ Begun pending left' := by
  induction left generalizing bytes with
  | nil =>
    obtain ⟨rfl, rfl⟩ := List.append_eq_nil_iff.1 h
    exact ⟨[], [], [], rfl, drainResponses_of_none rfl, rfl, rfl⟩
  | cons c cs ih =>
    rw [List.map_cons, List.flatten_cons] at h
    have hwhole : ∀ more, bytes = c.bytes ++ more →
        more ++ coming = (cs.map Content.bytes).flatten →
        ∃ done left' pending, c :: cs = done ++ left' ∧
          drainResponses bytes = (done.map Content.response, pending) ∧
          pending ++ coming = (left'.map Content.bytes).flatten ∧ Begun pending left' := by
      rintro more rfl hmore
      obtain ⟨done, left', pending, rfl, hdrain, hpending, hbegun⟩ := ih hmore
      refine ⟨c :: done, left', pending, rfl, ?_, hpending, hbegun⟩
      rw [drainResponses_of_some (c.extract_append more), List.drop_left, hdrain]
      rfl
    rcases List.append_eq_append_iff.1 h with ⟨rest, hbytes, hcoming⟩ | ⟨more, hbytes, hmore⟩
    · by_cases hrest : rest = []
      · subst hrest
        exact hwhole [] (by simpa using hbytes.symm) (by simpa using hcoming)
      · have hbegun : Begun bytes (c :: cs) := ⟨rest, hrest, hbytes.symm⟩
        exact ⟨[], c :: cs, bytes, rfl, drainResponses_of_none hbegun.extract, h, hbegun⟩
    · exact hwhole more hbytes hmore.symm

/-- The reads give the packets that are left. -/
theorem readChunks_spec {pending : List UInt8} {left : List Content} (reads : List (List UInt8))
    (hbegun : Begun pending left)
    (h : pending ++ reads.flatten = (left.map Content.bytes).flatten) :
    readChunks pending reads = (left.map Content.response, []) := by
  induction reads generalizing pending left with
  | nil =>
    rw [List.flatten_nil, List.append_nil] at h
    cases left with
    | nil => rw [readChunks, show pending = [] from hbegun, List.map_nil]
    | cons c cs =>
      -- the next packet would have to be there whole
      obtain ⟨rest, hrest, hbytes⟩ := hbegun
      have hlength := congrArg List.length h
      rw [List.map_cons, List.flatten_cons, ← hbytes, List.length_append, List.length_append]
        at hlength
      have := List.length_pos_iff.2 hrest
      omega
  | cons chunk chunks ih =>
    rw [List.flatten_cons, ← List.append_assoc] at h
    obtain ⟨done, left', pending', rfl, hdrain, hpending, hbegun'⟩ := drainResponses_spec h
    have hkept : ¬ MAX_PACKET_SIZE * 4 < pending'.length := by
      have := hbegun'.length_le
      omega
    rw [readChunks, readChunk, hdrain]
    simp only [if_neg hkept, ih hbegun' hpending, List.map_append]

/-! ## A changed byte -/

theorem calculateChecksum_append (xs ys : List UInt8) :
    calculateChecksum (xs ++ ys) = calculateChecksum xs + calculateChecksum ys := by
  have hstart : ∀ (a : UInt8) (l : List UInt8), l.foldl (· + ·) a = a + l.foldl (· + ·) 0 := by
    intro a l
    induction l generalizing a with
    | nil => simp
    | cons x l ih =>
      rw [List.foldl_cons, List.foldl_cons, ih (a + x), ih (0 + x), UInt8.zero_add, UInt8.add_assoc]
  rw [calculateChecksum, List.foldl_append, hstart]
  rfl

/-- The last byte of a frame is the sum of the others. -/
theorem frame_summed {address cmd : UInt8} {data xs : List UInt8} {c : UInt8}
    (h : frame address cmd data = xs ++ [c]) : c = calculateChecksum xs := by
  rw [frame] at h
  obtain ⟨rfl, hc⟩ := List.append_inj' h rfl
  exact (List.singleton_inj.1 hc).symm

/-- A frame with one byte changed is no frame. -/
theorem frame_set_ne {address cmd : UInt8} {data : List UInt8} {i : Nat} {b : UInt8}
    (hi : i < (frame address cmd data).length) (hb : (frame address cmd data)[i] ≠ b)
    (address' cmd' : UInt8) (data' : List UInt8) :
    (frame address cmd data).set i b ≠ frame address' cmd' data' := by
  intro h
  refine hb ?_
  obtain ⟨xs, ys, x, hx, hxs, hset⟩ : ∃ xs ys x, (frame address cmd data)[i] = x ∧
      frame address cmd data = xs ++ x :: ys ∧
      (frame address cmd data).set i b = xs ++ b :: ys := by
    refine ⟨_, _, _, rfl, ?_, List.set_eq_take_append_cons_drop.trans (if_pos hi)⟩
    rw [List.getElem_cons_drop, List.take_append_drop]
  rw [hset] at h
  rw [hx]
  rcases List.eq_nil_or_concat' ys with rfl | ⟨ys, c, rfl⟩
  · exact (frame_summed hxs).trans (frame_summed h.symm).symm
  · have hsum := frame_summed (hxs.trans (List.append_assoc xs (x :: ys) [c]).symm)
    have hsum' := frame_summed (h.symm.trans (List.append_assoc xs (b :: ys) [c]).symm)
    rw [hsum, calculateChecksum_append, calculateChecksum_append, UInt8.add_right_inj] at hsum'
    have hone : ∀ a : UInt8, calculateChecksum (a :: ys) = a + calculateChecksum ys := by
      intro a
      rw [← List.singleton_append, calculateChecksum_append]
      exact congrArg (· + _) (UInt8.zero_add a)
    rw [hone, hone] at hsum'
    exact (UInt8.add_left_inj _).1 hsum'

/-- No frame as long as the packet is returned in place of a packet with a changed byte. -/
theorem extract_changed (c : Content) {i : Nat} {b : UInt8} (hi : i < c.bytes.length)
    (hb : c.bytes[i] ≠ b) {rest : List UInt8} {r : Response} {consumed : Nat}
    (h : tryExtractResponse (c.bytes.set i b ++ rest) = some (r, consumed))
    (hlen : r.data.length = c.data.length) : c.bytes.length < consumed := by
  obtain ⟨p, hforemost, rfl⟩ := tryExtractResponse_eq_some_iff.1 h
  have hsize : r.size = c.bytes.length := by
    rw [Content.length_bytes]
    exact congrArg (6 + ·) hlen
  cases p with
  | succ p => omega
  | zero =>
    obtain ⟨address, cmd, data, rest', -, hbytes, rfl⟩ := hforemost.1
    refine absurd (List.append_inj_left hbytes ?_) (frame_set_ne hi hb address cmd data)
    rw [List.length_set, length_frame, ← hsize]
    rfl

/-- Packets come back whole and in order however their bytes are cut into reads; a packet with
one byte changed does not come back as a frame of the same length, whatever is behind it. -/
theorem packets_survive_chunks :
    (∀ packets : List Content, ∃ frames, packets.mapM Content.build = some frames ∧
      ∀ reads : List (List UInt8), reads.flatten = frames.flatten →
        readChunks [] reads = (packets.map Content.response, [])) ∧
    ∀ (packet : Content) (bytes : List UInt8), packet.build = some bytes →
      ∀ (i : Nat) (b : UInt8) (hi : i < bytes.length), bytes[i] ≠ b →
        (∀ r consumed, tryExtractResponse (bytes.set i b) = some (r, consumed) →
          r.data.length ≠ packet.data.length) ∧
        ∀ rest r consumed, tryExtractResponse (bytes.set i b ++ rest) = some (r, consumed) →
          r.data.length = packet.data.length → bytes.length < consumed := by
  refine ⟨fun packets => ⟨_, Content.mapM_build packets, fun reads hreads => ?_⟩, ?_⟩
  · refine readChunks_spec reads ?_ hreads
    cases packets with
    | nil => rfl
    | cons c cs => exact ⟨c.bytes, List.cons_ne_nil _ _, rfl⟩
  · intro packet bytes hbuild i b hi hb
    rw [packet.build_eq] at hbuild
    cases hbuild
    refine ⟨fun r consumed h hlen => ?_, fun rest r consumed h hlen =>
      extract_changed packet hi hb h hlen⟩
    have hused := (consumed_pos h).2
    rw [← List.append_nil (packet.bytes.set i b)] at h
    have hbehind := extract_changed packet hi hb h hlen
    rw [List.length_set] at hused
    omega

/-- A packet without data, and one with the header as its data. -/
def twoPackets : List Content :=
  [⟨0x00, 0x01, [], by decide⟩, ⟨0x00, 0x02, [0x57, 0xAB], by decide⟩]

theorem two_packets_in_three_reads :
    readChunks [] [[0x57], [0xAB, 0x00, 0x01, 0x00, 0x03, 0x57, 0xAB, 0x00, 0x02, 0x02, 0x57],
        [0xAB, 0x08]] = (twoPackets.map Content.response, []) ∧
      ∀ r consumed, tryExtractResponse [0x57, 0xAB, 0x00, 0x09, 0x00, 0x03] = some (r, consumed) →
        r.data.length ≠ 0 := by
  constructor
  · obtain ⟨frames, hframes, hreads⟩ := packets_survive_chunks.1 twoPackets
    have hbuild : twoPackets.mapM Content.build =
        some [[0x57, 0xAB, 0x00, 0x01, 0x00, 0x03],
          [0x57, 0xAB, 0x00, 0x02, 0x02, 0x57, 0xAB, 0x08]] := by
      decide
    rw [hbuild] at hframes
    cases hframes
    exact hreads _ rfl
  · exact (packets_survive_chunks.2 ⟨0x00, 0x01, [], by decide⟩
      [0x57, 0xAB, 0x00, 0x01, 0x00, 0x03] (by decide) 3 0x09 (by decide) (by decide)).1

end StreamBox.Hid.Ch9329
