import Mathlib.Data.List.GetD
import StreamBox.Hid.Ch9329

/-!
# CH9329 frames

What goes over the serial line: header, address, command, length, data and checksum.

* **Building** — `buildPacket` writes a frame; more data than a packet takes panics.
* **Reading** — `tryExtractResponse` looks for a header and believes the length behind it.
* **Scan** — it returns the first frame of the buffer, unless a header before that one asks for
  bytes that are not there yet (`tryExtractResponse_eq_some_iff`).
-/

namespace StreamBox.Hid.Ch9329

/-- CH9329 packet header. -/
def PACKET_HEADER : UInt8 × UInt8 := (0x57, 0xAB)

/-- Maximum data length in a packet. -/
def MAX_DATA_LEN : Nat := 64

/-- Maximum packet size (header 2 + addr 1 + cmd 1 + len 1 + data 64 + checksum 1). -/
def MAX_PACKET_SIZE : Nat := 70

def RESPONSE_ERROR_MASK : UInt8 := 0xC0

inductive Ch9329Error
  | success | timeout | invalidHeader | invalidCommand | checksumError | parameterError
  | operationFailed
  deriving DecidableEq, Repr

def Ch9329Error.ofByte (code : UInt8) : Ch9329Error :=
  if code = 0x00 then .success
  else if code = 0xE1 then .timeout
  else if code = 0xE2 then .invalidHeader
  else if code = 0xE3 then .invalidCommand
  else if code = 0xE4 then .checksumError
  else if code = 0xE5 then .parameterError
  else .operationFailed

/-- Parsed response from CH9329. -/
structure Response where
  address : UInt8
  cmd : UInt8
  data : List UInt8
  isError : Bool
  errorCode : Option Ch9329Error
  deriving DecidableEq, Repr

/-- The sum of all bytes. -/
def calculateChecksum (data : List UInt8) : UInt8 := data.foldl (· + ·) 0

/-- Parse a response from raw bytes. -/
def Response.parse (bytes : List UInt8) : Option Response :=
  if bytes.length < 6 then none
  else if bytes.getD 0 0 ≠ PACKET_HEADER.1 ∨ bytes.getD 1 0 ≠ PACKET_HEADER.2 then none
  else
    let cmd := bytes.getD 3 0
    let len := (bytes.getD 4 0).toNat
    if bytes.length < 5 + len + 1 then none
    else if bytes.getD (5 + len) 0 ≠ calculateChecksum (bytes.take (5 + len)) then none
    else
      let data := (bytes.drop 5).take len
      let isError := cmd &&& RESPONSE_ERROR_MASK = RESPONSE_ERROR_MASK
      some
        { address := bytes.getD 2 0
          cmd
          data
          isError
          errorCode := if isError ∧ data ≠ [] then some (.ofByte (data.getD 0 0)) else none }

/-- The loop of `try_extract_response` at an offset; `buffer` is what begins there. -/
def tryExtractFrom (offset : Nat) : List UInt8 → Option (Response × Nat)
  | [] => none
  | b :: rest =>
    let buffer := b :: rest
    if buffer.length < 6 then none
    else if buffer.getD 0 0 ≠ PACKET_HEADER.1 ∨ buffer.getD 1 0 ≠ PACKET_HEADER.2 then
      tryExtractFrom (offset + 1) rest
    else
      let frameLen := 6 + (buffer.getD 4 0).toNat
      if buffer.length < frameLen then none
      else
        match Response.parse (buffer.take frameLen) with
        | some response => some (response, offset + frameLen)
        | none => tryExtractFrom (offset + 1) rest

/-- The first response of a buffer, and how many bytes are used up with it. -/
def tryExtractResponse (buffer : List UInt8) : Option (Response × Nat) := tryExtractFrom 0 buffer

/-- Build a packet into a buffer of the maximum size; `none` is the panic on too much data. -/
def buildPacketBuf (address cmd : UInt8) (data : List UInt8) : Option (List UInt8 × Nat) :=
  if MAX_DATA_LEN < data.length then none
  else
    let packet : List UInt8 := List.replicate MAX_PACKET_SIZE 0
    let packet := packet.set 0 PACKET_HEADER.1
    let packet := packet.set 1 PACKET_HEADER.2
    let packet := packet.set 2 address
    let packet := packet.set 3 cmd
    let packet := packet.set 4 (UInt8.ofNat data.length)
    let packet := packet.take 5 ++ data ++ packet.drop (5 + data.length)
    let checksum := calculateChecksum (packet.take (5 + data.length))
    some (packet.set (5 + data.length) checksum, 6 + data.length)

/-- Build a CH9329 packet. -/
def buildPacket (address cmd : UInt8) (data : List UInt8) : Option (List UInt8) :=
  (buildPacketBuf address cmd data).map fun (buf, len) => buf.take len

example : buildPacket 0x00 0x01 [] = some [0x57, 0xAB, 0x00, 0x01, 0x00, 0x03] := by decide

/-! ## Frames -/

/-- The bytes before the data. -/
def frameHead (address cmd : UInt8) (data : List UInt8) : List UInt8 :=
  [PACKET_HEADER.1, PACKET_HEADER.2, address, cmd, UInt8.ofNat data.length]

/-- What the checksum of a frame is taken of. -/
def frameBody (address cmd : UInt8) (data : List UInt8) : List UInt8 :=
  frameHead address cmd data ++ data

/-- The bytes of a frame. -/
def frame (address cmd : UInt8) (data : List UInt8) : List UInt8 :=
  frameBody address cmd data ++ [calculateChecksum (frameBody address cmd data)]

/-- The response that a frame carries. -/
def response (address cmd : UInt8) (data : List UInt8) : Response :=
  let isError := cmd &&& RESPONSE_ERROR_MASK = RESPONSE_ERROR_MASK
  { address, cmd, data, isError
    errorCode := if isError ∧ data ≠ [] then some (.ofByte (data.getD 0 0)) else none }

/-- How long the frame of a response is. -/
def Response.size (r : Response) : Nat := 6 + r.data.length

/-- A frame begins at a position of the buffer. -/
def FrameAt (buffer : List UInt8) (p : Nat) (r : Response) : Prop :=
  ∃ address cmd data rest, data.length < 256 ∧ buffer.drop p = frame address cmd data ++ rest ∧
    r = response address cmd data

@[simp] theorem length_frameHead (address cmd : UInt8) (data : List UInt8) :
    (frameHead address cmd data).length = 5 := rfl

@[simp] theorem length_frameBody (address cmd : UInt8) (data : List UInt8) :
    (frameBody address cmd data).length = 5 + data.length := by
  rw [frameBody, List.length_append, length_frameHead]

@[simp] theorem length_frame (address cmd : UInt8) (data : List UInt8) :
    (frame address cmd data).length = 6 + data.length := by
  rw [frame, List.length_append, length_frameBody, List.length_singleton]
  omega

/-- A packet is its frame. -/
theorem buildPacket_eq (address cmd : UInt8) {data : List UInt8} (h : data.length ≤ MAX_DATA_LEN) :
    buildPacket address cmd data = some (frame address cmd data) := by
  have hlen := length_frameBody address cmd data
  have hhead : ((((((List.replicate MAX_PACKET_SIZE (0 : UInt8)).set 0 PACKET_HEADER.1).set 1
      PACKET_HEADER.2).set 2 address).set 3 cmd).set 4 (UInt8.ofNat data.length)) =
      frameHead address cmd data ++ List.replicate 65 0 := rfl
  -- the rest of the buffer stays zero, until one byte of it becomes the checksum
  have hzeros : List.replicate (65 - data.length) (0 : UInt8) =
      0 :: List.replicate (64 - data.length) 0 := by
    rw [← List.replicate_succ, show 65 - data.length = 64 - data.length + 1 from Nat.succ_sub h]
  rw [buildPacket, buildPacketBuf, if_neg (by omega)]
  simp only [Option.map_some, hhead, Option.some.injEq]
  rw [List.take_left' (length_frameHead ..), ← List.drop_drop,
    List.drop_left' (length_frameHead ..), List.drop_replicate, hzeros, ← frameBody,
    List.take_left' hlen, ← hlen, List.set_append_right _ _ le_rfl, Nat.sub_self,
    List.set_cons_zero, List.take_append, List.take_of_length_le (by omega),
    show 6 + data.length - (frameBody address cmd data).length = 1 by omega]
  rfl

/-! ## Parsing -/

/-- A frame is parsed, whatever is behind it. -/
theorem parse_frame (address cmd : UInt8) {data : List UInt8} (h : data.length < 256)
    (rest : List UInt8) :
    Response.parse (frame address cmd data ++ rest) = some (response address cmd data) := by
  have hlen := length_frameBody address cmd data
  have hbytes : frame address cmd data ++ rest = frameBody address cmd data ++
      calculateChecksum (frameBody address cmd data) :: rest := by
    rw [frame, List.append_assoc, List.singleton_append]
  have hlength : 6 + data.length ≤ (frame address cmd data ++ rest).length := by
    rw [List.length_append, length_frame]
    omega
  have hn : ((frame address cmd data ++ rest).getD 4 0).toNat = data.length := by
    rw [show (frame address cmd data ++ rest).getD 4 0 = UInt8.ofNat data.length from rfl]
    exact UInt8.toNat_ofNat_of_lt h
  have hchecksum : (frame address cmd data ++ rest).getD (5 + data.length) 0 =
      calculateChecksum (frameBody address cmd data) := by
    rw [hbytes, ← hlen, List.getD_append_right _ _ _ _ le_rfl, Nat.sub_self, List.getD_cons_zero]
  have hbody : (frame address cmd data ++ rest).take (5 + data.length) =
      frameBody address cmd data := by
    rw [hbytes, List.take_left' hlen]
  have hdata : ((frame address cmd data ++ rest).drop 5).take data.length = data := by
    rw [hbytes, frameBody, List.append_assoc, List.drop_left' (length_frameHead ..), List.take_left]
  rw [Response.parse, if_neg (by omega), if_neg (by rintro (h | h) <;> exact h rfl)]
  dsimp only
  rw [hn, if_neg (by omega), if_neg (by rw [hchecksum, hbody]; exact fun h => h rfl), hdata]
  rfl

/-- What is parsed begins with a frame. -/
theorem frame_of_parse {bytes : List UInt8} {r : Response} (h : Response.parse bytes = some r) :
    ∃ address cmd data rest, data.length < 256 ∧ bytes = frame address cmd data ++ rest ∧
      r = response address cmd data := by
  by_cases hshort : bytes.length < 6
  · rw [Response.parse, if_pos hshort] at h
    cases h
  by_cases hheader : bytes.getD 0 0 ≠ PACKET_HEADER.1 ∨ bytes.getD 1 0 ≠ PACKET_HEADER.2
  · rw [Response.parse, if_neg hshort, if_pos hheader] at h
    cases h
  rw [Response.parse, if_neg hshort, if_neg hheader] at h
  obtain _ | ⟨h0, _ | ⟨h1, _ | ⟨address, _ | ⟨cmd, _ | ⟨len, body⟩⟩⟩⟩⟩ := bytes
  iterate 5 exact absurd (by simp) hshort
  simp only [List.getD_cons_zero, List.getD_cons_succ, not_or, ne_eq, not_not] at hheader h
  obtain ⟨rfl, rfl⟩ := hheader
  split at h
  · cases h
  · next hlong =>
    split at h
    · cases h
    · next hsum =>
      have hbody : len.toNat < body.length := by
        simp only [List.length_cons] at hlong
        omega
      have hdata : (body.take len.toNat).length = len.toNat := by
        rw [List.length_take]
        omega
      have hhead : PACKET_HEADER.1 :: PACKET_HEADER.2 :: address :: cmd :: len :: body =
          frameHead address cmd (body.take len.toNat) ++ body := by
        rw [frameHead, hdata, UInt8.ofNat_toNat]
        rfl
      have hchecksum : body[len.toNat] =
          calculateChecksum (frameBody address cmd (body.take len.toNat)) := by
        have hle : (frameHead address cmd (body.take len.toNat)).length ≤ 5 + len.toNat :=
          Nat.le_add_right 5 _
        rw [hhead, List.getD_append_right _ _ _ _ hle, length_frameHead, Nat.add_sub_cancel_left,
          List.getD_eq_getElem _ _ hbody, List.take_append, List.take_of_length_le hle,
          length_frameHead, Nat.add_sub_cancel_left, ← frameBody] at hsum
        exact not_not.1 hsum
      refine ⟨address, cmd, body.take len.toNat, body.drop (len.toNat + 1), ?_, ?_, ?_⟩
      · rw [hdata]
        exact len.toNat_lt
      · rw [hhead, frame, ← hchecksum, frameBody, List.append_assoc, List.append_assoc,
          List.singleton_append, List.getElem_cons_drop, List.take_append_drop]
      · exact (Option.some.inj h).symm

/-- What is parsed from a position on is the frame there. -/
theorem parse_drop_iff {buffer : List UInt8} {p : Nat} {r : Response} :
    Response.parse (buffer.drop p) = some r ↔ FrameAt buffer p r := by
  constructor
  · exact frame_of_parse
  · rintro ⟨address, cmd, data, rest, hdata, hbytes, rfl⟩
    rw [hbytes, parse_frame address cmd hdata]

/-! ## The scan -/

/-- A header at a position asks for bytes that are not there yet. -/
def Waits (buffer : List UInt8) (p : Nat) : Prop :=
  p + 6 ≤ buffer.length ∧ buffer.getD p 0 = PACKET_HEADER.1 ∧
    buffer.getD (p + 1) 0 = PACKET_HEADER.2 ∧
    buffer.length < p + 6 + (buffer.getD (p + 4) 0).toNat

instance (buffer : List UInt8) (p : Nat) : Decidable (Waits buffer p) := by
  unfold Waits
  infer_instance

theorem FrameAt.fits {buffer : List UInt8} {p : Nat} {r : Response} (h : FrameAt buffer p r) :
    p + r.size ≤ buffer.length := by
  obtain ⟨address, cmd, data, rest, _, hbytes, rfl⟩ := h
  have hlen := congrArg List.length hbytes
  rw [List.length_drop, List.length_append, length_frame] at hlen
  simp only [Response.size, response]
  omega

theorem FrameAt.unique {buffer : List UInt8} {p : Nat} {r r' : Response} (h : FrameAt buffer p r)
    (h' : FrameAt buffer p r') : r = r' :=
  Option.some.inj ((parse_drop_iff.2 h).symm.trans (parse_drop_iff.2 h'))

/-- The bytes of a frame as the scan reads them. -/
theorem FrameAt.head {buffer : List UInt8} {r : Response} (h : FrameAt buffer 0 r) :
    buffer.getD 0 0 = PACKET_HEADER.1 ∧ buffer.getD 1 0 = PACKET_HEADER.2 ∧
      6 + (buffer.getD 4 0).toNat = r.size := by
  obtain ⟨address, cmd, data, rest, hdata, hbytes, rfl⟩ := h
  rw [List.drop_zero] at hbytes
  subst hbytes
  exact ⟨rfl, rfl, congrArg (6 + ·) (UInt8.toNat_ofNat_of_lt hdata)⟩

/-- A frame is parsed from the bytes that its length asks for. -/
theorem parse_take_iff {buffer : List UInt8} {r : Response} :
    Response.parse (buffer.take (6 + (buffer.getD 4 0).toNat)) = some r ↔ FrameAt buffer 0 r := by
  constructor
  · intro hparse
    obtain ⟨address, cmd, data, rest, hdata, hbytes, hr⟩ := frame_of_parse hparse
    refine ⟨address, cmd, data, rest ++ buffer.drop (6 + (buffer.getD 4 0).toNat), hdata, ?_, hr⟩
    rw [← List.append_assoc, ← hbytes, List.take_append_drop, List.drop_zero]
  · intro hframe
    have hsize := hframe.head.2.2
    obtain ⟨address, cmd, data, rest, hdata, hbytes, rfl⟩ := hframe
    rw [List.drop_zero] at hbytes
    have htake : buffer.take (6 + data.length) = frame address cmd data ++ [] := by
      rw [hbytes, List.take_left' (length_frame ..), List.append_nil]
    rw [hsize]
    exact (congrArg _ htake).trans (parse_frame address cmd hdata [])

theorem frameAt_cons_succ {b : UInt8} {rest : List UInt8} {p : Nat} {r : Response} :
    FrameAt (b :: rest) (p + 1) r ↔ FrameAt rest p r := Iff.rfl

theorem waits_cons_succ {b : UInt8} {rest : List UInt8} {p : Nat} :
    Waits (b :: rest) (p + 1) ↔ Waits rest p := by
  rw [Waits, Waits, List.length_cons, List.getD_cons_succ, List.getD_cons_succ,
    show (b :: rest).getD (p + 1 + 4) 0 = rest.getD (p + 4) 0 from rfl]
  exact and_congr (by omega) (and_congr_right' (and_congr_right' (by omega)))

/-- A frame with nothing before it that is a frame or waits. -/
def Foremost (buffer : List UInt8) (p : Nat) (r : Response) : Prop :=
  FrameAt buffer p r ∧ ∀ q < p, (∀ r', ¬ FrameAt buffer q r') ∧ ¬ Waits buffer q

/-- A byte where no frame begins and nothing waits is passed over. -/
theorem foremost_cons_succ {b : UInt8} {rest : List UInt8} {p : Nat} {r : Response}
    (hframe : ∀ r', ¬ FrameAt (b :: rest) 0 r') (hwaits : ¬ Waits (b :: rest) 0) :
    Foremost (b :: rest) (p + 1) r ↔ Foremost rest p r := by
  refine and_congr frameAt_cons_succ ⟨fun h q hq => ?_, fun h q hq => ?_⟩
  · have hnot := h (q + 1) (Nat.succ_lt_succ hq)
    exact ⟨hnot.1, mt waits_cons_succ.2 hnot.2⟩
  · cases q with
    | zero => exact ⟨hframe, hwaits⟩
    | succ q =>
      have hnot := h q (Nat.lt_of_succ_lt_succ hq)
      exact ⟨hnot.1, mt waits_cons_succ.1 hnot.2⟩

/-- Where nothing begins, the scan answers as from the next byte. -/
theorem tryExtractFrom_next {b : UInt8} {rest : List UInt8} {offset : Nat} {r : Response}
    {consumed : Nat} (hframe : ∀ r', ¬ FrameAt (b :: rest) 0 r') (hwaits : ¬ Waits (b :: rest) 0)
    (ih : tryExtractFrom (offset + 1) rest = some (r, consumed) ↔
      ∃ p, Foremost rest p r ∧ consumed = offset + 1 + p + r.size) :
    tryExtractFrom (offset + 1) rest = some (r, consumed) ↔
      ∃ p, Foremost (b :: rest) p r ∧ consumed = offset + p + r.size := by
  rw [ih]
  constructor
  · rintro ⟨p, hp, rfl⟩
    exact ⟨p + 1, (foremost_cons_succ hframe hwaits).2 hp, by omega⟩
  · rintro ⟨p, hp, rfl⟩
    cases p with
    | zero => exact absurd hp.1 (hframe r)
    | succ p => exact ⟨p, (foremost_cons_succ hframe hwaits).1 hp, by omega⟩

/-- The scan returns the foremost frame. -/
theorem tryExtractFrom_eq_some_iff (buffer : List UInt8) (offset : Nat) (r : Response)
    (consumed : Nat) :
    tryExtractFrom offset buffer = some (r, consumed) ↔
      ∃ p, Foremost buffer p r ∧ consumed = offset + p + r.size := by
  induction buffer generalizing offset with
  | nil =>
    refine iff_of_false (fun h => nomatch h) ?_
    rintro ⟨p, hp, _⟩
    have := hp.1.fits
    simp only [Response.size, List.length_nil] at this
    omega
  | cons b rest ih =>
    have ih := ih (offset + 1)
    rw [tryExtractFrom]
    dsimp only
    split
    · next hshort =>
      refine iff_of_false (fun h => nomatch h) ?_
      rintro ⟨p, hp, _⟩
      have := hp.1.fits
      simp only [Response.size] at this
      omega
    · next hshort =>
      split
      · next hheader =>
        refine tryExtractFrom_next ?_ ?_ ih
        · intro r' hframe
          exact hheader.elim (fun h => h hframe.head.1) fun h => h hframe.head.2.1
        · intro hwaits
          exact hheader.elim (fun h => h hwaits.2.1) fun h => h hwaits.2.2.1
      · next hheader =>
        rw [not_or, not_not, not_not] at hheader
        split
        · next hlong =>
          -- the header asks for more, so the scan stops here
          have hwaits : Waits (b :: rest) 0 :=
            ⟨by omega, hheader.1, hheader.2, by rw [Nat.zero_add]; exact hlong⟩
          refine iff_of_false (fun h => nomatch h) ?_
          rintro ⟨p, hp, _⟩
          cases p with
          | zero =>
            have hsize := hp.1.head.2.2
            have hfits := hp.1.fits
            omega
          | succ p => exact (hp.2 0 (Nat.succ_pos p)).2 hwaits
        · next hlong =>
          have hwaits : ¬ Waits (b :: rest) 0 := by
            rintro ⟨_, _, _, h⟩
            rw [Nat.zero_add] at h
            exact hlong h
          split
          · next response hparse =>
            have hframe := parse_take_iff.1 hparse
            have hsize := hframe.head.2.2
            constructor
            · intro h
              cases h
              exact ⟨0, ⟨hframe, fun q hq => absurd hq (Nat.not_lt_zero q)⟩, by omega⟩
            · rintro ⟨p, hp, rfl⟩
              cases p with
              | zero =>
                cases hframe.unique hp.1
                rw [hsize]
                rfl
              | succ p => exact absurd hframe ((hp.2 0 (Nat.succ_pos p)).1 response)
          · next hparse =>
            refine tryExtractFrom_next ?_ hwaits ih
            intro r' hframe
            rw [parse_take_iff.2 hframe] at hparse
            cases hparse

/-- The frame that is returned is the foremost one. -/
theorem tryExtractResponse_eq_some_iff {buffer : List UInt8} {r : Response} {consumed : Nat} :
    tryExtractResponse buffer = some (r, consumed) ↔
      ∃ p, Foremost buffer p r ∧ consumed = p + r.size := by
  rw [tryExtractResponse, tryExtractFrom_eq_some_iff]
  simp only [Nat.zero_add]

end StreamBox.Hid.Ch9329
