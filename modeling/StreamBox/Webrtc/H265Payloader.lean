import StreamBox.RustDesk.BytesCodec

/-!
# H.265 RTP payloader

The payloader takes an Annex B access unit apart and sends each NAL unit as one RTP
payload or as fragments.

* **Scan** — units lie between start codes; `nalUnits` is what the payload loop visits.
* **Parameter sets** — VPS, SPS and PPS are kept back, one of each kind, and sent in one
  aggregation packet before the next other unit once all three are there.
* **Fragments** — a unit over the MTU is cut into fragmentation units.
-/

namespace StreamBox.Webrtc

open StreamBox.RustDesk (Bytes)

/-! ## NAL units -/

def h265NalVps : UInt8 := 32
def h265NalSps : UInt8 := 33
def h265NalPps : UInt8 := 34
def h265NalAud : UInt8 := 35
def h265NalFiller : UInt8 := 38
def h265NalFu : UInt8 := 49

/-- The fixed header of an aggregation packet: type 48, layer 0, TID 1. -/
def apPayloadHdr : Bytes := [0x60, 0x01]

namespace H265Payloader

/-- The scan for a start code: the bytes from index `i` on, behind `zeroCount` zeros. -/
def scanInd : Nat → Nat → Bytes → Option (Nat × Nat)
  | _, _, [] => none
  | i, zeroCount, b :: rest =>
    if b = 0 then scanInd (i + 1) (zeroCount + 1) rest
    else if b = 1 ∧ zeroCount ≥ 2 then some (i - zeroCount, zeroCount + 1)
    else scanInd (i + 1) 0 rest

/-- Find the next Annex B start code in the NAL data, from `start` on: where it begins and
how long it is. -/
def nextInd (nalu : Bytes) (start : Nat) : Option (Nat × Nat) := scanInd start 0 (nalu.drop start)

/-- Extract NAL unit type from H.265 NAL header. -/
def getNalType : Bytes → UInt8
  | b0 :: _ :: _ => (b0 >>> 1) &&& 0x3F
  | _ => 0

end H265Payloader

/-- The payloader, with the parameter sets kept back. -/
structure H265Payloader where
  vpsNalu : Option Bytes := none
  spsNalu : Option Bytes := none
  ppsNalu : Option Bytes := none
  deriving DecidableEq, Repr

namespace H265Payloader

/-! ## Sending -/

/-- `put_u16`: a length in two bytes, the high one first. -/
def putU16 (n : Nat) : Bytes := [UInt8.ofNat (n / 256), UInt8.ofNat n]

/-- The size of an aggregation packet of three units. -/
def apSize (vps sps pps : Bytes) : Nat := 2 + 2 + vps.length + 2 + sps.length + 2 + pps.length

/-- The aggregation packet of three units. -/
def aggregationPacket (vps sps pps : Bytes) : Bytes :=
  apPayloadHdr ++ putU16 vps.length ++ vps ++ putU16 sps.length ++ sps ++ putU16 pps.length ++ pps

/-- Try to emit an Aggregation Packet containing VPS+SPS+PPS. -/
def tryEmitAggregationPacket (p : H265Payloader) (mtu : Nat) (payloads : List Bytes) :
    H265Payloader × List Bytes :=
  match p.vpsNalu, p.spsNalu, p.ppsNalu with
  | some vps, some sps, some pps =>
    if apSize vps sps pps > mtu then ({}, payloads ++ [vps, sps, pps])
    else ({}, payloads ++ [aggregationPacket vps sps pps])
  | _, _, _ => (p, payloads)

/-- Maximum payload size per FU packet; below an MTU of 3 the `usize` subtraction wraps. -/
def maxFragmentSize (mtu : Nat) : Nat := if 3 ≤ mtu then mtu - 3 else 2 ^ 64 + mtu - 3

/-- The first byte of a fragment: the unit's own with type 49. -/
def fuByte0 (byte0 : UInt8) : UInt8 := (byte0 &&& (0x81 : UInt8)) ||| (h265NalFu <<< (1 : UInt8))

/-- The header byte of a fragment: start bit, end bit, and the type of the unit. -/
def fuHeader (nalType : UInt8) (isStart isEnd : Bool) : UInt8 :=
  let header := if isStart then nalType ||| 0x80 else nalType
  if isEnd then header ||| 0x40 else header

/-- The fragments of a unit's payload from an offset on. A fragment has at least one byte,
so the length of the payload is enough fuel. -/
def fragmentLoop (byte0 byte1 nalType : UInt8) (maxSize : Nat) (naluPayload : Bytes) :
    Nat → Nat → List Bytes → List Bytes
  | 0, _, payloads => payloads
  | fuel + 1, offset, payloads =>
    if offset < naluPayload.length then
      let fragmentSize := min (naluPayload.length - offset) maxSize
      let header := fuHeader nalType (offset == 0)
        (decide (offset + fragmentSize ≥ naluPayload.length))
      let packet := byte0 :: byte1 :: header :: (naluPayload.drop offset).take fragmentSize
      fragmentLoop byte0 byte1 nalType maxSize naluPayload fuel (offset + fragmentSize)
        (payloads ++ [packet])
    else payloads

/-- Fragment a large NAL unit using FU packets. -/
def emitFragmented (nalu : Bytes) (mtu : Nat) (payloads : List Bytes) : List Bytes :=
  match nalu with
  | b0 :: b1 :: naluPayload =>
    if maxFragmentSize mtu = 0 then payloads
    else
      fragmentLoop (fuByte0 b0) b1 (getNalType nalu) (maxFragmentSize mtu) naluPayload
        naluPayload.length 0 payloads
  | _ => payloads

/-- Emit a single NAL unit, fragmenting if necessary. -/
def emit (p : H265Payloader) (nalu : Bytes) (mtu : Nat) (payloads : List Bytes) :
    H265Payloader × List Bytes :=
  if nalu.length < 2 then (p, payloads)
  else
    let nalType := getNalType nalu
    if nalType = h265NalAud ∨ nalType = h265NalFiller then (p, payloads)
    else if nalType = h265NalVps then ({ p with vpsNalu := some nalu }, payloads)
    else if nalType = h265NalSps then ({ p with spsNalu := some nalu }, payloads)
    else if nalType = h265NalPps then ({ p with ppsNalu := some nalu }, payloads)
    else
      let (p, payloads) := p.tryEmitAggregationPacket mtu payloads
      if nalu.length ≤ mtu then (p, payloads ++ [nalu])
      else (p, emitFragmented nalu mtu payloads)

/-- The loop over the start codes; `prevStart` is where the unit behind the last one begins.
Every pass but the last finds a start code, so the length of the data is enough fuel. -/
def payloadLoop (mtu : Nat) (payload : Bytes) :
    Nat → Nat → H265Payloader → List Bytes → H265Payloader × List Bytes
  | 0, _, p, payloads => (p, payloads)
  | fuel + 1, prevStart, p, payloads =>
    match nextInd payload prevStart with
    | some (nextStart, nextLen) =>
      let (p, payloads) :=
        p.emit ((payload.take nextStart).drop prevStart) mtu payloads
      payloadLoop mtu payload fuel (nextStart + nextLen) p payloads
    | none => p.emit (payload.drop prevStart) mtu payloads

/-- Payload fragments H.265 packets across one or more RTP payloads. -/
def payload (p : H265Payloader) (mtu : Nat) (data : Bytes) : H265Payloader × List Bytes :=
  if data = [] ∨ mtu = 0 then (p, [])
  else
    match nextInd data 0 with
    | none => p.emit data mtu []
    | some (nextStart, nextLen) => payloadLoop mtu data data.length (nextStart + nextLen) p []

/-! ## The units of an access unit -/

/-- The units the payload loop visits. -/
def unitsFrom (payload : Bytes) : Nat → Nat → List Bytes
  | 0, _ => []
  | fuel + 1, prevStart =>
    match nextInd payload prevStart with
    | some (nextStart, nextLen) =>
      (payload.take nextStart).drop prevStart :: unitsFrom payload fuel (nextStart + nextLen)
    | none => [payload.drop prevStart]

/-- The NAL units of the data: all of it when there is no start code. -/
def nalUnits (data : Bytes) : List Bytes :=
  match nextInd data 0 with
  | none => [data]
  | some (nextStart, nextLen) => unitsFrom data data.length (nextStart + nextLen)

/-- Emit some units, one after the other. -/
def emitAll (mtu : Nat) : H265Payloader × List Bytes → List Bytes → H265Payloader × List Bytes
  | s, [] => s
  | s, nalu :: rest => emitAll mtu (s.1.emit nalu mtu s.2) rest

theorem emitAll_append (mtu : Nat) (s : H265Payloader × List Bytes) (a b : List Bytes) :
    emitAll mtu s (a ++ b) = emitAll mtu (emitAll mtu s a) b := by
  induction a generalizing s with
  | nil => rfl
  | cons nalu rest ih => exact ih _

theorem payloadLoop_eq (mtu : Nat) (data : Bytes) (fuel prevStart : Nat) (p : H265Payloader)
    (payloads : List Bytes) :
    payloadLoop mtu data fuel prevStart p payloads
      = emitAll mtu (p, payloads) (unitsFrom data fuel prevStart) := by
  induction fuel generalizing prevStart p payloads with
  | zero => rfl
  | succ fuel ih =>
    rw [payloadLoop, unitsFrom]
    split
    · exact ih _ _ _
    · rfl

/-- A payload call emits the units of its data. -/
theorem payload_eq (p : H265Payloader) {mtu : Nat} (hmtu : 0 < mtu) (data : Bytes) :
    p.payload mtu data = emitAll mtu (p, []) (nalUnits data) := by
  by_cases hempty : data = []
  · subst hempty
    rfl
  · have hrun : ¬ (data = [] ∨ mtu = 0) := by
      rintro (h | h)
      · exact hempty h
      · omega
    rw [payload, if_neg hrun, nalUnits]
    split
    · rfl
    · exact payloadLoop_eq mtu data _ _ p []

/-! ## The payloads grow -/

/-- What a unit adds to the payloads does not depend on those already there. -/
theorem fragmentLoop_append (byte0 byte1 nalType : UInt8) (maxSize : Nat) (naluPayload : Bytes)
    (fuel offset : Nat) (payloads : List Bytes) :
    fragmentLoop byte0 byte1 nalType maxSize naluPayload fuel offset payloads
      = payloads ++ fragmentLoop byte0 byte1 nalType maxSize naluPayload fuel offset [] := by
  induction fuel generalizing offset payloads with
  | zero => exact (List.append_nil _).symm
  | succ fuel ih =>
    rw [fragmentLoop, fragmentLoop]
    split
    · show fragmentLoop _ _ _ _ _ fuel _ (payloads ++ [_]) = payloads ++ fragmentLoop _ _ _ _ _ fuel _ [_]
      rw [ih _ (payloads ++ [_]), ih _ [_], List.append_assoc]
    · exact (List.append_nil _).symm

theorem emitFragmented_append (nalu : Bytes) (mtu : Nat) (payloads : List Bytes) :
    emitFragmented nalu mtu payloads = payloads ++ emitFragmented nalu mtu [] := by
  unfold emitFragmented
  split
  · split
    · exact (List.append_nil _).symm
    · exact fragmentLoop_append ..
  · exact (List.append_nil _).symm

theorem tryEmitAggregationPacket_append (p : H265Payloader) (mtu : Nat) (payloads : List Bytes) :
    p.tryEmitAggregationPacket mtu payloads
      = ((p.tryEmitAggregationPacket mtu []).1,
          payloads ++ (p.tryEmitAggregationPacket mtu []).2) := by
  unfold tryEmitAggregationPacket
  split
  · split
    · rfl
    · rfl
  · rw [List.append_nil]

theorem emit_append (p : H265Payloader) (nalu : Bytes) (mtu : Nat) (payloads : List Bytes) :
    p.emit nalu mtu payloads
      = ((p.emit nalu mtu []).1, payloads ++ (p.emit nalu mtu []).2) := by
  rw [emit, emit, p.tryEmitAggregationPacket_append mtu payloads]
  generalize p.tryEmitAggregationPacket mtu [] = s
  have hkept : (p, payloads) = ((p, ([] : List Bytes)).1, payloads ++ (p, ([] : List Bytes)).2) := by
    rw [List.append_nil]
  split
  · exact hkept
  · dsimp only
    split
    · exact hkept
    · split
      · rw [List.append_nil]
      · split
        · rw [List.append_nil]
        · split
          · rw [List.append_nil]
          · split
            · rw [List.append_assoc]
            · rw [emitFragmented_append nalu mtu (payloads ++ s.2), emitFragmented_append nalu mtu s.2,
                List.append_assoc]

theorem emitAll_append_payloads (mtu : Nat) (p : H265Payloader) (payloads units : List Bytes) :
    emitAll mtu (p, payloads) units
      = ((emitAll mtu (p, []) units).1, payloads ++ (emitAll mtu (p, []) units).2) := by
  induction units generalizing p payloads with
  | nil =>
    rw [emitAll, emitAll, List.append_nil]
  | cons nalu rest ih =>
    rw [emitAll, emitAll, emit_append p nalu mtu payloads]
    rw [ih (p.emit nalu mtu []).1 (payloads ++ (p.emit nalu mtu []).2)]
    rw [show p.emit nalu mtu [] = ((p.emit nalu mtu []).1, (p.emit nalu mtu []).2) from rfl]
    rw [ih (p.emit nalu mtu []).1 (p.emit nalu mtu []).2, List.append_assoc]

end H265Payloader

end StreamBox.Webrtc
