import StreamBox.Webrtc.H265ParameterSets

/-!
# The H.265 video track

`write_frame_bytes` on an H.265 track, frame after frame: the payloads of a frame become
RTP packets, numbered from the counters the track had before the frame.

* **Numbers** — `sent_consecutive`, `sent_marker`: sequence numbers have no gap, and the
  marker stands on the last packet of a frame.
* **Media time** — `stream_iff`: a frame without payload leaves the timestamp where it is, so
  time keeps pace just when the frames without payload between two others weigh nothing.
* **Failure** — `time_falls_behind`.
-/

namespace StreamBox.Webrtc

open StreamBox.RustDesk (Bytes)

structure RtpPacket where
  marker : Bool
  payloadType : UInt8
  sequenceNumber : UInt16
  timestamp : UInt32
  payload : Bytes
  deriving DecidableEq, Repr

/-- H265-specific RTP state. -/
structure H265RtpState where
  payloader : H265Payloader
  sequenceNumber : UInt16
  timestamp : UInt32
  timestampIncrement : UInt32
  deriving DecidableEq, Repr

namespace H265RtpState

def rtpMtu : Nat := 1200

/-- The state of a new track, its counters from `rand::random`. -/
def new (fps : UInt32) (sequenceNumber : UInt16) (timestamp : UInt32) : H265RtpState :=
  { payloader := {}, sequenceNumber, timestamp, timestampIncrement := 90000 / max fps 1 }

/-- The packets of a frame's payloads. -/
def packets (seqStart : UInt16) (timestamp : UInt32) (payloads : List Bytes) : List RtpPacket :=
  payloads.mapIdx fun i payload =>
    { marker := i == payloads.length - 1
      payloadType := 49
      sequenceNumber := seqStart + UInt16.ofNat i
      timestamp
      payload }

/-- Send H265 NAL units: the packets passed to `write_rtp`. -/
def sendH265Rtp (s : H265RtpState) (payload : Bytes) : H265RtpState × List RtpPacket :=
  let (payloader, payloads) := s.payloader.payload rtpMtu payload
  if payloads = [] then ({ s with payloader }, [])
  else
    ({ s with
        payloader
        sequenceNumber := s.sequenceNumber + UInt16.ofNat payloads.length
        timestamp := s.timestamp + s.timestampIncrement },
      packets s.sequenceNumber s.timestamp payloads)

/-- Write an encoded frame to the track. -/
def writeFrameBytes (s : H265RtpState) (data : Bytes) : H265RtpState × List RtpPacket :=
  if data = [] then (s, []) else s.sendH265Rtp data

/-- The packets of each frame of a run. -/
def writeAll (s : H265RtpState) : List Bytes → List (List RtpPacket)
  | [] => []
  | frame :: rest => (s.writeFrameBytes frame).2 :: writeAll (s.writeFrameBytes frame).1 rest

/-! ## Which frames have payload -/

/-- A frame has payload when one of its units is neither kept back nor dropped. -/
def HasPayload (frame : Bytes) : Prop :=
  ∃ nalu ∈ H265Payloader.nalUnits frame, H265Payloader.Sends nalu

instance : DecidablePred HasPayload := fun frame =>
  inferInstanceAs (Decidable (∃ nalu ∈ H265Payloader.nalUnits frame, H265Payloader.Sends nalu))

theorem fragmentLoop_ne_nil {byte0 byte1 nalType : UInt8} {maxSize : Nat} {naluPayload : Bytes}
    (hne : naluPayload ≠ []) :
    H265Payloader.fragmentLoop byte0 byte1 nalType maxSize naluPayload naluPayload.length 0 []
      ≠ [] := by
  have hlen : 0 < naluPayload.length := List.length_pos_of_ne_nil hne
  obtain ⟨fuel, hfuel⟩ : ∃ fuel, naluPayload.length = fuel + 1 :=
    ⟨_, (Nat.succ_pred_eq_of_pos hlen).symm⟩
  rw [hfuel, H265Payloader.fragmentLoop, if_pos hlen, H265Payloader.fragmentLoop_append]
  exact List.append_ne_nil_of_left_ne_nil (List.cons_ne_nil _ _) _

theorem ownPayloads_ne_nil (nalu : Bytes) : H265Payloader.ownPayloads nalu rtpMtu ≠ [] := by
  unfold H265Payloader.ownPayloads
  by_cases hfits : nalu.length ≤ rtpMtu
  · rw [if_pos hfits]
    exact List.cons_ne_nil _ _
  · rw [if_neg hfits]
    match nalu, hfits with
    | [], hfits => exact absurd (Nat.zero_le _) hfits
    | [_], hfits => exact absurd (by decide : 1 ≤ rtpMtu) hfits
    | [_, _], hfits => exact absurd (by decide : 2 ≤ rtpMtu) hfits
    | _ :: _ :: b :: rest, _ => exact fragmentLoop_ne_nil (List.cons_ne_nil b rest)

/-- The payloads a unit adds: none but for one that is sent. -/
theorem emit_eq_nil (p : H265Payloader) (nalu : Bytes) :
    (p.emit nalu rtpMtu []).2 = [] ↔ ¬ H265Payloader.Sends nalu := by
  by_cases hsends : H265Payloader.Sends nalu
  · rw [H265Payloader.emit_sends p hsends]
    have hown := ownPayloads_ne_nil nalu
    simp [hsends, hown]
  · by_cases hset : H265Payloader.IsParameterSet nalu
    · obtain ⟨hlen, k, hk⟩ := H265Payloader.isParameterSet_iff.mp hset
      rw [H265Payloader.emit_set p hlen hk]
      simp [hsends]
    · rw [H265Payloader.emit_other p hsends hset]
      simp [hsends]

theorem emitAll_eq_nil (p : H265Payloader) (units : List Bytes) :
    (H265Payloader.emitAll rtpMtu (p, []) units).2 = []
      ↔ ∀ nalu ∈ units, ¬ H265Payloader.Sends nalu := by
  induction units generalizing p with
  | nil => simp [H265Payloader.emitAll]
  | cons nalu rest ih =>
    rw [H265Payloader.emitAll, List.forall_mem_cons, ← emit_eq_nil p nalu,
      ← ih (p.emit nalu rtpMtu []).1]
    show (H265Payloader.emitAll rtpMtu
      ((p.emit nalu rtpMtu []).1, (p.emit nalu rtpMtu []).2) rest).2 = [] ↔ _
    rw [H265Payloader.emitAll_append_payloads]
    exact List.append_eq_nil_iff

theorem payload_eq_nil (p : H265Payloader) (frame : Bytes) :
    (p.payload rtpMtu frame).2 = [] ↔ ¬ HasPayload frame := by
  rw [H265Payloader.payload_eq p (by decide), emitAll_eq_nil, HasPayload]
  push Not
  rfl

theorem not_hasPayload_nil : ¬ HasPayload [] := by decide

/-! ## One frame -/

/-- A frame without payload sends nothing and moves no counter. -/
theorem writeFrameBytes_silent (s : H265RtpState) {frame : Bytes} (h : ¬ HasPayload frame) :
    ∃ payloader, s.writeFrameBytes frame = ({ s with payloader }, []) := by
  unfold writeFrameBytes
  by_cases hempty : frame = []
  · rw [if_pos hempty]
    exact ⟨s.payloader, rfl⟩
  · rw [if_neg hempty]
    have hnil := (payload_eq_nil s.payloader frame).mpr h
    exact ⟨(s.payloader.payload rtpMtu frame).1, if_pos hnil⟩

/-- Any other frame sends its payloads, and moves the timestamp on. -/
theorem writeFrameBytes_sends (s : H265RtpState) {frame : Bytes} (h : HasPayload frame) :
    ∃ t payloads, payloads ≠ [] ∧
      s.writeFrameBytes frame = (t, packets s.sequenceNumber s.timestamp payloads) ∧
      t.sequenceNumber = s.sequenceNumber + UInt16.ofNat payloads.length ∧
      t.timestamp = s.timestamp + s.timestampIncrement ∧
      t.timestampIncrement = s.timestampIncrement := by
  have hne : frame ≠ [] := by
    rintro rfl
    exact not_hasPayload_nil h
  have hsome : (s.payloader.payload rtpMtu frame).2 ≠ [] := fun hnil =>
    (payload_eq_nil s.payloader frame).mp hnil h
  have heq : s.writeFrameBytes frame = _ := (if_neg hne).trans (if_neg hsome)
  exact ⟨_, _, hsome, heq, rfl, rfl, rfl⟩

/-! ## Sequence numbers and markers -/

/-- Packets numbered from `seq` on, modulo 2^16. -/
def Consecutive : UInt16 → List RtpPacket → Prop
  | _, [] => True
  | seq, p :: rest => p.sequenceNumber = seq ∧ Consecutive (seq + 1) rest

theorem consecutive_iff (seq : UInt16) (sent : List RtpPacket) :
    Consecutive seq sent
      ↔ ∀ i (h : i < sent.length), sent[i].sequenceNumber = seq + UInt16.ofNat i := by
  induction sent generalizing seq with
  | nil => simp [Consecutive]
  | cons p rest ih =>
    rw [Consecutive, ih]
    constructor
    · rintro ⟨hp, hrest⟩ i hi
      cases i with
      | zero => exact hp.trans (UInt16.add_zero seq).symm
      | succ i =>
        rw [List.getElem_cons_succ, hrest i (Nat.lt_of_succ_lt_succ hi), UInt16.ofNat_add]
        grind
    · intro h
      refine ⟨(h 0 (Nat.succ_pos _)).trans (UInt16.add_zero seq), fun i hi => ?_⟩
      have hnext := h (i + 1) (Nat.succ_lt_succ hi)
      rw [List.getElem_cons_succ, UInt16.ofNat_add] at hnext
      rw [hnext]
      grind

theorem consecutive_append {seq : UInt16} {a b : List RtpPacket} (ha : Consecutive seq a)
    (hb : Consecutive (seq + UInt16.ofNat a.length) b) : Consecutive seq (a ++ b) := by
  induction a generalizing seq with
  | nil => exact UInt16.add_zero seq ▸ hb
  | cons p a ih =>
    refine ⟨ha.1, ih ha.2 ?_⟩
    have hlen : seq + 1 + UInt16.ofNat a.length = seq + UInt16.ofNat (p :: a).length := by
      rw [List.length_cons, UInt16.ofNat_add]
      grind
    exact hlen ▸ hb

theorem length_packets (seqStart : UInt16) (timestamp : UInt32) (payloads : List Bytes) :
    (packets seqStart timestamp payloads).length = payloads.length :=
  List.length_mapIdx

theorem consecutive_packets (seqStart : UInt16) (timestamp : UInt32) (payloads : List Bytes) :
    Consecutive seqStart (packets seqStart timestamp payloads) := by
  rw [consecutive_iff]
  intro i hi
  simp [packets]

theorem sent_consecutive (s : H265RtpState) (frames : List Bytes) :
    Consecutive s.sequenceNumber (s.writeAll frames).flatten := by
  induction frames generalizing s with
  | nil => exact True.intro
  | cons frame rest ih =>
    rw [writeAll, List.flatten_cons]
    by_cases h : HasPayload frame
    · obtain ⟨t, payloads, -, heq, hsequence, -⟩ := s.writeFrameBytes_sends h
      rw [heq]
      refine consecutive_append (consecutive_packets _ _ _) ?_
      rw [length_packets, ← hsequence]
      exact ih t
    · obtain ⟨payloader, heq⟩ := s.writeFrameBytes_silent h
      rw [heq]
      exact ih { s with payloader }

theorem sent_marker (s : H265RtpState) (frames : List Bytes) :
    ∀ sent ∈ s.writeAll frames, ∀ i (h : i < sent.length),
      sent[i].marker = decide (i + 1 = sent.length) := by
  induction frames generalizing s with
  | nil =>
    intro sent hsent
    cases hsent
  | cons frame rest ih =>
    rw [writeAll, List.forall_mem_cons]
    refine ⟨?_, ih _⟩
    by_cases h : HasPayload frame
    · obtain ⟨t, payloads, -, heq, -⟩ := s.writeFrameBytes_sends h
      rw [heq]
      intro i hi
      rw [length_packets] at hi
      have hlast : (i == payloads.length - 1) = decide (i + 1 = payloads.length) := by
        rw [Bool.eq_iff_iff, beq_iff_eq, decide_eq_true_iff]
        omega
      simpa [packets] using hlast
    · obtain ⟨payloader, heq⟩ := s.writeFrameBytes_silent h
      rw [heq]
      intro i hi
      cases hi

/-! ## Media time -/

/-- The frames with payload, and without, before the `n`-th one. -/
def withPayload (frames : List Bytes) (n : Nat) : Nat := (frames.take n).countP (HasPayload ·)

def silent (frames : List Bytes) (n : Nat) : Nat := (frames.take n).countP (¬ HasPayload ·)

theorem withPayload_add_silent {frames : List Bytes} {n : Nat} (h : n ≤ frames.length) :
    withPayload frames n + silent frames n = n := by
  have hcount :=
    List.length_eq_countP_add_countP (fun f => decide (HasPayload f)) (l := frames.take n)
  rw [List.length_take, Nat.min_eq_left h] at hcount
  rw [withPayload, silent]
  simp only [decide_not]
  simpa using hcount.symm

/-- The packets of the `n`-th frame: none without payload, and all at the time of the frames
with payload before it. -/
theorem sent_timestamp (s : H265RtpState) {frames : List Bytes} {n : Nat} {frame : Bytes}
    (hn : frames[n]? = some frame) :
    ∃ sent, (s.writeAll frames)[n]? = some sent ∧ (sent ≠ [] ↔ HasPayload frame) ∧
      ∀ p ∈ sent, p.timestamp
        = s.timestamp + UInt32.ofNat (withPayload frames n) * s.timestampIncrement := by
  induction frames generalizing s n with
  | nil => cases hn
  | cons head rest ih =>
    rw [writeAll]
    cases n with
    | zero =>
      obtain rfl : head = frame := Option.some.inj hn
      refine ⟨_, rfl, ?_⟩
      by_cases h : HasPayload head
      · obtain ⟨t, payloads, hne, heq, -⟩ := s.writeFrameBytes_sends h
        rw [heq]
        refine ⟨⟨fun _ => h, fun _ hnil => hne ?_⟩, fun p hp => ?_⟩
        · exact List.length_eq_zero_iff.mp ((length_packets ..).symm.trans (congrArg _ hnil))
        · obtain ⟨i, hi, rfl⟩ := List.getElem_of_mem hp
          simp [packets, withPayload]
      · obtain ⟨payloader, heq⟩ := s.writeFrameBytes_silent h
        rw [heq]
        exact ⟨⟨fun hne => absurd rfl hne, fun hp => absurd hp h⟩, fun p hp => by cases hp⟩
    | succ n =>
      by_cases h : HasPayload head
      · obtain ⟨t, payloads, -, heq, -, htimestamp, hincrement⟩ := s.writeFrameBytes_sends h
        rw [heq]
        obtain ⟨sent, hsent, hiff, htime⟩ := ih t hn
        refine ⟨sent, hsent, hiff, fun p hp => (htime p hp).trans ?_⟩
        have hcount : withPayload (head :: rest) (n + 1) = withPayload rest n + 1 := by
          simp [withPayload, h]
        rw [hcount, UInt32.ofNat_add, htimestamp, hincrement]
        grind
      · obtain ⟨payloader, heq⟩ := s.writeFrameBytes_silent h
        rw [heq]
        obtain ⟨sent, hsent, hiff, htime⟩ := ih { s with payloader } hn
        refine ⟨sent, hsent, hiff, fun p hp => (htime p hp).trans ?_⟩
        have hcount : withPayload (head :: rest) (n + 1) = withPayload rest n := by
          simp [withPayload, h]
        rw [hcount]

/-- What the track is for: packets without a gap, a marker at the end of each frame, and all
packets of the `n`-th frame `n` increments behind the first one. -/
structure Stream (increment : UInt32) (sent : List (List RtpPacket)) : Prop where
  sequence : ∃ first, Consecutive first sent.flatten
  marker : ∀ frame ∈ sent, ∀ i (h : i < frame.length),
    frame[i].marker = decide (i + 1 = frame.length)
  timestamp : ∃ first, ∀ n frame, sent[n]? = some frame →
    ∀ p ∈ frame, p.timestamp = first + UInt32.ofNat n * increment

/-- The frames without payload before any two frames with payload make up the same time. -/
def Paced (increment : UInt32) (frames : List Bytes) : Prop :=
  ∀ m n f g, frames[m]? = some f → frames[n]? = some g → HasPayload f → HasPayload g →
    UInt32.ofNat (silent frames m) * increment = UInt32.ofNat (silent frames n) * increment

theorem ofNat_withPayload {frames : List Bytes} {n : Nat} {f : Bytes} (hn : frames[n]? = some f) :
    UInt32.ofNat (withPayload frames n) + UInt32.ofNat (silent frames n) = UInt32.ofNat n := by
  have hlt : n < frames.length := (List.getElem?_eq_some_iff.mp hn).1
  rw [← UInt32.ofNat_add, withPayload_add_silent (Nat.le_of_lt hlt)]

theorem length_writeAll (s : H265RtpState) (frames : List Bytes) :
    (s.writeAll frames).length = frames.length := by
  induction frames generalizing s with
  | nil => rfl
  | cons frame rest ih => exact congrArg (· + 1) (ih _)

theorem paced_of_stream {s : H265RtpState} {frames : List Bytes}
    (h : Stream s.timestampIncrement (s.writeAll frames)) : Paced s.timestampIncrement frames := by
  obtain ⟨first, hfirst⟩ := h.timestamp
  have hstart : ∀ n f, frames[n]? = some f → HasPayload f →
      s.timestamp = first + UInt32.ofNat (silent frames n) * s.timestampIncrement := by
    intro n f hn hf
    obtain ⟨sent, hsent, hiff, htime⟩ := s.sent_timestamp hn
    obtain ⟨p, hp⟩ := List.exists_mem_of_ne_nil sent (hiff.mpr hf)
    have heq := (htime p hp).symm.trans (hfirst n sent hsent p hp)
    rw [← ofNat_withPayload hn] at heq
    grind
  intro m n f g hm hn hf hg
  have heq := (hstart m f hm hf).symm.trans (hstart n g hn hg)
  grind

theorem stream_of_paced {s : H265RtpState} {frames : List Bytes}
    (h : Paced s.timestampIncrement frames) : Stream s.timestampIncrement (s.writeAll frames) := by
  refine ⟨⟨_, s.sent_consecutive frames⟩, s.sent_marker frames, ?_⟩
  have hsent : ∀ n sent, (s.writeAll frames)[n]? = some sent → ∀ p ∈ sent, ∃ f,
      frames[n]? = some f ∧ HasPayload f ∧ p.timestamp
        = s.timestamp + UInt32.ofNat (withPayload frames n) * s.timestampIncrement := by
    intro n sent hn p hp
    have hlt : n < frames.length := by
      rw [← s.length_writeAll]
      exact (List.getElem?_eq_some_iff.mp hn).1
    obtain ⟨sent', hsent', hiff, htime⟩ := s.sent_timestamp (List.getElem?_eq_getElem hlt)
    obtain rfl : sent = sent' := Option.some.inj (hn.symm.trans hsent')
    exact ⟨_, List.getElem?_eq_getElem hlt, hiff.mp (List.ne_nil_of_mem hp), htime p hp⟩
  by_cases hsome : ∃ (m : Nat) (f : Bytes), frames[m]? = some f ∧ HasPayload f
  · obtain ⟨m, f, hm, hf⟩ := hsome
    refine ⟨s.timestamp - UInt32.ofNat (silent frames m) * s.timestampIncrement, ?_⟩
    intro n sent hn p hp
    obtain ⟨g, hg, hgp, htime⟩ := hsent n sent hn p hp
    rw [htime, ← ofNat_withPayload hg, h m n f g hm hg hf hgp]
    grind
  · -- no frame has payload, and no packet is sent
    refine ⟨0, fun n sent hn p hp => absurd ?_ hsome⟩
    obtain ⟨g, hg, hgp, -⟩ := hsent n sent hn p hp
    exact ⟨n, g, hg, hgp⟩

theorem stream_iff (fps : UInt32) (sequenceNumber : UInt16) (timestamp : UInt32)
    (frames : List Bytes) :
    Stream (90000 / max fps 1) ((new fps sequenceNumber timestamp).writeAll frames)
      ↔ Paced (90000 / max fps 1) frames :=
  ⟨paced_of_stream (s := new fps sequenceNumber timestamp),
    stream_of_paced (s := new fps sequenceNumber timestamp)⟩

/-- At 30 frames a second, an SPS between two slices: the second slice is the third frame
and has the time of the second. -/
theorem time_falls_behind :
    ¬ Stream 3000 ((new 30 0 0).writeAll [[2, 1, 5], [0x42, 1, 2], [2, 1, 6]]) := by
  rintro ⟨-, -, first, h⟩
  have h0 := h 0 [⟨true, 49, 0, 0, [2, 1, 5]⟩] (by decide) _ (List.mem_singleton_self _)
  have h2 := h 2 [⟨true, 49, 1, 3000, [2, 1, 6]⟩] (by decide) _ (List.mem_singleton_self _)
  have hfirst : first = 0 := by simpa using h0.symm
  rw [hfirst] at h2
  exact absurd h2 (by decide)

end H265RtpState

end StreamBox.Webrtc
