import Mathlib.Data.List.Basic
import StreamBox.Lib.TSys
import StreamBox.Video.SharedVideoPipeline
import StreamBox.Webrtc.Rtp

/-!
# The video of a WebRTC session

The task of `start_from_video_pipeline`: it waits for the connection, then takes the
frames of its subscription one by one and writes those to the track that the browser can
decode. The pipeline numbers its frames; any of them may be missing from the channel.

* **Decodability** — `written_decodable`: what is written can be decoded in every run in
  which a parameter frame let through holds nothing else, the track takes every frame
  handed to it, and the numbers of the frames do not wrap.
* **Failure** — `slice_with_parameter_sets`.
-/

namespace StreamBox.Webrtc

open StreamBox.Lib StreamBox.Video
open StreamBox.RustDesk (Bytes)

/-! ## Parameter sets -/

/-- The header of an SPS or a PPS. -/
def isParameterSet (header : UInt8) : Bool :=
  header &&& 0x1F == 7 || header &&& 0x1F == 8

/-- The Annex B path of `h264_contains_parameter_sets`. Every pass consumes a byte. -/
def annexBParameterSets : Nat → Bytes → Bool
  | 0, _ => false
  | fuel + 1, data =>
    if data.length < 4 then false
    else
      match startCodeLen data with
      | none => annexBParameterSets fuel data.tail
      | some scLen =>
        match data.drop scLen with
        | [] => false
        | header :: rest => isParameterSet header || annexBParameterSets fuel rest

/-- `u32::from_be_bytes`. -/
def naluLen (a b c d : UInt8) : Nat :=
  ((a.toNat * 256 + b.toNat) * 256 + c.toNat) * 256 + d.toNat

/-- The length-prefixed fallback of `h264_contains_parameter_sets`. -/
def lengthPrefixedParameterSets : Nat → Bytes → Bool
  | fuel + 1, a :: b :: c :: d :: rest =>
    let len := naluLen a b c d
    if len = 0 ∨ rest.length < len then false
    else rest.head?.any isParameterSet || lengthPrefixedParameterSets fuel (rest.drop len)
  | _, _ => false

def h264ContainsParameterSets (data : Bytes) : Bool :=
  annexBParameterSets data.length data || lengthPrefixedParameterSets data.length data

/-- The units of a frame that starts with a start code. -/
def annexBUnits : Nat → Bytes → List Bytes
  | 0, _ => []
  | fuel + 1, data =>
    match startCodeLen data with
    | none => []
    | some scLen =>
      let (unit, next) := untilStartCode (data.drop scLen)
      unit :: annexBUnits fuel next

/-- The units of a frame that is all length-prefixed units. -/
def lengthPrefixedUnits : Nat → Bytes → List Bytes
  | fuel + 1, a :: b :: c :: d :: rest =>
    let len := naluLen a b c d
    if len = 0 ∨ rest.length < len then [[]]
    else rest.take len :: lengthPrefixedUnits fuel (rest.drop len)
  | _, [] => []
  | _, _ => [[]]

/-- There are units, and all of them are parameter sets. -/
def OnlyParameterSets (units : List Bytes) : Prop :=
  units ≠ [] ∧ ∀ unit ∈ units, unit.head?.any isParameterSet = true

instance (units : List Bytes) : Decidable (OnlyParameterSets units) :=
  inferInstanceAs (Decidable (_ ∧ _))

/-- A frame made of parameter sets only, in either framing. -/
def ParameterSetFrame (data : Bytes) : Prop :=
  OnlyParameterSets (annexBUnits data.length data) ∨
    OnlyParameterSets (lengthPrefixedUnits data.length data)

instance (data : Bytes) : Decidable (ParameterSetFrame data) :=
  inferInstanceAs (Decidable (_ ∨ _))

theorem head_untilStartCode {data : Bytes} {header : UInt8}
    (h : (untilStartCode data).1.head? = some header) : data.head? = some header := by
  cases data with
  | nil => simp [untilStartCode] at h
  | cons b rest =>
    unfold untilStartCode at h
    split at h
    · simp at h
    · simpa using h

theorem three_le_startCodeLen {data : Bytes} {scLen : Nat}
    (h : startCodeLen data = some scLen) : 3 ≤ scLen := by
  unfold startCodeLen at h
  split at h <;> cases h <;> decide

theorem annexB_of_units {fuel : Nat} {data : Bytes}
    (h : OnlyParameterSets (annexBUnits fuel data)) : annexBParameterSets fuel data = true := by
  obtain ⟨hne, hall⟩ := h
  cases fuel with
  | zero => simp [annexBUnits] at hne
  | succ fuel =>
    unfold annexBUnits at hne hall
    cases hlen : startCodeLen data with
    | none => simp [hlen] at hne
    | some scLen =>
      simp only [hlen, List.mem_cons, forall_eq_or_imp] at hall
      obtain ⟨header, hhead, hset⟩ := (Option.any_eq_true _ _).mp hall.1
      have hdrop := head_untilStartCode hhead
      cases hrest : data.drop scLen with
      | nil => simp [hrest] at hdrop
      | cons first rest =>
        obtain rfl : first = header := by simpa [hrest] using hdrop
        have hlong : 4 ≤ data.length := by
          have hinside := congrArg List.length hrest
          have hcode := three_le_startCodeLen hlen
          rw [List.length_drop, List.length_cons] at hinside
          omega
        unfold annexBParameterSets
        rw [if_neg (by omega), hlen]
        simp [hrest, hset]

theorem lengthPrefixed_of_units {fuel : Nat} {data : Bytes}
    (h : OnlyParameterSets (lengthPrefixedUnits fuel data)) :
    lengthPrefixedParameterSets fuel data = true := by
  obtain ⟨hne, hall⟩ := h
  unfold lengthPrefixedUnits at hne hall
  split at hall
  · rename_i fuel a b c d rest
    by_cases hbad : naluLen a b c d = 0 ∨ rest.length < naluLen a b c d
    · simp [hbad] at hall
    · simp only [hbad, if_false, List.mem_cons, forall_eq_or_imp] at hall
      have hpos : naluLen a b c d ≠ 0 := fun h => hbad (.inl h)
      have hhead : rest.head?.any isParameterSet = true := by
        rw [List.head?_take, if_neg hpos] at hall
        exact hall.1
      simp [lengthPrefixedParameterSets, hbad, hhead]
  · simp at hne
  · simp at hall

/-- The frames exempt from the wait for a key frame are among those the loop lets
through. -/
theorem h264ContainsParameterSets_of_frame {data : Bytes} (h : ParameterSetFrame data) :
    h264ContainsParameterSets data = true := by
  unfold h264ContainsParameterSets
  rcases h with h | h
  · simp [annexB_of_units h]
  · simp [lengthPrefixed_of_units h]

/-! ## The task -/

inductive ConnectionState
  | new | connecting | connected | disconnected | failed | closed
  deriving DecidableEq, Repr

/-- `write_frame_bytes`: whether the track got the frame. Its own failures and a payloader
that returns nothing (`accepted`) are no error of the call. -/
def writeFrameBytes (data : Bytes) (accepted : Bool) : Except String Bool :=
  if data.isEmpty then .ok false else .ok accepted

namespace VideoReceiver

inductive Phase
  | waiting | receiving | stopped
  deriving DecidableEq, Repr

structure State where
  /-- The session's connection state; `changed` while the task has not seen it. -/
  connection : ConnectionState := .new
  changed : Bool := false
  /-- The session is gone. -/
  dropped : Bool := false
  /-- The frames of the pipeline, and the places of those in the channel. -/
  frames : List EncodedVideoFrame := []
  channel : List Nat := []
  phase : Phase := .waiting
  waitingForKeyframe : Bool := true
  lastSequence : Option UInt64 := none
  lastKeyframeRequest : Option Nat := none
  keyframeRequests : Nat := 0
  framesSent : Nat := 0
  /-- The places of the frames written to the track. -/
  written : List Nat := []
  deriving DecidableEq, Repr

inductive Event
  -- the session and the pipeline
  | connection (state : ConnectionState)
  | drop
  | encode (frame : EncodedVideoFrame) (lost : Bool)
  -- the task, at a time in milliseconds
  | state (now : Nat)
  | take (now : Nat) (accepted : Bool)
  | closed
  deriving DecidableEq, Repr

/-- The number of the frame at place `i`. -/
def sequenceAt (i : Nat) : UInt64 :=
  UInt64.ofNat (i + 1)

namespace State

def requestKeyframe (s : State) (now : Nat) : State :=
  { s with lastKeyframeRequest := some now, keyframeRequests := s.keyframeRequests + 1 }

/-- `gap_detected`. No number lies above the last one, so that a saturating sum is as
good as this one. -/
def gapDetected (s : State) (frame : EncodedVideoFrame) : Bool :=
  s.lastSequence.any fun prev => prev.toNat + 1 < frame.sequence.toNat

/-- `forward_h264_parameter_frame`, of a frame while the task waits. -/
def forwardH264ParameterFrame (expected : VideoCodecType) (frame : EncodedVideoFrame) : Bool :=
  expected == .h264 && h264ContainsParameterSets frame.data

/-- The write at the end of a pass. -/
def write (s : State) (i : Nat) (frame : EncodedVideoFrame) (accepted : Bool) : State :=
  match writeFrameBytes frame.data accepted with
  | .error _ => s
  | .ok reached =>
    { s with
      framesSent := s.framesSent + 1
      lastSequence := some frame.sequence
      written := if reached then s.written ++ [i] else s.written }

/-- A pass with the frame of place `i`. -/
def takeFrame (expected : VideoCodecType) (s : State) (i : Nat) (frame : EncodedVideoFrame)
    (now : Nat) (accepted : Bool) : State :=
  if frame.codec ≠ expected then s
  else if s.waitingForKeyframe || s.gapDetected frame then
    if frame.isKeyframe then { s with waitingForKeyframe := false }.write i frame accepted
    else
      let s := { s with waitingForKeyframe := true }
      let s := if s.lastKeyframeRequest.all (200 ≤ now - ·) then s.requestKeyframe now else s
      if forwardH264ParameterFrame expected frame then s.write i frame accepted else s
  else s.write i frame accepted

/-- A look at the connection state: the wait for the connection, then the first branch of
the loop. -/
def lookAtState (s : State) (now : Nat) : Option State :=
  match s.phase with
  | .waiting =>
    match s.connection with
    | .connected =>
      some { s.requestKeyframe now with
        phase := .receiving
        waitingForKeyframe := true
        lastSequence := none
        lastKeyframeRequest := none }
    | .closed | .failed => some { s with phase := .stopped }
    | _ =>
      if s.changed then some { s with changed := false }
      else if s.dropped then some { s with phase := .stopped }
      else none
  | .receiving =>
    if s.changed then
      match s.connection with
      | .closed | .failed | .disconnected => some { s with changed := false, phase := .stopped }
      | _ => some { s with changed := false }
    else if s.dropped then some { s with phase := .stopped }
    else none
  | .stopped => none

end State

open State in
def step (expected : VideoCodecType) (s : State) : Event → Option State
  | .connection state =>
    if s.dropped then none else some { s with connection := state, changed := true }
  | .drop => some { s with dropped := true }
  | .encode frame lost =>
    let i := s.frames.length
    some { s with
      frames := s.frames ++ [{ frame with sequence := sequenceAt i }]
      channel := if lost then s.channel else s.channel ++ [i] }
  | .state now => s.lookAtState now
  | .take now accepted =>
    -- the state is looked at first
    if s.phase = .receiving ∧ s.changed = false ∧ s.dropped = false then
      match s.channel with
      | [] => none
      | i :: rest => s.frames[i]?.map fun frame =>
          takeFrame expected { s with channel := rest } i frame now accepted
    else none
  | .closed =>
    if s.phase = .receiving ∧ s.changed = false ∧ s.dropped = false ∧ s.channel = [] then
      some { s with phase := .stopped }
    else none

/-- A session with its track open; the state may have changed before the task starts. -/
def Init (s : State) : Prop :=
  ∃ connection changed, s = { connection, changed }

def system (expected : VideoCodecType) : TSys State Event :=
  .ofFn Init (step expected)

/-! ## Decodability -/

/-- A key frame, or one exempt from the wait. -/
def StartsAnywhere (expected : VideoCodecType) (frame : EncodedVideoFrame) : Prop :=
  frame.isKeyframe = true ∨ expected = .h264 ∧ ParameterSetFrame frame.data

/-- Every frame written but key frames and parameter frames has a key frame written
before it, and with it every frame of the pipeline between the two; what is written just
before it is the frame before it. -/
structure Decodable (expected : VideoCodecType) (s : State) : Prop where
  supported : ∀ before i after frame, s.written = before ++ i :: after →
    s.frames[i]? = some frame → ¬ StartsAnywhere expected frame →
    ∃ k key, k < i ∧ s.frames[k]? = some key ∧ key.isKeyframe = true ∧
      ∀ j, k ≤ j → j < i → j ∈ before
  afterGap : ∀ before p i after frame, s.written = before ++ p :: i :: after →
    s.frames[i]? = some frame → i ≠ p + 1 → StartsAnywhere expected frame

/-- The loop lets the frame through while it waits, as a parameter frame. -/
def LetThrough (expected : VideoCodecType) (s : State) (frame : EncodedVideoFrame) : Prop :=
  (s.waitingForKeyframe || s.gapDetected frame) = true ∧ frame.isKeyframe = false ∧
    State.forwardH264ParameterFrame expected frame = true

/-- The loop hands the frame to the track. -/
def Forwards (expected : VideoCodecType) (s : State) (frame : EncodedVideoFrame) : Prop :=
  frame.isKeyframe = true ∨ (s.waitingForKeyframe || s.gapDetected frame) = false ∨
    State.forwardH264ParameterFrame expected frame = true

/-- A frame let through as a parameter frame is one, a frame handed to the track has
bytes and reaches it, and the numbers have not wrapped. -/
def Clean (expected : VideoCodecType) (s : State) : Event → Prop
  | .take _ accepted => ∀ i ∈ s.channel.head?, ∀ frame ∈ s.frames[i]?, frame.codec = expected →
      (LetThrough expected s frame → ParameterSetFrame frame.data) ∧
      (Forwards expected s frame → frame.data ≠ [] ∧ accepted = true) ∧
      i + 1 < UInt64.size
  | _ => True

/-! ## What a pass does -/

/-- Nothing is written; the loop goes on to wait or stays as it is. -/
structure Skips (s s' : State) : Prop where
  frames : s'.frames = s.frames
  channel : s'.channel = s.channel
  written : s'.written = s.written
  waits : s'.waitingForKeyframe = true ∨
    s'.waitingForKeyframe = s.waitingForKeyframe ∧ s'.lastSequence = s.lastSequence

/-- The frame at place `i` is written. -/
structure Writes (s s' : State) (i : Nat) (frame : EncodedVideoFrame) : Prop where
  frames : s'.frames = s.frames
  channel : s'.channel = s.channel
  written : s'.written = s.written ++ [i]
  last : s'.lastSequence = some frame.sequence

theorem write_writes (s : State) (i : Nat) {frame : EncodedVideoFrame} {accepted : Bool}
    (h : frame.data ≠ [] ∧ accepted = true) :
    Writes s (s.write i frame accepted) i frame ∧
      (s.write i frame accepted).waitingForKeyframe = s.waitingForKeyframe := by
  obtain ⟨hdata, rfl⟩ := h
  have hreached : writeFrameBytes frame.data true = .ok true := by
    simp [writeFrameBytes, hdata]
  unfold State.write
  rw [hreached]
  exact ⟨⟨rfl, rfl, rfl, rfl⟩, rfl⟩

/-- A pass skips the frame, or writes it for one of three reasons. -/
theorem takeFrame_cases {expected : VideoCodecType} {s : State} {frame : EncodedVideoFrame}
    {accepted : Bool} (i now : Nat)
    (hwrite : frame.codec = expected → Forwards expected s frame →
      frame.data ≠ [] ∧ accepted = true) :
    let s' := State.takeFrame expected s i frame now accepted
    Skips s s' ∨ Writes s s' i frame ∧
      (frame.isKeyframe = true ∨ LetThrough expected s frame ∧ s'.waitingForKeyframe = true ∨
        s.waitingForKeyframe = false ∧ s.gapDetected frame = false) := by
  intro s'
  by_cases hcodec : frame.codec = expected
  · by_cases hwait : (s.waitingForKeyframe || s.gapDetected frame) = true
    · cases hkey : frame.isKeyframe with
      | true =>
        right
        have hs' :
            s' = ({ s with waitingForKeyframe := false } : State).write i frame accepted := by
          simp [s', State.takeFrame, hcodec, hwait, hkey]
        obtain ⟨hwrites, -⟩ := write_writes { s with waitingForKeyframe := false } i
          (hwrite hcodec (.inl hkey))
        rw [hs']
        exact ⟨⟨hwrites.frames, hwrites.channel, hwrites.written, hwrites.last⟩, .inl rfl⟩
      | false =>
        -- the state while the loop waits, with or without a new request
        obtain ⟨waiting, hwaiting, hflag, hs'⟩ : ∃ waiting : State, Skips s waiting ∧
            waiting.waitingForKeyframe = true ∧
            s' = if State.forwardH264ParameterFrame expected frame then
              waiting.write i frame accepted else waiting := by
          refine ⟨if s.lastKeyframeRequest.all (200 ≤ now - ·) then
            ({ s with waitingForKeyframe := true } : State).requestKeyframe now
            else { s with waitingForKeyframe := true }, ?_, ?_, ?_⟩
          · split <;> exact ⟨rfl, rfl, rfl, .inl rfl⟩
          · split <;> rfl
          · simp [s', State.takeFrame, hcodec, hwait, hkey]
        cases hforward : State.forwardH264ParameterFrame expected frame with
        | false =>
          left
          rw [hs', hforward]
          exact hwaiting
        | true =>
          right
          rw [hs', hforward, if_pos rfl]
          obtain ⟨hwrites, hsame⟩ := write_writes waiting i
            (hwrite hcodec (.inr (.inr hforward)))
          refine ⟨⟨?_, ?_, ?_, hwrites.last⟩, .inr (.inl ⟨⟨hwait, hkey, hforward⟩, ?_⟩)⟩
          · rw [hwrites.frames, hwaiting.frames]
          · rw [hwrites.channel, hwaiting.channel]
          · rw [hwrites.written, hwaiting.written]
          · rw [hsame, hflag]
    · right
      have hs' : s' = s.write i frame accepted := by
        simp [s', State.takeFrame, hcodec, hwait]
      have hflags : s.waitingForKeyframe = false ∧ s.gapDetected frame = false := by
        simpa using hwait
      obtain ⟨hwrites, -⟩ := write_writes s i
        (hwrite hcodec (.inr (.inl (by simpa using hwait))))
      rw [hs']
      exact ⟨hwrites, .inr (.inr hflags)⟩
  · left
    have hs' : s' = s := by
      simp [s', State.takeFrame, hcodec]
    rw [hs']
    exact ⟨rfl, rfl, rfl, .inr ⟨rfl, rfl⟩⟩

/-! ## The invariant -/

/-- The last frame written is that of place `p`, a key frame comes before it or is it,
and nothing between the two is missing. -/
structure Synced (s : State) (p : Nat) : Prop where
  last : s.lastSequence = some (sequenceAt p)
  unwrapped : p + 1 < UInt64.size
  written : s.written.getLast? = some p
  ahead : ∀ i ∈ s.channel, p < i
  support : ∃ k key, k ≤ p ∧ s.frames[k]? = some key ∧ key.isKeyframe = true ∧
    ∀ j, k ≤ j → j ≤ p → j ∈ s.written

structure Inv (expected : VideoCodecType) (s : State) : Prop where
  numbered : ∀ i frame, s.frames[i]? = some frame → frame.sequence = sequenceAt i
  ordered : s.channel.Pairwise (· < ·)
  inside : ∀ i ∈ s.channel ++ s.written, i < s.frames.length
  synced : s.waitingForKeyframe = false → ∃ p, Synced s p
  decodable : Decodable expected s

theorem decodable_of_eq {expected : VideoCodecType} {s s' : State}
    (h : Decodable expected s) (hwritten : s'.written = s.written)
    (hframes : ∀ i ∈ s.written, s'.frames[i]? = s.frames[i]?) : Decodable expected s' := by
  refine ⟨?_, ?_⟩
  · intro before i after frame hsplit hframe hstarts
    rw [hwritten] at hsplit
    rw [hframes i (by simp [hsplit])] at hframe
    obtain ⟨k, key, hlt, hkey, hiskey, hbetween⟩ :=
      h.supported before i after frame hsplit hframe hstarts
    refine ⟨k, key, hlt, ?_, hiskey, hbetween⟩
    have hk : k ∈ before := hbetween k (Nat.le_refl k) hlt
    rw [hframes k (by simp [hsplit, hk])]
    exact hkey
  · intro before p i after frame hsplit hframe hgap
    rw [hwritten] at hsplit
    rw [hframes i (by simp [hsplit])] at hframe
    exact h.afterGap before p i after frame hsplit hframe hgap

/-- A frame may be written that starts anywhere, or comes right after a synced one. -/
theorem decodable_writes {expected : VideoCodecType} {s s' : State} {i : Nat}
    {frame : EncodedVideoFrame} (h : Decodable expected s) (hwrites : Writes s s' i frame)
    (hframe : s.frames[i]? = some frame)
    (hallowed : StartsAnywhere expected frame ∨ ∃ p, Synced s p ∧ i = p + 1) :
    Decodable expected s' := by
  obtain ⟨hframes, -, hwritten, -⟩ := hwrites
  refine ⟨?_, ?_⟩
  · intro before i' after frame' hsplit hframe' hstarts
    rw [hwritten] at hsplit
    rw [hframes] at hframe' ⊢
    rcases List.eq_nil_or_concat after with rfl | ⟨after, last, rfl⟩
    · obtain ⟨rfl, hlast⟩ := List.append_inj' hsplit rfl
      obtain rfl : i = i' := by simpa using hlast
      obtain rfl : frame = frame' := Option.some.inj (hframe.symm.trans hframe')
      rcases hallowed with hstart | ⟨p, hsynced, rfl⟩
      · exact absurd hstart hstarts
      · obtain ⟨k, key, hle, hkey, hiskey, hbetween⟩ := hsynced.support
        exact ⟨k, key, by omega, hkey, hiskey, fun j hkj hjp => hbetween j hkj (by omega)⟩
    · rw [List.concat_eq_append, ← List.cons_append, ← List.append_assoc] at hsplit
      obtain ⟨hinit, -⟩ := List.append_inj' hsplit rfl
      exact h.supported before i' after frame' hinit hframe' hstarts
  · intro before p i' after frame' hsplit hframe' hgap
    rw [hwritten] at hsplit
    rw [hframes] at hframe'
    rcases List.eq_nil_or_concat after with rfl | ⟨after, last, rfl⟩
    · rw [show before ++ [p, i'] = (before ++ [p]) ++ [i'] by simp] at hsplit
      obtain ⟨hbefore, hlast⟩ := List.append_inj' hsplit rfl
      obtain rfl : i = i' := by simpa using hlast
      obtain rfl : frame = frame' := Option.some.inj (hframe.symm.trans hframe')
      rcases hallowed with hstart | ⟨q, hsynced, rfl⟩
      · exact hstart
      · have hq : p = q := by simpa [hbefore] using hsynced.written
        exact absurd (by rw [hq]) hgap
    · rw [List.concat_eq_append, ← List.cons_append, ← List.cons_append,
        ← List.append_assoc] at hsplit
      obtain ⟨hinit, -⟩ := List.append_inj' hsplit rfl
      exact h.afterGap before p i' after frame' hinit hframe' hgap

theorem sequenceAt_toNat {i : Nat} (h : i + 1 < UInt64.size) :
    (sequenceAt i).toNat = i + 1 :=
  UInt64.toNat_ofNat_of_lt' h

/-- Without a gap in the numbers no frame is missing. -/
theorem next_of_synced {s : State} {p i : Nat} {frame : EncodedVideoFrame}
    (hsynced : Synced s p) (hnumber : frame.sequence = sequenceAt i) (hi : i + 1 < UInt64.size)
    (hahead : p < i) (hgap : s.gapDetected frame = false) : i = p + 1 := by
  have hle : ¬ (sequenceAt p).toNat + 1 < (sequenceAt i).toNat := by
    simpa [State.gapDetected, hsynced.last, hnumber] using hgap
  rw [sequenceAt_toNat hsynced.unwrapped, sequenceAt_toNat hi] at hle
  omega

/-- The support of a frame written goes on with the frame after it, and starts at a key
frame. -/
theorem synced_writes {s s' : State} {i : Nat} {frame : EncodedVideoFrame}
    (hwrites : Writes s s' i frame) (hnumber : frame.sequence = sequenceAt i)
    (hi : i + 1 < UInt64.size) (hframe : s.frames[i]? = some frame)
    (hahead : ∀ j ∈ s.channel, i < j)
    (hwhy : frame.isKeyframe = true ∨ ∃ p, Synced s p ∧ i = p + 1) : Synced s' i := by
  obtain ⟨hframes, hchannel, hwritten, hlast⟩ := hwrites
  refine ⟨by rw [hlast, hnumber], hi, by simp [hwritten], by rwa [hchannel], ?_⟩
  rw [hframes, hwritten]
  rcases hwhy with hkey | ⟨p, hsynced, rfl⟩
  · refine ⟨i, frame, Nat.le_refl i, hframe, hkey, ?_⟩
    intro j hij hji
    obtain rfl : i = j := by omega
    simp
  · obtain ⟨k, key, hle, hkey, hiskey, hbetween⟩ := hsynced.support
    refine ⟨k, key, by omega, hkey, hiskey, ?_⟩
    intro j hkj hjp
    rcases Nat.lt_or_ge p j with hlt | hge
    · obtain rfl : j = p + 1 := by omega
      simp
    · exact List.mem_append_left _ (hbetween j hkj hge)

/-- A step that writes nothing, takes nothing and lets the loop wait or stay as it is. -/
theorem inv_of_skips {expected : VideoCodecType} {s s' : State} (h : Inv expected s)
    (hskips : Skips s s') : Inv expected s' := by
  obtain ⟨hframes, hchannel, hwritten, hwaits⟩ := hskips
  refine ⟨by rw [hframes]; exact h.numbered, by rw [hchannel]; exact h.ordered,
    by rw [hframes, hchannel, hwritten]; exact h.inside, ?_,
    decodable_of_eq h.decodable hwritten fun i _ => by rw [hframes]⟩
  intro hwaiting
  rcases hwaits with hwaits | ⟨hsame, hlast⟩
  · rw [hwaits] at hwaiting
    cases hwaiting
  · obtain ⟨p, hsynced⟩ := h.synced (hsame ▸ hwaiting)
    refine ⟨p, hlast ▸ hsynced.last, hsynced.unwrapped, hwritten ▸ hsynced.written,
      hchannel ▸ hsynced.ahead, ?_⟩
    rw [hframes, hwritten]
    exact hsynced.support

theorem inv_pop {expected : VideoCodecType} {s : State} {i : Nat} {rest : List Nat}
    (h : Inv expected s) (hchannel : s.channel = i :: rest) :
    Inv expected { s with channel := rest } ∧ ∀ j ∈ rest, i < j := by
  have hordered := h.ordered
  rw [hchannel] at hordered
  obtain ⟨hahead, hrest⟩ := List.pairwise_cons.mp hordered
  have hsub : ∀ j ∈ rest, j ∈ s.channel := fun j hj => by simp [hchannel, hj]
  refine ⟨⟨h.numbered, hrest, ?_, ?_, decodable_of_eq h.decodable rfl fun _ _ => rfl⟩, hahead⟩
  · intro j hj
    apply h.inside j
    rcases List.mem_append.mp hj with hj | hj
    · exact List.mem_append_left _ (hsub j hj)
    · exact List.mem_append_right _ hj
  · intro hwaiting
    obtain ⟨p, hsynced⟩ := h.synced hwaiting
    exact ⟨p, hsynced.last, hsynced.unwrapped, hsynced.written,
      fun j hj => hsynced.ahead j (hsub j hj), hsynced.support⟩

/-- The frame taken is skipped, or written with what it needs before it. -/
theorem inv_take {expected : VideoCodecType} {s : State} {i now : Nat} {rest : List Nat}
    {frame : EncodedVideoFrame} {accepted : Bool} (h : Inv expected s)
    (hchannel : s.channel = i :: rest) (hframe : s.frames[i]? = some frame)
    (hclean : Clean expected s (.take now accepted)) :
    Inv expected (State.takeFrame expected { s with channel := rest } i frame now accepted) := by
  have hclean' : frame.codec = expected → _ :=
    hclean i (by simp [hchannel]) frame hframe
  obtain ⟨hpopped, hahead⟩ := inv_pop h hchannel
  by_cases hcodec : frame.codec = expected
  · obtain ⟨hparameter, hforwards, hi⟩ := hclean' hcodec
    have hnumber := h.numbered i frame hframe
    rcases takeFrame_cases (s := { s with channel := rest }) i now
      (fun _ hforward => hforwards hforward) with hskips | ⟨hwrites, hwhy⟩
    · exact inv_of_skips hpopped hskips
    · -- the frame comes right after a synced one, or starts anywhere
      have hsupport : frame.isKeyframe = true ∨
          LetThrough expected s frame ∧ (State.takeFrame expected { s with channel := rest } i
            frame now accepted).waitingForKeyframe = true ∨
          ∃ p, Synced { s with channel := rest } p ∧ i = p + 1 := by
        rcases hwhy with hkey | hthrough | ⟨hwaiting, hgap⟩
        · exact .inl hkey
        · exact .inr (.inl hthrough)
        · obtain ⟨p, hsynced⟩ := h.synced hwaiting
          have hlt : p < i := hsynced.ahead i (by simp [hchannel])
          have hsynced : Synced { s with channel := rest } p :=
            ⟨hsynced.last, hsynced.unwrapped, hsynced.written,
              fun j hj => Nat.lt_trans hlt (hahead j hj), hsynced.support⟩
          exact .inr (.inr ⟨p, hsynced, next_of_synced hsynced hnumber hi hlt hgap⟩)
      refine ⟨?_, ?_, ?_, ?_, decodable_writes hpopped.decodable hwrites hframe ?_⟩
      · rw [hwrites.frames]
        exact hpopped.numbered
      · rw [hwrites.channel]
        exact hpopped.ordered
      · rw [hwrites.frames, hwrites.channel, hwrites.written]
        intro j hj
        rw [← List.append_assoc, List.mem_append, List.mem_singleton] at hj
        rcases hj with hj | rfl
        · exact hpopped.inside j hj
        · exact h.inside j (by simp [hchannel])
      · intro hwaiting
        refine ⟨i, synced_writes hwrites hnumber hi hframe hahead ?_⟩
        rcases hsupport with hkey | ⟨-, hwaits⟩ | hsynced
        · exact .inl hkey
        · rw [hwaits] at hwaiting
          cases hwaiting
        · exact .inr hsynced
      · rcases hsupport with hkey | ⟨hthrough, -⟩ | hsynced
        · exact .inl (.inl hkey)
        · have hh264 : expected = .h264 := by
            have := hthrough.2.2
            simp only [State.forwardH264ParameterFrame, Bool.and_eq_true, beq_iff_eq] at this
            exact this.1
          exact .inl (.inr ⟨hh264, hparameter hthrough⟩)
        · exact .inr hsynced
  · have hskip : State.takeFrame expected { s with channel := rest } i frame now accepted =
        { s with channel := rest } := by
      simp [State.takeFrame, hcodec]
    rw [hskip]
    exact hpopped

theorem inv_encode {expected : VideoCodecType} {s : State} (h : Inv expected s)
    (frame : EncodedVideoFrame) (lost : Bool) :
    Inv expected { s with
      frames := s.frames ++ [{ frame with sequence := sequenceAt s.frames.length }]
      channel := if lost then s.channel else s.channel ++ [s.frames.length] } := by
  have hsame : ∀ i < s.frames.length, ∀ new : EncodedVideoFrame,
      (s.frames ++ [new])[i]? = s.frames[i]? :=
    fun i hi new => List.getElem?_append_left hi
  have hwritten : ∀ i ∈ s.written, i < s.frames.length :=
    fun i hi => h.inside i (List.mem_append_right _ hi)
  have hqueued : ∀ i ∈ s.channel, i < s.frames.length :=
    fun i hi => h.inside i (List.mem_append_left _ hi)
  refine ⟨?_, ?_, ?_, ?_,
    decodable_of_eq h.decodable rfl fun i hi => hsame i (hwritten i hi) _⟩
  · intro i f hf
    rcases Nat.lt_or_ge i s.frames.length with hlt | hge
    · rw [hsame i hlt] at hf
      exact h.numbered i f hf
    · obtain ⟨hlen, rfl⟩ := List.getElem?_eq_some_iff.mp hf
      obtain rfl : i = s.frames.length := by
        simp only [List.length_append, List.length_singleton] at hlen
        omega
      simp
  · cases lost with
    | true => exact h.ordered
    | false =>
      simp only [Bool.false_eq_true, if_false]
      refine List.pairwise_append.mpr ⟨h.ordered, List.pairwise_singleton _ _, ?_⟩
      intro i hi j hj
      rw [List.mem_singleton.mp hj]
      exact hqueued i hi
  · intro i hi
    simp only [List.length_append, List.length_singleton]
    rcases List.mem_append.mp hi with hi | hi
    · split at hi
      · exact Nat.lt_succ_of_lt (hqueued i hi)
      · rcases List.mem_append.mp hi with hi | hi
        · exact Nat.lt_succ_of_lt (hqueued i hi)
        · rw [List.mem_singleton.mp hi]
          exact Nat.lt_succ_self _
    · exact Nat.lt_succ_of_lt (hwritten i hi)
  · intro hwaiting
    obtain ⟨p, hsynced⟩ := h.synced hwaiting
    have hp : p < s.frames.length := hwritten p (List.mem_of_getLast? hsynced.written)
    obtain ⟨k, key, hle, hkey, hiskey, hbetween⟩ := hsynced.support
    refine ⟨p, hsynced.last, hsynced.unwrapped, hsynced.written, ?_, k, key, hle, ?_, hiskey,
      hbetween⟩
    · intro i hi
      simp only at hi
      split at hi
      · exact hsynced.ahead i hi
      · rcases List.mem_append.mp hi with hi | hi
        · exact hsynced.ahead i hi
        · rw [List.mem_singleton.mp hi]
          exact hp
    · rw [hsame k (by omega)]
      exact hkey

theorem lookAtState_skips {s s' : State} {now : Nat} (h : s.lookAtState now = some s') :
    Skips s s' := by
  unfold State.lookAtState at h
  cases hphase : s.phase with
  | waiting =>
    rw [hphase] at h
    simp only at h
    split at h
    · cases h
      exact ⟨rfl, rfl, rfl, .inl rfl⟩
    · cases h
      exact ⟨rfl, rfl, rfl, .inr ⟨rfl, rfl⟩⟩
    · cases h
      exact ⟨rfl, rfl, rfl, .inr ⟨rfl, rfl⟩⟩
    · split at h
      · cases h
        exact ⟨rfl, rfl, rfl, .inr ⟨rfl, rfl⟩⟩
      · split at h <;> cases h
        exact ⟨rfl, rfl, rfl, .inr ⟨rfl, rfl⟩⟩
  | receiving =>
    rw [hphase] at h
    simp only at h
    split at h
    · split at h <;> cases h <;> exact ⟨rfl, rfl, rfl, .inr ⟨rfl, rfl⟩⟩
    · split at h <;> cases h
      exact ⟨rfl, rfl, rfl, .inr ⟨rfl, rfl⟩⟩
  | stopped =>
    rw [hphase] at h
    cases h

theorem inv_step {expected : VideoCodecType} {s s' : State} {e : Event}
    (h : Inv expected s) (hstep : step expected s e = some s') (hclean : Clean expected s e) :
    Inv expected s' := by
  cases e with
  | connection state =>
    simp only [step] at hstep
    split at hstep <;> cases hstep
    exact inv_of_skips h ⟨rfl, rfl, rfl, .inr ⟨rfl, rfl⟩⟩
  | drop =>
    cases hstep
    exact inv_of_skips h ⟨rfl, rfl, rfl, .inr ⟨rfl, rfl⟩⟩
  | encode frame lost =>
    cases hstep
    exact inv_encode h frame lost
  | state now => exact inv_of_skips h (lookAtState_skips hstep)
  | take now accepted =>
    simp only [step] at hstep
    split at hstep
    · split at hstep
      · cases hstep
      · rename_i i rest hchannel
        obtain ⟨frame, hframe, rfl⟩ := Option.map_eq_some_iff.mp hstep
        exact inv_take h hchannel hframe hclean
    · cases hstep
  | closed =>
    simp only [step] at hstep
    split at hstep <;> cases hstep
    exact inv_of_skips h ⟨rfl, rfl, rfl, .inr ⟨rfl, rfl⟩⟩

theorem inv_init {expected : VideoCodecType} {s : State} (h : Init s) : Inv expected s := by
  obtain ⟨connection, changed, rfl⟩ := h
  refine ⟨?_, List.Pairwise.nil, ?_, ?_, ?_, ?_⟩
  · intro i frame hframe
    cases hframe
  · intro i hi
    cases hi
  · intro hwaiting
    cases hwaiting
  · intro before i after frame hsplit
    simp at hsplit
  · intro before p i after frame hsplit
    simp at hsplit

/-- **Decodability.** Every frame written but key frames and parameter frames follows the
frame before it and, further back, a key frame written with all between, in every run in
which a frame let through as a parameter frame is one, a frame handed to the track has
bytes and reaches it, and the numbers do not wrap. -/
theorem written_decodable (expected : VideoCodecType) {s : State}
    (hrun : ((system expected).restrict (Clean expected)).Reachable s) :
    Decodable expected s := by
  have hinv : Inv expected s := by
    refine TSys.invariant (I := Inv expected) ?_ ?_ hrun
    · exact fun s h => inv_init h
    · exact fun s e s' hs ⟨hstep, hclean⟩ => inv_step hs hstep hclean
  exact hinv.decodable

instance (expected : VideoCodecType) (s : State) (frame : EncodedVideoFrame) :
    Decidable (LetThrough expected s frame) := inferInstanceAs (Decidable (_ ∧ _ ∧ _))

instance (expected : VideoCodecType) (s : State) (frame : EncodedVideoFrame) :
    Decidable (Forwards expected s frame) := inferInstanceAs (Decidable (_ ∨ _ ∨ _))

instance (expected : VideoCodecType) (s : State) : (e : Event) → Decidable (Clean expected s e)
  | .take _ _ => inferInstanceAs (Decidable (∀ i ∈ _, ∀ frame ∈ _, _))
  | .connection _ | .drop | .encode _ _ | .state _ | .closed =>
      inferInstanceAs (Decidable True)

/-- A session connected before its task starts. -/
def connected : State where
  connection := .connected

theorem connected_init : Init connected := ⟨.connected, false, rfl⟩

/-- A frame of these bytes, before it has a number. -/
def unnumbered (data : Bytes) (isKeyframe : Bool) : EncodedVideoFrame where
  data
  ptsMs := 0
  isKeyframe
  sequence := 0
  codec := .h264
  pipeline := 0
  packet := 0

/-- The pipeline encodes a frame and the task takes it. -/
def deliver (data : Bytes) (isKeyframe : Bool) : List Event :=
  [.encode (unnumbered data isKeyframe) false, .take 0 true]

/-- Parameter sets of their own, then a key frame and a slice. -/
theorem parameter_sets_first : ∃ s : State, s.written = [0, 1, 2] ∧ Decodable .h264 s := by
  have hrun : ((.state 0 :: deliver [0, 0, 0, 1, 0x67, 0x42] false ++
      deliver [0, 0, 0, 1, 0x65, 0x88] true ++ deliver [0, 0, 0, 1, 0x41, 0x9A] false).foldlM
        (fun s e => if Clean .h264 s e then step .h264 s e else none) connected).any
          (fun s => s.written == [0, 1, 2]) := by decide
  obtain ⟨s, hs, hwritten⟩ := Option.any_eq_true _ _ |>.mp hrun
  exact ⟨s, beq_iff_eq.mp hwritten, written_decodable .h264
    (TSys.ofFn_restrict_reachable (.init connected_init) hs)⟩

/-- **A slice let through.** The first frame after the connection is a delta frame that
repeats the SPS; the loop writes it as a parameter frame. -/
theorem slice_with_parameter_sets :
    ¬ ∀ (expected : VideoCodecType) (s : State), (system expected).Reachable s →
      Decodable expected s := by
  intro halways
  let slice : Bytes := [0, 0, 0, 1, 0x67, 0x42, 0, 0, 0, 1, 0x41, 0x9A]
  have hrun : ((.state 0 :: deliver slice false).foldlM (step .h264) connected).any
      (fun s => s.written == [0] &&
        s.frames == [{ unnumbered slice false with sequence := 1 }]) := by decide
  obtain ⟨s, hs, hsent⟩ := Option.any_eq_true _ _ |>.mp hrun
  simp only [Bool.and_eq_true, beq_iff_eq] at hsent
  obtain ⟨hwritten, hframes⟩ := hsent
  have hdecodable := halways .h264 s (TSys.ofFn_reachable (.init connected_init) hs)
  obtain ⟨k, -, hlt, -⟩ := hdecodable.supported [] 0 [] { unnumbered slice false with
    sequence := 1 } hwritten (by rw [hframes]; rfl) (by simp only [StartsAnywhere]; decide)
  exact absurd hlt (Nat.not_lt_zero k)

end VideoReceiver

end StreamBox.Webrtc
