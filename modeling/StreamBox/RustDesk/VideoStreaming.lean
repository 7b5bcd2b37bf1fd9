import Mathlib.Data.List.Chain
import Mathlib.Logic.Basic
import StreamBox.Lib.TSys
import StreamBox.RustDesk.FrameAdapters
import StreamBox.Webrtc.WebrtcStreamer

/-!
# The video of a RustDesk connection

`run_video_streaming` with the pipelines it subscribes to, the encode loops of these and
the calls of everyone else on the streamer, one lock scope or one await at a time.

* **Labels** — `labels_follow_codec`: every message names the codec of its bytes in
  every run in which the loop subscribes to pipelines of the negotiated codec only.
* **Decodability** — `sent_decodable`: every delta frame follows the one before it in
  every run in which no frame that comes first after packets were lost is a delta
  frame, and no subscription starts with one that looks like the next.
* **Failures** — `h265_as_h264`, `delta_after_resubscribing`.
-/

namespace StreamBox.RustDesk

open StreamBox.Lib StreamBox.Video StreamBox.Webrtc

namespace VideoStreaming

/-- A subscription: the channel of four frames, and the frame the encode loop waits to
put there. -/
structure Receiver where
  pipeline : Nat
  sending : Option EncodedVideoFrame := none
  channel : List EncodedVideoFrame := []
  /-- The last frame taken from it. -/
  taken : Option EncodedVideoFrame := none
  deriving DecidableEq, Repr

/-- Where the loop is. -/
inductive Phase
  /-- In its own `set_video_codec`. -/
  | setting (pc : SetVideoCodec)
  /-- Before `subscribe_encoded_frames`. -/
  | subscribing
  /-- With a pipeline not yet subscribed to. -/
  | obtained (p : Nat)
  | receiving (rx : Receiver)
  | ended
  deriving DecidableEq, Repr

structure State where
  streamer : WebRtcStreamer
  /-- The `set_video_codec` calls of everyone else. -/
  calls : List (VideoCodecType × SetVideoCodec) := []
  phase : Phase := .setting .compare
  adapter : VideoFrameAdapter
  waitingForKeyframe : Bool := true
  lastSequence : Option UInt64 := none
  /-- The messages sent to the client, each with the frame it carries. -/
  sent : List (VideoFrame × EncodedVideoFrame) := []
  deriving DecidableEq, Repr

inductive Event
  -- the others, on the streamer
  | requestKeyframe
  | stop (p : Nat)
  | clear
  | ensure (fails : Bool)
  | call (codec : VideoCodecType)
  | advance (i : Nat) (hasCapture fails : Bool)
  | drop (p : Nat)
  -- the encode loop of a pipeline
  | encode (p : Nat) (ptsMs : Int64) (returned : List Packet)
  | broadcast (p : Nat)
  | deliver
  -- the streaming loop
  | set (hasCapture fails : Bool)
  | obtain (fails : Bool)
  | subscribe
  | take (accepted : Bool)
  | closed
  | finish
  deriving DecidableEq, Repr

/-- `u64::saturating_add(1)`. -/
def saturatingSucc (n : UInt64) : UInt64 :=
  if n = UInt64.ofNat (UInt64.size - 1) then n else n + 1

namespace State

/-- The frame that pipeline `p` waits to send to this connection. -/
def sending (s : State) (p : Nat) : Option EncodedVideoFrame :=
  match s.phase with
  | .receiving rx => if rx.pipeline = p then rx.sending else none
  | _ => none

/-- `gap_detected`. -/
def gapDetected (s : State) (frame : EncodedVideoFrame) : Bool :=
  s.lastSequence.any fun prev => frame.sequence > saturatingSucc prev

/-- No one refers to pipeline `p` but the slot and the loop. -/
def Idle (s : State) (p : Nat) (pipeline : SharedVideoPipeline) : Prop :=
  pipeline.running = false ∧ pipeline.encoded = none ∧ s.streamer.videoPipeline ≠ some p ∧
    s.phase ≠ .obtained p ∧ s.sending p = none

instance (s : State) (p : Nat) (pipeline : SharedVideoPipeline) :
    Decidable (s.Idle p pipeline) := inferInstanceAs (Decidable (_ ∧ _ ∧ _ ∧ _ ∧ _))

/-- What the loop does with the next frame of its channel; the client's channel may be
closed. -/
def takeFrame (s : State) (rx : Receiver) (frame : EncodedVideoFrame)
    (rest : List EncodedVideoFrame) (accepted : Bool) : State :=
  let gap := s.gapDetected frame
  let rx := { rx with channel := rest, taken := some frame }
  if (s.waitingForKeyframe || gap) && !frame.isKeyframe then
    { s with phase := .receiving rx, waitingForKeyframe := s.waitingForKeyframe || gap }
  else
    let (adapter, message) :=
      s.adapter.encodeFrameFromBytes frame.data frame.isKeyframe frame.ptsMs.toUInt64
    if accepted then
      { s with
        phase := .receiving rx
        adapter
        waitingForKeyframe := false
        lastSequence := some frame.sequence
        sent := s.sent ++ [(message, frame)] }
    else { s with phase := .ended, adapter, waitingForKeyframe := false }

end State

open State in
def step (negotiated : VideoCodecType) (s : State) : Event → Option State
  | .requestKeyframe => some { s with streamer := s.streamer.requestKeyframe }
  | .stop p => some { s with streamer := s.streamer.update p SharedVideoPipeline.stop }
  | .clear => some { s with streamer := { s.streamer with videoPipeline := none } }
  | .ensure fails => some { s with streamer := (s.streamer.ensureVideoPipeline fails).1 }
  | .call codec => some { s with calls := s.calls ++ [(codec, .compare)] }
  | .advance i hasCapture fails =>
    s.calls[i]?.map fun (codec, pc) =>
      let (streamer, pc) := s.streamer.setVideoCodec codec hasCapture fails pc
      { s with streamer, calls := s.calls.set i (codec, pc) }
  | .drop p =>
    s.streamer.pipelines[p]?.bind fun pipeline =>
      if s.Idle p pipeline then
        some { s with streamer := s.streamer.update p ({ · with dropped := true }) }
      else none
  | .encode p ptsMs returned =>
    s.streamer.pipelines[p]?.bind fun pipeline =>
      if pipeline.dropped = false ∧ pipeline.encoded = none ∧ s.sending p = none then
        some { s with streamer := s.streamer.update p (·.encodeNext p ptsMs returned) }
      else none
  | .broadcast p =>
    s.streamer.pipelines[p]?.bind fun pipeline =>
      pipeline.encoded.map fun frame =>
        let streamer := s.streamer.update p ({ · with encoded := none })
        match s.phase with
        | .receiving rx =>
          if rx.pipeline = p then
            { s with streamer, phase := .receiving { rx with sending := some frame } }
          else { s with streamer }
        | _ => { s with streamer }
  | .deliver =>
    match s.phase with
    | .receiving rx =>
      if rx.channel.length < 4 then
        rx.sending.map fun frame =>
          { s with phase := .receiving { rx with
              sending := none
              channel := rx.channel ++ [frame] } }
      else none
    | _ => none
  | .set hasCapture fails =>
    match s.phase with
    | .setting .done => some { s with phase := .subscribing }
    | .setting pc =>
      let (streamer, pc) := s.streamer.setVideoCodec negotiated hasCapture fails pc
      some { s with streamer, phase := .setting pc }
    | _ => none
  | .obtain fails =>
    if s.phase = .subscribing then
      let (streamer, p) := s.streamer.ensureVideoPipeline fails
      some { s with streamer, phase := p.elim .subscribing .obtained }
    else none
  | .subscribe =>
    match s.phase with
    | .obtained p =>
      s.streamer.pipelines[p]?.map fun _ => { s with phase := .receiving { pipeline := p } }
    | _ => none
  | .take accepted =>
    match s.phase with
    | .receiving rx =>
      match rx.channel with
      | frame :: rest => some (s.takeFrame rx frame rest accepted)
      | [] => none
    | _ => none
  | .closed =>
    match s.phase with
    | .receiving rx =>
      if rx.channel = [] ∧ rx.sending = none ∧
          s.streamer.pipelines[rx.pipeline]?.any (·.dropped) then
        some { s with phase := .subscribing }
      else none
    | _ => none
  | .finish =>
    match s.phase with
    | .subscribing | .receiving _ => some { s with phase := .ended }
    | _ => none

/-- The loop starts on a streamer of any codec. -/
def Init (negotiated : VideoCodecType) (s : State) : Prop :=
  ∃ codec : VideoCodecType, s =
    { streamer := { videoCodec := codec }, adapter := { codec := .ofEncoder negotiated } }

/-- A connection that negotiated `negotiated`. -/
def system (negotiated : VideoCodecType) : TSys State Event :=
  TSys.ofFn (Init negotiated) (step negotiated)

/-! ## What a step does -/

/-- A step of the others or of the loop that moves no frame. -/
structure Quiet (s s' : State) : Prop where
  keeps : s.streamer.Keeps s'.streamer
  phase : ∀ rx, s'.phase = .receiving rx → s.phase = .receiving rx
  adapter : s'.adapter = s.adapter
  waiting : s'.waitingForKeyframe = s.waitingForKeyframe
  sent : s'.sent = s.sent

/-- A step, and the way of the frames in it. -/
inductive Moves (s : State) : Event → State → Prop
  | quiet {e s'} : Quiet s s' → Moves s e s'
  | encode {p ptsMs returned pipeline} : s.streamer.pipelines[p]? = some pipeline →
      pipeline.encoded = none → s.sending p = none →
      Moves s (.encode p ptsMs returned)
        { s with streamer := s.streamer.update p (·.encodeNext p ptsMs returned) }
  | broadcast {p pipeline frame rx} : s.streamer.pipelines[p]? = some pipeline →
      pipeline.encoded = some frame → s.phase = .receiving rx → rx.pipeline = p →
      Moves s (.broadcast p)
        { s with
          streamer := s.streamer.update p ({ · with encoded := none })
          phase := .receiving { rx with sending := some frame } }
  | elsewhere {p} : (∀ rx, s.phase = .receiving rx → rx.pipeline ≠ p) →
      Moves s (.broadcast p)
        { s with streamer := s.streamer.update p ({ · with encoded := none }) }
  | deliver {rx frame} : s.phase = .receiving rx → rx.sending = some frame →
      Moves s .deliver
        { s with phase := .receiving { rx with
            sending := none
            channel := rx.channel ++ [frame] } }
  | subscribe {p pipeline} : s.phase = .obtained p → s.streamer.pipelines[p]? = some pipeline →
      Moves s .subscribe { s with phase := .receiving { pipeline := p } }
  | take {rx frame rest accepted} : s.phase = .receiving rx → rx.channel = frame :: rest →
      Moves s (.take accepted) (s.takeFrame rx frame rest accepted)

theorem quiet_streamer {s : State} {streamer : WebRtcStreamer} (h : s.streamer.Keeps streamer) :
    Quiet s { s with streamer } :=
  ⟨h, fun _ hrx => hrx, rfl, rfl, rfl⟩

/-- A step that leaves the subscription, if there is one. -/
theorem quiet_phase {s : State} {streamer : WebRtcStreamer} {phase : Phase}
    (h : s.streamer.Keeps streamer) (hphase : ∀ rx, phase ≠ .receiving rx) :
    Quiet s { s with streamer, phase } :=
  ⟨h, fun rx hrx => absurd hrx (hphase rx), rfl, rfl, rfl⟩

theorem step_moves {negotiated : VideoCodecType} {s s' : State} {e : Event}
    (hstep : step negotiated s e = some s') : Moves s e s' := by
  have hrefl : s.streamer.Keeps s.streamer := WebRtcStreamer.keeps_of_pipelines rfl
  cases e with
  | requestKeyframe =>
    cases hstep
    exact .quiet (quiet_streamer s.streamer.keeps_requestKeyframe)
  | stop p =>
    cases hstep
    exact .quiet (quiet_streamer (s.streamer.keeps_update p fun _ => ⟨rfl, rfl, rfl, rfl⟩))
  | clear =>
    cases hstep
    exact .quiet (quiet_streamer (WebRtcStreamer.keeps_of_pipelines rfl))
  | ensure fails =>
    cases hstep
    exact .quiet (quiet_streamer (s.streamer.keeps_ensure fails))
  | call codec =>
    cases hstep
    exact .quiet ⟨hrefl, fun _ hrx => hrx, rfl, rfl, rfl⟩
  | advance i hasCapture fails =>
    obtain ⟨⟨codec, pc⟩, -, rfl⟩ := Option.map_eq_some_iff.mp hstep
    exact .quiet ⟨s.streamer.keeps_setVideoCodec codec hasCapture fails pc, fun _ hrx => hrx,
      rfl, rfl, rfl⟩
  | drop p =>
    obtain ⟨pipeline, -, hs⟩ := Option.bind_eq_some_iff.mp hstep
    obtain ⟨-, hs⟩ := Option.ite_none_right_eq_some.mp hs
    cases hs
    exact .quiet (quiet_streamer (s.streamer.keeps_update p fun _ => ⟨rfl, rfl, rfl, rfl⟩))
  | encode p ptsMs returned =>
    obtain ⟨pipeline, hp, hs⟩ := Option.bind_eq_some_iff.mp hstep
    obtain ⟨⟨-, hencoded, hsending⟩, hs⟩ := Option.ite_none_right_eq_some.mp hs
    cases hs
    exact .encode hp hencoded hsending
  | broadcast p =>
    obtain ⟨pipeline, hp, hs⟩ := Option.bind_eq_some_iff.mp hstep
    obtain ⟨frame, hencoded, rfl⟩ := Option.map_eq_some_iff.mp hs
    split
    · rename_i rx hrx
      split
      · rename_i hp'
        exact .broadcast hp hencoded hrx hp'
      · rename_i hp'
        refine .elsewhere fun rx' hrx' => ?_
        obtain rfl : rx = rx' := Phase.receiving.inj (hrx.symm.trans hrx')
        exact hp'
    · rename_i hphase
      exact .elsewhere fun rx hrx => absurd hrx (hphase rx)
  | deliver =>
    simp only [step] at hstep
    split at hstep
    · rename_i rx hrx
      obtain ⟨-, hs⟩ := Option.ite_none_right_eq_some.mp hstep
      obtain ⟨frame, hsending, rfl⟩ := Option.map_eq_some_iff.mp hs
      exact .deliver hrx hsending
    · cases hstep
  | set hasCapture fails =>
    simp only [step] at hstep
    split at hstep <;> cases hstep
    · exact .quiet (quiet_phase hrefl (by simp))
    · exact .quiet (quiet_phase (s.streamer.keeps_setVideoCodec _ _ _ _) (by simp))
  | obtain fails =>
    obtain ⟨-, hs⟩ := Option.ite_none_right_eq_some.mp hstep
    cases hs
    have hobtained : ∀ (rx : Receiver) (p : Option Nat),
        p.elim Phase.subscribing Phase.obtained ≠ .receiving rx := by
      rintro rx (_ | p) <;> simp
    exact .quiet (quiet_phase (s.streamer.keeps_ensure fails) fun rx => hobtained rx _)
  | subscribe =>
    simp only [step] at hstep
    split at hstep
    · rename_i p hphase
      obtain ⟨pipeline, hp, rfl⟩ := Option.map_eq_some_iff.mp hstep
      exact .subscribe hphase hp
    · cases hstep
  | take accepted =>
    simp only [step] at hstep
    split at hstep
    · rename_i rx hrx
      split at hstep <;> cases hstep
      rename_i frame rest hchannel
      exact .take hrx hchannel
    · cases hstep
  | closed =>
    simp only [step] at hstep
    split at hstep
    · obtain ⟨-, hs⟩ := Option.ite_none_right_eq_some.mp hstep
      cases hs
      exact .quiet (quiet_phase hrefl (by simp))
    · cases hstep
  | finish =>
    simp only [step] at hstep
    split at hstep <;> cases hstep <;> exact .quiet (quiet_phase hrefl (by simp))

/-! ## What holds of the subscription -/

/-- A property of the subscription, with the pipeline it is to. -/
def Receives (P : Receiver → SharedVideoPipeline → Prop) (s : State) : Prop :=
  ∀ rx, s.phase = .receiving rx →
    ∃ pipeline, s.streamer.pipelines[rx.pipeline]? = some pipeline ∧ P rx pipeline

theorem receives_quiet {P : Receiver → SharedVideoPipeline → Prop} {s s' : State}
    (hP : ∀ rx old new, WebRtcStreamer.SameFrames old new → P rx old → P rx new)
    (h : Receives P s) (hquiet : Quiet s s') : Receives P s' := by
  intro rx hrx
  obtain ⟨pipeline, hp, hold⟩ := h rx (hquiet.phase rx hrx)
  obtain ⟨pipeline', hp', hsame⟩ := hquiet.keeps.old _ _ hp
  exact ⟨pipeline', hp', hP rx pipeline pipeline' hsame hold⟩

theorem receives_update {P : Receiver → SharedVideoPipeline → Prop} {s : State} {p : Nat}
    {f : SharedVideoPipeline → SharedVideoPipeline} (h : Receives P s)
    (hP : ∀ rx pipeline, s.phase = .receiving rx → rx.pipeline = p →
      s.streamer.pipelines[p]? = some pipeline → P rx pipeline → P rx (f pipeline)) :
    Receives P { s with streamer := s.streamer.update p f } := by
  intro rx hrx
  obtain ⟨pipeline, hp, hold⟩ := h rx hrx
  simp only [WebRtcStreamer.update_get]
  split
  · rename_i heq
    exact ⟨f pipeline, by simp [hp], hP rx pipeline hrx heq.symm (heq ▸ hp) hold⟩
  · exact ⟨pipeline, hp, hold⟩

/-- The frames on their way to the loop. -/
def Receiver.underway (rx : Receiver) (pipeline : SharedVideoPipeline) :
    List EncodedVideoFrame :=
  rx.channel ++ rx.sending.toList ++ pipeline.encoded.toList

/-- The encode loop waits with one frame at a time. -/
def Receiver.Single (rx : Receiver) (pipeline : SharedVideoPipeline) : Prop :=
  rx.sending = none ∨ pipeline.encoded = none

theorem sending_eq {s : State} {rx : Receiver} (hrx : s.phase = .receiving rx) :
    s.sending rx.pipeline = rx.sending := by
  simp [State.sending, hrx]

/-- Broadcasting hands the waiting frame to the subscription. -/
theorem underway_broadcast {rx : Receiver} {pipeline : SharedVideoPipeline}
    {frame : EncodedVideoFrame} (hsingle : rx.Single pipeline)
    (hencoded : pipeline.encoded = some frame) :
    Receiver.underway { rx with sending := some frame } { pipeline with encoded := none } =
      rx.underway pipeline := by
  rcases hsingle with hnone | hnone
  · simp [Receiver.underway, hnone, hencoded]
  · simp [hnone] at hencoded

theorem underway_deliver {rx : Receiver} {pipeline : SharedVideoPipeline}
    {frame : EncodedVideoFrame} (hsending : rx.sending = some frame) :
    Receiver.underway { rx with sending := none, channel := rx.channel ++ [frame] } pipeline =
      rx.underway pipeline := by
  simp [Receiver.underway, hsending]

theorem underway_take {rx : Receiver} {pipeline : SharedVideoPipeline} {frame : EncodedVideoFrame}
    {rest : List EncodedVideoFrame} (hchannel : rx.channel = frame :: rest) :
    rx.underway pipeline =
      frame :: Receiver.underway { rx with channel := rest, taken := some frame } pipeline := by
  simp [Receiver.underway, hchannel]

/-- What the loop does with a frame it takes. -/
structure Takes (s s' : State) (rx : Receiver) (frame : EncodedVideoFrame)
    (rest : List EncodedVideoFrame) : Prop where
  streamer : s'.streamer = s.streamer
  phase : ∀ rx', s'.phase = .receiving rx' →
    rx' = { rx with channel := rest, taken := some frame }
  adapter : s'.adapter.codec = s.adapter.codec
  outcome : (s'.sent = s.sent ∧ (s'.waitingForKeyframe = true ∨ s'.phase = .ended)) ∨
    ∃ message, s'.sent = s.sent ++ [(message, frame)] ∧ message.codec = s.adapter.codec ∧
      (frame.isKeyframe = true ∨ s.waitingForKeyframe = false ∧ s.gapDetected frame = false)

theorem takeFrame_takes (s : State) (rx : Receiver) (frame : EncodedVideoFrame)
    (rest : List EncodedVideoFrame) (accepted : Bool) :
    Takes s (s.takeFrame rx frame rest accepted) rx frame rest := by
  simp only [State.takeFrame]
  split
  · rename_i hskip
    refine ⟨rfl, fun rx' hrx' => (Phase.receiving.inj hrx').symm, rfl, .inl ⟨rfl, .inl ?_⟩⟩
    exact (Bool.and_eq_true_iff.mp hskip).1
  · rename_i hsend
    have hcodec := s.adapter.encodeFrameFromBytes_codec frame.data frame.isKeyframe
      frame.ptsMs.toUInt64
    have hadapter := s.adapter.encodeFrameFromBytes_adapter frame.data frame.isKeyframe
      frame.ptsMs.toUInt64
    split
    · refine ⟨rfl, fun rx' hrx' => (Phase.receiving.inj hrx').symm, hadapter,
        .inr ⟨_, rfl, hcodec, ?_⟩⟩
      cases hkey : frame.isKeyframe with
      | true => exact .inl rfl
      | false => simpa [hkey] using hsend
    · exact ⟨rfl, by simp, hadapter, .inl ⟨rfl, .inr rfl⟩⟩

/-! ## Labels -/

/-- Every message sent names the codec of its bytes. -/
def Labelled (s : State) : Prop :=
  ∀ m ∈ s.sent, m.1.codec = .ofEncoder m.2.codec

/-- The codec of the pipeline the loop is about to subscribe to. -/
def State.obtainedCodec (s : State) : Option VideoCodecType :=
  match s.phase with
  | .obtained p => s.streamer.pipelines[p]?.map (·.codec)
  | _ => none

/-- A pipeline the loop subscribes to encodes with the negotiated codec. -/
def Agreed (negotiated : VideoCodecType) (s : State) : Event → Prop
  | .subscribe => s.obtainedCodec = some negotiated
  | _ => True

structure OfCodec (negotiated : VideoCodecType) (rx : Receiver) (pipeline : SharedVideoPipeline) :
    Prop where
  single : rx.Single pipeline
  codec : pipeline.codec = negotiated
  underway : ∀ f ∈ rx.underway pipeline, f.codec = negotiated

structure LabelInv (negotiated : VideoCodecType) (s : State) : Prop where
  consistent : s.streamer.Consistent
  receives : Receives (OfCodec negotiated) s
  adapter : s.adapter.codec = .ofEncoder negotiated
  sent : Labelled s

theorem ofCodec_encodeNext {negotiated : VideoCodecType} {rx : Receiver}
    {pipeline : SharedVideoPipeline} (h : OfCodec negotiated rx pipeline)
    (hsending : rx.sending = none) (ptsMs : Int64) (returned : List Packet) :
    OfCodec negotiated rx (pipeline.encodeNext rx.pipeline ptsMs returned) := by
  refine ⟨.inl hsending, ?_, fun f hf => ?_⟩
  · cases returned <;> exact h.codec
  · rcases List.mem_append.mp hf with hold | hnew
    · exact h.underway f (List.mem_append_left _ hold)
    · cases returned with
      | nil => cases hnew
      | cons encoded rest =>
        obtain rfl := List.mem_singleton.mp hnew
        exact h.codec

theorem labelInv_step {negotiated : VideoCodecType} {s s' : State} {e : Event}
    (h : LabelInv negotiated s) (hstep : step negotiated s e = some s')
    (hagreed : Agreed negotiated s e) : LabelInv negotiated s' := by
  cases step_moves hstep with
  | quiet hquiet =>
    refine ⟨hquiet.keeps.consistent h.consistent, receives_quiet ?_ h.receives hquiet, ?_, ?_⟩
    · rintro rx old new ⟨hcodec, hencoded, -, -⟩ ⟨hsingle, hold, hunderway⟩
      refine ⟨?_, hcodec.trans hold, ?_⟩
      · simpa only [Receiver.Single, hencoded] using hsingle
      · simpa only [Receiver.underway, hencoded] using hunderway
    · rw [hquiet.adapter]
      exact h.adapter
    · unfold Labelled
      rw [hquiet.sent]
      exact h.sent
  | @encode p ptsMs returned pipeline hp hencoded hsending =>
    refine ⟨WebRtcStreamer.consistent_update h.consistent fun _ _ _ =>
      SharedVideoPipeline.consistent_encodeNext _ _ _ _, receives_update h.receives ?_,
      h.adapter, h.sent⟩
    rintro rx pipeline' hrx rfl - hold
    exact ofCodec_encodeNext hold (sending_eq hrx ▸ hsending) ptsMs returned
  | @broadcast p pipeline frame rx hp hencoded hrx hp' =>
    subst hp'
    refine ⟨WebRtcStreamer.consistent_update h.consistent fun _ _ _ =>
      SharedVideoPipeline.consistent_of_none rfl, ?_, h.adapter, h.sent⟩
    rintro rx' ⟨⟩
    obtain ⟨pipeline', hp', hsingle, hcodec, hunderway⟩ := h.receives rx hrx
    obtain rfl : pipeline = pipeline' := Option.some.inj (hp.symm.trans hp')
    refine ⟨{ pipeline with encoded := none }, by simp [WebRtcStreamer.update_get, hp],
      .inr rfl, hcodec, ?_⟩
    rw [underway_broadcast hsingle hencoded]
    exact hunderway
  | elsewhere hne =>
    refine ⟨WebRtcStreamer.consistent_update h.consistent fun _ _ _ =>
      SharedVideoPipeline.consistent_of_none rfl, receives_update h.receives ?_, h.adapter,
      h.sent⟩
    exact fun rx _ hrx hp => absurd hp (hne rx hrx)
  | @deliver rx frame hrx hsending =>
    refine ⟨h.consistent, ?_, h.adapter, h.sent⟩
    rintro rx' ⟨⟩
    obtain ⟨pipeline, hp, -, hcodec, hunderway⟩ := h.receives rx hrx
    refine ⟨pipeline, hp, .inl rfl, hcodec, ?_⟩
    rw [underway_deliver hsending]
    exact hunderway
  | @subscribe p pipeline hphase hp =>
    refine ⟨h.consistent, ?_, h.adapter, h.sent⟩
    rintro rx' ⟨⟩
    have hcodec : pipeline.codec = negotiated := by
      simpa [Agreed, State.obtainedCodec, hphase, hp] using hagreed
    refine ⟨pipeline, hp, .inl rfl, hcodec, fun f hf => ?_⟩
    have hf : f ∈ pipeline.encoded := by simpa [Receiver.underway] using hf
    rw [(h.consistent p pipeline hp).codec f hf, hcodec]
  | @take rx frame rest accepted hrx hchannel =>
    obtain ⟨pipeline, hp, hsingle, hcodec, hunderway⟩ := h.receives rx hrx
    rw [underway_take hchannel] at hunderway
    have htakes := takeFrame_takes s rx frame rest accepted
    refine ⟨htakes.streamer ▸ h.consistent, ?_, htakes.adapter.trans h.adapter, ?_⟩
    · intro rx' hrx'
      obtain rfl := htakes.phase rx' hrx'
      rw [htakes.streamer]
      exact ⟨pipeline, hp, hsingle, hcodec, fun f hf => hunderway f (List.mem_cons_of_mem _ hf)⟩
    · intro m hm
      rcases htakes.outcome with ⟨hsent, -⟩ | ⟨message, hsent, hlabel, -⟩
      · exact h.sent m (hsent ▸ hm)
      · rw [hsent] at hm
        rcases List.mem_append.mp hm with hm | hm
        · exact h.sent m hm
        · obtain rfl := List.mem_singleton.mp hm
          rw [hlabel, h.adapter, hunderway frame List.mem_cons_self]

/-- **Codec labels.** In every run in which the loop subscribes to pipelines of the
negotiated codec only, every message names the codec of its bytes. -/
theorem labels_follow_codec (negotiated : VideoCodecType) {s : State}
    (hrun : ((system negotiated).restrict (Agreed negotiated)).Reachable s) : Labelled s := by
  have hinv : LabelInv negotiated s := by
    refine TSys.invariant (I := LabelInv negotiated) ?_ ?_ hrun
    · rintro s ⟨codec, rfl⟩
      refine ⟨fun p pipeline hp => ?_, fun rx hrx => ?_, rfl, ?_⟩
      · simp at hp
      · cases hrx
      · simp [Labelled]
    · exact fun s e s' hs ⟨hstep, hagreed⟩ => labelInv_step hs hstep hagreed
  exact hinv.sent

instance (negotiated : VideoCodecType) (s : State) : (e : Event) →
    Decidable (Agreed negotiated s e)
  | .subscribe => inferInstanceAs (Decidable (_ = _))
  | .requestKeyframe | .stop _ | .clear | .ensure _ | .call _ | .advance _ _ _ | .drop _
  | .encode _ _ _ | .broadcast _ | .deliver | .set _ _ | .obtain _ | .take _ | .closed
  | .finish => inferInstanceAs (Decidable True)

def h264Start : State where
  streamer := {}
  adapter := { codec := .h264 }

theorem h264Start_init : Init .h264 h264Start := ⟨.h264, rfl⟩

/-- The loop sets its codec and subscribes to the first pipeline. -/
def subscribeFirst : List Event :=
  [.set true false, .set true false, .obtain false, .subscribe]

/-- A frame of pipeline `p` goes to the client. -/
def forward (p : Nat) (key : Int32) : List Event :=
  [.encode p 0 [{ data := [], key }], .broadcast p, .deliver, .take true]

theorem forwarded_labelled : ∃ s : State, s.sent.length = 2 ∧ Labelled s := by
  have hrun : ((subscribeFirst ++ forward 0 1 ++ forward 0 0).foldlM (fun s e =>
      if Agreed .h264 s e then step .h264 s e else none) h264Start).any
        (fun s => s.sent.length == 2) := by decide
  obtain ⟨s, hs, hsent⟩ := Option.any_eq_true _ _ |>.mp hrun
  exact ⟨s, beq_iff_eq.mp hsent, labels_follow_codec .h264
    (TSys.ofFn_restrict_reachable (.init h264Start_init) hs)⟩

/-- Someone else's `set_video_codec`, while the loop streams from pipeline 0, and the
loop's new subscription. -/
def switchCodec (codec : VideoCodecType) : List Event :=
  [.call codec, .advance 0 true false, .advance 0 true false, .advance 0 true false,
    .advance 0 true false, .advance 0 true false, .drop 0, .closed, .obtain false, .subscribe]

/-- **H.265 as H.264.** After another client has switched the codec, the loop labels the
frames of the new pipeline with its own codec. -/
theorem h265_as_h264 :
    ¬ ∀ (negotiated : VideoCodecType) (s : State), (system negotiated).Reachable s →
      Labelled s := by
  intro halways
  have hrun : ((subscribeFirst ++ forward 0 1 ++ switchCodec .h265 ++ forward 1 1).foldlM
      (step .h264) h264Start).any
        (fun s => s.sent.any fun m => m.1.codec == .h264 && m.2.codec == .h265) := by decide
  obtain ⟨s, hs, hsent⟩ := Option.any_eq_true _ _ |>.mp hrun
  obtain ⟨m, hm, hcodecs⟩ := List.any_eq_true.mp hsent
  have hlabel := halways .h264 s (TSys.ofFn_reachable (.init h264Start_init) hs) m hm
  simp only [Bool.and_eq_true, beq_iff_eq] at hcodecs
  rw [hcodecs.1, hcodecs.2] at hlabel
  cases hlabel

/-! ## Decodability -/

/-- Every delta frame sent has the frame before it among those sent before it. -/
def Decodable (s : State) : Prop :=
  ∀ before f after, s.sent.map (·.2) = before ++ f :: after → f.isKeyframe = false →
    ∃ g ∈ before, g.Precedes f

def State.receiver (s : State) : Option Receiver :=
  match s.phase with
  | .receiving rx => some rx
  | _ => none

/-- No delta frame comes first after packets the pipeline lost, and none comes first in
a subscription, without a gap in the numbers, while the loop does not wait for a key
frame. -/
def Seamless (s : State) : Event → Prop
  | .encode p _ returned => ∀ pipeline ∈ s.streamer.pipelines[p]?, ∀ first ∈ returned.head?,
      pipeline.lost = 0 ∨ first.key = 1
  | .take _ => ∀ rx ∈ s.receiver, rx.taken = none → s.waitingForKeyframe = false →
      ∀ f ∈ rx.channel.head?, f.isKeyframe = true ∨ s.gapDetected f = true
  | _ => True

/-- `f` comes after `g`, with nothing lost in between unless it is a key frame. -/
def Follows (g f : EncodedVideoFrame) : Prop :=
  f.pipeline = g.pipeline ∧ (f.isKeyframe = true ∨ f.packet = g.packet + 1)

/-- The last frame taken and those on their way are one stretch of the pipeline, up to
the last packet but those lost since. -/
structure Contiguous (rx : Receiver) (pipeline : SharedVideoPipeline) : Prop where
  single : rx.Single pipeline
  chain : (rx.taken.toList ++ rx.underway pipeline).IsChain Follows
  last : ∀ f ∈ (rx.taken.toList ++ rx.underway pipeline).getLast?,
    f.pipeline = rx.pipeline ∧ f.packet + 1 + pipeline.lost = pipeline.packets

structure FrameInv (s : State) : Prop where
  consistent : s.streamer.Consistent
  receives : Receives Contiguous s
  /-- The last frame taken was sent, or the loop waits for a key frame. -/
  forwarded : ∀ rx, s.phase = .receiving rx → ∀ g ∈ rx.taken,
    s.waitingForKeyframe = true ∨ g ∈ s.sent.map (·.2)
  sent : Decodable s

theorem decodable_append {s s' : State} {message : VideoFrame} {frame : EncodedVideoFrame}
    (h : Decodable s) (hsent : s'.sent = s.sent ++ [(message, frame)])
    (hframe : frame.isKeyframe = true ∨ ∃ g ∈ s.sent.map (·.2), g.Precedes frame) :
    Decodable s' := by
  intro before f after hsplit hdelta
  rw [hsent, List.map_append] at hsplit
  rcases List.eq_nil_or_concat after with rfl | ⟨after, last, rfl⟩
  · obtain ⟨rfl, hlast⟩ := List.append_inj' hsplit rfl
    obtain rfl : frame = f := by simpa using hlast
    rcases hframe with hkey | hpred
    · rw [hkey] at hdelta
      cases hdelta
    · exact hpred
  · rw [List.concat_eq_append, ← List.cons_append, ← List.append_assoc] at hsplit
    obtain ⟨hinit, -⟩ := List.append_inj' hsplit rfl
    exact h before f after hinit hdelta

theorem contiguous_encodeNext {rx : Receiver} {pipeline : SharedVideoPipeline}
    (h : Contiguous rx pipeline) (hencoded : pipeline.encoded = none)
    (hsending : rx.sending = none) (ptsMs : Int64) {returned : List Packet}
    (hseamless : ∀ first ∈ returned.head?, pipeline.lost = 0 ∨ first.key = 1) :
    Contiguous rx (pipeline.encodeNext rx.pipeline ptsMs returned) := by
  obtain ⟨hsingle, hchain, hlast⟩ := h
  refine ⟨.inl hsending, ?_, ?_⟩ <;>
    simp only [Receiver.underway, hsending, hencoded, Option.toList_none, List.append_nil]
      at hchain hlast
  · cases returned with
    | nil =>
      simpa [Receiver.underway, hsending, SharedVideoPipeline.encodeNext,
        SharedVideoPipeline.encodeFrameSync] using hchain
    | cons encoded rest =>
      simp only [Receiver.underway, hsending, SharedVideoPipeline.encodeNext,
        SharedVideoPipeline.encodeFrameSync, Option.toList_none, List.append_nil,
        Option.toList_some, ← List.append_assoc]
      refine List.isChain_append.mpr ⟨hchain, List.isChain_singleton _, ?_⟩
      rintro g hg f ⟨⟩
      obtain ⟨hpipeline, hpacket⟩ := hlast g hg
      refine ⟨hpipeline.symm, ?_⟩
      rcases hseamless encoded rfl with hlost | hkey
      · right
        show pipeline.packets = g.packet + 1
        omega
      · left
        show (encoded.key == 1) = true
        simp [hkey]
  · cases returned with
    | nil =>
      simpa [Receiver.underway, hsending, SharedVideoPipeline.encodeNext,
        SharedVideoPipeline.encodeFrameSync] using hlast
    | cons encoded rest =>
      simp only [Receiver.underway, hsending, SharedVideoPipeline.encodeNext,
        SharedVideoPipeline.encodeFrameSync, Option.toList_none, List.append_nil,
        Option.toList_some, ← List.append_assoc, List.getLast?_concat]
      rintro f ⟨⟩
      exact ⟨rfl, rfl⟩

/-- The frame the loop sends next, after the one it took last. -/
theorem precedes_of_contiguous {rx : Receiver} {pipeline : SharedVideoPipeline}
    {g frame : EncodedVideoFrame} {rest : List EncodedVideoFrame} (h : Contiguous rx pipeline)
    (htaken : rx.taken = some g) (hchannel : rx.channel = frame :: rest)
    (hdelta : frame.isKeyframe = false) : g.Precedes frame := by
  have hchain := h.chain
  rw [htaken, underway_take hchannel] at hchain
  obtain ⟨hpipeline, hkey | hpacket⟩ := (List.isChain_cons_cons.mp hchain).1
  · rw [hdelta] at hkey
    cases hkey
  · exact ⟨hpipeline, hpacket⟩

theorem contiguous_take {rx : Receiver} {pipeline : SharedVideoPipeline}
    {frame : EncodedVideoFrame} {rest : List EncodedVideoFrame} (h : Contiguous rx pipeline)
    (hchannel : rx.channel = frame :: rest) :
    Contiguous { rx with channel := rest, taken := some frame } pipeline := by
  obtain ⟨hsingle, hchain, hlast⟩ := h
  rw [underway_take hchannel] at hchain hlast
  refine ⟨hsingle, (List.isChain_append.mp hchain).2.1, ?_⟩
  rw [List.getLast?_append_of_ne_nil _ (List.cons_ne_nil _ _)] at hlast
  exact hlast

/-- The frame taken goes to the client only as a key frame or after the one before it. -/
theorem frameInv_take {s s' : State} {rx : Receiver} {frame : EncodedVideoFrame}
    {rest : List EncodedVideoFrame} (h : FrameInv s) (hrx : s.phase = .receiving rx)
    (hchannel : rx.channel = frame :: rest) (htakes : Takes s s' rx frame rest)
    (hseamless : rx.taken = none → s.waitingForKeyframe = false →
      frame.isKeyframe = true ∨ s.gapDetected frame = true) : FrameInv s' := by
  obtain ⟨pipeline, hp, hcontiguous⟩ := h.receives rx hrx
  refine ⟨htakes.streamer ▸ h.consistent, ?_, ?_, ?_⟩
  · intro rx' hrx'
    obtain rfl := htakes.phase rx' hrx'
    rw [htakes.streamer]
    exact ⟨pipeline, hp, contiguous_take hcontiguous hchannel⟩
  · intro rx' hrx' g hg
    obtain rfl := htakes.phase rx' hrx'
    obtain rfl : frame = g := Option.some.inj hg
    rcases htakes.outcome with ⟨-, hwaiting | hended⟩ | ⟨message, hsent, -, -⟩
    · exact .inl hwaiting
    · rw [hended] at hrx'
      cases hrx'
    · right
      simp [hsent]
  · rcases htakes.outcome with ⟨hsent, -⟩ | ⟨message, hsent, -, hframe⟩
    · unfold Decodable
      rw [hsent]
      exact h.sent
    · refine decodable_append h.sent hsent ?_
      rcases hframe with hkey | ⟨hwaiting, hgap⟩
      · exact .inl hkey
      · cases hkey : frame.isKeyframe with
        | true => exact .inl rfl
        | false =>
          cases htaken : rx.taken with
          | none =>
            rcases hseamless htaken hwaiting with hkey' | hgap'
            · simp [hkey] at hkey'
            · simp [hgap] at hgap'
          | some g =>
            right
            rcases h.forwarded rx hrx g htaken with hwaiting' | hsent
            · simp [hwaiting] at hwaiting'
            · exact ⟨g, hsent, precedes_of_contiguous hcontiguous htaken hchannel hkey⟩

theorem frameInv_step {negotiated : VideoCodecType} {s s' : State} {e : Event}
    (h : FrameInv s) (hstep : step negotiated s e = some s') (hseamless : Seamless s e) :
    FrameInv s' := by
  cases step_moves hstep with
  | quiet hquiet =>
    refine ⟨hquiet.keeps.consistent h.consistent, receives_quiet ?_ h.receives hquiet, ?_, ?_⟩
    · rintro rx old new ⟨-, hencoded, hpackets, hlost⟩ ⟨hsingle, hchain, hlast⟩
      refine ⟨?_, ?_, ?_⟩
      · simpa only [Receiver.Single, hencoded] using hsingle
      · simpa only [Receiver.underway, hencoded] using hchain
      · simpa only [Receiver.underway, hencoded, hpackets, hlost] using hlast
    · intro rx hrx
      rw [hquiet.waiting, hquiet.sent]
      exact h.forwarded rx (hquiet.phase rx hrx)
    · unfold Decodable
      rw [hquiet.sent]
      exact h.sent
  | @encode p ptsMs returned pipeline hp hencoded hsending =>
    refine ⟨WebRtcStreamer.consistent_update h.consistent fun _ _ _ =>
      SharedVideoPipeline.consistent_encodeNext _ _ _ _, receives_update h.receives ?_,
      h.forwarded, h.sent⟩
    rintro rx pipeline' hrx rfl hp' hold
    obtain rfl : pipeline = pipeline' := Option.some.inj (hp.symm.trans hp')
    exact contiguous_encodeNext hold hencoded (sending_eq hrx ▸ hsending) ptsMs
      (hseamless pipeline hp)
  | @broadcast p pipeline frame rx hp hencoded hrx hp' =>
    subst hp'
    refine ⟨WebRtcStreamer.consistent_update h.consistent fun _ _ _ =>
      SharedVideoPipeline.consistent_of_none rfl, ?_, ?_, h.sent⟩
    · rintro rx' ⟨⟩
      obtain ⟨pipeline', hp', hsingle, hchain, hlast⟩ := h.receives rx hrx
      obtain rfl : pipeline = pipeline' := Option.some.inj (hp.symm.trans hp')
      rw [← underway_broadcast hsingle hencoded] at hchain hlast
      exact ⟨{ pipeline with encoded := none }, by simp [WebRtcStreamer.update_get, hp],
        .inr rfl, hchain, hlast⟩
    · rintro rx' ⟨⟩
      exact h.forwarded rx hrx
  | elsewhere hne =>
    refine ⟨WebRtcStreamer.consistent_update h.consistent fun _ _ _ =>
      SharedVideoPipeline.consistent_of_none rfl, receives_update h.receives ?_, h.forwarded,
      h.sent⟩
    exact fun rx _ hrx hp => absurd hp (hne rx hrx)
  | @deliver rx frame hrx hsending =>
    refine ⟨h.consistent, ?_, ?_, h.sent⟩
    · rintro rx' ⟨⟩
      obtain ⟨pipeline, hp, -, hchain, hlast⟩ := h.receives rx hrx
      rw [← underway_deliver hsending] at hchain hlast
      exact ⟨pipeline, hp, .inl rfl, hchain, hlast⟩
    · rintro rx' ⟨⟩
      exact h.forwarded rx hrx
  | @subscribe p pipeline hphase hp =>
    refine ⟨h.consistent, ?_, ?_, h.sent⟩
    · rintro rx' ⟨⟩
      refine ⟨pipeline, hp, .inl rfl, ?_, ?_⟩
      · cases hencoded : pipeline.encoded <;> simp [Receiver.underway, hencoded]
      · intro f hf
        have hf : f ∈ pipeline.encoded := by
          cases hencoded : pipeline.encoded with
          | none => simp [Receiver.underway, hencoded] at hf
          | some frame => simpa [Receiver.underway, hencoded] using hf
        obtain ⟨hpipeline, -, hpacket⟩ := h.consistent p pipeline hp
        exact ⟨hpipeline f hf, hpacket f hf⟩
    · rintro rx' ⟨⟩ g ⟨⟩
  | @take rx frame rest accepted hrx hchannel =>
    refine frameInv_take h hrx hchannel (takeFrame_takes s rx frame rest accepted) ?_
    intro htaken hwaiting
    have hreceiver : rx ∈ s.receiver := by simp [State.receiver, hrx]
    exact hseamless rx hreceiver htaken hwaiting frame (by simp [hchannel])

/-- **Decodability.** Every delta frame sent has the frame before it among those sent
before it, in every run in which no delta frame comes first after lost packets, and none
comes first in a subscription without a gap in the numbers while the loop does not wait
for a key frame. -/
theorem sent_decodable (negotiated : VideoCodecType) {s : State}
    (hrun : ((system negotiated).restrict Seamless).Reachable s) : Decodable s := by
  have hinv : FrameInv s := by
    refine TSys.invariant (I := FrameInv) ?_ ?_ hrun
    · rintro s ⟨codec, rfl⟩
      refine ⟨fun p pipeline hp => ?_, fun rx hrx => ?_, fun rx hrx => ?_, ?_⟩
      · simp at hp
      · cases hrx
      · cases hrx
      · intro before f after hsplit
        simp at hsplit
    · exact fun s e s' hs ⟨hstep, hseamless⟩ => frameInv_step hs hstep hseamless
  exact hinv.sent

instance (s : State) : (e : Event) → Decidable (Seamless s e)
  | .encode _ _ _ => inferInstanceAs (Decidable (∀ pipeline ∈ _, _))
  | .take _ => inferInstanceAs (Decidable (∀ rx ∈ _, _))
  | .requestKeyframe | .stop _ | .clear | .ensure _ | .call _ | .advance _ _ _ | .drop _
  | .broadcast _ | .deliver | .set _ _ | .obtain _ | .subscribe | .closed | .finish =>
      inferInstanceAs (Decidable True)

theorem forwarded_decodable : ∃ s : State, s.sent.map (·.2.isKeyframe) = [true, false] ∧
    Decodable s := by
  have hrun : ((subscribeFirst ++ forward 0 1 ++ forward 0 0).foldlM (fun s e =>
      if Seamless s e then step .h264 s e else none) h264Start).any
        (fun s => s.sent.map (·.2.isKeyframe) == [true, false]) := by decide
  obtain ⟨s, hs, hsent⟩ := Option.any_eq_true _ _ |>.mp hrun
  exact ⟨s, beq_iff_eq.mp hsent, sent_decodable .h264
    (TSys.ofFn_restrict_reachable (.init h264Start_init) hs)⟩

/-- The pipeline is replaced, and the new one has encoded its key frame for another
consumer by the time the loop subscribes. -/
def replacePipeline : List Event :=
  [.stop 0, .clear, .drop 0, .ensure false, .encode 1 0 [{ data := [], key := 1 }],
    .broadcast 1, .closed, .obtain false, .subscribe]

def oldKeyFrame : EncodedVideoFrame where
  data := []
  ptsMs := 0
  isKeyframe := true
  sequence := 1
  codec := .h264
  pipeline := 0
  packet := 0

/-- The second frame of the new pipeline. -/
def newDeltaFrame : EncodedVideoFrame where
  data := []
  ptsMs := 0
  isKeyframe := false
  sequence := 2
  codec := .h264
  pipeline := 1
  packet := 1

/-- **A delta frame after resubscribing.** The loop sends the first frame of its new
subscription, a delta frame, when the number of that frame does not show a gap. -/
theorem delta_after_resubscribing :
    ¬ ∀ (negotiated : VideoCodecType) (s : State), (system negotiated).Reachable s →
      Decodable s := by
  intro halways
  have hrun : ((subscribeFirst ++ forward 0 1 ++ replacePipeline ++ forward 1 0).foldlM
      (step .h264) h264Start).any (fun s => s.sent.map (·.2) == [oldKeyFrame, newDeltaFrame]) := by
    decide
  obtain ⟨s, hs, hsent⟩ := Option.any_eq_true _ _ |>.mp hrun
  obtain ⟨g, hg, hprecedes⟩ := halways .h264 s (TSys.ofFn_reachable (.init h264Start_init) hs)
    [oldKeyFrame] newDeltaFrame [] (beq_iff_eq.mp hsent) rfl
  obtain rfl := List.mem_singleton.mp hg
  exact absurd hprecedes (by decide)

end VideoStreaming
end StreamBox.RustDesk
