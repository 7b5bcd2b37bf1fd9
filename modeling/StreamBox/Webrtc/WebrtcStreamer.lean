import StreamBox.Video.SharedVideoPipeline

/-!
# The streamer's pipeline slot

`WebRtcStreamer` holds the codec and the pipeline every consumer shares. Its calls take
the locks of the two one after the other, so that other callers may come in between:
`SetVideoCodec` is the place a `set_video_codec` call has reached.
-/

namespace StreamBox.Webrtc

open StreamBox.Video

structure WebRtcStreamer where
  videoCodec : VideoCodecType := .h264
  videoPipeline : Option Nat := none
  /-- Every pipeline ever created, in order. -/
  pipelines : List SharedVideoPipeline := []
  deriving DecidableEq, Repr

/-- Where a `set_video_codec` call is. -/
inductive SetVideoCodec
  | compare | stop | clear | write | ensure | done
  deriving DecidableEq, Repr

namespace WebRtcStreamer

/-- A change of pipeline `p` in place. -/
def update (s : WebRtcStreamer) (p : Nat) (f : SharedVideoPipeline → SharedVideoPipeline) :
    WebRtcStreamer :=
  { s with pipelines := s.pipelines.modify p f }

/-- The stored pipeline when it runs. -/
def running (s : WebRtcStreamer) : Option Nat :=
  s.videoPipeline.filter fun p => s.pipelines[p]?.any (·.running)

/-- `ensure_video_pipeline`, under the slot's lock: the stored pipeline when it runs,
else a new one of the current codec, unless its creation fails. -/
def ensureVideoPipeline (s : WebRtcStreamer) (fails : Bool) : WebRtcStreamer × Option Nat :=
  match s.running with
  | some p => (s, some p)
  | none =>
    if fails then (s, none)
    else
      let p := s.pipelines.length
      ({ s with
          videoPipeline := some p
          pipelines := s.pipelines ++ [{ codec := s.videoCodec }] },
        some p)

def requestKeyframe (s : WebRtcStreamer) : WebRtcStreamer :=
  match s.videoPipeline with
  | some p => s.update p SharedVideoPipeline.requestKeyframe
  | none => s

/-- One lock scope of `set_video_codec`. Without a capture source no pipeline is
created. -/
def setVideoCodec (s : WebRtcStreamer) (codec : VideoCodecType) (hasCapture fails : Bool) :
    SetVideoCodec → WebRtcStreamer × SetVideoCodec
  | .compare => (s, if s.videoCodec = codec then .done else .stop)
  | .stop =>
    (match s.videoPipeline with
      | some p => s.update p SharedVideoPipeline.stop
      | none => s, .clear)
  | .clear => ({ s with videoPipeline := none }, .write)
  | .write => ({ s with videoCodec := codec }, .ensure)
  | .ensure => (if hasCapture then (s.ensureVideoPipeline fails).1 else s, .done)
  | .done => (s, .done)

/-! ## What the calls change -/

/-- `new` is `old` up to its running flag, its key frame request and its references. -/
structure SameFrames (old new : SharedVideoPipeline) : Prop where
  codec : new.codec = old.codec
  encoded : new.encoded = old.encoded
  packets : new.packets = old.packets
  lost : new.lost = old.lost

/-- Every pipeline of `s` is one of `t` with the same frames, and the others of `t` have
none. -/
structure Keeps (s t : WebRtcStreamer) : Prop where
  old : ∀ (p : Nat) pipeline, s.pipelines[p]? = some pipeline →
    ∃ pipeline', t.pipelines[p]? = some pipeline' ∧ SameFrames pipeline pipeline'
  new : ∀ (p : Nat) pipeline', t.pipelines[p]? = some pipeline' → pipeline'.encoded = none ∨
    ∃ pipeline, s.pipelines[p]? = some pipeline ∧ SameFrames pipeline pipeline'

theorem update_get (s : WebRtcStreamer) (p q : Nat)
    (f : SharedVideoPipeline → SharedVideoPipeline) :
    (s.update p f).pipelines[q]? =
      if p = q then s.pipelines[q]?.map f else s.pipelines[q]? := by
  simp only [update, List.getElem?_modify]
  split <;> simp

theorem keeps_of_pipelines {s t : WebRtcStreamer} (h : t.pipelines = s.pipelines) :
    s.Keeps t := by
  refine ⟨fun p pipeline hp => ⟨pipeline, h ▸ hp, rfl, rfl, rfl, rfl⟩, ?_⟩
  exact fun p pipeline hp => .inr ⟨pipeline, h ▸ hp, rfl, rfl, rfl, rfl⟩

theorem keeps_update (s : WebRtcStreamer) (p : Nat)
    {f : SharedVideoPipeline → SharedVideoPipeline}
    (hf : ∀ pipeline, SameFrames pipeline (f pipeline)) : s.Keeps (s.update p f) := by
  refine ⟨fun q pipeline hq => ?_, fun q pipeline' hq => .inr ?_⟩
  · rw [update_get, hq]
    split
    · exact ⟨f pipeline, rfl, hf pipeline⟩
    · exact ⟨pipeline, rfl, rfl, rfl, rfl, rfl⟩
  · rw [update_get] at hq
    split at hq
    · obtain ⟨pipeline, hp, rfl⟩ := Option.map_eq_some_iff.mp hq
      exact ⟨pipeline, hp, hf pipeline⟩
    · exact ⟨pipeline', hq, rfl, rfl, rfl, rfl⟩

theorem keeps_ensure (s : WebRtcStreamer) (fails : Bool) :
    s.Keeps (s.ensureVideoPipeline fails).1 := by
  unfold ensureVideoPipeline
  split
  · exact keeps_of_pipelines rfl
  · split
    · exact keeps_of_pipelines rfl
    · refine ⟨fun p pipeline hp => ⟨pipeline, ?_, rfl, rfl, rfl, rfl⟩,
        fun p pipeline' hp => ?_⟩
      · have hlt := (List.getElem?_eq_some_iff.mp hp).1
        rw [← hp]
        exact List.getElem?_append_left hlt
      · rcases Nat.lt_or_ge p s.pipelines.length with hlt | hge
        · refine .inr ⟨pipeline', ?_, rfl, rfl, rfl, rfl⟩
          rw [← hp]
          exact (List.getElem?_append_left hlt).symm
        · have hmem := List.mem_of_getElem? ((List.getElem?_append_right hge).symm.trans hp)
          obtain rfl := List.mem_singleton.mp hmem
          exact .inl rfl

theorem keeps_requestKeyframe (s : WebRtcStreamer) : s.Keeps s.requestKeyframe := by
  unfold requestKeyframe
  split
  · exact keeps_update s _ fun _ => ⟨rfl, rfl, rfl, rfl⟩
  · exact keeps_of_pipelines rfl

theorem keeps_setVideoCodec (s : WebRtcStreamer) (codec : VideoCodecType)
    (hasCapture fails : Bool) (pc : SetVideoCodec) :
    s.Keeps (s.setVideoCodec codec hasCapture fails pc).1 := by
  cases pc with
  | compare | clear | write | done => exact keeps_of_pipelines rfl
  | stop =>
    simp only [setVideoCodec]
    split
    · exact keeps_update s _ fun _ => ⟨rfl, rfl, rfl, rfl⟩
    · exact keeps_of_pipelines rfl
  | ensure =>
    simp only [setVideoCodec]
    split
    · exact keeps_ensure s fails
    · exact keeps_of_pipelines rfl

/-- The pipelines of a streamer have consistent frames. -/
def Consistent (s : WebRtcStreamer) : Prop :=
  ∀ (p : Nat) pipeline, s.pipelines[p]? = some pipeline → pipeline.Consistent p

theorem Keeps.consistent {s t : WebRtcStreamer} (h : s.Keeps t) (hs : s.Consistent) :
    t.Consistent := by
  intro p pipeline' hp
  rcases h.new p pipeline' hp with hnone | ⟨pipeline, hp', hsame⟩
  · exact SharedVideoPipeline.consistent_of_none hnone
  · obtain ⟨hpipeline, hcodec, hpacket⟩ := hs p pipeline hp'
    refine ⟨hsame.encoded ▸ hpipeline, ?_, ?_⟩
    · rw [hsame.encoded, hsame.codec]
      exact hcodec
    · rw [hsame.encoded, hsame.lost, hsame.packets]
      exact hpacket

theorem consistent_update {s : WebRtcStreamer} (hs : s.Consistent) {p : Nat}
    {f : SharedVideoPipeline → SharedVideoPipeline}
    (hf : ∀ pipeline, s.pipelines[p]? = some pipeline → pipeline.Consistent p →
      (f pipeline).Consistent p) : (s.update p f).Consistent := by
  intro q pipeline' hq
  rw [update_get] at hq
  split at hq
  · rename_i hpq
    obtain ⟨pipeline, hp, rfl⟩ := Option.map_eq_some_iff.mp hq
    subst hpq
    exact hf pipeline hp (hs p pipeline hp)
  · exact hs q pipeline' hq

end WebRtcStreamer

end StreamBox.Webrtc
