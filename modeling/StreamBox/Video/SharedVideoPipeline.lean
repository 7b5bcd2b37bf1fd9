import Mathlib.Data.List.Basic
import StreamBox.Video.CodecConstraints

/-!
# The shared video pipeline

A pipeline's encode loop as its subscribers see it. The encoder itself is outside the
model: `encode_raw` returns any packets. `encode_frame_sync` makes a frame of the first
of them and numbers it; the others are lost (`SharedVideoPipeline.lost`).
-/

namespace StreamBox.Video

/-- A packet that `encode_raw` returns. -/
structure Packet where
  data : List UInt8
  key : Int32
  deriving DecidableEq, Repr

structure EncodedVideoFrame where
  data : List UInt8
  ptsMs : Int64
  isKeyframe : Bool
  sequence : UInt64
  codec : VideoCodecType
  /-- The pipeline that encoded it. -/
  pipeline : Nat
  /-- Its number among the packets that pipeline's encoder has returned. -/
  packet : Nat
  deriving DecidableEq, Repr

/-- `g` is the frame before `f` in its pipeline. -/
def EncodedVideoFrame.Precedes (g f : EncodedVideoFrame) : Prop :=
  f.pipeline = g.pipeline ∧ f.packet = g.packet + 1

instance (g f : EncodedVideoFrame) : Decidable (g.Precedes f) :=
  inferInstanceAs (Decidable (_ ∧ _))

structure SharedVideoPipeline where
  codec : VideoCodecType
  running : Bool := true
  keyframeRequested : Bool := false
  sequence : UInt64 := 0
  /-- The frame of the encode loop, its subscribers not yet read. -/
  encoded : Option EncodedVideoFrame := none
  /-- The last reference to the pipeline is gone, and with it its subscribers. -/
  dropped : Bool := false
  /-- The packets the encoder has returned. -/
  packets : Nat := 0
  /-- The packets it has returned since the one of the last frame. -/
  lost : Nat := 0
  deriving DecidableEq, Repr

namespace SharedVideoPipeline

def requestKeyframe (p : SharedVideoPipeline) : SharedVideoPipeline :=
  { p with keyframeRequested := true }

def stop (p : SharedVideoPipeline) : SharedVideoPipeline :=
  { p with running := false }

/-- `encode_frame_sync` of pipeline `id`, its encoder returning `returned`; an encoder
that fails returns nothing. -/
def encodeFrameSync (p : SharedVideoPipeline) (id : Nat) (ptsMs : Int64) :
    List Packet → SharedVideoPipeline × Option EncodedVideoFrame
  | [] => ({ p with keyframeRequested := false }, none)
  | encoded :: rest =>
    let sequence := p.sequence + 1
    ({ p with
        keyframeRequested := false
        sequence
        packets := p.packets + 1 + rest.length
        lost := rest.length },
      some {
        data := encoded.data
        ptsMs
        isKeyframe := encoded.key == 1
        sequence
        codec := p.codec
        pipeline := id
        packet := p.packets })

/-- A pass of the encode loop up to `broadcast_encoded`. -/
def encodeNext (p : SharedVideoPipeline) (id : Nat) (ptsMs : Int64) (returned : List Packet) :
    SharedVideoPipeline :=
  let (p, frame) := p.encodeFrameSync id ptsMs returned
  { p with encoded := frame }

/-- The frame that waits for its subscribers is one of pipeline `id`, and the last
packet but those lost since. -/
structure Consistent (p : SharedVideoPipeline) (id : Nat) : Prop where
  pipeline : ∀ f ∈ p.encoded, f.pipeline = id
  codec : ∀ f ∈ p.encoded, f.codec = p.codec
  packet : ∀ f ∈ p.encoded, f.packet + 1 + p.lost = p.packets

theorem consistent_of_none {p : SharedVideoPipeline} {id : Nat} (h : p.encoded = none) :
    p.Consistent id :=
  ⟨by simp [h], by simp [h], by simp [h]⟩

theorem consistent_encodeNext (p : SharedVideoPipeline) (id : Nat) (ptsMs : Int64)
    (returned : List Packet) : (p.encodeNext id ptsMs returned).Consistent id := by
  cases returned with
  | nil => exact consistent_of_none rfl
  | cons encoded rest =>
    refine ⟨?_, ?_, ?_⟩ <;> rintro f ⟨⟩
    · rfl
    · rfl
    · rfl

end SharedVideoPipeline

end StreamBox.Video
