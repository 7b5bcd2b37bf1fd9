import StreamBox.Video.CodecConstraints
import StreamBox.Webrtc.Rtp

/-!
# RustDesk frame adapters

The video messages of the RustDesk protocol, and the adapter that makes one of each
encoded frame. The union case of a message is the adapter's codec, whatever the bytes
are.
-/

namespace StreamBox.RustDesk

open StreamBox.Video (VideoCodecType)
open StreamBox.Webrtc (extractSpsPps)

inductive VideoCodec
  | h264 | h265 | vp8 | vp9 | av1
  deriving DecidableEq, Repr

/-- The codec of the adapter for a codec of the encoder. -/
def VideoCodec.ofEncoder : VideoCodecType → VideoCodec
  | .h264 => .h264
  | .h265 => .h265
  | .vp8 => .vp8
  | .vp9 => .vp9

/-- An encoded frame as the protocol carries it. -/
structure CarriedFrame where
  data : Bytes
  key : Bool
  pts : Int64
  deriving DecidableEq, Repr

/-- The union of a `VideoFrame` message. -/
inductive VideoFrame
  | h264s (frames : List CarriedFrame)
  | h265s (frames : List CarriedFrame)
  | vp8s (frames : List CarriedFrame)
  | vp9s (frames : List CarriedFrame)
  | av1s (frames : List CarriedFrame)
  deriving DecidableEq, Repr

namespace VideoFrame

/-- The codec its union case stands for. -/
def codec : VideoFrame → VideoCodec
  | h264s _ => .h264
  | h265s _ => .h265
  | vp8s _ => .vp8
  | vp9s _ => .vp9
  | av1s _ => .av1

def ofCodec : VideoCodec → List CarriedFrame → VideoFrame
  | .h264 => h264s
  | .h265 => h265s
  | .vp8 => vp8s
  | .vp9 => vp9s
  | .av1 => av1s

@[simp] theorem codec_ofCodec (c : VideoCodec) (frames : List CarriedFrame) :
    (ofCodec c frames).codec = c := by
  cases c <;> rfl

end VideoFrame

structure VideoFrameAdapter where
  codec : VideoCodec
  seq : UInt32 := 0
  timestampBase : UInt64 := 0
  h264Sps : Option Bytes := none
  h264Pps : Option Bytes := none
  deriving DecidableEq, Repr

namespace VideoFrameAdapter

/-- Caches the parameter sets of the frame, and injects the cached ones before a key
frame that lacks them. -/
def prepareH264Frame (a : VideoFrameAdapter) (data : Bytes) (isKeyframe : Bool) :
    VideoFrameAdapter × Bytes :=
  if a.codec ≠ .h264 then (a, data)
  else
    let (sps, pps) := extractSpsPps data
    let a := { a with h264Sps := sps.or a.h264Sps, h264Pps := pps.or a.h264Pps }
    match isKeyframe && (sps.isNone || pps.isNone), a.h264Sps, a.h264Pps with
    | true, some sps, some pps => (a, [0, 0, 0, 1] ++ sps ++ [0, 0, 0, 1] ++ pps ++ data)
    | _, _, _ => (a, data)

def encodeFrameFromBytes (a : VideoFrameAdapter) (data : Bytes) (isKeyframe : Bool)
    (timestampMs : UInt64) : VideoFrameAdapter × VideoFrame :=
  let (a, data) := a.prepareH264Frame data isKeyframe
  let a := if a.seq = 0 then { a with timestampBase := timestampMs } else a
  let pts := (timestampMs - a.timestampBase).toInt64
  ({ a with seq := a.seq + 1 }, .ofCodec a.codec [{ data, key := isKeyframe, pts }])

@[simp] theorem prepareH264Frame_codec (a : VideoFrameAdapter) (data : Bytes)
    (isKeyframe : Bool) : (a.prepareH264Frame data isKeyframe).1.codec = a.codec := by
  unfold prepareH264Frame
  split
  · rfl
  · dsimp only
    split <;> rfl

@[simp] theorem encodeFrameFromBytes_adapter (a : VideoFrameAdapter) (data : Bytes)
    (isKeyframe : Bool) (timestampMs : UInt64) :
    (a.encodeFrameFromBytes data isKeyframe timestampMs).1.codec = a.codec := by
  simp only [encodeFrameFromBytes]
  split <;> exact prepareH264Frame_codec a data isKeyframe

/-- The union case of a message is the adapter's codec. -/
@[simp] theorem encodeFrameFromBytes_codec (a : VideoFrameAdapter) (data : Bytes)
    (isKeyframe : Bool) (timestampMs : UInt64) :
    (a.encodeFrameFromBytes data isKeyframe timestampMs).2.codec = a.codec := by
  simp only [encodeFrameFromBytes, VideoFrame.codec_ofCodec]
  split <;> exact prepareH264Frame_codec a data isKeyframe

end VideoFrameAdapter

end StreamBox.RustDesk
