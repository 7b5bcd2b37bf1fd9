import StreamBox.Config.Schema

/-!
# Codec constraints

Which codecs the shared video pipeline may be switched to.
-/

namespace StreamBox.Video

open StreamBox.Config

/-- The codecs of the pipeline; the encoder registry names the same four. -/
inductive VideoCodecType
  | h264 | h265 | vp8 | vp9
  deriving DecidableEq, Repr

namespace VideoCodecType

def toId : VideoCodecType → String
  | h264 => "h264"
  | h265 => "h265"
  | vp8 => "vp8"
  | vp9 => "vp9"

/-- As `Debug` prints it. -/
def debug : VideoCodecType → String
  | h264 => "H264"
  | h265 => "H265"
  | vp8 => "VP8"
  | vp9 => "VP9"

def ofRtsp : RtspCodec → VideoCodecType
  | .h264 => h264
  | .h265 => h265

end VideoCodecType

inductive BitratePreset
  | speed | balanced | quality
  | custom (kbps : UInt32)
  deriving DecidableEq, Repr

structure StreamCodecConstraints where
  rustdeskEnabled : Bool
  rtspEnabled : Bool
  allowedWebrtcCodecs : List VideoCodecType
  allowMjpeg : Bool
  lockedCodec : Option VideoCodecType
  reason : String
  deriving DecidableEq, Repr

namespace StreamCodecConstraints

def unrestricted : StreamCodecConstraints where
  rustdeskEnabled := false
  rtspEnabled := false
  allowedWebrtcCodecs := [.h264, .h265, .vp8, .vp9]
  allowMjpeg := true
  lockedCodec := none
  reason := "No codec lock active"

def ofConfig (config : AppConfig) : StreamCodecConstraints :=
  let rustdeskEnabled := config.rustdesk.enabled
  let rtspEnabled := config.rtsp.enabled
  if rtspEnabled then
    let lockedCodec := VideoCodecType.ofRtsp config.rtsp.codec
    { rustdeskEnabled, rtspEnabled
      allowedWebrtcCodecs := [lockedCodec]
      allowMjpeg := false
      lockedCodec := some lockedCodec
      reason :=
        if rustdeskEnabled then
          "RTSP enabled with codec lock (" ++ lockedCodec.debug ++ ") and RustDesk enabled"
        else "RTSP enabled with codec lock (" ++ lockedCodec.debug ++ ")" }
  else if rustdeskEnabled then
    { rustdeskEnabled, rtspEnabled
      allowedWebrtcCodecs := [.h264, .h265, .vp8, .vp9]
      allowMjpeg := false
      lockedCodec := none
      reason := "RustDesk enabled, MJPEG disabled" }
  else unrestricted

def isMjpegAllowed (c : StreamCodecConstraints) : Bool :=
  c.allowMjpeg

def isWebrtcCodecAllowed (c : StreamCodecConstraints) (codec : VideoCodecType) : Bool :=
  c.allowedWebrtcCodecs.contains codec

def preferredWebrtcCodec (c : StreamCodecConstraints) : VideoCodecType :=
  c.lockedCodec.getD (c.allowedWebrtcCodecs.headD .h264)

@[simp] theorem unrestricted_allowed (codec : VideoCodecType) :
    unrestricted.isWebrtcCodecAllowed codec = true := by
  cases codec <;> rfl

/-- The codec that enforcement switches to is one of the allowed. -/
theorem preferred_allowed (config : AppConfig) :
    (ofConfig config).isWebrtcCodecAllowed (ofConfig config).preferredWebrtcCodec = true := by
  cases hrtsp : config.rtsp.enabled with
  | true => simp [ofConfig, hrtsp, isWebrtcCodecAllowed, preferredWebrtcCodec]
  | false =>
    cases hrustdesk : config.rustdesk.enabled with
    | true => simp [ofConfig, hrtsp, hrustdesk, isWebrtcCodecAllowed, preferredWebrtcCodec]
    | false => simp [ofConfig, hrtsp, hrustdesk]

/-- Where MJPEG is allowed, nothing is restricted. -/
theorem eq_unrestricted_of_mjpeg {config : AppConfig} (h : (ofConfig config).isMjpegAllowed) :
    ofConfig config = unrestricted := by
  cases hrtsp : config.rtsp.enabled with
  | true => simp [ofConfig, hrtsp, isMjpegAllowed] at h
  | false =>
    cases hrustdesk : config.rustdesk.enabled with
    | true => simp [ofConfig, hrtsp, hrustdesk, isMjpegAllowed] at h
    | false => simp [ofConfig, hrtsp, hrustdesk]

end StreamCodecConstraints

end StreamBox.Video
