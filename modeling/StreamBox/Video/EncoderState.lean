import StreamBox.Video.Format
import StreamBox.Video.Registry

/-!
# The encoder of a pipeline and its input

`build_encoder_state` decides three times in which format the encoder gets its frames:
when it opens the encoder, when it chooses whether frames go there as they are, and when
it chooses a converter. `encode_frame_sync` then follows the last two.

* **Agreement** — `agreement_iff`: for which codec names, input formats and captured
  frames the buffers handed to the encoder are in the format it was opened with.
* **Failure** — `yuyv_to_vp8`: YUYV frames for a VP8 encoder that expects YUV420P.
-/

namespace StreamBox.Video

structure SharedVideoPipelineConfig where
  resolution : Resolution
  inputFormat : PixelFormat
  outputCodec : VideoCodecType
  bitratePreset : BitratePreset
  fps : UInt32
  encoderBackend : Option EncoderBackend
  deriving DecidableEq, Repr

namespace BitratePreset

def bitrateKbps : BitratePreset → UInt32
  | speed => 1000
  | balanced => 4000
  | quality => 8000
  | custom kbps => kbps

def gopSize (fps : UInt32) : BitratePreset → UInt32
  | speed => max (fps / 2) 15
  | balanced => fps
  | quality => fps * 2
  | custom _ => fps

end BitratePreset

/-- The input formats an encoder may be opened with. -/
inductive AVPixelFormat
  | yuv420p | nv12 | nv21 | nv16 | nv24 | yuyv422 | rgb24 | bgr24
  deriving DecidableEq, Repr

/-- The same format in the words of the encoder. -/
def PixelFormat.av : PixelFormat → Option AVPixelFormat
  | yuyv => some .yuyv422
  | yuv420 => some .yuv420p
  | rgb24 => some .rgb24
  | bgr24 => some .bgr24
  | nv12 => some .nv12
  | nv16 => some .nv16
  | nv21 => some .nv21
  | nv24 => some .nv24
  | _ => none

/-- What an encoder is opened with. -/
structure EncodeContext where
  name : String
  resolution : Resolution
  pixfmt : AVPixelFormat
  fps : UInt32
  gop : UInt32
  kbs : UInt32
  deriving DecidableEq, Repr

/-- The libraries on the machine, as far as they can refuse. -/
structure Machine where
  /-- Built for an ARM target. -/
  arm : Bool
  opensEncoder : EncodeContext → Bool
  opensDecoder : Resolution → Bool
  opensHwPipeline : String → Bool

structure Converter where
  src : PixelFormat
  dst : PixelFormat
  resolution : Resolution
  deriving DecidableEq, Repr

structure EncoderThreadState where
  encoder : Option EncodeContext
  mjpegDecoder : Option Resolution := none
  nv12Converter : Option Converter := none
  yuv420pConverter : Option Converter := none
  encoderNeedsYuv420p : Bool := false
  ffmpegHwEnabled : Bool := false
  fps : UInt32
  codec : VideoCodecType
  inputFormat : PixelFormat
  deriving DecidableEq, Repr

namespace EncoderState

/-! ## The encoder -/

/-- The codec's name in error messages. -/
def label : VideoCodecType → String
  | .h264 => "H.264"
  | .h265 => "H.265"
  | .vp8 => "VP8"
  | .vp9 => "VP9"

/-- The message of an encoder that cannot be opened. -/
def createFailed : VideoCodecType → String
  | .h264 => "Failed to create encoder: "
  | .h265 => "Failed to create H.265 encoder: "
  | .vp8 => "Failed to create VP8 encoder: "
  | .vp9 => "Failed to create VP9 encoder: "

/-- `use_rkmpp_direct` names the formats that have a name at the encoder. -/
def rkmppFormat (format : PixelFormat) : Bool :=
  format.av.isSome

/-- The formats that `libx264` takes as they are. -/
def libx264Format : PixelFormat → Bool
  | .nv12 | .nv16 | .nv21 | .yuv420 => true
  | _ => false

def isRkmppAvailable (registry : EncoderRegistry) : Bool :=
  (registry.encoderWithBackend .h264 .rkmpp).isSome

def useYuyvDirect (registry : EncoderRegistry) (config : SharedVideoPipelineConfig) : Bool :=
  isRkmppAvailable registry && !config.inputFormat.isCompressed && config.inputFormat == .yuyv

def useRkmppDirect (registry : EncoderRegistry) (config : SharedVideoPipelineConfig) : Bool :=
  isRkmppAvailable registry && !config.inputFormat.isCompressed &&
    rkmppFormat config.inputFormat

def getCodecName (registry : EncoderRegistry) (format : VideoCodecType)
    (backend : Option EncoderBackend) : Option String :=
  match backend with
  | some b => (registry.encoderWithBackend format b).map (·.codecName)
  | none => (registry.bestAvailableEncoder format).map (·.codecName)

/-- `selected_codec_name` with or without the preference for RKMPP. -/
def selectCodecName (registry : EncoderRegistry) (config : SharedVideoPipelineConfig)
    (codec : VideoCodecType) (rkmpp : Bool) : Except String String :=
  if rkmpp then
    (getCodecName registry codec (some .rkmpp)).elim
      (.error s!"RKMPP backend not available for {label codec}") .ok
  else
    match config.encoderBackend with
    | some backend =>
      (getCodecName registry codec (some backend)).elim
        (.error s!"Backend {backend.debug} does not support {label codec}") .ok
    | none =>
      (getCodecName registry codec none).elim
        (.error s!"No {label codec} encoder available") .ok

/-- The H.264 and H.265 encoders prefer RKMPP for its input formats, the others do not. -/
def selectedCodecName (registry : EncoderRegistry) (config : SharedVideoPipelineConfig) :
    Except String String :=
  match config.outputCodec with
  | .h264 => selectCodecName registry config .h264 (useRkmppDirect registry config)
  | .h265 => selectCodecName registry config .h265 (useRkmppDirect registry config)
  | .vp8 => selectCodecName registry config .vp8 false
  | .vp9 => selectCodecName registry config .vp9 false

def h264DirectInputFormat (codecName : String) (format : PixelFormat) : Option AVPixelFormat :=
  if contains codecName "rkmpp" then format.av
  else if contains codecName "libx264" then
    match format with
    | .nv12 => some .nv12
    | .nv16 => some .nv16
    | .nv21 => some .nv21
    | .yuv420 => some .yuv420p
    | _ => none
  else none

def h265DirectInputFormat (codecName : String) (format : PixelFormat) : Option AVPixelFormat :=
  if contains codecName "rkmpp" then format.av
  else if contains codecName "libx265" then
    match format with
    | .yuv420 => some .yuv420p
    | _ => none
  else none

/-- `H264Encoder::with_codec` opens the encoder in the format it is told. -/
def h264Pixfmt (codecName : String) (format : PixelFormat) : AVPixelFormat :=
  (h264DirectInputFormat codecName format).getD
    (if contains codecName "libx264" then .yuv420p else .nv12)

/-- `H265Encoder::with_codec` opens `libx265` in YUV420P whatever it is told. -/
def h265Pixfmt (codecName : String) (format : PixelFormat) : AVPixelFormat :=
  if contains codecName "libx265" then .yuv420p
  else
    (h265DirectInputFormat codecName format).getD
      (if contains codecName "libx265" then .yuv420p else .nv12)

/-- `VP8Encoder::with_codec`, and VP9's, after `low_latency`. -/
def vpxPixfmt (codecName : String) : AVPixelFormat :=
  if contains codecName "libvpx" then .yuv420p else .nv12

/-- The format an encoder for frames of `format` is opened in. -/
def pixfmt (codec : VideoCodecType) (codecName : String) (format : PixelFormat) :
    AVPixelFormat :=
  match codec with
  | .h264 => h264Pixfmt codecName format
  | .h265 => h265Pixfmt codecName format
  | .vp8 | .vp9 => vpxPixfmt codecName

/-- The VP8 and VP9 encoders keep the frame rate of their `low_latency` configuration. -/
def lowLatencyFps (codec : VideoCodecType) (fps : UInt32) : UInt32 :=
  match codec with
  | .h264 | .h265 => fps
  | .vp8 | .vp9 => 30

def encodeContext (config : SharedVideoPipelineConfig) (codecName : String)
    (format : PixelFormat) : EncodeContext where
  name := codecName
  resolution := config.resolution
  pixfmt := pixfmt config.outputCodec codecName format
  fps := lowLatencyFps config.outputCodec config.fps
  gop := lowLatencyFps config.outputCodec (config.bitratePreset.gopSize config.fps)
  kbs := config.bitratePreset.bitrateKbps

def useDirectInput (codecName : String) (format : PixelFormat) : Bool :=
  if contains codecName "rkmpp" then rkmppFormat format
  else if contains codecName "libx264" then libx264Format format
  else false

def needsYuv420p (codecName : String) (format : PixelFormat) : Bool :=
  if contains codecName "libx264" then !libx264Format format
  else contains codecName "libvpx" || contains codecName "libx265"

/-- The converter to `dst`; a frame in that format already needs none. -/
def converterTo (dst : PixelFormat) (error : String) (resolution : Resolution)
    (format : PixelFormat) : Except String (Option Converter) :=
  if format = dst then .ok none
  else
    match format with
    | .yuv420 | .yuyv | .nv12 | .nv21 | .nv16 | .nv24 | .rgb24 | .bgr24 =>
      .ok (some { src := format, dst, resolution })
    | _ => .error s!"{error}{format.display}"

/-- The NV12 and the YUV420P converter. -/
def convertersForPipeline (resolution : Resolution) (format : PixelFormat)
    (yuyvDirect directInput needsYuv420p : Bool) :
    Except String (Option Converter × Option Converter) :=
  if yuyvDirect then .ok (none, none)
  else if directInput then .ok (none, none)
  else if needsYuv420p then
    (converterTo .yuv420 "Unsupported input format for software encoding: " resolution
      format).map (none, ·)
  else
    (converterTo .nv12 "Unsupported input format for hardware encoding: " resolution
      format).map (·, none)

/-- The FFmpeg pipeline of ARM boards takes the JPEG itself. -/
def usesHwPipeline (m : Machine) (config : SharedVideoPipelineConfig) (codecName : String) :
    Bool :=
  m.arm && config.inputFormat.isCompressed && contains codecName "rkmpp" &&
    (config.outputCodec == .h264 || config.outputCodec == .h265)

/-- The format of the frames after the MJPEG decoder, if there is one. -/
def pipelineInputFormat (config : SharedVideoPipelineConfig) : PixelFormat :=
  if config.inputFormat.isCompressed then .rgb24 else config.inputFormat

def buildEncoderState (m : Machine) (registry : EncoderRegistry)
    (config : SharedVideoPipelineConfig) : Except String EncoderThreadState := do
  let codecName ← selectedCodecName registry config
  if usesHwPipeline m config codecName then
    if m.opensHwPipeline codecName then
      return {
        encoder := none
        ffmpegHwEnabled := true
        fps := config.fps
        codec := config.outputCodec
        inputFormat := config.inputFormat }
    else .error s!"FFmpeg HW MJPEG->{label config.outputCodec} init failed"
  else
    if config.inputFormat.isCompressed && !m.opensDecoder config.resolution then
      .error "Failed to create turbojpeg decoder"
    else
      let format := pipelineInputFormat config
      let context := encodeContext config codecName format
      if m.opensEncoder context then
        let needs := needsYuv420p codecName format
        let (nv12, yuv420p) ← convertersForPipeline config.resolution format
          (useYuyvDirect registry config) (useDirectInput codecName format) needs
        return {
          encoder := some context
          mjpegDecoder := if config.inputFormat.isCompressed then some config.resolution else none
          nv12Converter := nv12
          yuv420pConverter := yuv420p
          encoderNeedsYuv420p := needs
          fps := config.fps
          codec := config.outputCodec
          inputFormat := config.inputFormat }
      else .error s!"{createFailed config.outputCodec}{codecName}"

/-! ## The input of the encoder -/

/-- A captured frame: its picture's format and size, and the bytes it takes. -/
structure VideoFrame where
  format : PixelFormat
  resolution : Resolution
  len : Nat
  deriving DecidableEq, Repr

/-- A buffer, with the picture it holds if it holds one. -/
structure Buffer where
  holds : Option (PixelFormat × Resolution)
  len : Nat
  deriving DecidableEq, Repr

/-- The bytes a frame of the format takes at least. -/
def needed (format : PixelFormat) (resolution : Resolution) : Nat :=
  (format.frameSize resolution).getD 0

/-- A converter refuses a short buffer; it reads any other as a picture of its source
format. -/
def Converter.convert (c : Converter) (buffer : Buffer) : Except String Buffer :=
  if buffer.len < needed c.src c.resolution then .error "conversion failed"
  else
    .ok {
      holds := if buffer.holds = some (c.src, c.resolution) then some (c.dst, c.resolution)
        else none
      len := needed c.dst c.resolution }

/-- The MJPEG decoder checks the size in the header of the JPEG. -/
def decodeToRgb (resolution : Resolution) (frame : VideoFrame) : Except String Buffer :=
  if frame.format.isCompressed = false then .error "turbojpeg read_header failed"
  else if frame.resolution ≠ resolution then .error "turbojpeg size mismatch"
  else .ok { holds := some (.rgb24, resolution), len := needed .rgb24 resolution }

/-- The raw frame: the captured one, or what the decoder makes of it. -/
def rawInput (st : EncoderThreadState) (frame : VideoFrame) : Except String Buffer :=
  if st.inputFormat.isCompressed then
    match st.mjpegDecoder with
    | some resolution => decodeToRgb resolution frame
    | none => .error "MJPEG decoder not initialized"
  else .ok { holds := some (frame.format, frame.resolution), len := frame.len }

/-- What `encode_frame_sync` hands to `encode_raw`; nothing on the FFmpeg path. -/
def encodeInput (st : EncoderThreadState) (frame : VideoFrame) : Except String (Option Buffer) :=
  if st.ffmpegHwEnabled then .ok none
  else do
    let raw ← rawInput st frame
    if st.encoder.isNone then .error "Encoder not initialized"
    else
      match if st.encoderNeedsYuv420p then st.yuv420pConverter else st.nv12Converter with
      | some c => (Converter.convert c raw).map some
      | none => .ok (some raw)

/-- The buffer holds a picture in the format and size the encoder was opened with. -/
def Agrees (st : EncoderThreadState) (buffer : Buffer) : Prop :=
  ∃ context format, st.encoder = some context ∧
    buffer.holds = some (format, context.resolution) ∧ format.av = some context.pixfmt

/-! ## When the decisions agree -/

/-- The marks in the name of the codec that fit it, the input format, and the shortcut for
YUYV. -/
def NamesAgree (codec : VideoCodecType) (codecName : String) (format : PixelFormat)
    (yuyvDirect : Bool) : Prop :=
  let rkmpp := contains codecName "rkmpp"
  let x264 := contains codecName "libx264"
  let x265 := contains codecName "libx265"
  let vpx := contains codecName "libvpx"
  match codec with
  | .h264 =>
    if yuyvDirect then rkmpp else rkmpp || x264 || !(x265 || vpx)
  | .h265 =>
    if yuyvDirect then rkmpp && !x265
    else if rkmpp then x265 → format = .yuv420
    else if x264 then
      if libx264Format format then format = (if x265 then .yuv420 else .nv12) else x265
    else vpx → x265
  | .vp8 | .vp9 =>
    if yuyvDirect then False
    else if rkmpp then format = (if vpx then .yuv420 else .nv12)
    else if x264 then
      if libx264Format format then format = (if vpx then .yuv420 else .nv12) else vpx
    else x265 → vpx

/-- The format of the buffers made of frames in the pipeline's input format. -/
def handedFormat (yuyvDirect : Bool) (codecName : String) (format : PixelFormat) : PixelFormat :=
  if yuyvDirect || useDirectInput codecName format then format
  else if needsYuv420p codecName format then .yuv420
  else .nv12

/-- A pipeline is built for input formats that the encoder has a name for. -/
theorem rkmppFormat_of_converters {resolution : Resolution} {codecName : String}
    {format : PixelFormat} {yuyvDirect needs : Bool}
    {converters : Option Converter × Option Converter} (hyuyv : yuyvDirect = true → format = .yuyv)
    (h : convertersForPipeline resolution format yuyvDirect (useDirectInput codecName format)
      needs = .ok converters) : rkmppFormat format = true := by
  unfold convertersForPipeline converterTo useDirectInput at h
  cases yuyvDirect with
  | true =>
    rw [hyuyv rfl]
    rfl
  | false =>
    cases format <;> first | rfl | (cases needs <;> simp [rkmppFormat, libx264Format,
      PixelFormat.av, Except.map] at h)

/-- Frames are converted just when they are not handed over in their own format. -/
theorem chosen_converter {resolution : Resolution} {codecName : String} {format : PixelFormat}
    {yuyvDirect : Bool} {converters : Option Converter × Option Converter}
    (h : convertersForPipeline resolution format yuyvDirect (useDirectInput codecName format)
      (needsYuv420p codecName format) = .ok converters) :
    (if needsYuv420p codecName format then converters.2 else converters.1) =
      if handedFormat yuyvDirect codecName format = format then none
      else some {
        src := format
        dst := handedFormat yuyvDirect codecName format
        resolution } := by
  unfold convertersForPipeline at h
  unfold handedFormat
  by_cases hraw : (yuyvDirect || useDirectInput codecName format) = true
  · have hnone : converters = (none, none) := by
      rcases Bool.or_eq_true_iff.mp hraw with hyuyv | hdirect
      · simpa [hyuyv] using h.symm
      · cases yuyvDirect <;> simpa [hdirect] using h.symm
    simp [hraw, hnone]
  · obtain ⟨hyuyv, hdirect⟩ : yuyvDirect = false ∧ useDirectInput codecName format = false := by
      simpa using hraw
    simp only [hyuyv, hdirect, Bool.false_eq_true, if_false, Bool.or_self] at h ⊢
    cases hneeds : needsYuv420p codecName format with
    | true =>
      simp only [hneeds, if_true] at h ⊢
      by_cases hsame : format = .yuv420
      · simp only [converterTo, hsame, if_true, Except.map, Except.ok.injEq] at h
        simp [hsame, ← h]
      · unfold converterTo at h
        rw [if_neg hsame] at h
        rw [if_neg (Ne.symm hsame)]
        split at h
        all_goals simp [Except.map] at h
        all_goals simp [← h]
    | false =>
      simp only [hneeds, Bool.false_eq_true, if_false] at h ⊢
      by_cases hsame : format = .nv12
      · simp only [converterTo, hsame, if_true, Except.map, Except.ok.injEq] at h
        simp [hsame, ← h]
      · unfold converterTo at h
        rw [if_neg hsame] at h
        rw [if_neg (Ne.symm hsame)]
        split at h
        all_goals simp [Except.map] at h
        all_goals simp [← h]

theorem handed_iff {codec : VideoCodecType} {codecName : String} {format : PixelFormat}
    {yuyvDirect : Bool} (hyuyv : yuyvDirect = true → format = .yuyv)
    (hformat : rkmppFormat format = true) :
    (handedFormat yuyvDirect codecName format).av = some (pixfmt codec codecName format) ↔
      NamesAgree codec codecName format yuyvDirect := by
  unfold NamesAgree handedFormat useDirectInput needsYuv420p pixfmt h264Pixfmt h265Pixfmt
    vpxPixfmt h264DirectInputFormat h265DirectInputFormat
  generalize contains codecName "rkmpp" = rkmpp
  generalize contains codecName "libx264" = x264
  generalize contains codecName "libx265" = x265
  generalize contains codecName "libvpx" = vpx
  cases yuyvDirect with
  | true =>
    obtain rfl := hyuyv rfl
    cases codec <;> cases rkmpp <;> cases x264 <;> cases x265 <;> cases vpx <;> decide
  | false =>
    cases format <;> first
      | exact absurd hformat (by decide)
      | (cases codec <;> cases rkmpp <;> cases x264 <;> cases x265 <;> cases vpx <;> decide)

/-- What a pipeline that was built is made of. -/
structure Built (m : Machine) (registry : EncoderRegistry) (config : SharedVideoPipelineConfig)
    (codecName : String) (st : EncoderThreadState) : Prop where
  hw : usesHwPipeline m config codecName = false
  direct : st.ffmpegHwEnabled = false
  inputFormat : st.inputFormat = config.inputFormat
  decoder : config.inputFormat.isCompressed = true → st.mjpegDecoder = some config.resolution
  encoder : st.encoder = some (encodeContext config codecName (pipelineInputFormat config))
  format : rkmppFormat (pipelineInputFormat config) = true
  converter : (if st.encoderNeedsYuv420p then st.yuv420pConverter else st.nv12Converter) =
    if handedFormat (useYuyvDirect registry config) codecName (pipelineInputFormat config) =
      pipelineInputFormat config then none
    else some {
      src := pipelineInputFormat config
      dst := handedFormat (useYuyvDirect registry config) codecName (pipelineInputFormat config)
      resolution := config.resolution }

theorem yuyv_of_direct {registry : EncoderRegistry} {config : SharedVideoPipelineConfig}
    (h : useYuyvDirect registry config = true) : pipelineInputFormat config = .yuyv := by
  unfold useYuyvDirect at h
  simp only [Bool.and_eq_true, Bool.not_eq_true', beq_iff_eq] at h
  unfold pipelineInputFormat
  rw [if_neg (by simp [h.1.2]), h.2]

theorem bind_ok {α β : Type} {x : Except String α} {f : α → Except String β} {b : β}
    (h : (x >>= f) = .ok b) : ∃ a, x = .ok a ∧ f a = .ok b := by
  cases x with
  | error e => cases h
  | ok a => exact ⟨a, rfl, h⟩

theorem built_of_ok {m : Machine} {registry : EncoderRegistry}
    {config : SharedVideoPipelineConfig} {st : EncoderThreadState}
    (h : buildEncoderState m registry config = .ok st) :
    ∃ codecName, selectedCodecName registry config = .ok codecName ∧
      (usesHwPipeline m config codecName = true ∧ st.ffmpegHwEnabled = true ∨
        Built m registry config codecName st) := by
  obtain ⟨codecName, hname, h⟩ := bind_ok h
  refine ⟨codecName, hname, ?_⟩
  split at h
  · rename_i hhw
    split at h <;> cases h
    exact .inl ⟨hhw, rfl⟩
  · rename_i hhw
    right
    split at h
    · cases h
    · simp only at h
      split at h
      · obtain ⟨⟨nv12, yuv420p⟩, hconverters, h⟩ := bind_ok h
        cases h
        refine ⟨by simpa using hhw, rfl, rfl, ?_, rfl, ?_, chosen_converter hconverters⟩
        · intro hcompressed
          simp [hcompressed]
        · exact rkmppFormat_of_converters yuyv_of_direct hconverters
      · cases h

/-- The frames go to the encoder as they come out of the pipeline's input. -/
def Unconverted (registry : EncoderRegistry) (config : SharedVideoPipelineConfig)
    (codecName : String) : Prop :=
  handedFormat (useYuyvDirect registry config) codecName (pipelineInputFormat config) =
    pipelineInputFormat config

instance (registry : EncoderRegistry) (config : SharedVideoPipelineConfig)
    (codecName : String) : Decidable (Unconverted registry config codecName) :=
  inferInstanceAs (Decidable (_ = _))

/-- The device delivers what is configured and the names agree; or it delivers something
else, which goes unconverted and happens to be what the encoder was opened with. The
decoder takes nothing but JPEGs of the configured size. -/
def InputAgrees (m : Machine) (registry : EncoderRegistry) (config : SharedVideoPipelineConfig)
    (codecName : String) (format : PixelFormat) (resolution : Resolution) : Prop :=
  let names := NamesAgree config.outputCodec codecName (pipelineInputFormat config)
    (useYuyvDirect registry config)
  if usesHwPipeline m config codecName then True
  else if config.inputFormat.isCompressed then
    format.isCompressed = true ∧ resolution = config.resolution → names
  else
    format = config.inputFormat ∧ resolution = config.resolution ∧ names ∨
      Unconverted registry config codecName ∧ format ≠ config.inputFormat ∧
        resolution = config.resolution ∧
        format.av = some (pixfmt config.outputCodec codecName config.inputFormat)

/-- The buffer a picture becomes on its way to the encoder. -/
theorem agrees_iff {m : Machine} {registry : EncoderRegistry}
    {config : SharedVideoPipelineConfig} {codecName : String} {st : EncoderThreadState}
    (h : Built m registry config codecName st) (buffer : Buffer) :
    Agrees st buffer ↔ ∃ format, buffer.holds = some (format, config.resolution) ∧
      format.av = some (pixfmt config.outputCodec codecName (pipelineInputFormat config)) := by
  constructor
  · rintro ⟨context, format, hcontext, hholds, hformat⟩
    obtain rfl := Option.some.inj (h.encoder.symm.trans hcontext)
    exact ⟨format, hholds, hformat⟩
  · rintro ⟨format, hholds, hformat⟩
    exact ⟨_, format, h.encoder, hholds, hformat⟩

/-- From a buffer in the pipeline's input format the encoder gets one in `handedFormat`. -/
theorem agrees_of_input {m : Machine} {registry : EncoderRegistry}
    {config : SharedVideoPipelineConfig} {codecName : String} {st : EncoderThreadState}
    (h : Built m registry config codecName st) {buffer : Buffer}
    (hholds : buffer.holds = some (handedFormat (useYuyvDirect registry config) codecName
      (pipelineInputFormat config), config.resolution)) :
    Agrees st buffer ↔ NamesAgree config.outputCodec codecName (pipelineInputFormat config)
      (useYuyvDirect registry config) := by
  rw [agrees_iff h, ← handed_iff yuyv_of_direct h.format]
  constructor
  · rintro ⟨format, hformat, hav⟩
    rw [hholds] at hformat
    cases hformat
    exact hav
  · exact fun hav => ⟨_, hholds, hav⟩

theorem rawInput_eq {m : Machine} {registry : EncoderRegistry}
    {config : SharedVideoPipelineConfig} {codecName : String} {st : EncoderThreadState}
    (h : Built m registry config codecName st) (frame : VideoFrame) :
    rawInput st frame =
      if config.inputFormat.isCompressed then decodeToRgb config.resolution frame
      else .ok { holds := some (frame.format, frame.resolution), len := frame.len } := by
  unfold rawInput
  rw [h.inputFormat]
  split
  · rename_i hcompressed
    rw [h.decoder hcompressed]
  · rfl

/-- The pass with a raw buffer. -/
theorem encodeInput_eq {m : Machine} {registry : EncoderRegistry}
    {config : SharedVideoPipelineConfig} {codecName : String} {st : EncoderThreadState}
    (h : Built m registry config codecName st) {frame : VideoFrame} {raw : Buffer}
    (hraw : rawInput st frame = .ok raw) :
    encodeInput st frame =
      if Unconverted registry config codecName then .ok (some raw)
      else (Converter.convert {
        src := pipelineInputFormat config
        dst := handedFormat (useYuyvDirect registry config) codecName
          (pipelineInputFormat config)
        resolution := config.resolution } raw).map some := by
  unfold encodeInput Unconverted
  rw [h.direct, hraw, h.encoder, h.converter]
  show (match (if _ then _ else _ : Option Converter) with
    | some c => (Converter.convert c raw).map some
    | none => Except.ok (some raw)) = _
  split <;> simp_all

/-- What a raw buffer becomes: one in `handedFormat` if it is in the pipeline's input
format. -/
theorem agrees_of_names {m : Machine} {registry : EncoderRegistry}
    {config : SharedVideoPipelineConfig} {codecName : String} {st : EncoderThreadState}
    (h : Built m registry config codecName st) {frame : VideoFrame} {raw buffer : Buffer}
    (hraw : rawInput st frame = .ok raw)
    (hholds : raw.holds = some (pipelineInputFormat config, config.resolution))
    (hbuffer : encodeInput st frame = .ok (some buffer)) :
    Agrees st buffer ↔ NamesAgree config.outputCodec codecName (pipelineInputFormat config)
      (useYuyvDirect registry config) := by
  rw [encodeInput_eq h hraw] at hbuffer
  split at hbuffer
  · rename_i hsame
    cases hbuffer
    exact agrees_of_input h (by rw [hsame]; exact hholds)
  · unfold Converter.convert at hbuffer
    split at hbuffer
    · cases hbuffer
    · cases hbuffer
      exact agrees_of_input h rfl

/-- A buffer that is long enough reaches the encoder. -/
theorem encodeInput_of_long {m : Machine} {registry : EncoderRegistry}
    {config : SharedVideoPipelineConfig} {codecName : String} {st : EncoderThreadState}
    (h : Built m registry config codecName st) {frame : VideoFrame} {raw : Buffer}
    (hraw : rawInput st frame = .ok raw)
    (hlen : needed (pipelineInputFormat config) config.resolution ≤ raw.len) :
    ∃ buffer, encodeInput st frame = .ok (some buffer) := by
  rw [encodeInput_eq h hraw]
  split
  · exact ⟨raw, rfl⟩
  · unfold Converter.convert
    rw [if_neg (Nat.not_lt.mpr hlen)]
    exact ⟨_, rfl⟩

/-- Frames that are not what is configured agree only as they are. -/
theorem foreign_iff {m : Machine} {registry : EncoderRegistry}
    {config : SharedVideoPipelineConfig} {codecName : String} {st : EncoderThreadState}
    (h : Built m registry config codecName st) {format : PixelFormat} {resolution : Resolution}
    {len : Nat} (hraw : rawInput st { format, resolution, len } =
      .ok { holds := some (format, resolution), len })
    (hforeign : ¬ (format = pipelineInputFormat config ∧ resolution = config.resolution))
    {buffer : Buffer} (hbuffer : encodeInput st { format, resolution, len } = .ok (some buffer)) :
    Agrees st buffer ↔ Unconverted registry config codecName ∧ resolution = config.resolution ∧
      format.av = some (pixfmt config.outputCodec codecName (pipelineInputFormat config)) := by
  rw [agrees_iff h]
  rw [encodeInput_eq h hraw] at hbuffer
  split at hbuffer
  · rename_i hsame
    cases hbuffer
    constructor
    · rintro ⟨format', hholds, hav⟩
      cases hholds
      exact ⟨hsame, rfl, hav⟩
    · rintro ⟨-, rfl, hav⟩
      exact ⟨format, rfl, hav⟩
  · rename_i hconverts
    have hnone : buffer.holds = none := by
      unfold Converter.convert at hbuffer
      split at hbuffer
      · cases hbuffer
      · rw [if_neg (by simpa using hforeign)] at hbuffer
        cases hbuffer
        rfl
    constructor
    · rintro ⟨format', hholds, -⟩
      rw [hnone] at hholds
      cases hholds
    · rintro ⟨hsame, -⟩
      exact absurd hsame hconverts

/-- **Agreement.** Every buffer the encoder is handed is in the format and size it was
opened with, just when the names agree and the device delivers what is configured, the
coincidence apart. -/
theorem agreement_iff {m : Machine} {registry : EncoderRegistry}
    {config : SharedVideoPipelineConfig} {st : EncoderThreadState} {codecName : String}
    (hbuild : buildEncoderState m registry config = .ok st)
    (hname : selectedCodecName registry config = .ok codecName) (format : PixelFormat)
    (resolution : Resolution) :
    (∀ len buffer, encodeInput st { format, resolution, len } = .ok (some buffer) →
        Agrees st buffer) ↔
      InputAgrees m registry config codecName format resolution := by
  obtain ⟨name, hname', hbuilt⟩ := built_of_ok hbuild
  obtain rfl : codecName = name := Except.ok.inj (hname.symm.trans hname')
  rcases hbuilt with ⟨hhw, hon⟩ | hbuilt
  · simp [InputAgrees, hhw, encodeInput, hon]
  unfold InputAgrees
  rw [if_neg (by simp [hbuilt.hw])]
  by_cases hcompressed : config.inputFormat.isCompressed = true
  · rw [if_pos hcompressed]
    have hpipeline : pipelineInputFormat config = .rgb24 := if_pos hcompressed
    have hraw : ∀ len, rawInput st { format, resolution, len } =
        decodeToRgb config.resolution { format, resolution, len } := fun len => by
      rw [rawInput_eq hbuilt, if_pos hcompressed]
    by_cases hjpeg : format.isCompressed = true ∧ resolution = config.resolution
    · have hdecoded : ∀ len, rawInput st { format, resolution, len } = .ok {
          holds := some (pipelineInputFormat config, config.resolution)
          len := needed (pipelineInputFormat config) config.resolution } := fun len => by
        rw [hraw, hpipeline]
        simp [decodeToRgb, hjpeg]
      constructor
      · intro hall _
        obtain ⟨buffer, hbuffer⟩ := encodeInput_of_long hbuilt (hdecoded 0) (Nat.le_refl _)
        exact (agrees_of_names hbuilt (hdecoded 0) rfl hbuffer).mp (hall 0 buffer hbuffer)
      · intro hnames len buffer hbuffer
        exact (agrees_of_names hbuilt (hdecoded len) rfl hbuffer).mpr (hnames hjpeg)
    · -- the decoder takes nothing
      have hnothing : ∀ len buffer,
          encodeInput st { format, resolution, len } ≠ .ok (some buffer) := by
        intro len buffer
        unfold encodeInput
        rw [hbuilt.direct, hraw]
        unfold decodeToRgb
        cases hformat : format.isCompressed with
        | false => simp [bind, Except.bind]
        | true =>
          have hsize : resolution ≠ config.resolution := fun h => hjpeg ⟨hformat, h⟩
          simp [hsize, bind, Except.bind]
      exact ⟨fun _ h => absurd h hjpeg, fun _ len buffer h => absurd h (hnothing len buffer)⟩
  · rw [if_neg hcompressed]
    have hpipeline : pipelineInputFormat config = config.inputFormat := if_neg hcompressed
    have hraw : ∀ len, rawInput st { format, resolution, len } =
        .ok { holds := some (format, resolution), len } := fun len => by
      rw [rawInput_eq hbuilt, if_neg hcompressed]
    -- a frame that no converter refuses
    obtain ⟨long, hlong⟩ := encodeInput_of_long hbuilt
      (hraw (needed (pipelineInputFormat config) config.resolution)) (Nat.le_refl _)
    by_cases hdevice : format = config.inputFormat ∧ resolution = config.resolution
    · obtain ⟨rfl, rfl⟩ := hdevice
      have hholds : (⟨config.inputFormat, config.resolution⟩ : PixelFormat × Resolution) =
          (pipelineInputFormat config, config.resolution) := by rw [hpipeline]
      constructor
      · intro hall
        have hagrees := hall _ long hlong
        exact .inl ⟨rfl, rfl,
          (agrees_of_names hbuilt (hraw _) (congrArg some hholds) hlong).mp hagrees⟩
      · rintro (⟨-, -, h⟩ | ⟨-, hne, -⟩) len buffer hbuffer
        · exact (agrees_of_names hbuilt (hraw len) (congrArg some hholds) hbuffer).mpr h
        · exact absurd rfl hne
    · have hforeign : ¬(format = pipelineInputFormat config ∧ resolution = config.resolution) := by
        rw [hpipeline]
        exact hdevice
      constructor
      · intro hall
        have hagrees := (foreign_iff hbuilt (hraw _) hforeign hlong).mp (hall _ long hlong)
        rw [hpipeline] at hagrees
        obtain ⟨hsame, hsize, hav⟩ := hagrees
        exact .inr ⟨hsame, fun h => hdevice ⟨h, hsize⟩, hsize, hav⟩
      · rintro (⟨hformat, hsize, -⟩ | ⟨hsame, -, hsize, hav⟩) len buffer hbuffer
        · exact absurd ⟨hformat, hsize⟩ hdevice
        · rw [← hpipeline] at hav
          exact (foreign_iff hbuilt (hraw len) hforeign hbuffer).mpr ⟨hsame, hsize, hav⟩

/-- A board with an RKMPP encoder for H.264 and software encoders for the rest. -/
def rockchip : EncoderRegistry where
  encoders
    | .h264 => [{
        format := .h264
        codecName := "h264_rkmpp"
        backend := .rkmpp
        priority := 1
        isHardware := true }]
    | .h265 => [{
        format := .h265
        codecName := "libx265"
        backend := .software
        priority := 100
        isHardware := false }]
    | .vp8 => [{
        format := .vp8
        codecName := "libvpx"
        backend := .software
        priority := 100
        isHardware := false }]
    | .vp9 => [{
        format := .vp9
        codecName := "libvpx-vp9"
        backend := .software
        priority := 100
        isHardware := false }]

/-- An ARM board on which everything opens. -/
def willing : Machine where
  arm := true
  opensEncoder _ := true
  opensDecoder _ := true
  opensHwPipeline _ := true

def hd720 : Resolution where
  width := 1280
  height := 720

/-- The pipeline for frames in a format and a codec. -/
def sampleConfig (inputFormat : PixelFormat) (outputCodec : VideoCodecType) :
    SharedVideoPipelineConfig where
  resolution := hd720
  inputFormat
  outputCodec
  bitratePreset := .balanced
  fps := 30
  encoderBackend := none

/-- The H.264 encoder of the board takes YUYV frames as they are. -/
theorem yuyv_to_h264 : ∃ st,
    buildEncoderState willing rockchip (sampleConfig .yuyv .h264) = .ok st ∧
    ∀ len buffer, encodeInput st { format := .yuyv, resolution := hd720, len } =
      .ok (some buffer) → Agrees st buffer := by
  have hname : selectedCodecName rockchip (sampleConfig .yuyv .h264) = .ok "h264_rkmpp" := rfl
  refine ⟨_, rfl, (@agreement_iff willing _ _ _ _ rfl hname .yuyv hd720).mpr ?_⟩
  exact .inl ⟨rfl, rfl, rfl⟩

/-- **YUYV for VP8.** The shortcut for the H.264 encoder of the board leaves the frames of
a VP8 pipeline as they are, while `libvpx` was opened for YUV420P. -/
theorem yuyv_to_vp8 :
    ¬ ∀ (m : Machine) (registry : EncoderRegistry) (config : SharedVideoPipelineConfig)
      (st : EncoderThreadState), buildEncoderState m registry config = .ok st →
      ∀ (frame : VideoFrame) (buffer : Buffer), frame.format = config.inputFormat →
        frame.resolution = config.resolution →
        encodeInput st frame = .ok (some buffer) → Agrees st buffer := by
  intro halways
  obtain ⟨context, format, hcontext, hholds, hformat⟩ := halways willing rockchip
    (sampleConfig .yuyv .vp8) _ rfl { format := .yuyv, resolution := hd720, len := 1843200 } _
    rfl rfl rfl
  cases hcontext
  cases hholds
  exact absurd hformat (by decide)

end EncoderState

end StreamBox.Video
