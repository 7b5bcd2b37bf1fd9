import StreamBox.Config.Settings

/-!
# The subsystems and how a configuration is applied to them

What each subsystem runs with, and the functions that apply the difference between two
configurations of a section. Devices, gadgets, ports and services outside answer as a `World`
says. A function that fails leaves what it has done before.
-/

namespace StreamBox.Subsystems

open StreamBox.Lib StreamBox.Config.Sections
open StreamBox.Config (StreamMode RtspConfig)
open StreamBox.Video (PixelFormat Resolution EncoderBackend VideoCodecType StreamCodecConstraints)
open StreamBox.Hid (HidBackendType)

/-! ## What runs -/

structure VideoSetup where
  resolution : Resolution
  format : PixelFormat
  fps : UInt32
  deriving DecidableEq, Repr

/-- What `Streamer` captures from. -/
structure Capture where
  device : String
  setup : VideoSetup
  deriving DecidableEq, Repr

/-- The configuration of `WebRtcStreamer`. -/
structure Webrtc where
  video : VideoSetup
  captureDevice : Option String
  encoderBackend : Option EncoderBackend
  bitratePreset : BitratePreset
  ice : IceServers
  codec : VideoCodecType
  audioEnabled : Bool
  deriving DecidableEq, Repr

structure HidRunning where
  backendType : HidBackendType
  /-- The last reload has left no backend. -/
  failed : Bool
  deriving DecidableEq, Repr

structure RtspService where
  config : RtspConfig
  listening : Bool
  deriving DecidableEq, Repr

structure RustDeskService where
  config : RustDeskSection
  /-- What the connection manager was created with. -/
  connections : RustDeskSection
  running : Bool
  deriving DecidableEq, Repr

structure Running where
  mode : StreamMode
  /-- A switch of the mode is under way. -/
  switching : Bool
  capture : Option Capture
  webrtc : Webrtc
  hid : HidRunning
  gadget : Option OtgDesiredState
  /-- The directory of the MSD controller. -/
  msd : Option String
  atx : Option AtxControllerConfig
  audio : AudioControllerConfig
  rtsp : Option RtspService
  rustdesk : Option RustDeskService
  deriving DecidableEq, Repr

/-- What is fixed: the USB device controllers, the public STUN server of the build, and what is
said of a configuration that cannot be read. -/
structure Platform where
  dir : UdcDir
  publicStun : Option String
  formatError : Json → String

/-- The section on whose behalf the gadget is set up or the HID backend is opened. -/
inductive Asking
  | hid | msd
  deriving DecidableEq, Repr

/-- How what is outside answers. -/
structure World where
  /-- The format and the resolution that a device captures with, for those asked for. -/
  capture : String → PixelFormat → Resolution → Except AppError (PixelFormat × Resolution)
  gadget : Asking → OtgDesiredState → Except AppError Unit
  opens : Asking → HidBackendType → Bool
  /-- Audio that streams can be stopped. -/
  audioStops : Bool
  pipeline : VideoCodecType → Except AppError Unit
  bind : RtspConfig → Except AppError Unit
  /-- The service starts and has these credentials, unless it fails. -/
  rustdesk : RustDeskSection → Option Credentials

/-- What applying a configuration answers, and what runs then. -/
abbrev Applied (ε : Type := AppError) := Except ε Unit × Running

namespace Applied

variable {ε δ : Type}

def andThen (x : Applied ε) (next : Running → Applied ε) : Applied ε :=
  match x with
  | (.ok (), r) => next r
  | (.error e, r) => (.error e, r)

def mapError (x : Applied ε) (f : ε → δ) : Applied δ := (x.1.mapError f, x.2)

theorem andThen_error {x : Applied ε} {next : Running → Applied ε} {e : ε} {r : Running}
    (h : x.andThen next = (.error e, r)) :
    x = (.error e, r) ∨ ∃ r', x = (.ok (), r') ∧ next r' = (.error e, r) := by
  obtain ⟨_ | _, r'⟩ := x
  · exact Or.inl h
  · exact Or.inr ⟨r', rfl, h⟩

theorem andThen_ok {x : Applied ε} {next : Running → Applied ε} {r : Running}
    (h : x.andThen next = (.ok (), r)) : ∃ r', x = (.ok (), r') ∧ next r' = (.ok (), r) := by
  obtain ⟨_ | _, r'⟩ := x
  · cases h
  · exact ⟨r', rfl, h⟩

theorem mapError_error {x : Applied ε} {f : ε → δ} {e : δ} {r : Running}
    (h : x.mapError f = (.error e, r)) : ∃ e', x = (.error e', r) := by
  obtain ⟨_ | _, r'⟩ := x
  · cases h
    exact ⟨_, rfl⟩
  · cases h

theorem mapError_ok {x : Applied ε} {f : ε → δ} {r : Running}
    (h : x.mapError f = (.ok (), r)) : x = (.ok (), r) := by
  obtain ⟨_ | _, r'⟩ := x
  · cases h
  · cases h
    rfl

end Applied

/-! ## Video -/

def updateVideoConfig (setup : VideoSetup) (r : Running) : Running :=
  { r with webrtc := { r.webrtc with video := setup } }

/-- `apply_video_config` of the stream manager. -/
def applyCapture (w : World) (device : String) (asked : VideoSetup) (r : Running) : Applied :=
  let r := if r.mode = .webrtc then updateVideoConfig asked r else r
  match w.capture device asked.format asked.resolution with
  | .error e => (.error e, r)
  | .ok (format, resolution) =>
    let actual : VideoSetup := ⟨resolution, format, asked.fps⟩
    let r := { r with capture := some ⟨device, actual⟩ }
    if r.mode = .webrtc then
      let r := updateVideoConfig actual r
      (.ok (), { r with webrtc := { r.webrtc with captureDevice := some device } })
    else (.ok (), r)

/-- What the section asks a device for. -/
def asked (c : VideoConfig) : VideoSetup := ⟨c.resolution, c.pixelFormat, c.fps⟩

def applyVideoConfig (w : World) (old new : VideoConfig) (r : Running) : Applied :=
  if old = new then (.ok (), r)
  else
    match new.device with
    | none => (.error (.badRequest "video_device is required"), r)
    | some device =>
      (applyCapture w device (asked new) r).mapError fun e =>
        .videoError ("Failed to apply video config: " ++ e.display)

/-! ## Stream -/

def updateEncoderBackend (backend : Option EncoderBackend) (r : Running) : Running :=
  { r with webrtc := { r.webrtc with encoderBackend := backend } }

def setBitratePreset (preset : BitratePreset) (r : Running) : Running :=
  { r with webrtc := { r.webrtc with bitratePreset := preset } }

def updateIceConfig (ice : IceServers) (r : Running) : Running :=
  { r with webrtc := { r.webrtc with ice := ice } }

def iceChanged (old new : StreamConfig) : Bool :=
  old.stunServer ≠ new.stunServer || old.turnServer ≠ new.turnServer ||
    old.turnUsername ≠ new.turnUsername || old.turnPassword ≠ new.turnPassword

def applyEncoder (old new : StreamConfig) (r : Running) : Running :=
  if old.encoder ≠ new.encoder then updateEncoderBackend new.encoder.toBackend r else r

def applyBitrate (old new : StreamConfig) (r : Running) : Running :=
  if old.bitratePreset ≠ new.bitratePreset then setBitratePreset new.bitratePreset r else r

def applyIce (publicStun : Option String) (old new : StreamConfig) (r : Running) : Running :=
  if iceChanged old new then updateIceConfig (new.iceServers publicStun) r else r

/-- The mode is not among what is applied. -/
def applyStreamConfig (p : Platform) (old new : StreamConfig) (r : Running) : Applied :=
  (.ok (), applyIce p.publicStun old new (applyBitrate old new (applyEncoder old new r)))

/-! Where the old setting runs, the new one does afterwards. -/

theorem applyEncoder_eq {old : StreamConfig} (new : StreamConfig) {r : Running}
    (h : r.webrtc.encoderBackend = old.encoder.toBackend) :
    applyEncoder old new r = updateEncoderBackend new.encoder.toBackend r := by
  simp only [applyEncoder]
  split
  · rfl
  · rename_i heq
    rw [← not_not.mp heq, ← h]
    rfl

theorem applyBitrate_eq {old : StreamConfig} (new : StreamConfig) {r : Running}
    (h : r.webrtc.bitratePreset = old.bitratePreset) :
    applyBitrate old new r = setBitratePreset new.bitratePreset r := by
  simp only [applyBitrate]
  split
  · rfl
  · rename_i heq
    rw [← not_not.mp heq, ← h]
    rfl

theorem iceServers_eq {publicStun : Option String} {old new : StreamConfig}
    (h : ¬iceChanged old new) : new.iceServers publicStun = old.iceServers publicStun := by
  simp only [iceChanged, ne_eq, Bool.not_eq_true, Bool.or_eq_false_iff,
    decide_eq_false_iff_not, not_not] at h
  simp only [StreamConfig.iceServers, h]

theorem applyIce_eq {publicStun : Option String} {old : StreamConfig} (new : StreamConfig)
    {r : Running} (h : r.webrtc.ice = old.iceServers publicStun) :
    applyIce publicStun old new r = updateIceConfig (new.iceServers publicStun) r := by
  simp only [applyIce]
  split
  · rfl
  · rename_i heq
    rw [iceServers_eq heq, ← h]
    rfl

/-! ## HID and the gadget -/

def setUpGadget (w : World) (asking : Asking) (desired : OtgDesiredState) :
    Except AppError Unit :=
  match w.gadget asking desired with
  | .error e => .error e
  | .ok () =>
    if desired.udc.isNone then .error (.internal "OTG not available: no UDC found") else .ok ()

/-- An existing gadget that is not the one desired is cleaned up first. -/
def reconcileGadget (w : World) (asking : Asking) (desired : OtgDesiredState) (r : Running) :
    Applied :=
  if r.gadget = some desired then (.ok (), r)
  else if desired.isEmpty then (.ok (), { r with gadget := none })
  else
    match setUpGadget w asking desired with
    | .error e => (.error e, { r with gadget := none })
    | .ok () => (.ok (), { r with gadget := some desired })

/-- The gadget of a HID section and an MSD section. -/
def wantedGadget (dir : UdcDir) (hid : HidConfig) (msd : MsdConfig) : Option OtgDesiredState :=
  let desired := OtgDesiredState.ofHid dir hid msd.enabled
  if desired.isEmpty then none else some desired

def reconcileOtgFromStore (p : Platform) (w : World) (asking : Asking) (config : AppConfig)
    (r : Running) : Applied :=
  let applied : Applied :=
    match OtgDesiredState.fromConfig p.dir config.hid config.msd with
    | .error e => (.error e, r)
    | .ok desired => reconcileGadget w asking desired r
  applied.mapError fun e => .config ("OTG reconcile failed: " ++ e.display)

/-- A gadget stays as it is, or is removed, or set up anew. -/
theorem reconcileOtgFromStore_eq {p : Platform} (w : World) (asking : Asking) {config : AppConfig}
    {r : Running} (hbudget : config.hid.validateOtgEndpointBudget p.dir config.msd.enabled = .ok ())
    (hgadget : ∀ d ∈ r.gadget, ¬d.isEmpty) :
    reconcileOtgFromStore p w asking config r =
      match wantedGadget p.dir config.hid config.msd with
      | none => (.ok (), { r with gadget := none })
      | some desired =>
        if r.gadget = some desired then (.ok (), r)
        else
          match setUpGadget w asking desired with
          | .error e =>
            (.error (.config ("OTG reconcile failed: " ++ e.display)), { r with gadget := none })
          | .ok () => (.ok (), { r with gadget := some desired }) := by
  simp only [reconcileOtgFromStore, OtgDesiredState.fromConfig, hbudget, wantedGadget,
    reconcileGadget]
  generalize OtgDesiredState.ofHid p.dir config.hid config.msd.enabled = desired
  by_cases hempty : desired.isEmpty
  · have hother : r.gadget ≠ some desired := fun h => hgadget desired h hempty
    simp only [hempty, hother, if_true, if_false]
    rfl
  · simp only [hempty, Bool.false_eq_true, if_false]
    by_cases hsame : r.gadget = some desired
    · simp only [hsame, if_true]
      rfl
    · simp only [hsame, if_false]
      cases setUpGadget w asking desired <;> rfl

theorem wantedGadget_nonempty {dir : UdcDir} {hid : HidConfig} {msd : MsdConfig} :
    ∀ d ∈ wantedGadget dir hid msd, ¬d.isEmpty := by
  intro d hd
  simp only [wantedGadget] at hd
  split at hd
  · cases hd
  · cases hd
    assumption

theorem wantedGadget_otg {dir : UdcDir} {hid : HidConfig} (msd : MsdConfig)
    (h : hid.backend = .otg) : wantedGadget dir hid msd ≠ none := by
  simp [wantedGadget, OtgDesiredState.isEmpty, OtgDesiredState.ofHid, h]

theorem wantedGadget_msd {dir : UdcDir} {hid : HidConfig} {msd : MsdConfig}
    (h : msd.enabled = true) :
    wantedGadget dir hid msd = some (OtgDesiredState.ofHid dir hid true) := by
  simp [wantedGadget, OtgDesiredState.isEmpty, OtgDesiredState.ofHid, h]

def GadgetFails (w : World) (asking : Asking) (desired : OtgDesiredState) : Prop :=
  ∃ e, setUpGadget w asking desired = .error e

/-- Either the gadget is as wanted then, or it could not be set up and is gone. -/
theorem reconcileOtgFromStore_cases {p : Platform} (w : World) (asking : Asking)
    {config : AppConfig} {r : Running}
    (hbudget : config.hid.validateOtgEndpointBudget p.dir config.msd.enabled = .ok ())
    (hgadget : ∀ d ∈ r.gadget, ¬d.isEmpty) :
    (reconcileOtgFromStore p w asking config r =
        (.ok (), { r with gadget := wantedGadget p.dir config.hid config.msd }) ∧
      ¬∃ desired, wantedGadget p.dir config.hid config.msd = some desired ∧
        r.gadget ≠ some desired ∧ GadgetFails w asking desired) ∨
    ∃ desired e, wantedGadget p.dir config.hid config.msd = some desired ∧
      r.gadget ≠ some desired ∧ GadgetFails w asking desired ∧
      reconcileOtgFromStore p w asking config r = (.error e, { r with gadget := none }) := by
  rw [reconcileOtgFromStore_eq w asking hbudget hgadget]
  cases wantedGadget p.dir config.hid config.msd with
  | none => exact Or.inl ⟨rfl, by simp⟩
  | some desired =>
    by_cases hsame : r.gadget = some desired
    · refine Or.inl ⟨?_, by simp [hsame]⟩
      simp only [hsame, if_true]
      rw [← hsame]
    · simp only [hsame, if_false]
      cases hsetup : setUpGadget w asking desired with
      | error e => exact Or.inr ⟨desired, _, rfl, hsame, ⟨e, hsetup⟩, rfl⟩
      | ok =>
        refine Or.inl ⟨rfl, ?_⟩
        rintro ⟨other, hother, -, e, he⟩
        cases hother
        rw [hsetup] at he
        cases he

/-- The OTG backend needs the HID functions of the gadget. -/
def backendOpens (w : World) (asking : Asking) (kind : HidBackendType) (r : Running) : Bool :=
  match kind with
  | .none => true
  | .otg => r.gadget.any (·.hidFunctions.isSome) && w.opens asking kind
  | .ch9329 _ _ => w.opens asking kind

/-- The type of the backend is updated on failure as well. -/
def reload (w : World) (asking : Asking) (kind : HidBackendType) (r : Running) : Applied :=
  if backendOpens w asking kind r then (.ok (), { r with hid := ⟨kind, false⟩ })
  else (.error (.internal "Failed to reload HID backend"), { r with hid := ⟨kind, true⟩ })

def hidUnchanged (dir : UdcDir) (old new : HidConfig) : Bool :=
  old.backend = new.backend && old.ch9329Port = new.ch9329Port &&
    old.ch9329Baudrate = new.ch9329Baudrate && old.otgUdc = new.otgUdc &&
    old.otgDescriptor = new.otgDescriptor &&
    old.constrainedOtgFunctions = new.constrainedOtgFunctions &&
    old.effectiveOtgKeyboardLeds = new.effectiveOtgKeyboardLeds &&
    old.resolvedOtgEndpointLimit dir = new.resolvedOtgEndpointLimit dir

def transitioningAwayFromOtg (old new : HidConfig) : Bool :=
  old.backend = .otg && new.backend ≠ .otg

def reloadHid (w : World) (new : HidConfig) (r : Running) : Applied :=
  (reload w .hid new.backendType r).mapError fun e =>
    .config ("HID reload failed: " ++ e.display)

def applyHidConfig (p : Platform) (w : World) (config : AppConfig) (old new : HidConfig)
    (r : Running) : Applied :=
  match new.validateOtgEndpointBudget p.dir config.msd.enabled with
  | .error e => (.error e, r)
  | .ok () =>
    if hidUnchanged p.dir old new then (.ok (), r)
    else if transitioningAwayFromOtg old new then
      (reloadHid w new r).andThen (reconcileOtgFromStore p w .hid config)
    else (reconcileOtgFromStore p w .hid config r).andThen (reloadHid w new)

/-! ## MSD -/

/-- `init` of the controller needs the MSD function of the gadget. -/
def initMsd (msdDir : String) (r : Running) : Applied :=
  if r.gadget.any (·.msdEnabled) then (.ok (), { r with msd := some msdDir })
  else
    (.error (.config ("MSD initialization failed: " ++
      (AppError.internal "MSD function is not active in OtgService").display)), r)

def shutdownMsd (r : Running) : Running := { r with msd := none }

def applyMsdConfig (p : Platform) (w : World) (config : AppConfig) (old new : MsdConfig)
    (r : Running) : Applied :=
  match config.hid.validateOtgEndpointBudget p.dir new.enabled with
  | .error e => (.error e, r)
  | .ok () =>
    if old.enabled = new.enabled ∧ old.msdDir = new.msdDir then (.ok (), r)
    else
      let applied :=
        if new.enabled then
          (reconcileOtgFromStore p w .msd config r).andThen fun r =>
            initMsd new.msdDir (shutdownMsd r)
        else reconcileOtgFromStore p w .msd config (shutdownMsd r)
      applied.andThen fun r =>
        if config.hid.backend = .otg ∧ old.enabled ≠ new.enabled then
          (reload w .msd .otg r).mapError fun e =>
            .config ("OTG HID reload failed: " ++ e.display)
        else (.ok (), r)

/-! ## ATX and audio -/

def applyAtxConfig (new : AtxConfig) (r : Running) : Applied :=
  if r.atx.isSome || new.enabled then (.ok (), { r with atx := some new.toControllerConfig })
  else (.ok (), r)

/-- Audio errors are not critical. -/
def applyAudioConfig (w : World) (new : AudioConfig) (r : Running) : Applied :=
  let r := if w.audioStops then { r with audio := new.toController } else r
  (.ok (), { r with webrtc := { r.webrtc with audioEnabled := new.enabled } })

/-! ## Codec constraints -/

def setVideoCodec (w : World) (codec : VideoCodecType) (r : Running) : Applied :=
  if r.webrtc.codec = codec then (.ok (), r)
  else
    let r := { r with webrtc := { r.webrtc with codec } }
    if r.webrtc.captureDevice.isSome then (w.pipeline codec, r) else (.ok (), r)

/-- A switch to WebRTC goes on in a task of its own. -/
def enforceStreamCodecConstraints (w : World) (config : AppConfig) (r : Running) : Applied :=
  let constraints := StreamCodecConstraints.ofConfig config.constrained
  if r.mode = .mjpeg ∧ ¬constraints.isMjpegAllowed then
    (setVideoCodec w constraints.preferredWebrtcCodec r).andThen fun r =>
      (.ok (), { r with switching := true })
  else if r.mode = .webrtc ∧ ¬constraints.isWebrtcCodecAllowed r.webrtc.codec then
    setVideoCodec w constraints.preferredWebrtcCodec r
  else (.ok (), r)

/-! ## RTSP -/

/-- `RtspService::start`, of a service that is stopped. -/
def startRtsp (w : World) (config : RtspConfig) (r : Running) : Applied :=
  if config.enabled then
    ((setVideoCodec w (.ofRtsp config.codec) r).mapError fun e =>
      .videoError ("failed to set codec before RTSP start: " ++ e.display)).andThen fun r =>
        (w.bind config, r)
  else (.ok (), r)

def rtspNeedsRestart (old new : RtspConfig) : Bool :=
  old.bind ≠ new.bind || old.port ≠ new.port || old.path ≠ new.path || old.codec ≠ new.codec ||
    old.username ≠ new.username || old.password ≠ new.password ||
    old.allowOneClient ≠ new.allowOneClient

/-- What is done to the service, under its lock. -/
def applyRtspService (w : World) (old new : RtspConfig) (r : Running) : Applied :=
  let r := if old.enabled && !new.enabled then { r with rtsp := none } else r
  if !new.enabled then (.ok (), r)
  else if r.rtsp.isNone then
    (startRtsp w new r).andThen fun r => (.ok (), { r with rtsp := some ⟨new, true⟩ })
  else if rtspNeedsRestart old new then
    (startRtsp w new { r with rtsp := some ⟨new, false⟩ }).andThen fun r =>
      (.ok (), { r with rtsp := some ⟨new, true⟩ })
  else (.ok (), r)

def applyRtspConfig (w : World) (config : AppConfig) (old new : RtspConfig) (r : Running) :
    Applied :=
  (applyRtspService w old new r).andThen (enforceStreamCodecConstraints w config)

/-! ## RustDesk -/

/-- `start`, and `save_credentials` where it has succeeded: the configuration with its keys, when
it had not got them. -/
def startRustdesk (w : World) (service : RustDeskService) :
    RustDeskService × Option RustDeskSection :=
  if service.config.isValid then
    match w.rustdesk service.config with
    | none => (service, none)
    | some keys =>
      let config := service.config.withCredentials keys
      ({ service with config, running := true },
        if config = service.config then none else some config)
  else (service, none)

def rustdeskNeedsRestart (old new : RustDeskSection) : Bool :=
  old.rendezvousServer ≠ new.rendezvousServer || old.deviceId ≠ new.deviceId ||
    old.devicePassword ≠ new.devicePassword

/-- What is done to the service, under its lock, and what it saves then. A failure to start is
logged. -/
def applyRustdeskService (w : World) (old new : RustDeskSection) (r : Running) :
    Running × Option RustDeskSection :=
  let r := if old.enabled && !new.enabled then { r with rustdesk := none } else r
  if !new.enabled then (r, none)
  else
    match r.rustdesk with
    | none =>
      let (service, saved) := startRustdesk w ⟨new, new, false⟩
      ({ r with rustdesk := some service }, saved)
    | some service =>
      if rustdeskNeedsRestart old new then
        let (service, saved) := startRustdesk w { service with config := new, running := false }
        ({ r with rustdesk := some service }, saved)
      else (r, none)

end StreamBox.Subsystems
