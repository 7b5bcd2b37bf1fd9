import StreamBox.Config.Store
import StreamBox.Config.Subsystems

/-!
# Requests that are refused

`update_config` applies the sections one after the other and restores the stored configuration
when one of them fails; `update_rtsp_config` does so with its section. What was applied before is
not taken back.

* **Failure** — `refused_follows`: after a refusal the subsystems run with what is stored exactly
  where the failed step came first among those that change something, and has changed nothing
  itself.
-/

namespace StreamBox.Subsystems

open StreamBox.Lib StreamBox.Config.Sections
open StreamBox.Config (StreamMode RtspConfig RtspConfigUpdate RustDeskConfigUpdate)
open StreamBox.ConfigStore (mergeConfig setRtsp)
open StreamBox.Video (PixelFormat Resolution StreamCodecConstraints)

variable (p : Platform) (w : World)

/-! ## The handlers -/

/-- The stored configuration, and what runs. -/
structure State where
  config : AppConfig
  running : Running

/-- A section that was sent is applied. -/
def applySent (updates : List (String × Json)) (key message : String)
    (apply : Running → Applied) (r : Running) : Applied String :=
  if (updates.lookup key).isSome then (apply r).mapError fun e => message ++ e.display
  else (.ok (), r)

/-- The sections in the order in which `update_config` applies them. -/
def applySections (updates : List (String × Json)) (old new : AppConfig) (r : Running) :
    Applied String :=
  (applySent updates "video" "Video configuration invalid: "
      (applyVideoConfig w old.video new.video) r).andThen fun r =>
  (applySent updates "stream" "Stream configuration invalid: "
      (applyStreamConfig p old.stream new.stream) r).andThen fun r =>
  (applySent updates "hid" "HID configuration invalid: "
      (applyHidConfig p w new old.hid new.hid) r).andThen fun r =>
  (applySent updates "audio" "Audio config update failed: "
      (applyAudioConfig w new.audio) r).andThen fun r =>
  (applySent updates "msd" "MSD initialization failed: "
      (applyMsdConfig p w new old.msd new.msd) r).andThen fun r =>
  applySent updates "atx" "ATX configuration invalid: " (applyAtxConfig new.atx) r

def updateConfig (updates : List (String × Json)) (s : State) : State × Except String Unit :=
  match mergeConfig updates s.config with
  | none =>
    let merged := (toJson s.config).merge (.obj updates)
    (s, .error (AppError.badRequest
      ("Invalid config format: " ++ p.formatError merged)).display)
  | some new =>
    match new.hid.validateOtgEndpointBudget p.dir new.msd.enabled with
    | .error e => (s, .error e.display)
    | .ok () =>
      match applySections p w updates s.config new s.running with
      | (.ok (), running) => (⟨new, running⟩, .ok ())
      | (.error message, running) => (⟨s.config, running⟩, .error message)

def updateRtspConfig (req : RtspConfigUpdate) (s : State) : State × Except String Unit :=
  let old := s.config.rtsp
  let config := setRtsp (req.applyTo old) s.config
  match applyRtspConfig w config old config.rtsp s.running with
  | (.ok (), running) => (⟨config, running⟩, .ok ())
  | (.error e, running) => (⟨setRtsp old config, running⟩, .error e.display)

def updateRustdesk (req : RustDeskConfigUpdate) (c : RustDeskSection) : RustDeskSection :=
  { c with toRustDeskConfig := req.applyTo c.toRustDeskConfig }

/-- Errors of applying are logged. -/
def updateRustdeskConfig (req : RustDeskConfigUpdate) (s : State) : State × Except String Unit :=
  let old := s.config.rustdesk
  let new := updateRustdesk req old
  let (running, saved) := applyRustdeskService w old new s.running
  let rustdesk :=
    match saved with
    | some updated => new.saveCredentials updated
    | none => new
  let config := { s.config with rustdesk }
  (⟨config, (enforceStreamCodecConstraints w config running).2⟩, .ok ())

/-- A request that `validate` has let pass; the database takes what is stored. -/
inductive Request
  | config (updates : List (String × Json))
  | rtsp (req : RtspConfigUpdate)
  | rustdesk (req : RustDeskConfigUpdate)

def handle (s : State) : Request → State × Except String Unit
  | .config updates => updateConfig p w updates s
  | .rtsp req => updateRtspConfig w req s
  | .rustdesk req => updateRustdeskConfig w req s

/-! ## What is to hold -/

/-- What a device captures for the section. -/
def captureOf (c : VideoConfig) : Option Capture :=
  c.device.bind fun device =>
    match w.capture device c.pixelFormat c.resolution with
    | .error _ => none
    | .ok (format, resolution) => some ⟨device, ⟨resolution, format, c.fps⟩⟩

/-- A section without a device leaves the choice to the streamer. -/
def FollowsVideo (c : VideoConfig) (r : Running) : Prop :=
  c.device.isSome → ∃ capture, captureOf w c = some capture ∧ r.capture = some capture ∧
    (r.mode = .webrtc →
      r.webrtc.video = capture.setup ∧ r.webrtc.captureDevice = some capture.device)

def FollowsStream (c : StreamConfig) (r : Running) : Prop :=
  r.mode = c.mode ∧ r.webrtc.encoderBackend = c.encoder.toBackend ∧
    r.webrtc.bitratePreset = c.bitratePreset ∧ r.webrtc.ice = c.iceServers p.publicStun

/-- HID, the gadget and MSD. -/
def FollowsUsb (c : AppConfig) (r : Running) : Prop :=
  r.hid = ⟨c.hid.backendType, false⟩ ∧ r.gadget = wantedGadget p.dir c.hid c.msd ∧
    r.msd = if c.msd.enabled then some c.msd.msdDir else none

def FollowsAudio (c : AudioConfig) (r : Running) : Prop :=
  r.audio = c.toController ∧ r.webrtc.audioEnabled = c.enabled

def FollowsAtx (c : AtxConfig) (r : Running) : Prop :=
  r.atx.filter (·.enabled) = if c.enabled then some c.toControllerConfig else none

def FollowsRtsp (c : RtspConfig) (r : Running) : Prop :=
  r.rtsp = if c.enabled then some ⟨c, true⟩ else none

def FollowsRustdesk (c : RustDeskSection) (r : Running) : Prop :=
  r.rustdesk.map (·.config) = if c.enabled then some c else none

/-- Every subsystem runs with the configuration. -/
structure Follows (c : AppConfig) (r : Running) : Prop where
  video : FollowsVideo w c.video r
  stream : FollowsStream p c.stream r
  usb : FollowsUsb p c r
  audio : FollowsAudio c.audio r
  atx : FollowsAtx c.atx r
  rtsp : FollowsRtsp c.rtsp r
  rustdesk : FollowsRustdesk c.rustdesk r

/-- The video section is refused: it names no device, or one that cannot capture. -/
def VideoRefused (updates : List (String × Json)) (old new : AppConfig) : Prop :=
  (updates.lookup "video").isSome ∧ old.video ≠ new.video ∧ captureOf w new.video = none

/-- A refusal of the video section leaves WebRTC with what it had. -/
def VideoKept (old new : AppConfig) (r : Running) : Prop :=
  new.video.device = none ∨ old.video.device = none ∨ r.mode = .mjpeg ∨
    r.webrtc.video = asked new.video

/-- The section asks for what it asked for before. -/
def VideoSame (updates : List (String × Json)) (old new : AppConfig) : Prop :=
  (updates.lookup "video").isSome → old.video.device.isSome →
    captureOf w new.video = captureOf w old.video

def StreamSame (updates : List (String × Json)) (old new : AppConfig) : Prop :=
  (updates.lookup "stream").isSome →
    new.stream.encoder.toBackend = old.stream.encoder.toBackend ∧
    new.stream.bitratePreset = old.stream.bitratePreset ∧
    new.stream.iceServers p.publicStun = old.stream.iceServers p.publicStun

def AudioSame (updates : List (String × Json)) (old new : AppConfig) : Prop :=
  (updates.lookup "audio").isSome →
    (w.audioStops → new.audio.toController = old.audio.toController) ∧
    new.audio.enabled = old.audio.enabled

def HidApplied (updates : List (String × Json)) (old new : AppConfig) : Prop :=
  (updates.lookup "hid").isSome ∧ ¬hidUnchanged p.dir old.hid new.hid

def MsdApplied (updates : List (String × Json)) (old new : AppConfig) : Prop :=
  (updates.lookup "msd").isSome ∧ ¬(old.msd.enabled = new.msd.enabled ∧
    old.msd.msdDir = new.msd.msdDir)

/-- The RTSP service cannot have the codec or the address. -/
def RtspStartFails (c : RtspConfig) (r : Running) : Prop :=
  (r.webrtc.codec ≠ .ofRtsp c.codec ∧ r.webrtc.captureDevice.isSome ∧
    ∃ e, w.pipeline (.ofRtsp c.codec) = .error e) ∨ ∃ e, w.bind c = .error e

/-- The new sections ask for a gadget that cannot be set up, where there was none before. -/
def FirstGadgetFails (updates : List (String × Json)) (old new : AppConfig) : Prop :=
  wantedGadget p.dir old.hid old.msd = none ∧
    ∃ desired, wantedGadget p.dir new.hid new.msd = some desired ∧
      ((HidApplied p updates old new ∧ GadgetFails w .hid desired) ∨
        (¬HidApplied p updates old new ∧ MsdApplied updates old new ∧
          AudioSame w updates old new ∧ GadgetFails w .msd desired))

/-- What fails has changed nothing, nor has what was applied before. -/
def Harmless (s : State) : Request → Prop
  | .config updates =>
    match mergeConfig updates s.config with
    | none => True
    | some new =>
      match new.hid.validateOtgEndpointBudget p.dir new.msd.enabled with
      | .error _ => True
      | .ok () =>
        (VideoRefused w updates s.config new ∧ VideoKept s.config new s.running) ∨
        (¬VideoRefused w updates s.config new ∧ VideoSame w updates s.config new ∧
          StreamSame p updates s.config new ∧ FirstGadgetFails p w updates s.config new)
  | .rtsp req =>
    let old := s.config.rtsp
    let new := req.applyTo old
    if old.enabled then new.enabled ∧ ¬rtspNeedsRestart old new
    else new.enabled → RtspStartFails w new s.running
  | .rustdesk _ => True

/-! ## The sections one by one -/

variable {p w}

theorem applySent_error {updates : List (String × Json)} {key message message' : String}
    {apply : Running → Applied} {r r' : Running}
    (h : applySent updates key message apply r = (.error message', r')) :
    (updates.lookup key).isSome ∧ ∃ e, apply r = (.error e, r') := by
  simp only [applySent] at h
  split at h
  · exact ⟨by assumption, Applied.mapError_error h⟩
  · cases h

theorem applySent_ok {updates : List (String × Json)} {key message : String}
    {apply : Running → Applied} {r r' : Running}
    (h : applySent updates key message apply r = (.ok (), r')) :
    ((updates.lookup key).isSome ∧ apply r = (.ok (), r')) ∨
      (¬(updates.lookup key).isSome ∧ r' = r) := by
  simp only [applySent] at h
  split at h
  · exact Or.inl ⟨by assumption, Applied.mapError_ok h⟩
  · cases h
    exact Or.inr ⟨by assumption, rfl⟩

/-- What the video section may change. -/
theorem applyVideoConfig_frame (old new : VideoConfig) (r : Running) :
    ∃ capture video captureDevice, (applyVideoConfig w old new r).2 =
      { r with capture, webrtc := { r.webrtc with video, captureDevice } } := by
  simp only [applyVideoConfig]
  split
  · exact ⟨r.capture, r.webrtc.video, r.webrtc.captureDevice, rfl⟩
  · split
    · exact ⟨r.capture, r.webrtc.video, r.webrtc.captureDevice, rfl⟩
    · simp only [applyCapture, Applied.mapError]
      split <;> split <;> (try split) <;> exact ⟨_, _, _, rfl⟩

theorem applyCapture_error {device : String} {asked : VideoSetup} {r r' : Running} {e : AppError}
    (h : applyCapture w device asked r = (.error e, r')) :
    w.capture device asked.format asked.resolution = .error e ∧
      r' = if r.mode = .webrtc then updateVideoConfig asked r else r := by
  simp only [applyCapture] at h
  split at h
  · rename_i e' hcapture
    cases h
    exact ⟨hcapture, rfl⟩
  · split at h
    · split at h <;> cases h
    · cases h

theorem applyCapture_ok {device : String} {asked : VideoSetup} {r r' : Running}
    (h : applyCapture w device asked r = (.ok (), r')) :
    ∃ format resolution, w.capture device asked.format asked.resolution =
        .ok (format, resolution) ∧ r'.mode = r.mode ∧
      r'.capture = some ⟨device, ⟨resolution, format, asked.fps⟩⟩ ∧
      (r.mode = .webrtc → r'.webrtc.video = ⟨resolution, format, asked.fps⟩ ∧
        r'.webrtc.captureDevice = some device) := by
  simp only [applyCapture] at h
  split at h
  · cases h
  · rename_i format resolution hcapture
    refine ⟨format, resolution, hcapture, ?_⟩
    by_cases hmode : r.mode = .webrtc
    · have hmode' : (updateVideoConfig asked r).mode = .webrtc := hmode
      simp only [hmode, hmode', if_true] at h
      cases h
      exact ⟨hmode.symm, rfl, fun _ => ⟨rfl, rfl⟩⟩
    · simp only [hmode, if_false] at h
      cases h
      exact ⟨rfl, rfl, fun h => absurd h hmode⟩

/-- A refused video section changes at most what WebRTC was set to. -/
theorem video_refused {updates : List (String × Json)} {old new : AppConfig} {r r' : Running}
    {message message' : String} (hfollows : FollowsVideo w old.video r)
    (h : applySent updates "video" message (applyVideoConfig w old.video new.video) r =
      (.error message', r')) :
    VideoRefused w updates old new ∧ (FollowsVideo w old.video r' ↔ VideoKept old new r) := by
  obtain ⟨hsent, e, happly⟩ := applySent_error h
  simp only [applyVideoConfig] at happly
  split at happly
  · cases happly
  · rename_i hchanged
    split at happly
    · rename_i hdevice
      cases happly
      refine ⟨⟨hsent, hchanged, by simp [captureOf, hdevice]⟩, fun _ => Or.inl hdevice, ?_⟩
      intro _
      exact hfollows
    · rename_i device hdevice
      obtain ⟨e', happly⟩ := Applied.mapError_error happly
      obtain ⟨hcapture, rfl⟩ := applyCapture_error happly
      have hnone : captureOf w new.video = none := by
        simp only [captureOf, hdevice, Option.bind_some]
        rw [show w.capture device new.video.pixelFormat new.video.resolution = .error e' from
          hcapture]
      refine ⟨⟨hsent, hchanged, hnone⟩, ?_⟩
      by_cases hmode : r.mode = .webrtc
      · simp only [hmode, if_true, VideoKept, hdevice]
        constructor
        · intro h'
          cases hold : old.video.device with
          | none => exact Or.inr (Or.inl rfl)
          | some olddevice =>
            have hsome : old.video.device.isSome := by simp [hold]
            obtain ⟨c, hc, -, hvideo⟩ := hfollows hsome
            obtain ⟨c', hc', -, hvideo'⟩ := h' hsome
            -- WebRTC has what was asked for, and what it had
            rw [hc] at hc'
            cases hc'
            exact Or.inr (Or.inr (Or.inr ((hvideo hmode).1.trans (hvideo' hmode).1.symm)))
        · rintro (h' | h' | h' | h')
          · cases h'
          · intro hsome
            simp [h'] at hsome
          · cases h'
          · intro hsome
            obtain ⟨c, hc, hcapture', hvideo⟩ := hfollows hsome
            exact ⟨c, hc, hcapture', fun _ => ⟨h' ▸ (hvideo hmode).1, (hvideo hmode).2⟩⟩
      · simp only [hmode, if_false]
        have hmjpeg : r.mode = .mjpeg := by
          cases hm : r.mode with
          | webrtc => exact absurd hm hmode
          | mjpeg => rfl
        exact ⟨fun _ => Or.inr (Or.inr (Or.inl hmjpeg)), fun _ => hfollows⟩

/-- A video section that is applied leaves the old one in force where both ask for the same. -/
theorem video_applied {updates : List (String × Json)} {old new : AppConfig} {r r' : Running}
    {message : String} (hfollows : FollowsVideo w old.video r)
    (h : applySent updates "video" message (applyVideoConfig w old.video new.video) r =
      (.ok (), r')) :
    ¬VideoRefused w updates old new ∧
      (FollowsVideo w old.video r' ↔ VideoSame w updates old new) := by
  rcases applySent_ok h with ⟨hsent, happly⟩ | ⟨hsent, rfl⟩
  · simp only [applyVideoConfig] at happly
    split at happly
    · rename_i hsame
      cases happly
      refine ⟨fun hrefused => hrefused.2.1 hsame, fun _ _ _ => by rw [hsame], fun _ => hfollows⟩
    · split at happly
      · cases happly
      · rename_i device hdevice
        obtain ⟨format, resolution, hcapture, hmode, hcap, hwebrtc⟩ :=
          applyCapture_ok (Applied.mapError_ok happly)
        have hsome : captureOf w new.video =
            some ⟨device, ⟨resolution, format, new.video.fps⟩⟩ := by
          simp only [captureOf, hdevice, Option.bind_some]
          rw [show w.capture device new.video.pixelFormat new.video.resolution =
            .ok (format, resolution) from hcapture]
        refine ⟨fun hrefused => by simp [hrefused.2.2] at hsome, ?_, ?_⟩
        · intro h' _ hold
          obtain ⟨c, hc, hc', -⟩ := h' hold
          rw [hsome, hc, ← hc', hcap]
          rfl
        · intro hsame hold
          refine ⟨_, (hsame hsent hold).symm.trans hsome, hcap, ?_⟩
          intro hmode'
          exact hwebrtc (hmode ▸ hmode')
  · exact ⟨fun hrefused => hsent hrefused.1, fun _ h' => absurd h' hsent, fun _ => hfollows⟩

/-- The stream section never fails, and what it asks for runs then. -/
theorem stream_applied {updates : List (String × Json)} {old new : AppConfig} {r r' : Running}
    {message : String} (hfollows : FollowsStream p old.stream r)
    (h : applySent updates "stream" message (applyStreamConfig p old.stream new.stream) r =
      (.ok (), r')) :
    (∃ encoderBackend bitratePreset ice,
        r' = { r with webrtc := { r.webrtc with encoderBackend, bitratePreset, ice } }) ∧
      (FollowsStream p old.stream r' ↔ StreamSame p updates old new) := by
  obtain ⟨hmode, hencoder, hbitrate, hice⟩ := hfollows
  rcases applySent_ok h with ⟨hsent, happly⟩ | ⟨hsent, rfl⟩
  · have hr' : r' = { r with webrtc := { r.webrtc with
        encoderBackend := new.stream.encoder.toBackend
        bitratePreset := new.stream.bitratePreset
        ice := new.stream.iceServers p.publicStun } } := by
      have hresult : applyIce p.publicStun old.stream new.stream
          (applyBitrate old.stream new.stream (applyEncoder old.stream new.stream r)) = r' :=
        congrArg Prod.snd happly
      let r1 := updateEncoderBackend new.stream.encoder.toBackend r
      let r2 := setBitratePreset new.stream.bitratePreset r1
      have hbitrate1 : r1.webrtc.bitratePreset = old.stream.bitratePreset := hbitrate
      have hice2 : r2.webrtc.ice = old.stream.iceServers p.publicStun := hice
      rw [← hresult, applyEncoder_eq new.stream hencoder, applyBitrate_eq new.stream hbitrate1,
        applyIce_eq new.stream hice2]
      rfl
    subst hr'
    refine ⟨⟨_, _, _, rfl⟩, ?_, ?_⟩
    · rintro ⟨-, h1, h2, h3⟩ -
      exact ⟨h1, h2, h3⟩
    · intro hsame
      obtain ⟨h1, h2, h3⟩ := hsame hsent
      exact ⟨hmode, h1, h2, h3⟩
  · exact ⟨⟨_, _, _, rfl⟩, fun _ h' => absurd h' hsent, fun _ => ⟨hmode, hencoder, hbitrate, hice⟩⟩

theorem audio_applied {updates : List (String × Json)} {old new : AppConfig} {r r' : Running}
    {message : String} (hfollows : FollowsAudio old.audio r)
    (h : applySent updates "audio" message (applyAudioConfig w new.audio) r = (.ok (), r')) :
    (∃ audio audioEnabled, r' = { r with audio, webrtc := { r.webrtc with audioEnabled } }) ∧
      (FollowsAudio old.audio r' ↔ AudioSame w updates old new) := by
  rcases applySent_ok h with ⟨hsent, happly⟩ | ⟨hsent, rfl⟩
  · simp only [applyAudioConfig] at happly
    cases happly
    refine ⟨?_, ?_⟩
    · split
      · exact ⟨_, _, rfl⟩
      · exact ⟨_, _, rfl⟩
    · constructor
      · intro hafter _
        refine ⟨?_, hafter.2⟩
        intro hstops
        have hcontroller := hafter.1
        simp only [hstops, if_true] at hcontroller
        exact hcontroller
      · intro hsame
        obtain ⟨hcontroller, henabled⟩ := hsame hsent
        refine ⟨?_, henabled⟩
        show (if w.audioStops then _ else r).audio = _
        split
        · exact hcontroller (by assumption)
        · exact hfollows.1
  · exact ⟨⟨_, _, rfl⟩, fun _ h' => absurd h' hsent, fun _ => hfollows⟩

section Usb

variable {updates : List (String × Json)} {old new : AppConfig} {r r' : Running}
  {message message' : String}

theorem reload_error {asking : Asking} {kind : Hid.HidBackendType} {e : AppError}
    (h : reload w asking kind r = (.error e, r')) : r' = { r with hid := ⟨kind, true⟩ } := by
  simp only [reload] at h
  split at h
  · cases h
  · cases h
    rfl

theorem reload_ok {asking : Asking} {kind : Hid.HidBackendType}
    (h : reload w asking kind r = (.ok (), r')) : r' = { r with hid := ⟨kind, false⟩ } := by
  simp only [reload] at h
  split at h
  · cases h
    rfl
  · cases h

/-- A HID section that fails leaves the old one in force where there was no gadget and none can
be set up. -/
theorem hid_refused
    (hbudget : new.hid.validateOtgEndpointBudget p.dir new.msd.enabled = .ok ())
    (hfollows : FollowsUsb p old r)
    (h : applySent updates "hid" message (applyHidConfig p w new old.hid new.hid) r =
      (.error message', r')) :
    (∃ hid gadget, r' = { r with hid, gadget }) ∧ HidApplied p updates old new ∧
      (FollowsUsb p old r' ↔ wantedGadget p.dir old.hid old.msd = none ∧
        ∃ desired, wantedGadget p.dir new.hid new.msd = some desired ∧
          GadgetFails w .hid desired) := by
  obtain ⟨hsent, e, happly⟩ := applySent_error h
  obtain ⟨hhid, hgadget, hmsd⟩ := hfollows
  have hnonempty : ∀ d ∈ r.gadget, ¬d.isEmpty := by
    rw [hgadget]
    exact wantedGadget_nonempty
  simp only [applyHidConfig, hbudget] at happly
  split at happly
  · cases happly
  · rename_i hchanged
    split at happly
    · rename_i haway
      have hotg : wantedGadget p.dir old.hid old.msd ≠ none := by
        simp only [transitioningAwayFromOtg, Bool.and_eq_true, decide_eq_true_eq] at haway
        exact wantedGadget_otg old.msd haway.1
      -- the old backend is gone before anything else is tried
      rcases Applied.andThen_error happly with hreload | ⟨r1, hreload, hreconcile⟩
      · obtain ⟨e', hreload⟩ := Applied.mapError_error hreload
        obtain rfl := reload_error hreload
        refine ⟨⟨_, _, rfl⟩, ⟨hsent, hchanged⟩, ?_, fun hnone => absurd hnone.1 hotg⟩
        rintro ⟨hhid', -, -⟩
        cases congrArg HidRunning.failed hhid'
      · obtain rfl := reload_ok (Applied.mapError_ok hreload)
        rcases reconcileOtgFromStore_cases (r := { r with hid := ⟨new.hid.backendType, false⟩ }) w
          .hid hbudget hnonempty with ⟨hok, -⟩ | ⟨desired, e', -, -, -, herror⟩
        · rw [hok] at hreconcile
          cases hreconcile
        · rw [herror] at hreconcile
          cases hreconcile
          refine ⟨⟨_, _, rfl⟩, ⟨hsent, hchanged⟩, ?_, fun hnone => absurd hnone.1 hotg⟩
          rintro ⟨-, hgadget', -⟩
          exact absurd hgadget'.symm hotg
    · rcases reconcileOtgFromStore_cases w .hid hbudget hnonempty with
        ⟨hok, hsetup⟩ | ⟨desired, e', hwanted, hother, hfails, herror⟩
      · rw [hok] at happly
        obtain ⟨e', hreload⟩ := Applied.mapError_error happly
        obtain rfl := reload_error hreload
        refine ⟨⟨_, _, rfl⟩, ⟨hsent, hchanged⟩, ?_, ?_⟩
        · rintro ⟨hhid', -, -⟩
          cases congrArg HidRunning.failed hhid'
        · rintro ⟨hnone, desired, hwanted, hfails⟩
          refine absurd ⟨desired, hwanted, ?_, hfails⟩ hsetup
          rw [hgadget, hnone]
          exact (Option.some_ne_none desired).symm
      · rw [herror] at happly
        cases happly
        refine ⟨⟨_, _, rfl⟩, ⟨hsent, hchanged⟩, ?_, ?_⟩
        · rintro ⟨-, hgadget', -⟩
          exact ⟨hgadget'.symm, desired, hwanted, hfails⟩
        · rintro ⟨hnone, -⟩
          exact ⟨hhid, hnone.symm, hmsd⟩

/-- A HID section that is applied leaves the gadget that the new sections want. -/
theorem hid_applied
    (hbudget : new.hid.validateOtgEndpointBudget p.dir new.msd.enabled = .ok ())
    (hgadget : ∀ d ∈ r.gadget, ¬d.isEmpty)
    (h : applySent updates "hid" message (applyHidConfig p w new old.hid new.hid) r =
      (.ok (), r')) :
    (∃ hid gadget, r' = { r with hid, gadget }) ∧ (¬HidApplied p updates old new → r' = r) ∧
      (HidApplied p updates old new → r'.gadget = wantedGadget p.dir new.hid new.msd ∧
        ¬∃ desired, wantedGadget p.dir new.hid new.msd = some desired ∧
          r.gadget ≠ some desired ∧ GadgetFails w .hid desired) := by
  rcases applySent_ok h with ⟨hsent, happly⟩ | ⟨hsent, rfl⟩
  · simp only [applyHidConfig, hbudget] at happly
    split at happly
    · rename_i hsame
      cases happly
      exact ⟨⟨_, _, rfl⟩, fun _ => rfl, fun happlied => absurd hsame happlied.2⟩
    · rename_i hchanged
      have happlied : HidApplied p updates old new := ⟨hsent, hchanged⟩
      split at happly
      · obtain ⟨r1, hreload, hreconcile⟩ := Applied.andThen_ok happly
        obtain rfl := reload_ok (Applied.mapError_ok hreload)
        rcases reconcileOtgFromStore_cases (r := { r with hid := ⟨new.hid.backendType, false⟩ }) w
          .hid hbudget hgadget with ⟨hok, hsetup⟩ | ⟨desired, e', -, -, -, herror⟩
        · rw [hok] at hreconcile
          cases hreconcile
          exact ⟨⟨_, _, rfl⟩, fun hnot => absurd happlied hnot, fun _ => ⟨rfl, hsetup⟩⟩
        · rw [herror] at hreconcile
          cases hreconcile
      · obtain ⟨r1, hreconcile, hreload⟩ := Applied.andThen_ok happly
        rcases reconcileOtgFromStore_cases w .hid hbudget hgadget with
          ⟨hok, hsetup⟩ | ⟨desired, e', -, -, -, herror⟩
        · rw [hok] at hreconcile
          cases hreconcile
          obtain rfl := reload_ok (Applied.mapError_ok hreload)
          exact ⟨⟨_, _, rfl⟩, fun hnot => absurd happlied hnot, fun _ => ⟨rfl, hsetup⟩⟩
        · rw [herror] at hreconcile
          cases hreconcile
  · exact ⟨⟨_, _, rfl⟩, fun _ => rfl, fun happlied => absurd happlied.1 hsent⟩

/-- An MSD section that fails leaves the old ones in force where there was no gadget and none can
be set up. -/
theorem msd_refused
    (hbudget : new.hid.validateOtgEndpointBudget p.dir new.msd.enabled = .ok ())
    (hmsd : r.msd = if old.msd.enabled then some old.msd.msdDir else none)
    (hgadget : ∀ d ∈ r.gadget, ¬d.isEmpty)
    (h : applySent updates "msd" message (applyMsdConfig p w new old.msd new.msd) r =
      (.error message', r')) :
    (∃ hid gadget msd, r' = { r with hid, gadget, msd }) ∧ MsdApplied updates old new ∧
      (FollowsUsb p old r' ↔ r.hid = ⟨old.hid.backendType, false⟩ ∧
        wantedGadget p.dir old.hid old.msd = none ∧
        ∃ desired, wantedGadget p.dir new.hid new.msd = some desired ∧ r.gadget ≠ some desired ∧
          GadgetFails w .msd desired) := by
  obtain ⟨hsent, e, happly⟩ := applySent_error h
  simp only [applyMsdConfig, hbudget] at happly
  split at happly
  · cases happly
  · rename_i hchanged
    have happlied : MsdApplied updates old new := ⟨hsent, hchanged⟩
    -- HID is left without a backend when the last step fails
    have hreload {r1 : Running} (hframe : ∃ gadget msd, r1 = { r with gadget, msd })
        (hsetup : ¬∃ desired, wantedGadget p.dir new.hid new.msd = some desired ∧
          r.gadget ≠ some desired ∧ GadgetFails w .msd desired)
        (hlast : (if new.hid.backend = .otg ∧ old.msd.enabled ≠ new.msd.enabled then
            (reload w .msd .otg r1).mapError fun e =>
              AppError.config ("OTG HID reload failed: " ++ e.display)
          else (.ok (), r1)) = (.error e, r')) :
        (∃ hid gadget msd, r' = { r with hid, gadget, msd }) ∧ MsdApplied updates old new ∧
          (FollowsUsb p old r' ↔ r.hid = ⟨old.hid.backendType, false⟩ ∧
            wantedGadget p.dir old.hid old.msd = none ∧
            ∃ desired, wantedGadget p.dir new.hid new.msd = some desired ∧
              r.gadget ≠ some desired ∧ GadgetFails w .msd desired) := by
      obtain ⟨gadget, msd, rfl⟩ := hframe
      split at hlast
      · obtain ⟨e', hreload⟩ := Applied.mapError_error hlast
        obtain rfl := reload_error hreload
        refine ⟨⟨_, _, _, rfl⟩, happlied, ?_, fun hnone => absurd hnone.2.2 hsetup⟩
        rintro ⟨hhid', -, -⟩
        cases congrArg HidRunning.failed hhid'
      · cases hlast
    cases henabled : new.msd.enabled with
    | true =>
      rw [if_pos henabled] at happly
      rcases reconcileOtgFromStore_cases w .msd hbudget hgadget with
        ⟨hok, hsetup⟩ | ⟨desired, e', hwanted, hother, hfails, herror⟩
      · have hinit : initMsd new.msd.msdDir
            (shutdownMsd { r with gadget := wantedGadget p.dir new.hid new.msd }) =
            (.ok (), { r with
              gadget := wantedGadget p.dir new.hid new.msd
              msd := some new.msd.msdDir }) := by
          simp [initMsd, shutdownMsd, wantedGadget_msd henabled, OtgDesiredState.ofHid]
        rw [hok] at happly
        simp only [Applied.andThen, hinit] at happly
        exact hreload ⟨_, _, rfl⟩ hsetup happly
      · rw [herror] at happly
        cases happly
        refine ⟨⟨_, _, _, rfl⟩, happlied, ?_, ?_⟩
        · rintro ⟨hhid', hgadget', -⟩
          exact ⟨hhid', hgadget'.symm, desired, hwanted, hother, hfails⟩
        · rintro ⟨hhid, hnone, -⟩
          exact ⟨hhid, hnone.symm, hmsd⟩
    | false =>
      rw [if_neg (by simp [henabled])] at happly
      rcases reconcileOtgFromStore_cases (r := shutdownMsd r) w .msd hbudget hgadget with
        ⟨hok, hsetup⟩ | ⟨desired, e', hwanted, hother, hfails, herror⟩
      · rw [hok] at happly
        exact hreload ⟨_, _, rfl⟩ hsetup happly
      · rw [herror] at happly
        cases happly
        refine ⟨⟨_, _, _, rfl⟩, happlied, ?_, ?_⟩
        · rintro ⟨hhid', hgadget', -⟩
          exact ⟨hhid', hgadget'.symm, desired, hwanted, hother, hfails⟩
        · rintro ⟨hhid, hnone, -⟩
          refine ⟨hhid, hnone.symm, ?_⟩
          -- without a gadget there was no MSD to shut down
          show none = _
          split
          · rename_i hold
            rw [wantedGadget_msd hold] at hnone
            cases hnone
          · rfl

end Usb

/-! ## Whole requests -/

theorem applySections_refused {updates : List (String × Json)} {old new : AppConfig}
    {r r' : Running} {message : String} (hfollows : Follows p w old r)
    (hbudget : new.hid.validateOtgEndpointBudget p.dir new.msd.enabled = .ok ())
    (h : applySections p w updates old new r = (.error message, r')) :
    Follows p w old r' ↔
      (VideoRefused w updates old new ∧ VideoKept old new r) ∨
      (¬VideoRefused w updates old new ∧ VideoSame w updates old new ∧
        StreamSame p updates old new ∧ FirstGadgetFails p w updates old new) := by
  obtain ⟨hvideo, hstream, husb, haudio, hatx, hrtsp, hrustdesk⟩ := hfollows
  have hgadget : ∀ d ∈ r.gadget, ¬d.isEmpty := by
    rw [husb.2.1]
    exact wantedGadget_nonempty
  have hframe := applyVideoConfig_frame (w := w) old.video new.video r
  rcases Applied.andThen_error h with h1 | ⟨r1, h1, h⟩
  · -- the video section is refused
    obtain ⟨hrefused, hiff⟩ := video_refused hvideo h1
    obtain ⟨-, e, happly⟩ := applySent_error h1
    rw [happly] at hframe
    obtain ⟨capture, video, device, rfl⟩ := hframe
    constructor
    · intro hafter
      exact Or.inl ⟨hrefused, hiff.mp hafter.video⟩
    · rintro (⟨-, hkept⟩ | ⟨hnot, -⟩)
      · exact ⟨hiff.mpr hkept, hstream, husb, haudio, hatx, hrtsp, hrustdesk⟩
      · exact absurd hrefused hnot
  obtain ⟨hnot, hvideoiff⟩ := video_applied hvideo h1
  obtain ⟨capture, video, device, rfl⟩ : ∃ capture video captureDevice, r1 =
      { r with capture, webrtc := { r.webrtc with video, captureDevice } } := by
    rcases applySent_ok h1 with ⟨-, happly⟩ | ⟨-, rfl⟩
    · rw [happly] at hframe
      exact hframe
    · exact ⟨_, _, _, rfl⟩
  rcases Applied.andThen_error h with h2 | ⟨r2, h2, h⟩
  · obtain ⟨-, e, happly⟩ := applySent_error h2
    cases congrArg Prod.fst happly
  obtain ⟨⟨encoderBackend, bitratePreset, ice, rfl⟩, hstreamiff⟩ :=
    stream_applied (p := p) (by exact hstream) h2
  rcases Applied.andThen_error h with h3 | ⟨r3, h3, h⟩
  · -- the HID section fails
    obtain ⟨⟨hid, gadget, rfl⟩, happlied, husbiff⟩ := hid_refused hbudget (by exact husb) h3
    constructor
    · intro hafter
      obtain ⟨hnone, desired, hwanted, hfails⟩ := husbiff.mp hafter.usb
      exact Or.inr ⟨hnot, hvideoiff.mp hafter.video, hstreamiff.mp hafter.stream, hnone, desired,
        hwanted, Or.inl ⟨happlied, hfails⟩⟩
    · rintro (⟨hrefused, -⟩ | ⟨-, hvideosame, hstreamsame, hnone, desired, hwanted, hcases⟩)
      · exact absurd hrefused hnot
      · rcases hcases with ⟨-, hfails⟩ | ⟨hunchanged, -⟩
        · exact ⟨hvideoiff.mpr hvideosame, hstreamiff.mpr hstreamsame,
            husbiff.mpr ⟨hnone, desired, hwanted, hfails⟩, haudio, hatx, hrtsp, hrustdesk⟩
        · exact absurd happlied hunchanged
  obtain ⟨⟨hid, gadget, rfl⟩, hunchanged, hchanged⟩ := hid_applied hbudget (by exact hgadget) h3
  rcases Applied.andThen_error h with h4 | ⟨r4, h4, h⟩
  · obtain ⟨-, e, happly⟩ := applySent_error h4
    cases congrArg Prod.fst happly
  obtain ⟨⟨audio, audioEnabled, rfl⟩, haudioiff⟩ := audio_applied (by exact haudio) h4
  rcases Applied.andThen_error h with h5 | ⟨r5, h5, h⟩
  · -- the MSD section fails
    have hnonempty : ∀ d ∈ gadget, ¬d.isEmpty := by
      by_cases happlied : HidApplied p updates old new
      · have hgadget' : gadget = wantedGadget p.dir new.hid new.msd := (hchanged happlied).1
        rw [hgadget']
        exact wantedGadget_nonempty
      · have hgadget' : gadget = r.gadget := congrArg Running.gadget (hunchanged happlied)
        rw [hgadget']
        exact hgadget
    obtain ⟨⟨hid', gadget', msd, rfl⟩, hmsd, husbiff⟩ :=
      msd_refused hbudget (by exact husb.2.2) (by exact hnonempty) h5
    constructor
    · intro hafter
      obtain ⟨-, hnone, desired, hwanted, hother, hfails⟩ := husbiff.mp hafter.usb
      have hnotapplied : ¬HidApplied p updates old new := by
        intro happlied
        exact hother ((hchanged happlied).1.trans hwanted)
      exact Or.inr ⟨hnot, hvideoiff.mp hafter.video, hstreamiff.mp hafter.stream, hnone, desired,
        hwanted, Or.inr ⟨hnotapplied, hmsd, haudioiff.mp hafter.audio, hfails⟩⟩
    · rintro (⟨hrefused, -⟩ | ⟨-, hvideosame, hstreamsame, hnone, desired, hwanted, hcases⟩)
      · exact absurd hrefused hnot
      · have hother : r.gadget ≠ some desired := by
          rw [husb.2.1, hnone]
          exact (Option.some_ne_none desired).symm
        rcases hcases with ⟨happlied, hfails⟩ | ⟨hnotapplied, -, haudiosame, hfails⟩
        · exact absurd ⟨desired, hwanted, hother, hfails⟩ (hchanged happlied).2
        · have hgadget' : gadget = r.gadget := congrArg Running.gadget (hunchanged hnotapplied)
          have hhid' : hid = r.hid := congrArg Running.hid (hunchanged hnotapplied)
          subst hgadget' hhid'
          exact ⟨hvideoiff.mpr hvideosame, hstreamiff.mpr hstreamsame,
            husbiff.mpr ⟨husb.1, hnone, desired, hwanted, hother, hfails⟩,
            haudioiff.mpr haudiosame, hatx, hrtsp, hrustdesk⟩
  · obtain ⟨-, e, happly⟩ := applySent_error h
    simp only [applyAtxConfig] at happly
    split at happly <;> cases happly

theorem setVideoCodec_frame (codec : Video.VideoCodecType) (r : Running) :
    ∃ codec', (setVideoCodec w codec r).2 =
      { r with webrtc := { r.webrtc with codec := codec' } } := by
  simp only [setVideoCodec]
  split
  · exact ⟨r.webrtc.codec, rfl⟩
  · split <;> exact ⟨codec, rfl⟩

theorem enforceStreamCodecConstraints_frame (config : AppConfig) (r : Running) :
    ∃ switching codec, (enforceStreamCodecConstraints w config r).2 =
      { r with switching, webrtc := { r.webrtc with codec } } := by
  simp only [enforceStreamCodecConstraints]
  split
  · obtain ⟨codec, hcodec⟩ := setVideoCodec_frame (w := w)
      (StreamCodecConstraints.ofConfig config.constrained).preferredWebrtcCodec r
    generalize setVideoCodec w _ r = x at hcodec
    obtain ⟨_ | _, r'⟩ := x
    · exact ⟨r.switching, codec, hcodec⟩
    · exact ⟨true, codec, congrArg (fun r : Running => { r with switching := true }) hcodec⟩
  · split
    · obtain ⟨codec, hcodec⟩ := setVideoCodec_frame (w := w)
        (StreamCodecConstraints.ofConfig config.constrained).preferredWebrtcCodec r
      exact ⟨r.switching, codec, hcodec⟩
    · exact ⟨r.switching, r.webrtc.codec, rfl⟩

/-- The service starts unless it cannot have the codec or the address. -/
theorem startRtsp_cases {c : RtspConfig} (henabled : c.enabled = true) (r : Running) :
    ∃ codec, (∃ e, RtspStartFails w c r ∧
        startRtsp w c r = (.error e, { r with webrtc := { r.webrtc with codec } })) ∨
      (¬RtspStartFails w c r ∧
        startRtsp w c r = (.ok (), { r with webrtc := { r.webrtc with codec } })) := by
  obtain ⟨codec, hcodec⟩ := setVideoCodec_frame (w := w) (.ofRtsp c.codec) r
  refine ⟨codec, ?_⟩
  have hset : (∃ e, (setVideoCodec w (.ofRtsp c.codec) r).1 = .error e) ↔
      (r.webrtc.codec ≠ .ofRtsp c.codec ∧ r.webrtc.captureDevice.isSome ∧
        ∃ e, w.pipeline (.ofRtsp c.codec) = .error e) := by
    simp only [setVideoCodec]
    split
    · simp_all
    · split <;> simp_all
  simp only [startRtsp, henabled, if_true, RtspStartFails, ← hset]
  generalize setVideoCodec w (.ofRtsp c.codec) r = x at hcodec ⊢
  obtain ⟨x, r'⟩ := x
  obtain rfl := hcodec
  cases x with
  | error e => exact Or.inl ⟨_, Or.inl ⟨e, rfl⟩, rfl⟩
  | ok =>
    cases hbind : w.bind c with
    | error e =>
      refine Or.inl ⟨e, Or.inr ⟨e, rfl⟩, ?_⟩
      simp only [Applied.andThen, Applied.mapError, Except.mapError]
    | ok =>
      refine Or.inr ⟨by simp, ?_⟩
      simp only [Applied.andThen, Applied.mapError, Except.mapError]

/-- An RTSP section that fails leaves the old one in force where the service is as it was. -/
theorem rtsp_refused {config : AppConfig} {old new : RtspConfig} {r r' : Running} {e : AppError}
    (hfollows : FollowsRtsp old r) (h : applyRtspConfig w config old new r = (.error e, r')) :
    (∃ rtsp switching codec,
        r' = { r with rtsp, switching, webrtc := { r.webrtc with codec } }) ∧
      (FollowsRtsp old r' ↔
        if old.enabled then new.enabled = true ∧ ¬rtspNeedsRestart old new
        else new.enabled → RtspStartFails w new r) := by
  -- where the service is done with, enforcement has failed
  have henforce {r1 : Running} (codec : Video.VideoCodecType)
      (hframe : ∃ rtsp, r1 = { r with rtsp, webrtc := { r.webrtc with codec } })
      (hlast : enforceStreamCodecConstraints w config r1 = (.error e, r')) :
      ∃ switching codec, r' = { r1 with switching, webrtc := { r1.webrtc with codec } } := by
    have hframe := enforceStreamCodecConstraints_frame (w := w) config r1
    rw [hlast] at hframe
    exact hframe
  simp only [applyRtspConfig, applyRtspService] at h
  cases hold : old.enabled with
  | false =>
    have hnone : r.rtsp = none := by simpa [FollowsRtsp, hold] using hfollows
    cases hnew : new.enabled with
    | false =>
      simp only [hold, hnew, Bool.false_and, Bool.false_eq_true, if_false, Bool.not_false,
        if_true] at h
      obtain ⟨switching, codec, rfl⟩ := henforce r.webrtc.codec ⟨_, rfl⟩ h
      exact ⟨⟨_, _, _, rfl⟩, by simp, fun _ => hfollows⟩
    | true =>
      simp only [hold, hnew, hnone, Bool.false_and, Bool.false_eq_true, if_false, Bool.not_true,
        Option.isNone_none, if_true] at h
      obtain ⟨codec, ⟨e', hfails, hstart⟩ | ⟨hfails, hstart⟩⟩ := startRtsp_cases (w := w) hnew r
      · rw [hstart] at h
        cases h
        exact ⟨⟨_, _, _, rfl⟩, by simp [hfails], fun _ => hfollows⟩
      · rw [hstart] at h
        obtain ⟨switching, codec', rfl⟩ := henforce codec ⟨_, rfl⟩ h
        refine ⟨⟨_, _, _, rfl⟩, ?_, ?_⟩
        · intro hafter
          simp [FollowsRtsp, hold] at hafter
        · intro hharmless
          simp [hfails] at hharmless
  | true =>
    have hservice : r.rtsp = some ⟨old, true⟩ := by simpa [FollowsRtsp, hold] using hfollows
    cases hnew : new.enabled with
    | false =>
      simp only [hold, hnew, Bool.true_and, Bool.not_false, if_true] at h
      obtain ⟨switching, codec, rfl⟩ := henforce r.webrtc.codec ⟨_, rfl⟩ h
      refine ⟨⟨_, _, _, rfl⟩, ?_, by simp⟩
      intro hafter
      simp [FollowsRtsp, hold] at hafter
    | true =>
      simp only [hold, hnew, hservice, Bool.true_and, Bool.not_true, Bool.false_eq_true, if_false,
        Option.isNone_some] at h
      split at h
      · rename_i hrestart
        have hdiffers : new ≠ old := by
          intro heq
          simp [rtspNeedsRestart, heq] at hrestart
        obtain ⟨codec, ⟨e', hfails, hstart⟩ | ⟨hfails, hstart⟩⟩ :=
          startRtsp_cases (w := w) hnew { r with rtsp := some ⟨new, false⟩ }
        · rw [hstart] at h
          cases h
          refine ⟨⟨_, _, _, rfl⟩, ?_, fun hharmless => absurd hrestart (by simpa using hharmless)⟩
          intro hafter
          simp [FollowsRtsp, hold] at hafter
        · rw [hstart] at h
          obtain ⟨switching, codec', rfl⟩ := henforce codec ⟨_, rfl⟩ h
          refine ⟨⟨_, _, _, rfl⟩, ?_, fun hharmless => absurd hrestart (by simpa using hharmless)⟩
          intro hafter
          simp [FollowsRtsp, hold, hdiffers] at hafter
      · rename_i hrestart
        obtain ⟨switching, codec, rfl⟩ := henforce r.webrtc.codec ⟨_, rfl⟩ h
        exact ⟨⟨_, _, _, rfl⟩, by simp [hrestart], fun _ => hfollows⟩

/-- After a refusal the subsystems run with what is stored exactly where what failed has changed
nothing and came first among what does. -/
theorem refused_follows {s : State} {req : Request} {message : String}
    (hfollows : Follows p w s.config s.running)
    (hanswer : (handle p w s req).2 = .error message) :
    ((handle p w s req).1.config = s.config ∧ Follows p w s.config (handle p w s req).1.running) ↔
      Harmless p w s req := by
  cases req with
  | rustdesk req => cases hanswer
  | rtsp req =>
    simp only [handle, updateRtspConfig] at hanswer ⊢
    generalize happly : applyRtspConfig w _ _ _ _ = applied at hanswer ⊢
    obtain ⟨_ | _, r'⟩ := applied
    · obtain ⟨⟨rtsp, switching, codec, rfl⟩, hiff⟩ := rtsp_refused hfollows.rtsp happly
      obtain ⟨hvideo, hstream, husb, haudio, hatx, -, hrustdesk⟩ := hfollows
      constructor
      · rintro ⟨-, hafter⟩
        exact hiff.mp hafter.rtsp
      · intro hharmless
        exact ⟨rfl, hvideo, hstream, husb, haudio, hatx, hiff.mpr hharmless, hrustdesk⟩
    · cases hanswer
  | config updates =>
    simp only [handle, updateConfig, Harmless] at hanswer ⊢
    cases hmerge : mergeConfig updates s.config with
    | none => exact ⟨fun _ => trivial, fun _ => ⟨rfl, hfollows⟩⟩
    | some new =>
      cases hbudget : new.hid.validateOtgEndpointBudget p.dir new.msd.enabled with
      | error e =>
        simp only [hbudget]
        exact ⟨fun _ => trivial, fun _ => ⟨trivial, hfollows⟩⟩
      | ok =>
        simp only [hmerge, hbudget] at hanswer ⊢
        generalize happly : applySections p w updates s.config new s.running = applied at hanswer ⊢
        obtain ⟨_ | _, r'⟩ := applied
        · have hiff := applySections_refused hfollows hbudget happly
          exact ⟨fun h => hiff.mp h.2, fun h => ⟨rfl, hiff.mpr h⟩⟩
        · cases hanswer

/-- A board without devices: no gadget can be set up, and no serial port opens. -/
def bare : Platform × World :=
  (⟨⟨fun _ => false, none⟩, none, fun _ => ""⟩,
    { capture := fun _ _ _ => .error (.videoError "Video device not found")
      gadget := fun _ _ => .error (.internal "OTG not available: ConfigFS not mounted")
      opens := fun _ _ => false
      audioStops := true
      pipeline := fun _ => .ok ()
      bind := fun _ => .ok ()
      rustdesk := fun _ => none })

/-- Its configuration, without a gadget. -/
def bareConfig : AppConfig :=
  { msd := { enabled := false }
    rustdesk := { deviceId := "123456789", devicePassword := "secret" } }

def bareRunning : Running where
  mode := .mjpeg
  switching := false
  capture := none
  webrtc := {
    video := ⟨⟨1920, 1080⟩, .mjpeg, 30⟩
    captureDevice := none
    encoderBackend := none
    bitratePreset := .balanced
    ice := ⟨[], []⟩
    codec := .h264
    audioEnabled := false }
  hid := ⟨.none, false⟩
  gadget := none
  msd := none
  atx := none
  audio := ⟨false, "default", .balanced⟩
  rtsp := none
  rustdesk := none

theorem bare_follows : Follows bare.1 bare.2 bareConfig bareRunning where
  video := by intro h; cases h
  stream := ⟨rfl, rfl, rfl, by decide⟩
  usb := ⟨rfl, by decide +kernel, rfl⟩
  audio := ⟨by decide +kernel, rfl⟩
  atx := rfl
  rtsp := rfl
  rustdesk := rfl

def noGadget : AppError := .internal "OTG not available: ConfigFS not mounted"

/-- MSD is switched on where no gadget can be set up. -/
theorem refused_follows_sample :
    let t := handle bare.1 bare.2 ⟨bareConfig, bareRunning⟩
      (.config [("msd", .obj [("enabled", .bool true)])])
    t.2 = .error ("MSD initialization failed: Configuration error: OTG reconcile failed: " ++
      noGadget.display) ∧ t.1.config = bareConfig ∧
      Follows bare.1 bare.2 bareConfig t.1.running := by
  have hanswer : (handle bare.1 bare.2 ⟨bareConfig, bareRunning⟩
      (.config [("msd", .obj [("enabled", .bool true)])])).2 =
        .error ("MSD initialization failed: Configuration error: OTG reconcile failed: " ++
          noGadget.display) := by
    decide +kernel
  have hfollows := refused_follows (s := ⟨bareConfig, bareRunning⟩) bare_follows hanswer
  refine ⟨hanswer, hfollows.mpr ?_⟩
  have hmerge : mergeConfig [("msd", .obj [("enabled", .bool true)])] bareConfig =
      some { bareConfig with msd := { enabled := true } } := by
    decide +kernel
  have hunsent : ∀ key, key ≠ "msd" →
      ¬(List.lookup key [("msd", Json.obj [("enabled", .bool true)])]).isSome := by
    intro key hkey
    simp [List.lookup_cons, beq_eq_false_iff_ne.mpr hkey]
  simp only [Harmless, hmerge]
  refine Or.inr ⟨fun h => hunsent "video" (by decide) h.1, fun h => absurd h (hunsent _ (by decide)),
    fun h => absurd h (hunsent _ (by decide)), by decide +kernel, _, rfl, Or.inr ⟨?_, ?_, ?_, ?_⟩⟩
  · exact fun h => hunsent "hid" (by decide) h.1
  · exact ⟨rfl, by decide⟩
  · exact fun h => absurd h (hunsent _ (by decide))
  · exact ⟨noGadget, rfl⟩

/-- The software encoder runs on after the HID section of the same request was refused. -/
theorem refused_left_applied : ¬∀ p w s req message, Follows p w s.config s.running →
    (handle p w s req).2 = .error message →
      (handle p w s req).1.config = s.config ∧ Follows p w s.config (handle p w s req).1.running := by
  intro h
  have hanswer : (handle bare.1 bare.2 ⟨bareConfig, bareRunning⟩ (.config
      [("stream", .obj [("encoder", .str "software")]),
        ("hid", .obj [("backend", .str "ch9329")])])).2 = .error
        "HID configuration invalid: Configuration error: HID reload failed: Internal error: Failed to reload HID backend" := by
    decide +kernel
  have hencoder : (handle bare.1 bare.2 ⟨bareConfig, bareRunning⟩ (.config
      [("stream", .obj [("encoder", .str "software")]),
        ("hid", .obj [("backend", .str "ch9329")])])).1.running.webrtc.encoderBackend =
        some .software := by
    decide +kernel
  have hfollows := (h _ _ ⟨bareConfig, bareRunning⟩ _ _ bare_follows hanswer).2.stream.2.1
  rw [hencoder] at hfollows
  cases hfollows

end StreamBox.Subsystems
