import StreamBox.Lib.TSys
import StreamBox.RustDesk.Config
import StreamBox.RustDesk.HidAdapter
import StreamBox.Video.CodecConstraints

/-!
# RustDesk connection

One connection: its state, the handlers of the messages a client sends, and the
calls they make.

* **Boundary** — `Env` is what a connection takes from other crates (secretbox,
  the protobuf decoder, SHA-256, the encoder registry); `Io` is what one call
  finds around it (the clock, the socket, the answers of the video manager).
* **Handlers** — each takes the session so far and appends the calls it makes to
  `Session.effects`, in order.
* **Receiving** — `handleMessage` opens a frame with the session key, falls back
  to the raw bytes when that fails, and dispatches on the message.
* **Loop** — `Loop.step`: one event of the `select!` loop, or `close_all` from
  outside at any point.
-/

namespace StreamBox.RustDesk

open StreamBox.Hid (CanonicalKey KeyboardEvent)
open StreamBox.Lib
open StreamBox.Video

structure Env where
  /-- `secretbox::open(ciphertext, nonce, key)`. -/
  secretboxOpen : Bytes → Bytes → Bytes → Option Bytes
  /-- `box_::open(sealed, zero nonce, their public key, our temporary secret key)`. -/
  boxOpen : Bytes → Bytes → Option Bytes
  decodeMessage : Bytes → Except String Message
  parseIdPk : Bytes → Option IdPk
  sha256 : Bytes → Bytes
  /-- `EncoderRegistry::is_codec_available`. -/
  isCodecAvailable : VideoCodecType → Bool

structure Io where
  /-- The clock, in nanoseconds. -/
  now : Nat
  /-- Whether a write to the socket succeeds. -/
  sendOk : Bool := true
  /-- The answer of `video_manager.codec_constraints()`. -/
  constraints : StreamCodecConstraints := .unrestricted
  /-- The resolution in the answer of `video_manager.get_video_info()`. -/
  resolution : Option (UInt32 × UInt32) := none

inductive ConnectionState
  | pending | handshaking | active | closed
  | error (reason : String)
  deriving DecidableEq, Repr

/-- An incoming connection. The shared controllers are present or not; a
streaming task is its codec, or whether it runs. -/
structure Connection where
  deviceId : String
  password : String
  hid : Bool
  audio : Bool
  videoManager : Bool
  peerId : String := ""
  peerName : String := ""
  state : ConnectionState := .pending
  screenWidth : UInt32 := 1920
  screenHeight : UInt32 := 1080
  videoTask : Option VideoCodecType := none
  audioTask : Bool := false
  sessionKey : Option Bytes := none
  encryptionEnabled : Bool := false
  encSeqnum : Nat := 0
  decSeqnum : Nat := 0
  negotiatedCodec : Option VideoCodecType := none
  /-- `video_frame_tx` is set. -/
  videoFrameTx : Bool := false
  /-- `last_mouse_time` of the input throttler. -/
  lastMouseTime : Int
  lastDelay : Nat := 0
  lastTestDelaySent : Option Nat := none
  lastCapsLock : Bool := false
  relativeMouseActive : Bool := false
  /-- The locals of `handle_tcp`. -/
  videoStreaming : Bool := false
  audioStreaming : Bool := false
  deriving DecidableEq, Repr

/-- The mouse throttle interval: 16 ms. -/
def mouseInterval : Int := 16000000

/-- A new connection takes its password and device id from the configuration. -/
def Connection.new (config : RustDeskConfig) (hid audio videoManager : Bool) (now : Nat) :
    Connection where
  deviceId := config.deviceId
  password := config.devicePassword
  hid := hid
  audio := audio
  videoManager := videoManager
  lastMouseTime := now - mouseInterval

structure PeerInfo where
  username : String := "one-kvm"
  platform : String := "Windows"
  version : String := "1.4.5"
  displayWidth : UInt32
  displayHeight : UInt32
  h264 : Bool
  h265 : Bool
  vp8 : Bool
  deriving DecidableEq, Repr

inductive Reply
  | hash (salt challenge : String)
  | loginError (error : String)
  | loginResponse (info : PeerInfo)
  | testDelay (td : TestDelay)
  | signedId (deviceId : String)
  deriving DecidableEq, Repr

/-- A call out of the connection. -/
inductive Effect
  /-- `HidController::send_keyboard`. -/
  | keyboard (event : KeyboardEvent)
  /-- `HidController::send_mouse`. -/
  | mouse (event : Hid.MouseEvent)
  /-- `VideoStreamManager::set_bitrate_preset`. -/
  | setBitratePreset (preset : BitratePreset)
  /-- `VideoStreamManager::request_keyframe`. -/
  | requestKeyframe
  /-- `VideoStreamManager::codec_constraints`, which changes nothing. -/
  | codecConstraints
  /-- `VideoStreamManager::get_video_info`, which changes nothing. -/
  | getVideoInfo
  /-- A `run_video_streaming` task: sets the codec of the shared pipeline and
  subscribes to it. -/
  | runVideoStreaming (codec : VideoCodecType)
  | runAudioStreaming
  /-- A call of `handle_login_request_arc`. -/
  | loginRequest (lr : LoginRequest)
  /-- A reply, sealed under a key and a sequence number or plain. -/
  | send (sealing : Option (Bytes × Nat)) (reply : Reply)
  deriving DecidableEq, Repr

/-- A connection and the calls it has made. -/
structure Session where
  conn : Connection
  effects : List Effect := []
  deriving DecidableEq, Repr

namespace Session

def emit (s : Session) (effect : Effect) : Session := { s with effects := s.effects ++ [effect] }

/-- Change the connection's own state. -/
def update (s : Session) (f : Connection → Connection) : Session := { s with conn := f s.conn }

@[simp] theorem update_conn (s : Session) (f : Connection → Connection) :
    (s.update f).conn = f s.conn := rfl

@[simp] theorem update_effects (s : Session) (f : Connection → Connection) :
    (s.update f).effects = s.effects := rfl

@[simp] theorem emit_conn (s : Session) (e : Effect) : (s.emit e).conn = s.conn := rfl

@[simp] theorem emit_effects (s : Session) (e : Effect) :
    (s.emit e).effects = s.effects ++ [e] := rfl

/-! ## Sending -/

def sent (io : Io) : Except String Unit :=
  if io.sendOk then .ok () else .error "send failed"

/-- Send a plain framed reply. -/
def sendFramed (io : Io) (s : Session) (reply : Reply) : Except String Unit × Session :=
  (sent io, s.emit (.send none reply))

/-- Send a reply, sealed with the next sequence number once a session key is set. -/
def sendEncrypted (io : Io) (s : Session) (reply : Reply) : Except String Unit × Session :=
  match s.conn.sessionKey with
  | some key =>
      let seqnum := s.conn.encSeqnum + 1
      let s := s.update fun c => { c with encSeqnum := seqnum }
      (sent io, s.emit (.send (some (key, seqnum)) reply))
  | none => sendFramed io s reply

/-! ## Handshake -/

/-- Decrypt the symmetric key with our temporary Curve25519 secret key. -/
def decryptSymmetricKey (env : Env) (theirTempPublicKey sealedSymmetricKey : Bytes) :
    Option Bytes :=
  if theirTempPublicKey.length ≠ 32 then none
  else
    match env.boxOpen sealedSymmetricKey theirTempPublicKey with
    | some key => if key.length = 32 then some key else none
    | none => none

/-- Negotiate session encryption from the peer's public key, then send the Hash
message with the salt for the password. A failure leaves the key as it is. -/
def handlePeerPublicKey (env : Env) (io : Io) (s : Session) (pk : PublicKey) :
    Except String Unit × Session :=
  let s :=
    if pk.asymmetricValue.length = 32 ∧ pk.symmetricValue ≠ [] then
      match decryptSymmetricKey env pk.asymmetricValue pk.symmetricValue with
      | some key => s.update fun c => { c with sessionKey := some key, encryptionEnabled := true }
      | none => s.update fun c => { c with encryptionEnabled := false }
    else s.update fun c => { c with encryptionEnabled := false }
  sendEncrypted io s (.hash s.conn.deviceId "")

/-- Take the peer's id from its SignedId (the 64 bytes of the signature are
skipped, not checked) and answer with ours. -/
def handleSignedId (env : Env) (io : Io) (s : Session) (si : SignedId) :
    Except String Unit × Session :=
  let idPkBytes := if si.id.length > 64 then si.id.drop 64 else si.id
  let s :=
    match env.parseIdPk idPkBytes with
    | some idPk => if idPk.id ≠ "" then s.update fun c => { c with peerId := idPk.id } else s
    | none => s
  sendFramed io s (.signedId s.conn.deviceId)

/-! ## Login -/

/-- Whether the password check of `handle_login_request_arc` accepts a request. -/
def loginAccepted (env : Env) (c : Connection) (lr : LoginRequest) : Bool :=
  c.password = "" || (lr.password ≠ [] && verifyPassword env.sha256 c.password c.deviceId lr.password)

/-- Ask the video manager, if there is one, for the codec constraints. -/
def currentCodecConstraints (io : Io) (s : Session) : StreamCodecConstraints × Session :=
  if s.conn.videoManager then (io.constraints, s.emit .codecConstraints)
  else (.unrestricted, s)

/-- Select the best available video codec: H264 > H265 > VP8 > VP9. -/
def negotiateVideoCodec (env : Env) (io : Io) (s : Session) : VideoCodecType × Session :=
  let (constraints, s) := currentCodecConstraints io s
  let usable codec := constraints.isWebrtcCodecAllowed codec && env.isCodecAvailable codec
  (([VideoCodecType.h264, .h265, .vp8, .vp9].find? usable).getD constraints.preferredWebrtcCodec, s)

/-- The login response with the display size and the available encoders. -/
def createLoginResponse (env : Env) (io : Io) (s : Session) : Reply × Session :=
  let (constraints, s) := currentCodecConstraints io s
  let usable codec := constraints.isWebrtcCodecAllowed codec && env.isCodecAvailable codec
  let size := (s.conn.screenWidth, s.conn.screenHeight)
  let (size, s) :=
    if s.conn.videoManager then (io.resolution.getD size, s.emit .getVideoInfo) else (size, s)
  (.loginResponse
    { displayWidth := size.1
      displayHeight := size.2
      h264 := usable .h264
      h265 := usable .h265
      vp8 := usable .vp8 }, s)

/-- Check the password; a refusal is answered and keeps the connection open for
a retry. -/
def handleLoginRequest (env : Env) (io : Io) (s : Session) (lr : LoginRequest) :
    Except String Bool × Session :=
  let s := s.emit (.loginRequest lr)
  let reply (accepted : Bool) (r : Except String Unit × Session) : Except String Bool × Session :=
    (r.1.map fun _ => accepted, r.2)
  if s.conn.password ≠ "" ∧ lr.password = [] then
    reply false (sendEncrypted io s (.loginError "Empty Password"))
  else if s.conn.password ≠ "" ∧
      verifyPassword env.sha256 s.conn.password s.conn.deviceId lr.password = false then
    reply false (sendEncrypted io s (.loginError "Wrong Password"))
  else
    let s := s.update fun c => { c with state := .active }
    let (negotiated, s) := negotiateVideoCodec env io s
    let s := s.update fun c => { c with negotiatedCodec := some negotiated }
    let (response, s) := createLoginResponse env io s
    reply true (sendEncrypted io s response)

/-! ## Streaming tasks -/

def startVideoStreaming (s : Session) : Session :=
  if s.conn.videoManager then
    let codec := s.conn.negotiatedCodec.getD .h264
    (s.update fun c => { c with videoTask := some codec }).emit (.runVideoStreaming codec)
  else s

def startAudioStreaming (s : Session) : Session :=
  if s.conn.audio then
    (s.update fun c => { c with audioTask := true }).emit .runAudioStreaming
  else s

/-- Start what a successful login starts, once per connection. -/
def startStreaming (s : Session) : Session :=
  let s := s.update fun c => { c with videoFrameTx := true }
  let s :=
    if s.conn.videoStreaming then s
    else (startVideoStreaming s).update fun c => { c with videoStreaming := true }
  if s.conn.audioStreaming then s
  else (startAudioStreaming s).update fun c => { c with audioStreaming := true }

/-- Stop the video task, change the codec, and restart once login has stored the
frame sender. -/
def switchVideoCodec (s : Session) (newCodec : VideoCodecType) : Session :=
  let s := s.update fun c => { c with videoTask := none, negotiatedCodec := some newCodec }
  if s.conn.videoFrameTx then startVideoStreaming s else s

/-! ## Misc -/

/-- Map RustDesk image quality to a bitrate preset. -/
def qualityPreset (imageQuality : Int) : Option BitratePreset :=
  if imageQuality = 2 then some .speed
  else if imageQuality = 3 then some .balanced
  else if imageQuality = 4 then some .quality
  else none

/-- Map RustDesk PreferCodec; Auto, AV1 and unknown values keep the codec. -/
def preferredCodec (prefer : Int) : Option VideoCodecType :=
  if prefer = 1 then some .vp9
  else if prefer = 2 then some .h264
  else if prefer = 3 then some .h265
  else if prefer = 4 then some .vp8
  else none

/-- The quality part of an option message. -/
def applyImageQuality (s : Session) (imageQuality : Int) : Session :=
  match qualityPreset imageQuality with
  | some preset => if s.conn.videoManager then s.emit (.setBitratePreset preset) else s
  | none => s

/-- The codec part of an option message. -/
def applyPreferredCodec (env : Env) (io : Io) (s : Session) (newCodec : VideoCodecType) :
    Session :=
  if s.conn.negotiatedCodec = some newCodec then s
  else
    let (constraints, s) := currentCodecConstraints io s
    if !constraints.isWebrtcCodecAllowed newCodec then s
    else if env.isCodecAvailable newCodec then switchVideoCodec s newCodec
    else s

/-- Handle codec and quality preferences of the client. -/
def handleOptionMessage (env : Env) (io : Io) (s : Session) (opt : OptionMessage) : Session :=
  let s := applyImageQuality s opt.imageQuality
  match opt.supportedDecodingPrefer.bind preferredCodec with
  | some newCodec => applyPreferredCodec env io s newCodec
  | none => s

def handleMisc (env : Env) (io : Io) (s : Session) : Misc → Session
  | .switchDisplay _ => s
  | .option opt => handleOptionMessage env io s opt
  | .refreshVideo refresh =>
      if refresh ∧ s.conn.videoManager then s.emit .requestKeyframe else s
  | .videoReceived _ => s
  | .other => s

/-! ## Latency -/

/-- Answer a client's TestDelay, or take the round trip from an echo of ours. -/
def handleTestDelay (io : Io) (s : Session) (td : TestDelay) : Except String Unit × Session :=
  if td.fromClient then
    sendEncrypted io s (.testDelay
      { time := td.time, fromClient := false, lastDelay := s.conn.lastDelay, targetBitrate := 0 })
  else
    match s.conn.lastTestDelaySent with
    | some sentTime =>
        let rtt := (io.now - sentTime) / 1000000 % 2 ^ 32
        (.ok (), s.update fun c => { c with lastTestDelaySent := none, lastDelay := rtt })
    | none => (.ok (), s)

/-- Send a TestDelay of our own and remember when. -/
def sendTestDelay (io : Io) (s : Session) : Except String Unit × Session :=
  let (result, s) := sendEncrypted io s (.testDelay
    { time := io.now / 1000000, fromClient := false, lastDelay := s.conn.lastDelay })
  match result with
  | .ok () => (.ok (), s.update fun c => { c with lastTestDelaySent := some io.now })
  | .error e => (.error e, s)

/-! ## Input -/

def sendKeyboard (s : Session) (event : KeyboardEvent) : Session :=
  if s.conn.hid then s.emit (.keyboard event) else s

/-- A key event: RustDesk sends Caps Lock in the modifiers only, so a change of
it is replayed as a key press. -/
def handleKeyEvent (s : Session) (ke : KeyEvent) : Session :=
  let capsLock := ke.modifiers.contains ControlKey.capsLock
  let s :=
    if capsLock ≠ s.conn.lastCapsLock then
      let s := s.update fun c => { c with lastCapsLock := capsLock }
      let s := sendKeyboard s { eventType := .down, key := .capsLock }
      sendKeyboard s { eventType := .up, key := .capsLock }
    else s
  match convertKeyEvent ke with
  | some event => sendKeyboard s event
  | none => s

/-- Pure moves, absolute or relative, are throttled. -/
def isPureMove (me : MouseEvent) : Bool :=
  me.eventType = MouseType.MOVE || me.eventType = MouseType.MOVE_RELATIVE

/-- The mouse mode after an event. -/
def nextRelative (me : MouseEvent) (relative : Bool) : Bool :=
  if me.eventType = MouseType.MOVE_RELATIVE then true
  else if me.eventType = MouseType.MOVE then false
  else relative

def handleMouseEvent (io : Io) (s : Session) (me : MouseEvent) : Session :=
  let relative := nextRelative me s.conn.relativeMouseActive
  let s := s.update fun c => { c with relativeMouseActive := relative }
  let due := s.conn.lastMouseTime + mouseInterval ≤ io.now
  if isPureMove me ∧ ¬ due then s
  else
    let markSent (s : Session) := s.update fun c => { c with lastMouseTime := io.now }
    -- `should_send_mouse_move` marks the time of a move that is let through
    let s := if isPureMove me then markSent s else s
    if s.conn.hid then
      let events := convertMouseEvent me s.conn.screenWidth s.conn.screenHeight relative
      let s := events.foldl (fun s event => s.emit (.mouse event)) s
      if isPureMove me then s else markSent s
    else s

/-! ## Receiving -/

/-- Nonce from a sequence number: its eight little-endian bytes, then zeros. -/
def getNonce (seqnum : Nat) : Bytes :=
  (List.range 8).map (fun i => UInt8.ofNat (seqnum / 256 ^ i)) ++ List.replicate 16 0

/-- The frame opened under the session key and the next sequence number. -/
def openFrame (env : Env) (c : Connection) (data : Bytes) : Option Bytes :=
  c.sessionKey.bind fun key => env.secretboxOpen data (getNonce (c.decSeqnum + 1)) key

/-- Try to decrypt once a session key is set; a frame that does not open is
taken as a plain message. -/
def receive (env : Env) (c : Connection) (data : Bytes) : Connection × Bytes :=
  match openFrame env c data with
  | some decrypted => ({ c with decSeqnum := c.decSeqnum + 1 }, decrypted)
  | none => (c, data)

/-- The message arms of `handle_message_arc`. -/
def dispatch (env : Env) (io : Io) (s : Session) : Message → Except String Unit × Session
  | .publicKey pk => handlePeerPublicKey env io s pk
  | .loginRequest lr =>
      let s := s.update fun c => { c with peerId := lr.myId, peerName := lr.myName }
      match handleLoginRequest env io s lr with
      | (.ok true, s) => (.ok (), startStreaming s)
      | (.ok false, s) => (.ok (), s)
      | (.error e, s) => (.error e, s)
  | .keyEvent ke => (.ok (), if s.conn.state = .active then handleKeyEvent s ke else s)
  | .mouseEvent me => (.ok (), if s.conn.state = .active then handleMouseEvent io s me else s)
  | .clipboard => (.ok (), s)
  | .misc misc => (.ok (), handleMisc env io s misc)
  | .testDelay td => handleTestDelay io s td
  | .signedId si => handleSignedId env io s si
  | .other _ => (.ok (), s)
  | .empty => (.ok (), s)

/-- Handle an incoming frame. -/
def handleMessage (env : Env) (io : Io) (c : Connection) (data : Bytes) :
    Except String Unit × Session :=
  let (c, msgData) := receive env c data
  match env.decodeMessage msgData with
  | .ok msg => dispatch env io { conn := c } msg
  | .error e => (.error e, { conn := c })

end Session

/-! ## The loop -/

/-- A connection in `handle_tcp`. -/
structure Loop where
  conn : Connection
  running : Bool := true
  deriving DecidableEq, Repr

inductive LoopEvent
  /-- A framed message from the client. -/
  | frame (data : Bytes) (io : Io)
  /-- A video or audio frame to send. -/
  | media (io : Io)
  | testDelayTick (io : Io)
  /-- The shutdown signal; the end of the stream and a read error leave the loop the same way. -/
  | shutdown
  /-- `ConnectionManager::close_all`, at any point. -/
  | closeAll

namespace Loop

/-- The loop is left: the streaming tasks are stopped and the state is Closed. -/
def ended (c : Connection) : Loop where
  conn := { c with state := .closed, videoTask := none, audioTask := false }
  running := false

/-- Go on after a handler, or leave the loop on its error. -/
def after (r : Except String Unit × Session) : Loop :=
  match r.1 with
  | .ok () => { conn := r.2.conn }
  | .error _ => ended r.2.conn

/-- Send a media frame, sealed with the next sequence number. -/
def sendMedia (io : Io) (c : Connection) : Loop :=
  let c := if c.sessionKey.isSome then { c with encSeqnum := c.encSeqnum + 1 } else c
  if io.sendOk then { conn := c } else ended c

/-- The timer: one TestDelay is on the way at a time, and a failed send is only
logged. -/
def tick (io : Io) (c : Connection) : Session :=
  if c.state = .active ∧ c.lastTestDelaySent = none then (Session.sendTestDelay io { conn := c }).2
  else { conn := c }

def step (env : Env) (l : Loop) : LoopEvent → Option Loop
  | .frame data io =>
      if l.running then some (after (Session.handleMessage env io l.conn data)) else none
  | .media io => if l.running then some (sendMedia io l.conn) else none
  | .testDelayTick io => if l.running then some { conn := (tick io l.conn).conn } else none
  | .shutdown => if l.running then some (ended l.conn) else none
  | .closeAll => some { l with conn := { l.conn with state := .closed } }

/-- The calls an event makes. -/
def stepEffects (env : Env) (l : Loop) : LoopEvent → List Effect
  | .frame data io => (Session.handleMessage env io l.conn data).2.effects
  | .testDelayTick io => (tick io l.conn).effects
  | .media _ | .shutdown | .closeAll => []

/-- A connection as `handle_tcp` starts it. -/
def start (config : RustDeskConfig) (hid audio videoManager : Bool) (now : Nat) : Loop where
  conn := { Connection.new config hid audio videoManager now with state := .handshaking }

/-- The runs of a connection with a configuration. -/
def system (env : Env) (config : RustDeskConfig) : TSys Loop LoopEvent :=
  .ofFn (fun l => ∃ hid audio videoManager now, l = start config hid audio videoManager now)
    (step env)

theorem step_frame (env : Env) (l : Loop) (hrun : l.running = true) (data : Bytes) (io : Io) :
    step env l (.frame data io) = some (after (Session.handleMessage env io l.conn data)) :=
  if_pos hrun

/-- A run goes on with any frame while the loop runs. -/
theorem trace_frame {env : Env} {config : RustDeskConfig} {tr : List (Loop × LoopEvent × Loop)}
    {l : Loop} (h : (system env config).Trace tr l) (hrun : l.running = true) (data : Bytes)
    (io : Io) :
    (system env config).Trace
      (tr ++ [(l, .frame data io, after (Session.handleMessage env io l.conn data))])
      (after (Session.handleMessage env io l.conn data)) :=
  .step h (step_frame env l hrun data io)

end Loop

end StreamBox.RustDesk
