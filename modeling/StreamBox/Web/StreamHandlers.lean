import StreamBox.Video.StreamManager

/-!
# The handlers that set mode and codec

What may change the stream mode, the WebRTC codec and the stored constraints: the start of
the program, `stream_mode_set`, the handlers of the RTSP, RustDesk and stream sections, the
full update, the RustDesk clients, and the tasks that these spawn. A step of a call is what
happens between two accesses to what they share; a request is one that `validate` accepts.
-/

namespace StreamBox.Web.StreamHandlers

open StreamBox.Lib StreamBox.Config StreamBox.Video StreamBox.Video.Streamer
open StreamBox.Video.StreamManager

/-! ## Where the calls are -/

/-- `set_video_codec`; `ensure` starts a pipeline for the new codec and may fail. -/
inductive SetVideoCodec
  | compare | write | ensure
  deriving DecidableEq, Repr

/-- `enforce_stream_codec_constraints`, with the constraints that it has read: `leave` and
`switch` leave MJPEG, `correct` changes the codec. -/
inductive Enforce
  | constraints
  | mode (constraints : StreamCodecConstraints)
  | leave (constraints : StreamCodecConstraints) (pc : SetVideoCodec)
  | switch (pc : Transaction)
  | codec (constraints : StreamCodecConstraints)
  | correct (constraints : StreamCodecConstraints) (pc : SetVideoCodec)
  deriving DecidableEq, Repr

/-- The start of the RTSP service, if it is enabled, and the enforcement after it. -/
inductive Startup
  | codec (codec : VideoCodecType) (pc : SetVideoCodec)
  | bind
  | enforce (pc : Enforce)
  deriving DecidableEq, Repr

/-- The mode and the codec that a request names. -/
structure ModeRequest where
  newMode : StreamMode
  videoCodec : Option VideoCodecType
  deriving DecidableEq, Repr

/-- `stream_mode_set`; `codecOnly` says that WebRTC mode stays and the codec changes. -/
inductive StreamModeSet
  | constraints
  | mode (req : ModeRequest)
  | codec (req : ModeRequest) (currentMode : StreamMode)
  | set (req : ModeRequest) (codecOnly : Bool) (pc : SetVideoCodec)
  | notify (req : ModeRequest)
  | transaction (req : ModeRequest) (pc : Transaction)
  | active (req : ModeRequest) (tx : ModeSwitchTransaction)
  | activeCodec (req : ModeRequest) (tx : ModeSwitchTransaction)
  deriving DecidableEq, Repr

/-- `update_rtsp_config`; from `service` to `bind` it holds the guard of the service. -/
inductive UpdateRtsp
  | old
  | update (old : RtspConfig)
  | new (old : RtspConfig)
  | lock (old new : RtspConfig)
  | service (old new : RtspConfig)
  | codec (old new : RtspConfig) (pc : SetVideoCodec)
  | bind (old new : RtspConfig)
  | enforce (old : RtspConfig) (pc : Enforce)
  | rollback (old : RtspConfig)
  deriving DecidableEq, Repr

/-- `update_rustdesk_config` and `update_stream_config`; what they apply besides touches
neither mode nor codec. -/
inductive UpdateSection
  | update
  | enforce (pc : Enforce)
  deriving DecidableEq, Repr

/-- `update_config`, with the configurations before and after. -/
inductive UpdateConfig
  | old
  | set (old new : AppConfig)
  | apply (old : AppConfig)
  | rollback (old : AppConfig)
  deriving DecidableEq, Repr

/-- A connection negotiates the codec at its login and handles an option message. -/
inductive ClientPc
  | negotiate (available : List VideoCodecType)
  | compare (codec : VideoCodecType) (available : Bool)
  | constraints (codec : VideoCodecType) (available : Bool)
  | abort (codec : VideoCodecType)
  | restart (codec : VideoCodecType)
  deriving DecidableEq, Repr

inductive AppError
  | badRequest (message : String)
  | videoError
  deriving DecidableEq, Repr

structure StreamModeResponse where
  success : Bool
  mode : String
  transitionId : Option Nat
  switching : Bool
  message : String
  deriving DecidableEq, Repr

inductive Call
  | startup (pc : Startup)
  | streamModeSet (mode : String) (pc : StreamModeSet)
  | updateRtsp (req : RtspConfigUpdate) (pc : UpdateRtsp)
  | updateRustdesk (req : RustDeskConfigUpdate) (pc : UpdateSection)
  | updateStream (req : StreamConfigUpdate) (pc : UpdateSection)
  | updateConfig (req : UpdateConfigRequest) (pc : UpdateConfig)
  | client (client : Nat) (pc : ClientPc)
  /-- The video task of a client, up to its subscription. -/
  | video (codec : VideoCodecType) (pc : SetVideoCodec)
  | switch (switch : Switch)
  | answered (response : Except AppError StreamModeResponse)
  | returned
  deriving DecidableEq, Repr

/-- A RustDesk connection. -/
structure Client where
  negotiatedCodec : Option VideoCodecType := none
  videoTask : Option Nat := none
  deriving DecidableEq, Repr

structure State where
  manager : Manager
  rtspService : Bool
  /-- The call that holds the guard of the service. -/
  rtspGuard : Option Nat := none
  clients : List Client := []
  calls : List Call
  deriving DecidableEq, Repr

/-! ## Steps on the manager -/

/-- Where a call is after a step; it may leave the task of a switch behind. -/
inductive Progress (pc : Type)
  | goes (pc : pc)
  | spawns (switch : Switch)
  | returns (ok : Bool)
  deriving Repr

def setVideoCodec (m : Manager) (codec : VideoCodecType) (fails : Bool) :
    SetVideoCodec → Manager × Progress SetVideoCodec
  | .compare => (m, if m.videoCodec = codec then .returns true else .goes .write)
  | .write => ({ m with videoCodec := codec }, .goes .ensure)
  | .ensure => (m, .returns !fails)

def enforce (m : Manager) (fails : Bool) : Enforce → Manager × Progress Enforce
  | .constraints => (m, .goes (.mode (.ofConfig m.config)))
  | .mode constraints =>
    match m.mode with
    | .mjpeg =>
      (m, if constraints.allowMjpeg then .returns true else .goes (.leave constraints .compare))
    | .webrtc => (m, .goes (.codec constraints))
  | .leave constraints pc =>
    match setVideoCodec m constraints.preferredWebrtcCodec fails pc with
    | (m, .goes pc) => (m, .goes (.leave constraints pc))
    | (m, .spawns switch) => (m, .spawns switch)
    | (m, .returns ok) => (m, if ok then .goes (.switch .read) else .returns false)
  | .switch pc =>
    match m.transaction .webrtc fails pc with
    | (m, .goes pc) => (m, .goes (.switch pc))
    | (m, .spawns switch _) => (m, .spawns switch)
    | (m, .returns result) => (m, .returns result.isSome)
  | .codec constraints =>
    (m, if constraints.isWebrtcCodecAllowed m.videoCodec then .returns true
      else .goes (.correct constraints .compare))
  | .correct constraints pc =>
    match setVideoCodec m constraints.preferredWebrtcCodec fails pc with
    | (m, .goes pc) => (m, .goes (.correct constraints pc))
    | (m, .spawns switch) => (m, .spawns switch)
    | (m, .returns ok) => (m, .returns ok)

/-! ## stream_mode_set -/

def parseMode (mode : String) : Option ModeRequest :=
  match mode.toLower with
  | "mjpeg" => some ⟨.mjpeg, none⟩
  | "webrtc" | "h264" => some ⟨.webrtc, some .h264⟩
  | "h265" => some ⟨.webrtc, some .h265⟩
  | "vp8" => some ⟨.webrtc, some .vp8⟩
  | "vp9" => some ⟨.webrtc, some .vp9⟩
  | _ => none

/-- The checks of a request against the constraints. -/
def checkRequest (constraints : StreamCodecConstraints) (mode : String) :
    Except AppError ModeRequest :=
  match parseMode mode with
  | none =>
    .error (.badRequest ("Invalid mode '" ++ mode ++
      "'. Valid modes: mjpeg, h264, h265, vp8, vp9"))
  | some req =>
    let refused := fun id =>
      AppError.badRequest ("Codec '" ++ id ++ "' is not allowed: " ++ constraints.reason)
    if req.newMode = .mjpeg ∧ !constraints.isMjpegAllowed then .error (refused "mjpeg")
    else
      match req.videoCodec with
      | some codec =>
        if !constraints.isWebrtcCodecAllowed codec then .error (refused codec.toId) else .ok req
      | none => .ok req

/-- What the response calls the requested mode. -/
def ModeRequest.id (req : ModeRequest) : String :=
  match req.newMode, req.videoCodec with
  | .mjpeg, _ => "mjpeg"
  | .webrtc, some codec => codec.toId
  | .webrtc, none => "webrtc"

def respond (req : ModeRequest) (tx : ModeSwitchTransaction) (activeMode : String) :
    StreamModeResponse :=
  let noSwitchNeeded := !tx.accepted && !tx.switching && tx.transitionId.isNone
  { success := tx.accepted || noSwitchNeeded
    mode := if tx.accepted then req.id else activeMode
    transitionId := tx.transitionId
    switching := tx.switching
    message :=
      if tx.accepted then "Switching to " ++ req.id ++ " mode"
      else if tx.switching then "Mode switch already in progress"
      else "No switch needed" }

/-- Where the handler goes on once the codec is set. -/
def afterCodec (req : ModeRequest) (codecOnly : Bool) : StreamModeSet :=
  if codecOnly then .notify req else .transaction req .read

/-- A step of `stream_mode_set`, with the switch that it may spawn. -/
def streamModeSet (m : Manager) (mode : String) (fails : Bool) :
    StreamModeSet → Manager × Option Switch × Call
  | .constraints =>
    match checkRequest (.ofConfig m.config) mode with
    | .error error => (m, none, .answered (.error error))
    | .ok req => (m, none, .streamModeSet mode (.mode req))
  | .mode req => (m, none, .streamModeSet mode (.codec req m.mode))
  | .codec req currentMode =>
    let codecChanged := req.videoCodec.any (· ≠ m.videoCodec)
    let codecOnly := currentMode = .webrtc && req.newMode = .webrtc && codecChanged
    (m, none, .streamModeSet mode
      (if req.videoCodec.isSome then .set req codecOnly .compare else afterCodec req codecOnly))
  | .set req codecOnly pc =>
    match setVideoCodec m (req.videoCodec.getD .h264) fails pc with
    | (m, .goes pc) => (m, none, .streamModeSet mode (.set req codecOnly pc))
    | (m, _) => (m, none, .streamModeSet mode (afterCodec req codecOnly))
  | .notify req =>
    ({ m with issued := m.issued + 1 }, none, .answered (.ok
      { success := true, mode := req.id, transitionId := some m.issued, switching := false
        message := "Codec switched to " ++ req.id }))
  | .transaction req pc =>
    match m.transaction req.newMode fails pc with
    | (m, .goes pc) => (m, none, .streamModeSet mode (.transaction req pc))
    | (m, .spawns switch tx) => (m, some switch, .streamModeSet mode (.active req tx))
    | (m, .returns (some tx)) => (m, none, .streamModeSet mode (.active req tx))
    | (m, .returns none) => (m, none, .answered (.error .videoError))
  | .active req tx =>
    match m.mode with
    | .mjpeg => (m, none, .answered (.ok (respond req tx "mjpeg")))
    | .webrtc => (m, none, .streamModeSet mode (.activeCodec req tx))
  | .activeCodec req tx => (m, none, .answered (.ok (respond req tx m.videoCodec.toId)))

/-! ## The other handlers -/

/-- The codec that a connection negotiates: H264 > H265 > VP8 > VP9. -/
def negotiate (constraints : StreamCodecConstraints) (available : List VideoCodecType) :
    VideoCodecType :=
  ([VideoCodecType.h264, .h265, .vp8, .vp9].find? fun codec =>
    constraints.isWebrtcCodecAllowed codec && available.contains codec).getD
      constraints.preferredWebrtcCodec

/-- A running service has to be restarted. -/
def needRestart (old new : RtspConfig) : Bool :=
  old.bind ≠ new.bind || old.port ≠ new.port || old.path ≠ new.path || old.codec ≠ new.codec ||
    old.username ≠ new.username || old.password ≠ new.password ||
    old.allowOneClient ≠ new.allowOneClient

/-- An aborted task of a client is gone. -/
def Call.abort : Call → Call
  | video _ _ => returned
  | call => call

/-- The call has returned. -/
def Call.done : Call → Bool
  | answered _ | returned => true
  | _ => false

/-- The connection that the call is of. -/
def Call.client? : Call → Option Nat
  | client i _ => some i
  | _ => none

namespace State

/-- The state in which call `i` is `call` and a switch may have been spawned. -/
def moves (s : State) (i : Nat) (m : Manager) (switch : Option Switch) (call : Call) : State :=
  { s with manager := m, calls := s.calls.set i call ++ (switch.map Call.switch).toList }

/-- Call `i` goes on where `enforce` leads it. -/
def enforces (s : State) (i : Nat) (fails : Bool) (pc : Enforce) (goes : Enforce → Call)
    (returns : Bool → Call) : State :=
  match enforce s.manager fails pc with
  | (m, .goes pc) => s.moves i m none (goes pc)
  | (m, .spawns switch) => s.moves i m (some switch) (returns true)
  | (m, .returns ok) => s.moves i m none (returns ok)

/-- Call `i` goes on where `set_video_codec` leads it. -/
def setsCodec (s : State) (i : Nat) (codec : VideoCodecType) (fails : Bool) (pc : SetVideoCodec)
    (goes : SetVideoCodec → Call) (returns : Bool → Call) : State :=
  match setVideoCodec s.manager codec fails pc with
  | (m, .goes pc) => s.moves i m none (goes pc)
  | (m, .spawns switch) => s.moves i m (some switch) (returns true)
  | (m, .returns ok) => s.moves i m none (returns ok)

/-- Call `i` stores a configuration, unless the database fails. -/
def stores (s : State) (i : Nat) (config : AppConfig) (fails : Bool) (stored failed : Call) :
    State :=
  if fails then s.moves i s.manager none failed
  else s.moves i { s.manager with config } none stored

/-- An error of the service is only logged. -/
def startup (s : State) (i : Nat) (fails : Bool) : Startup → State
  | .codec codec pc =>
    s.setsCodec i codec fails pc (fun pc => .startup (.codec codec pc))
      fun ok => .startup (if ok then .bind else .enforce .constraints)
  | .bind => s.moves i s.manager none (.startup (.enforce .constraints))
  | .enforce pc => s.enforces i fails pc (fun pc => .startup (.enforce pc)) fun _ => .returned

def updateRtsp (s : State) (i : Nat) (req : RtspConfigUpdate) (fails : Bool) :
    UpdateRtsp → Option State
  | .old => some (s.moves i s.manager none (.updateRtsp req (.update s.manager.config.rtsp)))
  | .update old =>
    let config := s.manager.config
    some (s.stores i { config with rtsp := req.applyTo config.rtsp } fails
      (.updateRtsp req (.new old)) .returned)
  | .new old =>
    some (s.moves i s.manager none (.updateRtsp req (.lock old s.manager.config.rtsp)))
  | .lock old new =>
    if s.rtspGuard = none then
      some { s.moves i s.manager none (.updateRtsp req (.service old new)) with
        rtspGuard := some i }
    else none
  | .service old new =>
    let rtspService := s.rtspService && !(old.enabled && !new.enabled)
    if new.enabled && (!rtspService || needRestart old new) then
      some { s.moves i s.manager none (.updateRtsp req (.codec old new .compare)) with
        rtspService }
    else
      some { s.moves i s.manager none (.updateRtsp req (.enforce old .constraints)) with
        rtspService, rtspGuard := none }
  | .codec old new pc =>
    let t := s.setsCodec i (.ofRtsp new.codec) fails pc
      (fun pc => .updateRtsp req (.codec old new pc))
      fun ok => .updateRtsp req (if ok then .bind old new else .rollback old)
    some (if pc = .ensure ∧ fails then { t with rtspGuard := none } else t)
  | .bind old _ =>
    if fails then
      some { s.moves i s.manager none (.updateRtsp req (.rollback old)) with rtspGuard := none }
    else
      some { s.moves i s.manager none (.updateRtsp req (.enforce old .constraints)) with
        rtspService := true, rtspGuard := none }
  | .enforce old pc =>
    some (s.enforces i fails pc (fun pc => .updateRtsp req (.enforce old pc))
      fun ok => if ok then .returned else .updateRtsp req (.rollback old))
  | .rollback old =>
    some (s.stores i { s.manager.config with rtsp := old } fails .returned .returned)

/-- `config` is what the update makes of the stored configuration. -/
def updateSection (s : State) (i : Nat) (config : AppConfig) (fails : Bool)
    (goes : UpdateSection → Call) : UpdateSection → State
  | .update => s.stores i config fails (goes (.enforce .constraints)) .returned
  | .enforce pc => s.enforces i fails pc (fun pc => goes (.enforce pc)) fun _ => .returned

/-- No step of `update_config` enforces the constraints. -/
def updateConfig (s : State) (i : Nat) (req : UpdateConfigRequest) (fails : Bool) :
    UpdateConfig → State
  | .old =>
    let old := s.manager.config
    s.moves i s.manager none
      (if fails then .returned else .updateConfig req (.set old (req.merge old)))
  | .set old new => s.stores i new fails (.updateConfig req (.apply old)) .returned
  | .apply old =>
    s.moves i s.manager none (if fails then .updateConfig req (.rollback old) else .returned)
  | .rollback old => s.stores i old fails .returned .returned

def client (s : State) (i : Nat) (client : Nat) : ClientPc → State
  | .negotiate available =>
    s.moves i s.manager none
      (.client client (.restart (negotiate (.ofConfig s.manager.config) available)))
  | .compare codec available =>
    let negotiated := (s.clients[client]?.bind (·.negotiatedCodec))
    s.moves i s.manager none
      (if negotiated = some codec then .returned
      else .client client (.constraints codec available))
  | .constraints codec available =>
    s.moves i s.manager none
      (if (StreamCodecConstraints.ofConfig s.manager.config).isWebrtcCodecAllowed codec &&
          available then .client client (.abort codec)
      else .returned)
  | .abort codec =>
    let calls :=
      match s.clients[client]?.bind (·.videoTask) with
      | some task => s.calls.modify task Call.abort
      | none => s.calls
    { s with
      clients := s.clients.modify client ({ · with videoTask := none })
      calls := calls.set i (.client client (.restart codec)) }
  | .restart codec =>
    { s with
      clients := s.clients.modify client fun _ =>
        { negotiatedCodec := some codec, videoTask := some s.calls.length }
      calls := s.calls.set i .returned ++ [.video codec .compare] }

/-- The next step of call `i`, unless it waits or has returned. -/
def next (s : State) (i : Nat) (fails : Bool) : Call → Option State
  | .startup pc => some (s.startup i fails pc)
  | .streamModeSet mode pc =>
    let (m, switch, call) := StreamHandlers.streamModeSet s.manager mode fails pc
    some (s.moves i m switch call)
  | .updateRtsp req pc => s.updateRtsp i req fails pc
  | .updateRustdesk req pc =>
    let config := s.manager.config
    some (s.updateSection i { config with rustdesk := req.applyTo config.rustdesk } fails
      (.updateRustdesk req) pc)
  | .updateStream req pc =>
    let config := s.manager.config
    some (s.updateSection i { config with stream := req.applyTo config.stream } fails
      (.updateStream req) pc)
  | .updateConfig req pc => some (s.updateConfig i req fails pc)
  | .client client pc => some (s.client i client pc)
  | .video codec pc => some (s.setsCodec i codec fails pc (.video codec) fun _ => .returned)
  | .switch switch =>
    let (m, pc) := s.manager.doSwitchMode switch fails switch.pc
    some (s.moves i m none (pc.elim .returned fun pc => .switch { switch with pc }))
  | .answered _ | .returned => none

end State

/-! ## Runs -/

/-- What happens. The streamer changes its state by itself, though never back to
`Uninitialized`. -/
inductive Event
  | streamModeSet (mode : String)
  | updateRtsp (req : RtspConfigUpdate)
  | updateRustdesk (req : RustDeskConfigUpdate)
  | updateStream (req : StreamConfigUpdate)
  | updateConfig (req : UpdateConfigRequest)
  | login (available : List VideoCodecType)
  | option (client : Nat) (codec : VideoCodecType) (available : Bool)
  | streamer (state : StreamerState)
  | advance (i : Nat) (fails : Bool)
  deriving DecidableEq, Repr

def State.begin (s : State) (call : Call) : State :=
  { s with calls := s.calls ++ [call] }

def step (s : State) : Event → Option State
  | .streamModeSet mode => some (s.begin (.streamModeSet mode .constraints))
  | .updateRtsp req => some (s.begin (.updateRtsp req .old))
  | .updateRustdesk req => some (s.begin (.updateRustdesk req .update))
  | .updateStream req => some (s.begin (.updateStream req .update))
  | .updateConfig req => some (s.begin (.updateConfig req .old))
  | .login available =>
    some { s.begin (.client s.clients.length (.negotiate available)) with
      clients := s.clients ++ [{}] }
  | .option client codec available =>
    -- the messages of a connection are handled one after the other
    if client < s.clients.length ∧ ∀ call ∈ s.calls, call.client? ≠ some client then
      some (s.begin (.client client (.compare codec available)))
    else none
  | .streamer state =>
    if state = .uninitialized then none
    else some { s with manager := { s.manager with streamer := state } }
  | .advance i fails => s.calls[i]?.bind (s.next i fails)

/-- What the start of the program begins with, for a stored configuration. -/
def boot (config : AppConfig) (streamer : StreamerState) : State where
  manager := { mode := config.stream.mode, streamer, config }
  rtspService := config.rtsp.enabled
  calls :=
    [.startup (if config.rtsp.enabled then .codec (.ofRtsp config.rtsp.codec) .compare
      else .enforce .constraints)]

def system : TSys State Event :=
  .ofFn (fun s => ∃ config streamer, s = boot config streamer) step

end StreamBox.Web.StreamHandlers
