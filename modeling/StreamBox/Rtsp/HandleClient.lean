import StreamBox.Rtsp.Request

/-!
# One RTSP connection

`handle_client` and, once a client plays, `stream_video_interleaved`. Each has a buffer of its
own. An event is what one of the loops waits for; what a request does is in `handleRequest` and
`handlePlayControlRequest`.
-/

namespace StreamBox.Rtsp

open StreamBox.RustDesk StreamBox.Config

structure RtspConnectionState where
  sessionId : String
  setupDone : Bool := false
  interleavedChannel : UInt8 := 0
  deriving DecidableEq, Repr

/-- Where the task of the connection is. A task that has failed left `handle_client` by an
error, one that has returned ran to its end. -/
inductive Phase
  | requests | playing | returned | failed
  deriving DecidableEq, Repr

structure Response where
  version : Version
  status : Nat
  headers : List (String × String)
  body : String
  deriving DecidableEq, Repr

inductive Sent
  | response (response : Response)
  | video (bytes : Bytes)
  deriving DecidableEq, Repr

/-- What a connection depends on besides its socket. -/
structure Env where
  parse : MessageParser
  /-- The base64 decoder. -/
  decode : List Char → Option Bytes
  config : RtspConfig
  /-- What `build_sdp` gives when so many requests have been handled. -/
  sdp : Nat → String
  /-- Whether there are encoded frames to subscribe to. -/
  subscribes : Bool

structure Conn where
  phase : Phase := .requests
  state : RtspConnectionState
  buffer : Bytes := []
  /-- How many writes the socket still takes, if there is an end to them. -/
  writesLeft : Option Nat := none
  sent : List Sent := []
  /-- The number of bytes of the stream that no buffer holds any more. -/
  position : Nat := 0
  /-- Where each request `handle_client` handled began, and its bytes. -/
  handled : List (Nat × Bytes) := []
  /-- The same for the requests of `stream_video_interleaved`. -/
  controls : List (Nat × Bytes) := []
  deriving DecidableEq, Repr

namespace Conn

/-- `?` on an error. What ends the video loop is logged, and `handle_client` goes on. -/
def fail (c : Conn) : Conn :=
  { c with phase := if c.phase = .playing then .returned else .failed }

def write (c : Conn) (item : Sent) : Conn :=
  match c.writesLeft with
  | some 0 => c.fail
  | left => { c with writesLeft := left.map (· - 1), sent := c.sent ++ [item] }

/-- Whether a write now would succeed. -/
def writable (c : Conn) : Prop := c.writesLeft ≠ some 0

instance (c : Conn) : Decidable c.writable := inferInstanceAs (Decidable (_ ≠ _))

/-- The bytes in front of `rest` leave the buffer. -/
def consume (c : Conn) (rest : Bytes) : Conn :=
  { c with buffer := rest, position := c.position + (c.buffer.length - rest.length) }

/-- The bytes in front of `rest`, and where they began. -/
def front (c : Conn) (rest : Bytes) : Nat × Bytes :=
  (c.position, c.buffer.take (c.buffer.length - rest.length))

end Conn

def sendSimpleResponse (code : Nat) (body : String) (c : Conn) : Conn :=
  c.write (.response { version := .v1_0, status := code, headers := [], body := body })

def responseTo (req : RtspRequest) (code : Nat) (extraHeaders : List (String × String))
    (body sessionId : String) : Response where
  version := req.version
  status := code
  headers :=
    [("CSeq", String.ofList ((req.header "cseq").getD ['1']))] ++
      (if sessionId = "" then [] else [("Session", sessionId)]) ++ extraHeaders
  body := body

def sendResponse (req : RtspRequest) (code : Nat) (extraHeaders : List (String × String))
    (body sessionId : String) (c : Conn) : Conn :=
  c.write (.response (responseTo req code extraHeaders body sessionId))

/-- `stream_video_interleaved` takes the connection over, with an empty buffer. -/
def enterStream (env : Env) (c : Conn) : Conn :=
  let c := { c with buffer := [], position := c.position + c.buffer.length }
  { c with phase := if env.subscribes then .playing else .returned }

/-- Goes on with `next` unless the last write failed. -/
def unlessFailed (next : Conn → Conn) (c : Conn) : Conn :=
  if c.phase = .requests then next c else c

def authorized (env : Env) (req : RtspRequest) : Bool :=
  match rtspAuthCredentials env.config with
  | none => true
  | some expected => extractBasicAuth env.decode req = some expected

def handleSetup (req : RtspRequest) (c : Conn) : Conn :=
  let transport := (req.header "transport").getD []
  if ! isTcpTransportRequest transport then
    sendResponse req 461 [("Transport", "RTP/AVP/TCP;unicast;interleaved=0-1")] ""
      c.state.sessionId c
  else
    let interleaved := (parseInterleavedChannel transport).getD 0
    let next := if interleaved = 255 then 255 else interleaved + 1
    let transportResp := "RTP/AVP/TCP;unicast;interleaved=" ++ toString interleaved.toNat ++
      "-" ++ toString next.toNat
    sendResponse req 200 [("Transport", transportResp)] "" c.state.sessionId
      { c with state := { c.state with setupDone := true, interleavedChannel := interleaved } }

def handlePlay (env : Env) (req : RtspRequest) (c : Conn) : Conn :=
  if ! c.state.setupDone then sendResponse req 455 [] "" c.state.sessionId c
  else unlessFailed (enterStream env) (sendResponse req 200 [] "" c.state.sessionId c)

def handleDescribe (env : Env) (req : RtspRequest) (c : Conn) : Conn :=
  let sdp := env.sdp c.handled.length
  if sdp = "" then sendResponse req 500 [] "" c.state.sessionId c
  else sendResponse req 200 [("Content-Type", "application/sdp")] sdp c.state.sessionId c

def handleMethod (env : Env) (req : RtspRequest) (c : Conn) : Conn :=
  match req.method with
  | .options =>
    sendResponse req 200 [("Public", "OPTIONS, DESCRIBE, SETUP, PLAY, TEARDOWN")] "" "" c
  | .describe => handleDescribe env req c
  | .setup => handleSetup req c
  | .play => handlePlay env req c
  | .teardown =>
    unlessFailed ({ · with phase := .returned }) (sendResponse req 200 [] "" c.state.sessionId c)
  | _ => sendResponse req 405 [] "" c.state.sessionId c

/-- What `handle_client` does with one text it took from its buffer. -/
def handleRequest (env : Env) (raw : List Char) (c : Conn) : Conn :=
  match parseRtspRequest env.parse raw with
  | none => sendSimpleResponse 400 "" c
  | some req =>
    if ! isValidRtspPath req.method req.uri env.config.path.toList then
      sendResponse req 404 [] "" "" c
    else if ! authorized env req then
      sendResponse req 401 [("WWW-Authenticate", "Basic realm=\"One-KVM RTSP\"")] "" "" c
    else handleMethod env req c

def handlePlayControlRequest (req : RtspRequest) (c : Conn) : Conn :=
  match req.method with
  | .teardown =>
    let c := sendResponse req 200 [] "" c.state.sessionId c
    { c with phase := .returned }
  | .options =>
    sendResponse req 200
      [("Public", "OPTIONS, DESCRIBE, SETUP, PLAY, GET_PARAMETER, SET_PARAMETER, TEARDOWN")] ""
      c.state.sessionId c
  | .getParameter | .setParameter => sendResponse req 200 [] "" c.state.sessionId c
  | _ => sendResponse req 405 [] "" c.state.sessionId c

/-! ## The loops over a buffer -/

/-- The `while let` loop of `handle_client`, over at most `n` requests. -/
def serveRequests (env : Env) : Nat → Conn → Conn
  | 0, c => c
  | n + 1, c =>
    match takeRtspRequestFromBuffer c.buffer with
    | none => c
    | some (raw, rest) =>
      let c' := handleRequest env raw { c.consume rest with handled := c.handled ++ [c.front rest] }
      if c'.phase = .requests then serveRequests env n c' else c'

/-- Drops at most `n` interleaved frames. -/
def stripFrames : Nat → Conn → Conn
  | 0, c => c
  | n + 1, c =>
    match stripInterleavedFramesPrefix c.buffer with
    | none => c
    | some rest => stripFrames n (c.consume rest)

/-- `while strip_interleaved_frames_prefix(..) {}` -/
def stripAll (c : Conn) : Conn := stripFrames c.buffer.length c

/-- The `while let` loop of `stream_video_interleaved`, over at most `n` requests. -/
def serveControls (env : Env) : Nat → Conn → Conn
  | 0, c => c
  | n + 1, c =>
    match takeRtspRequestFromBuffer c.buffer with
    | none => c
    | some (raw, rest) =>
      let c := { c.consume rest with controls := c.controls ++ [c.front rest] }
      match parseRtspRequest env.parse raw with
      -- the frames behind a text that does not parse are not stripped
      | none => serveControls env n c
      | some req =>
        let c' := handlePlayControlRequest req c
        if c'.phase = .playing then serveControls env n (stripAll c') else c'

/-! ## Events -/

inductive Event
  /-- A read; an empty one is the end of the stream. -/
  | read (chunk : Bytes)
  | readError
  /-- An encoded frame, as the RTP packets it is cut into. -/
  | frame (packets : List Bytes)
  /-- A frame that cannot be packetized. -/
  | frameError
  deriving DecidableEq, Repr

def interleavedHeader (channel : UInt8) (packet : Bytes) : Bytes :=
  let len := packet.length % 65536
  [dollar, channel, UInt8.ofNat (len / 256), UInt8.ofNat (len % 256)]

def sendInterleavedRtp (packet : Bytes) (c : Conn) : Conn :=
  let c := c.write (.video (interleavedHeader c.state.interleavedChannel packet))
  if c.phase = .playing then c.write (.video packet) else c

def sendFrame (packets : List Bytes) (c : Conn) : Conn :=
  packets.foldl (fun c packet => if c.phase = .playing then sendInterleavedRtp packet c else c) c

def onRead (env : Env) (chunk : Bytes) (c : Conn) : Conn :=
  let filled := { c with buffer := c.buffer ++ chunk }
  match c.phase with
  | .requests =>
    if chunk = [] then { c with phase := .returned }
    else serveRequests env filled.buffer.length filled
  | .playing =>
    if chunk = [] then { c with phase := .returned }
    else serveControls env filled.buffer.length (stripAll filled)
  | _ => c

def Conn.onEvent (env : Env) (c : Conn) : Event → Conn
  | .read chunk => onRead env chunk c
  | .readError => if c.phase = .requests ∨ c.phase = .playing then c.fail else c
  | .frame packets => if c.phase = .playing then sendFrame packets c else c
  | .frameError => if c.phase = .playing then c.fail else c

/-- A connection before its first read. -/
def Conn.Fresh (c : Conn) : Prop :=
  ∃ sessionId writesLeft,
    c = { state := { sessionId := sessionId }, writesLeft := writesLeft }

end StreamBox.Rtsp
