import StreamBox.RustDesk.Config

/-!
# The stored configuration

The sections of the configuration that say how the video is streamed, and the requests that
change them. What the other sections hold is left out.
-/

namespace StreamBox.Config

open StreamBox.RustDesk

inductive StreamMode
  | webrtc | mjpeg
  deriving DecidableEq, Repr

/-- RTSP output codec. -/
inductive RtspCodec
  | h264 | h265
  deriving DecidableEq, Repr

structure StreamConfig where
  mode : StreamMode := .mjpeg
  deriving DecidableEq, Repr

structure RtspConfig where
  enabled : Bool := false
  bind : String := "0.0.0.0"
  port : UInt16 := 8554
  path : String := "live"
  allowOneClient : Bool := true
  codec : RtspCodec := .h264
  username : Option String := none
  password : Option String := none
  deriving DecidableEq, Repr

structure AppConfig where
  stream : StreamConfig := {}
  rustdesk : RustDeskConfig
  rtsp : RtspConfig := {}
  deriving DecidableEq, Repr

/-! ## Requests -/

structure StreamConfigUpdate where
  mode : Option StreamMode := none
  deriving DecidableEq, Repr

def StreamConfigUpdate.applyTo (req : StreamConfigUpdate) (config : StreamConfig) :
    StreamConfig where
  mode := req.mode.getD config.mode

def trimMatches (p : Char → Bool) (s : String) : String :=
  let chars := s.toList.dropWhile p
  String.ofList (chars.reverse.dropWhile p).reverse

/-- `White_Space` of Unicode. -/
def isWhitespace (c : Char) : Bool :=
  let n := c.toNat
  (0x9 ≤ n && n ≤ 0xD) || (0x2000 ≤ n && n ≤ 0x200A) ||
    [0x20, 0x85, 0xA0, 0x1680, 0x2028, 0x2029, 0x202F, 0x205F, 0x3000].contains n

/-- An empty string clears the setting. -/
def orCleared (value : Option String) (old : Option String) : Option String :=
  match value with
  | some value => if value = "" then none else some value
  | none => old

structure RustDeskConfigUpdate where
  enabled : Option Bool := none
  rendezvousServer : Option String := none
  relayServer : Option String := none
  relayKey : Option String := none
  devicePassword : Option String := none
  deriving DecidableEq, Repr

def RustDeskConfigUpdate.applyTo (req : RustDeskConfigUpdate) (config : RustDeskConfig) :
    RustDeskConfig :=
  { config with
    enabled := req.enabled.getD config.enabled
    rendezvousServer := req.rendezvousServer.getD config.rendezvousServer
    relayServer := orCleared req.relayServer config.relayServer
    relayKey := orCleared (req.relayKey.map (trimMatches isWhitespace)) config.relayKey
    devicePassword :=
      match req.devicePassword with
      | some password => if password = "" then config.devicePassword else password
      | none => config.devicePassword }

structure RtspConfigUpdate where
  enabled : Option Bool := none
  bind : Option String := none
  port : Option UInt16 := none
  path : Option String := none
  allowOneClient : Option Bool := none
  codec : Option RtspCodec := none
  username : Option String := none
  password : Option String := none
  deriving DecidableEq, Repr

def RtspConfigUpdate.applyTo (req : RtspConfigUpdate) (config : RtspConfig) : RtspConfig where
  enabled := req.enabled.getD config.enabled
  bind := req.bind.getD config.bind
  port := req.port.getD config.port
  path := (req.path.map (trimMatches (· == '/'))).getD config.path
  allowOneClient := req.allowOneClient.getD config.allowOneClient
  codec := req.codec.getD config.codec
  username := orCleared req.username config.username
  password := orCleared req.password config.password

/-- The body of a full update, as it merges into these sections; `null` clears an optional
setting. -/
structure UpdateConfigRequest where
  mode : Option StreamMode := none
  rustdeskEnabled : Option Bool := none
  rtspEnabled : Option Bool := none
  rtspBind : Option String := none
  rtspPort : Option UInt16 := none
  rtspPath : Option String := none
  rtspAllowOneClient : Option Bool := none
  rtspCodec : Option RtspCodec := none
  rtspUsername : Option (Option String) := none
  rtspPassword : Option (Option String) := none
  deriving DecidableEq, Repr

/-- `merge_json` on these sections. -/
def UpdateConfigRequest.merge (req : UpdateConfigRequest) (config : AppConfig) : AppConfig where
  stream := { mode := req.mode.getD config.stream.mode }
  rustdesk := { config.rustdesk with enabled := req.rustdeskEnabled.getD config.rustdesk.enabled }
  rtsp :=
    { enabled := req.rtspEnabled.getD config.rtsp.enabled
      bind := req.rtspBind.getD config.rtsp.bind
      port := req.rtspPort.getD config.rtsp.port
      path := req.rtspPath.getD config.rtsp.path
      allowOneClient := req.rtspAllowOneClient.getD config.rtsp.allowOneClient
      codec := req.rtspCodec.getD config.rtsp.codec
      username := req.rtspUsername.getD config.rtsp.username
      password := req.rtspPassword.getD config.rtsp.password }

end StreamBox.Config
