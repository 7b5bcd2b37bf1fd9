import StreamBox.Config.Schema
import StreamBox.Lib.Json

/-!
# The sections of the configuration

The configuration as `AppConfig` declares it, with every section, and how it is written as JSON
and read back: a member that is missing takes the default of its section.
-/

namespace StreamBox.Config.Sections

open StreamBox.Lib StreamBox.RustDesk

/-! ## Values of settings -/

inductive HidBackend
  | otg | ch9329 | none
  deriving DecidableEq, Repr

instance : Setting HidBackend where
  toJson
    | .otg => .str "otg"
    | .ch9329 => .str "ch9329"
    | .none => .str "none"
  ofJson := Json.variant [("otg", .otg), ("ch9329", .ch9329), ("none", .none)]
  ofJson_toJson a := by cases a <;> rfl

/-- OTG HID function profile. -/
inductive OtgHidProfile
  | full | fullNoConsumer | legacyKeyboard | legacyMouseRelative | custom
  deriving DecidableEq, Repr

instance : Setting OtgHidProfile where
  toJson
    | .full => .str "full"
    | .fullNoConsumer => .str "full_no_consumer"
    | .legacyKeyboard => .str "legacy_keyboard"
    | .legacyMouseRelative => .str "legacy_mouse_relative"
    | .custom => .str "custom"
  ofJson := Json.variant [("full", .full), ("full_no_consumer", .fullNoConsumer),
    ("legacy_keyboard", .legacyKeyboard), ("legacy_mouse_relative", .legacyMouseRelative),
    ("custom", .custom), ("full_no_msd", .full), ("full_no_consumer_no_msd", .fullNoConsumer)]
  ofJson_toJson a := by cases a <;> rfl

/-- OTG endpoint budget policy. -/
inductive OtgEndpointBudget
  | auto | five | six | unlimited
  deriving DecidableEq, Repr

instance : Setting OtgEndpointBudget where
  toJson
    | .auto => .str "auto"
    | .five => .str "five"
    | .six => .str "six"
    | .unlimited => .str "unlimited"
  ofJson := Json.variant [("auto", .auto), ("five", .five), ("six", .six),
    ("unlimited", .unlimited)]
  ofJson_toJson a := by cases a <;> rfl

inductive AtxDriverType
  | gpio | usbRelay | serial | none
  deriving DecidableEq, Repr

instance : Setting AtxDriverType where
  toJson
    | .gpio => .str "gpio"
    | .usbRelay => .str "usbrelay"
    | .serial => .str "serial"
    | .none => .str "none"
  ofJson := Json.variant [("gpio", .gpio), ("usbrelay", .usbRelay), ("serial", .serial),
    ("none", .none)]
  ofJson_toJson a := by cases a <;> rfl

inductive ActiveLevel
  | high | low
  deriving DecidableEq, Repr

instance : Setting ActiveLevel where
  toJson
    | .high => .str "high"
    | .low => .str "low"
  ofJson := Json.variant [("high", .high), ("low", .low)]
  ofJson_toJson a := by cases a <;> rfl

inductive EncoderType
  | auto | software | vaapi | nvenc | qsv | amf | rkmpp | v4l2m2m
  deriving DecidableEq, Repr

instance : Setting EncoderType where
  toJson
    | .auto => .str "auto"
    | .software => .str "software"
    | .vaapi => .str "vaapi"
    | .nvenc => .str "nvenc"
    | .qsv => .str "qsv"
    | .amf => .str "amf"
    | .rkmpp => .str "rkmpp"
    | .v4l2m2m => .str "v4l2m2m"
  ofJson := Json.variant [("auto", .auto), ("software", .software), ("vaapi", .vaapi),
    ("nvenc", .nvenc), ("qsv", .qsv), ("amf", .amf), ("rkmpp", .rkmpp), ("v4l2m2m", .v4l2m2m)]
  ofJson_toJson a := by cases a <;> rfl

instance : Setting StreamMode where
  toJson
    | .webrtc => .str "webrtc"
    | .mjpeg => .str "mjpeg"
  ofJson := Json.variant [("webrtc", .webrtc), ("mjpeg", .mjpeg)]
  ofJson_toJson a := by cases a <;> rfl

instance : Setting RtspCodec where
  toJson
    | .h264 => .str "h264"
    | .h265 => .str "h265"
  ofJson := Json.variant [("h264", .h264), ("h265", .h265)]
  ofJson_toJson a := by cases a <;> rfl

/-- Bitrate preset, or a bitrate in kbps. -/
inductive BitratePreset
  | speed | balanced | quality
  | custom (kbps : UInt32)
  deriving DecidableEq, Repr

/-- The variant is a member `type`, what it holds the member `value`. -/
instance : Setting BitratePreset where
  toJson
    | .speed => .obj [("type", .str "Speed")]
    | .balanced => .obj [("type", .str "Balanced")]
    | .quality => .obj [("type", .str "Quality")]
    | .custom kbps => .obj [("type", .str "Custom"), ("value", toJson kbps)]
  ofJson
    | .obj members =>
      match members.lookup "type", members.lookup "value" with
      | some (.str "Speed"), none | some (.str "Speed"), some .null => some .speed
      | some (.str "Balanced"), none | some (.str "Balanced"), some .null => some .balanced
      | some (.str "Quality"), none | some (.str "Quality"), some .null => some .quality
      | some (.str "Custom"), some value => (ofJson value).map .custom
      | _, _ => none
    | _ => none
  ofJson_toJson a := by
    cases a with
    | speed | balanced | quality => rfl
    | custom kbps => simp [List.lookup_cons]

/-! ## Sections -/

structure AuthConfig where
  sessionTimeoutSecs : UInt32 := 86400
  singleUserAllowMultipleSessions : Bool := false
  totpEnabled : Bool := false
  totpSecret : Option String := none
  deriving DecidableEq, Repr

def AuthConfig.fields : List (Lib.Field AuthConfig) :=
  [.of "session_timeout_secs" (·.sessionTimeoutSecs) fun c v =>
      { c with sessionTimeoutSecs := v },
    .of "single_user_allow_multiple_sessions" (·.singleUserAllowMultipleSessions) fun c v =>
      { c with singleUserAllowMultipleSessions := v },
    .of "totp_enabled" (·.totpEnabled) fun c v => { c with totpEnabled := v },
    .of "totp_secret" (·.totpSecret) fun c v => { c with totpSecret := v }]

instance : Setting AuthConfig :=
  .record AuthConfig.fields {} (by decide +kernel) fun c => by
    simp [AuthConfig.fields, Field.of]

structure VideoConfig where
  device : Option String := none
  format : Option String := none
  width : UInt32 := 1920
  height : UInt32 := 1080
  fps : UInt32 := 30
  quality : UInt32 := 80
  deriving DecidableEq, Repr

def VideoConfig.fields : List (Lib.Field VideoConfig) :=
  [.of "device" (·.device) fun c v => { c with device := v },
    .of "format" (·.format) fun c v => { c with format := v },
    .of "width" (·.width) fun c v => { c with width := v },
    .of "height" (·.height) fun c v => { c with height := v },
    .of "fps" (·.fps) fun c v => { c with fps := v },
    .of "quality" (·.quality) fun c v => { c with quality := v }]

instance : Setting VideoConfig :=
  .record VideoConfig.fields {} (by decide +kernel) fun c => by
    simp [VideoConfig.fields, Field.of]

structure OtgDescriptorConfig where
  vendorId : UInt16 := 0x1d6b
  productId : UInt16 := 0x0104
  manufacturer : String := "One-KVM"
  product : String := "One-KVM USB Device"
  serialNumber : Option String := none
  deriving DecidableEq, Repr

def OtgDescriptorConfig.fields : List (Lib.Field OtgDescriptorConfig) :=
  [.must "vendor_id" (·.vendorId) fun c v => { c with vendorId := v },
    .must "product_id" (·.productId) fun c v => { c with productId := v },
    .must "manufacturer" (·.manufacturer) fun c v => { c with manufacturer := v },
    .must "product" (·.product) fun c v => { c with product := v },
    .of "serial_number" (·.serialNumber) fun c v => { c with serialNumber := v }]

instance : Setting OtgDescriptorConfig :=
  .record OtgDescriptorConfig.fields {} (by decide +kernel) fun c => by
    simp [OtgDescriptorConfig.fields, Field.of, Field.must]

/-- OTG HID function selection (used when profile is Custom). -/
structure OtgHidFunctions where
  keyboard : Bool := true
  mouseRelative : Bool := true
  mouseAbsolute : Bool := true
  consumer : Bool := true
  deriving DecidableEq, Repr

def OtgHidFunctions.fields : List (Lib.Field OtgHidFunctions) :=
  [.of "keyboard" (·.keyboard) fun c v => { c with keyboard := v },
    .of "mouse_relative" (·.mouseRelative) fun c v => { c with mouseRelative := v },
    .of "mouse_absolute" (·.mouseAbsolute) fun c v => { c with mouseAbsolute := v },
    .of "consumer" (·.consumer) fun c v => { c with consumer := v }]

instance : Setting OtgHidFunctions :=
  .record OtgHidFunctions.fields {} (by decide +kernel) fun c => by
    simp [OtgHidFunctions.fields, Field.of]

structure HidConfig where
  backend : HidBackend := .none
  otgUdc : Option String := none
  otgDescriptor : OtgDescriptorConfig := {}
  otgProfile : OtgHidProfile := .full
  otgEndpointBudget : OtgEndpointBudget := .auto
  otgFunctions : OtgHidFunctions := {}
  otgKeyboardLeds : Bool := false
  ch9329Port : String := "/dev/ttyUSB0"
  ch9329Baudrate : UInt32 := 9600
  mouseAbsolute : Bool := true
  deriving DecidableEq, Repr

def HidConfig.fields : List (Lib.Field HidConfig) :=
  [.of "backend" (·.backend) fun c v => { c with backend := v },
    .of "otg_udc" (·.otgUdc) fun c v => { c with otgUdc := v },
    .of "otg_descriptor" (·.otgDescriptor) fun c v => { c with otgDescriptor := v },
    .of "otg_profile" (·.otgProfile) fun c v => { c with otgProfile := v },
    .of "otg_endpoint_budget" (·.otgEndpointBudget) fun c v => { c with otgEndpointBudget := v },
    .of "otg_functions" (·.otgFunctions) fun c v => { c with otgFunctions := v },
    .of "otg_keyboard_leds" (·.otgKeyboardLeds) fun c v => { c with otgKeyboardLeds := v },
    .of "ch9329_port" (·.ch9329Port) fun c v => { c with ch9329Port := v },
    .of "ch9329_baudrate" (·.ch9329Baudrate) fun c v => { c with ch9329Baudrate := v },
    .of "mouse_absolute" (·.mouseAbsolute) fun c v => { c with mouseAbsolute := v }]

instance : Setting HidConfig :=
  .record HidConfig.fields {} (by decide +kernel) fun c => by
    simp [HidConfig.fields, Field.of]

structure MsdConfig where
  enabled : Bool := true
  msdDir : String := ""
  deriving DecidableEq, Repr

def MsdConfig.fields : List (Lib.Field MsdConfig) :=
  [.of "enabled" (·.enabled) fun c v => { c with enabled := v },
    .of "msd_dir" (·.msdDir) fun c v => { c with msdDir := v }]

instance : Setting MsdConfig :=
  .record MsdConfig.fields {} (by decide +kernel) fun c => by
    simp [MsdConfig.fields, Field.of]

/-- Configuration for a single ATX key (power or reset). -/
structure AtxKeyConfig where
  driver : AtxDriverType := .none
  device : String := ""
  pin : UInt32 := 0
  activeLevel : ActiveLevel := .high
  baudRate : UInt32 := 9600
  deriving DecidableEq, Repr

def AtxKeyConfig.fields : List (Lib.Field AtxKeyConfig) :=
  [.of "driver" (·.driver) fun c v => { c with driver := v },
    .of "device" (·.device) fun c v => { c with device := v },
    .of "pin" (·.pin) fun c v => { c with pin := v },
    .of "active_level" (·.activeLevel) fun c v => { c with activeLevel := v },
    .of "baud_rate" (·.baudRate) fun c v => { c with baudRate := v }]

instance : Setting AtxKeyConfig :=
  .record AtxKeyConfig.fields {} (by decide +kernel) fun c => by
    simp [AtxKeyConfig.fields, Field.of]

structure AtxLedConfig where
  enabled : Bool := false
  gpioChip : String := ""
  gpioPin : UInt32 := 0
  inverted : Bool := false
  deriving DecidableEq, Repr

def AtxLedConfig.fields : List (Lib.Field AtxLedConfig) :=
  [.of "enabled" (·.enabled) fun c v => { c with enabled := v },
    .of "gpio_chip" (·.gpioChip) fun c v => { c with gpioChip := v },
    .of "gpio_pin" (·.gpioPin) fun c v => { c with gpioPin := v },
    .of "inverted" (·.inverted) fun c v => { c with inverted := v }]

instance : Setting AtxLedConfig :=
  .record AtxLedConfig.fields {} (by decide +kernel) fun c => by
    simp [AtxLedConfig.fields, Field.of]

structure AtxConfig where
  enabled : Bool := false
  power : AtxKeyConfig := {}
  reset : AtxKeyConfig := {}
  led : AtxLedConfig := {}
  wolInterface : String := ""
  deriving DecidableEq, Repr

def AtxConfig.fields : List (Lib.Field AtxConfig) :=
  [.of "enabled" (·.enabled) fun c v => { c with enabled := v },
    .of "power" (·.power) fun c v => { c with power := v },
    .of "reset" (·.reset) fun c v => { c with reset := v },
    .of "led" (·.led) fun c v => { c with led := v },
    .of "wol_interface" (·.wolInterface) fun c v => { c with wolInterface := v }]

instance : Setting AtxConfig :=
  .record AtxConfig.fields {} (by decide +kernel) fun c => by
    simp [AtxConfig.fields, Field.of]

structure AudioConfig where
  enabled : Bool := false
  device : String := "default"
  quality : String := "balanced"
  deriving DecidableEq, Repr

def AudioConfig.fields : List (Lib.Field AudioConfig) :=
  [.of "enabled" (·.enabled) fun c v => { c with enabled := v },
    .of "device" (·.device) fun c v => { c with device := v },
    .of "quality" (·.quality) fun c v => { c with quality := v }]

instance : Setting AudioConfig :=
  .record AudioConfig.fields {} (by decide +kernel) fun c => by
    simp [AudioConfig.fields, Field.of]

structure StreamConfig where
  mode : StreamMode := .mjpeg
  encoder : EncoderType := .auto
  bitratePreset : BitratePreset := .balanced
  stunServer : Option String := none
  turnServer : Option String := none
  turnUsername : Option String := none
  turnPassword : Option String := none
  autoPauseEnabled : Bool := false
  autoPauseDelaySecs : UInt64 := 10
  clientTimeoutSecs : UInt64 := 30
  deriving DecidableEq, Repr

def StreamConfig.fields : List (Lib.Field StreamConfig) :=
  [.of "mode" (·.mode) fun c v => { c with mode := v },
    .of "encoder" (·.encoder) fun c v => { c with encoder := v },
    .of "bitrate_preset" (·.bitratePreset) fun c v => { c with bitratePreset := v },
    .of "stun_server" (·.stunServer) fun c v => { c with stunServer := v },
    .of "turn_server" (·.turnServer) fun c v => { c with turnServer := v },
    .of "turn_username" (·.turnUsername) fun c v => { c with turnUsername := v },
    .of "turn_password" (·.turnPassword) fun c v => { c with turnPassword := v },
    .of "auto_pause_enabled" (·.autoPauseEnabled) fun c v => { c with autoPauseEnabled := v },
    .of "auto_pause_delay_secs" (·.autoPauseDelaySecs) fun c v =>
      { c with autoPauseDelaySecs := v },
    .of "client_timeout_secs" (·.clientTimeoutSecs) fun c v => { c with clientTimeoutSecs := v }]

instance : Setting StreamConfig :=
  .record StreamConfig.fields {} (by decide +kernel) fun c => by
    simp [StreamConfig.fields, Field.of]

structure WebConfig where
  httpPort : UInt16 := 8080
  httpsPort : UInt16 := 8443
  bindAddresses : List String := []
  bindAddress : String := "0.0.0.0"
  httpsEnabled : Bool := false
  sslCertPath : Option String := none
  sslKeyPath : Option String := none
  deriving DecidableEq, Repr

def WebConfig.fields : List (Lib.Field WebConfig) :=
  [.of "http_port" (·.httpPort) fun c v => { c with httpPort := v },
    .of "https_port" (·.httpsPort) fun c v => { c with httpsPort := v },
    .of "bind_addresses" (·.bindAddresses) fun c v => { c with bindAddresses := v },
    .of "bind_address" (·.bindAddress) fun c v => { c with bindAddress := v },
    .of "https_enabled" (·.httpsEnabled) fun c v => { c with httpsEnabled := v },
    .of "ssl_cert_path" (·.sslCertPath) fun c v => { c with sslCertPath := v },
    .of "ssl_key_path" (·.sslKeyPath) fun c v => { c with sslKeyPath := v }]

instance : Setting WebConfig :=
  .record WebConfig.fields {} (by decide +kernel) fun c => by
    simp [WebConfig.fields, Field.of]

structure TtydConfig where
  enabled : Bool := false
  port : UInt16 := 7681
  shell : String := "/bin/bash"
  deriving DecidableEq, Repr

def TtydConfig.fields : List (Lib.Field TtydConfig) :=
  [.of "enabled" (·.enabled) fun c v => { c with enabled := v },
    .of "port" (·.port) fun c v => { c with port := v },
    .of "shell" (·.shell) fun c v => { c with shell := v }]

instance : Setting TtydConfig :=
  .record TtydConfig.fields {} (by decide +kernel) fun c => by
    simp [TtydConfig.fields, Field.of]

structure GostcConfig where
  enabled : Bool := false
  addr : String := ""
  key : String := ""
  tls : Bool := true
  deriving DecidableEq, Repr

def GostcConfig.fields : List (Lib.Field GostcConfig) :=
  [.of "enabled" (·.enabled) fun c v => { c with enabled := v },
    .of "addr" (·.addr) fun c v => { c with addr := v },
    .of "key" (·.key) fun c v => { c with key := v },
    .of "tls" (·.tls) fun c v => { c with tls := v }]

instance : Setting GostcConfig :=
  .record GostcConfig.fields {} (by decide +kernel) fun c => by
    simp [GostcConfig.fields, Field.of]

structure EasytierConfig where
  enabled : Bool := false
  networkName : String := ""
  networkSecret : String := ""
  peerUrls : List String := []
  virtualIp : Option String := none
  deriving DecidableEq, Repr

def EasytierConfig.fields : List (Lib.Field EasytierConfig) :=
  [.of "enabled" (·.enabled) fun c v => { c with enabled := v },
    .of "network_name" (·.networkName) fun c v => { c with networkName := v },
    .of "network_secret" (·.networkSecret) fun c v => { c with networkSecret := v },
    .of "peer_urls" (·.peerUrls) fun c v => { c with peerUrls := v },
    .of "virtual_ip" (·.virtualIp) fun c v => { c with virtualIp := v }]

instance : Setting EasytierConfig :=
  .record EasytierConfig.fields {} (by decide +kernel) fun c => by
    simp [EasytierConfig.fields, Field.of]

structure ExtensionsConfig where
  ttyd : TtydConfig := {}
  gostc : GostcConfig := {}
  easytier : EasytierConfig := {}
  deriving DecidableEq, Repr

def ExtensionsConfig.fields : List (Lib.Field ExtensionsConfig) :=
  [.of "ttyd" (·.ttyd) fun c v => { c with ttyd := v },
    .of "gostc" (·.gostc) fun c v => { c with gostc := v },
    .of "easytier" (·.easytier) fun c v => { c with easytier := v }]

instance : Setting ExtensionsConfig :=
  .record ExtensionsConfig.fields {} (by decide +kernel) fun c => by
    simp [ExtensionsConfig.fields, Field.of]

/-- The RustDesk section: the configuration of the service, its key pairs and its UUID. -/
structure RustDeskSection extends RustDeskConfig where
  publicKey : Option String := none
  privateKey : Option String := none
  signingPublicKey : Option String := none
  signingPrivateKey : Option String := none
  uuid : Option String := none
  deriving DecidableEq, Repr

/-- The id and the password of the device have random defaults; here they have to be there. -/
def RustDeskSection.fields : List (Lib.Field RustDeskSection) :=
  [.of "enabled" (·.enabled) fun c v => { c with enabled := v },
    .of "rendezvous_server" (·.rendezvousServer) fun c v => { c with rendezvousServer := v },
    .of "relay_server" (·.relayServer) fun c v => { c with relayServer := v },
    .of "relay_key" (·.relayKey) fun c v => { c with relayKey := v },
    .must "device_id" (·.deviceId) fun c v => { c with deviceId := v },
    .must "device_password" (·.devicePassword) fun c v => { c with devicePassword := v },
    .of "public_key" (·.publicKey) fun c v => { c with publicKey := v },
    .of "private_key" (·.privateKey) fun c v => { c with privateKey := v },
    .of "signing_public_key" (·.signingPublicKey) fun c v => { c with signingPublicKey := v },
    .of "signing_private_key" (·.signingPrivateKey) fun c v => { c with signingPrivateKey := v },
    .of "uuid" (·.uuid) fun c v => { c with uuid := v }]

instance : Setting RustDeskSection :=
  .record RustDeskSection.fields { deviceId := "", devicePassword := "" } (by decide +kernel)
      fun c => by
    simp [RustDeskSection.fields, Field.of, Field.must]

def RtspConfig.fields : List (Lib.Field RtspConfig) :=
  [.of "enabled" (·.enabled) fun c v => { c with enabled := v },
    .of "bind" (·.bind) fun c v => { c with bind := v },
    .of "port" (·.port) fun c v => { c with port := v },
    .of "path" (·.path) fun c v => { c with path := v },
    .of "allow_one_client" (·.allowOneClient) fun c v => { c with allowOneClient := v },
    .of "codec" (·.codec) fun c v => { c with codec := v },
    .of "username" (·.username) fun c v => { c with username := v },
    .of "password" (·.password) fun c v => { c with password := v }]

instance : Setting RtspConfig :=
  .record RtspConfig.fields {} (by decide +kernel) fun c => by
    simp [RtspConfig.fields, Field.of]

structure AppConfig where
  initialized : Bool := false
  auth : AuthConfig := {}
  video : VideoConfig := {}
  hid : HidConfig := {}
  msd : MsdConfig := {}
  atx : AtxConfig := {}
  audio : AudioConfig := {}
  stream : StreamConfig := {}
  web : WebConfig := {}
  extensions : ExtensionsConfig := {}
  rustdesk : RustDeskSection
  rtsp : RtspConfig := {}
  deriving DecidableEq, Repr

def AppConfig.fields : List (Lib.Field AppConfig) :=
  [.of "initialized" (·.initialized) fun c v => { c with initialized := v },
    .of "auth" (·.auth) fun c v => { c with auth := v },
    .of "video" (·.video) fun c v => { c with video := v },
    .of "hid" (·.hid) fun c v => { c with hid := v },
    .of "msd" (·.msd) fun c v => { c with msd := v },
    .of "atx" (·.atx) fun c v => { c with atx := v },
    .of "audio" (·.audio) fun c v => { c with audio := v },
    .of "stream" (·.stream) fun c v => { c with stream := v },
    .of "web" (·.web) fun c v => { c with web := v },
    .of "extensions" (·.extensions) fun c v => { c with extensions := v },
    .must "rustdesk" (·.rustdesk) fun c v => { c with rustdesk := v },
    .of "rtsp" (·.rtsp) fun c v => { c with rtsp := v }]

instance : Setting AppConfig :=
  .record AppConfig.fields { rustdesk := { deviceId := "", devicePassword := "" } }
      (by decide +kernel) fun c => by
    simp [AppConfig.fields, Field.of, Field.must]

end StreamBox.Config.Sections
