import StreamBox.Config.Otg
import StreamBox.Hid.Controller
import StreamBox.Video.CodecConstraints
import StreamBox.Video.Format
import StreamBox.Video.Registry

/-!
# What the sections say to the subsystems

A section of the configuration, as the subsystem takes it.
-/

namespace StreamBox.Config.Sections

open StreamBox.Video StreamBox.Hid

def AppError.display : AppError → String
  | .badRequest message => "Bad request: " ++ message
  | .internal message => "Internal error: " ++ message
  | .config message => "Configuration error: " ++ message
  | .videoError message => "Video error: " ++ message
  | .io message => "IO error: " ++ message

/-- The formats by the names that they have in the configuration. -/
def pixelFormats : List (String × PixelFormat) :=
  [("MJPEG", .mjpeg), ("JPEG", .jpeg), ("YUYV", .yuyv), ("YVYU", .yvyu), ("UYVY", .uyvy),
    ("NV12", .nv12), ("NV21", .nv21), ("NV16", .nv16), ("NV24", .nv24), ("YUV420", .yuv420),
    ("YVU420", .yvu420), ("RGB565", .rgb565), ("RGB24", .rgb24), ("BGR24", .bgr24),
    ("GREY", .grey)]

namespace VideoConfig

def pixelFormat (c : VideoConfig) : PixelFormat :=
  (c.format.bind fun name => pixelFormats.lookup name).getD .mjpeg

def resolution (c : VideoConfig) : Resolution := ⟨c.width, c.height⟩

end VideoConfig

def EncoderType.toBackend : EncoderType → Option EncoderBackend
  | .auto => none
  | .software => some .software
  | .vaapi => some .vaapi
  | .nvenc => some .nvenc
  | .qsv => some .qsv
  | .amf => some .amf
  | .rkmpp => some .rkmpp
  | .v4l2m2m => some .v4l2m2m

def HidConfig.backendType (c : HidConfig) : HidBackendType :=
  match c.backend with
  | .otg => .otg
  | .ch9329 => .ch9329 c.ch9329Port c.ch9329Baudrate
  | .none => .none

inductive AudioQuality
  | voice | balanced | high
  deriving DecidableEq, Repr

def AudioQuality.fromStr (s : String) : AudioQuality :=
  let s := s.map Char.toLower
  if s = "voice" ∨ s = "low" then .voice
  else if s = "high" ∨ s = "music" then .high
  else .balanced

structure AudioControllerConfig where
  enabled : Bool
  device : String
  quality : AudioQuality
  deriving DecidableEq, Repr

def AudioConfig.toController (c : AudioConfig) : AudioControllerConfig where
  enabled := c.enabled
  device := c.device
  quality := .fromStr c.quality

structure AtxControllerConfig where
  enabled : Bool
  power : AtxKeyConfig
  reset : AtxKeyConfig
  led : AtxLedConfig
  deriving DecidableEq, Repr

def AtxConfig.toControllerConfig (c : AtxConfig) : AtxControllerConfig where
  enabled := c.enabled
  power := c.power
  reset := c.reset
  led := c.led

structure TurnServer where
  url : String
  username : String
  credential : String
  deriving DecidableEq, Repr

structure IceServers where
  stunServers : List String
  turnServers : List TurnServer
  deriving DecidableEq, Repr

/-- The servers of the section, or the public one where it names none. -/
def StreamConfig.iceServers (publicStun : Option String) (c : StreamConfig) : IceServers :=
  let stun := c.stunServer.filter (· ≠ "")
  let turn := c.turnServer.filter (· ≠ "")
  if stun.isNone && turn.isNone then ⟨publicStun.toList, []⟩
  else
    ⟨stun.toList,
      (turn.map fun url => ⟨url, c.turnUsername.getD "", c.turnPassword.getD ""⟩).toList⟩

/-! ## The gadget -/

structure GadgetDescriptor where
  vendorId : UInt16
  productId : UInt16
  manufacturer : String
  product : String
  serialNumber : String
  deriving DecidableEq, Repr

def GadgetDescriptor.ofConfig (c : OtgDescriptorConfig) : GadgetDescriptor where
  vendorId := c.vendorId
  productId := c.productId
  manufacturer := c.manufacturer
  product := c.product
  serialNumber := c.serialNumber.getD "0123456789"

/-- Desired OTG gadget state derived from configuration. -/
structure OtgDesiredState where
  udc : Option String
  descriptor : GadgetDescriptor
  hidFunctions : Option OtgHidFunctions
  keyboardLeds : Bool
  msdEnabled : Bool
  maxEndpoints : Nat
  deriving DecidableEq, Repr

namespace OtgDesiredState

/-- What a HID configuration within its budget asks of the gadget. -/
def ofHid (dir : UdcDir) (hid : HidConfig) (msdEnabled : Bool) : OtgDesiredState where
  udc := hid.resolvedOtgUdc dir
  descriptor := .ofConfig hid.otgDescriptor
  hidFunctions := if hid.backend = .otg then some hid.constrainedOtgFunctions else none
  keyboardLeds := hid.effectiveOtgKeyboardLeds
  msdEnabled
  maxEndpoints := (hid.resolvedOtgEndpointLimit dir).getD 16

def fromConfig (dir : UdcDir) (hid : HidConfig) (msd : MsdConfig) :
    Except AppError OtgDesiredState :=
  match hid.validateOtgEndpointBudget dir msd.enabled with
  | .error e => .error e
  | .ok () => .ok (ofHid dir hid msd.enabled)

/-- Neither HID nor MSD wants a gadget. -/
def isEmpty (d : OtgDesiredState) : Bool := d.hidFunctions.isNone && !d.msdEnabled

end OtgDesiredState

/-! ## RustDesk -/

/-- What the service saves once it has started. -/
structure Credentials where
  publicKey : String
  privateKey : String
  signingPublicKey : String
  signingPrivateKey : String
  /-- The UUID, where it is a new one. -/
  uuid : Option String
  deriving DecidableEq, Repr

def RustDeskSection.withCredentials (c : RustDeskSection) (keys : Credentials) :
    RustDeskSection :=
  { c with
    publicKey := some keys.publicKey
    privateKey := some keys.privateKey
    signingPublicKey := some keys.signingPublicKey
    signingPrivateKey := some keys.signingPrivateKey
    uuid := keys.uuid.or c.uuid }

/-- The key pairs and the UUID of another configuration. -/
def RustDeskSection.saveCredentials (c updated : RustDeskSection) : RustDeskSection :=
  { c with
    publicKey := updated.publicKey
    privateKey := updated.privateKey
    signingPublicKey := updated.signingPublicKey
    signingPrivateKey := updated.signingPrivateKey
    uuid := updated.uuid }

/-- The sections that the codec constraints are about. -/
def AppConfig.constrained (c : AppConfig) : Config.AppConfig where
  stream := { mode := c.stream.mode }
  rustdesk := c.rustdesk.toRustDeskConfig
  rtsp := c.rtsp

end StreamBox.Config.Sections
