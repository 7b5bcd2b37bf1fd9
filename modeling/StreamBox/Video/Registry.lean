import StreamBox.Video.CodecConstraints

/-!
# The encoder registry

The encoders found on the machine, for each codec in the order of their priority.
-/

namespace StreamBox.Video

/-- Whether `part` stands somewhere in the characters. -/
def containsChars (part : List Char) : List Char → Bool
  | [] => part.isEmpty
  | c :: rest => part.isPrefixOf (c :: rest) || containsChars part rest

/-- `str::contains` -/
def contains (name part : String) : Bool :=
  containsChars part.toList name.toList

inductive EncoderBackend
  | vaapi | nvenc | qsv | amf | rkmpp | v4l2m2m | software
  deriving DecidableEq, Repr

namespace EncoderBackend

def fromCodecName (name : String) : EncoderBackend :=
  if contains name "vaapi" then vaapi
  else if contains name "nvenc" then nvenc
  else if contains name "qsv" then qsv
  else if contains name "amf" then amf
  else if contains name "rkmpp" then rkmpp
  else if contains name "v4l2m2m" then v4l2m2m
  else software

def isHardware (backend : EncoderBackend) : Bool :=
  backend != software

/-- The derived `Debug` name. -/
def debug : EncoderBackend → String
  | vaapi => "Vaapi"
  | nvenc => "Nvenc"
  | qsv => "Qsv"
  | amf => "Amf"
  | rkmpp => "Rkmpp"
  | v4l2m2m => "V4l2m2m"
  | software => "Software"

end EncoderBackend

structure AvailableEncoder where
  format : VideoCodecType
  codecName : String
  backend : EncoderBackend
  priority : Int32
  isHardware : Bool
  deriving DecidableEq, Repr

/-- The encoders of each codec, sorted by priority. -/
structure EncoderRegistry where
  encoders : VideoCodecType → List AvailableEncoder

namespace EncoderRegistry

def bestEncoder (r : EncoderRegistry) (format : VideoCodecType) (hardwareOnly : Bool) :
    Option AvailableEncoder :=
  (r.encoders format).find? fun e => if hardwareOnly then e.isHardware else true

def bestAvailableEncoder (r : EncoderRegistry) (format : VideoCodecType) :
    Option AvailableEncoder :=
  r.bestEncoder format false

def encoderWithBackend (r : EncoderRegistry) (format : VideoCodecType)
    (backend : EncoderBackend) : Option AvailableEncoder :=
  (r.encoders format).find? (·.backend == backend)

end EncoderRegistry

end StreamBox.Video
