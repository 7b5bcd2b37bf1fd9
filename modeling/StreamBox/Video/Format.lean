/-!
# Pixel formats

The formats of captured frames, and the size of a frame in each of them.
-/

namespace StreamBox.Video

inductive PixelFormat
  | mjpeg | jpeg
  | yuyv | yvyu | uyvy
  | nv12 | nv21 | nv16 | nv24
  | yuv420 | yvu420
  | rgb565 | rgb24 | bgr24
  | grey
  deriving DecidableEq, Repr

structure Resolution where
  width : UInt32
  height : UInt32
  deriving DecidableEq, Repr

namespace PixelFormat

def isCompressed : PixelFormat → Bool
  | mjpeg | jpeg => true
  | _ => false

/-- `frame_size`; compressed frames have no size of their own. -/
def frameSize (format : PixelFormat) (resolution : Resolution) : Option Nat :=
  let pixels := (resolution.width * resolution.height).toNat
  match format with
  | mjpeg | jpeg => none
  | yuyv | yvyu | uyvy | nv16 | rgb565 => some (pixels * 2)
  | nv12 | nv21 | yuv420 | yvu420 => some (pixels * 3 / 2)
  | nv24 | rgb24 | bgr24 => some (pixels * 3)
  | grey => some pixels

/-- The name of the format in messages. -/
def display : PixelFormat → String
  | mjpeg => "MJPEG"
  | jpeg => "JPEG"
  | yuyv => "YUYV"
  | yvyu => "YVYU"
  | uyvy => "UYVY"
  | nv12 => "NV12"
  | nv21 => "NV21"
  | nv16 => "NV16"
  | nv24 => "NV24"
  | yuv420 => "YUV420"
  | yvu420 => "YVU420"
  | rgb565 => "RGB565"
  | rgb24 => "RGB24"
  | bgr24 => "BGR24"
  | grey => "GREY"

end PixelFormat

end StreamBox.Video
