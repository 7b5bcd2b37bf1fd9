import Mathlib.Algebra.Group.Nat.Defs

/-!
# The bindings to libyuv

Each binding checks the sizes of its buffers and hands them to a C function. The C functions are
not part of the program: they are parameters that fill the frame they are given and do not fail.
-/

namespace StreamBox.Video.Libyuv

inductive YuvError
  | invalidDimensions
  | bufferTooSmall
  deriving DecidableEq, Repr

def YuvError.display : YuvError → String
  | .invalidDimensions => "Invalid dimensions (must be even)"
  | .bufferTooSmall => "Buffer too small"

def i420Size (width height : Nat) : Nat := width * height + width / 2 * (height / 2) * 2

def nv12Size (width height : Nat) : Nat := width * height * 3 / 2

def yuyvSize (width height : Nat) : Nat := width * height * 2

def rgb24Size (width height : Nat) : Nat := width * height * 3

/-- The C functions from one packed frame to another. -/
inductive Kernel
  | yuy2ToI420 | uyvyToI420 | nv12ToI420 | nv21ToI420 | rawToI420 | rgb24ToI420
  | yuy2ToNv12 | i420ToNv12
  deriving DecidableEq, Repr

/-- The C functions from separate planes to I420. -/
inductive PlanarKernel
  | i422ToI420 | i444ToI420
  deriving DecidableEq, Repr

def Kernel.size : Kernel → Nat → Nat → Nat
  | yuy2ToNv12 | i420ToNv12 => nv12Size
  | _ => i420Size

/-- The C library. -/
structure Library where
  frame : Kernel → (width height : Nat) → List UInt8 → List UInt8
  frame_length : ∀ kernel width height src,
    (frame kernel width height src).length = kernel.size width height
  /-- The two planes of a source with rows of so many bytes. -/
  splitUVPlane : (srcStride width height : Nat) → List UInt8 → List UInt8 × List UInt8
  splitUVPlane_length : ∀ srcStride width height src,
    (splitUVPlane srcStride width height src).1.length = width * height ∧
      (splitUVPlane srcStride width height src).2.length = width * height
  planar : PlanarKernel → (width height : Nat) → (y u v : List UInt8) → List UInt8
  planar_length : ∀ kernel width height y u v,
    (planar kernel width height y u v).length = i420Size width height

/-- The common part of the bindings. A width or height from `2 ^ 31` on is negative as `i32`: with
it, as here, no buffer is large enough. -/
def convertFrame (lib : Library) (kernel : Kernel) (need : Nat) (src dst : List UInt8)
    (width height : Nat) : Except YuvError (List UInt8) :=
  if width % 2 ≠ 0 ∨ height % 2 ≠ 0 then .error .invalidDimensions
  else if src.length < need ∨ dst.length < kernel.size width height then .error .bufferTooSmall
  else .ok (lib.frame kernel width height src ++ dst.drop (kernel.size width height))

variable (lib : Library) (src dst : List UInt8) (width height : Nat)

def yuy2ToI420 : Except YuvError (List UInt8) :=
  convertFrame lib .yuy2ToI420 (yuyvSize width height) src dst width height

def uyvyToI420 : Except YuvError (List UInt8) :=
  convertFrame lib .uyvyToI420 (yuyvSize width height) src dst width height

def nv12ToI420 : Except YuvError (List UInt8) :=
  convertFrame lib .nv12ToI420 (nv12Size width height) src dst width height

def nv21ToI420 : Except YuvError (List UInt8) :=
  convertFrame lib .nv21ToI420 (nv12Size width height) src dst width height

/-- libyuv's "RAW" is RGB order. -/
def rgb24ToI420 : Except YuvError (List UInt8) :=
  convertFrame lib .rawToI420 (rgb24Size width height) src dst width height

/-- libyuv's "RGB24" is BGR order. -/
def bgr24ToI420 : Except YuvError (List UInt8) :=
  convertFrame lib .rgb24ToI420 (rgb24Size width height) src dst width height

def yuy2ToNv12 : Except YuvError (List UInt8) :=
  convertFrame lib .yuy2ToNv12 (yuyvSize width height) src dst width height

def i420ToNv12 : Except YuvError (List UInt8) :=
  convertFrame lib .i420ToNv12 (i420Size width height) src dst width height

/-- The common part of the bindings that go by way of an I420 buffer of their own. -/
def viaI420 (toI420 : List UInt8 → Except YuvError (List UInt8)) (need : Nat) :
    Except YuvError (List UInt8) :=
  if width % 2 ≠ 0 ∨ height % 2 ≠ 0 then .error .invalidDimensions
  else if src.length < need ∨ dst.length < nv12Size width height then .error .bufferTooSmall
  else
    (toI420 (List.replicate (i420Size width height) 0)).bind fun i420 =>
      i420ToNv12 lib i420 dst width height

def rgb24ToNv12 : Except YuvError (List UInt8) :=
  viaI420 lib src dst width height (fun i420 => rgb24ToI420 lib src i420 width height)
    (rgb24Size width height)

def bgr24ToNv12 : Except YuvError (List UInt8) :=
  viaI420 lib src dst width height (fun i420 => bgr24ToI420 lib src i420 width height)
    (rgb24Size width height)

/-- Split an interleaved plane into two planes with rows of `width` bytes each. -/
def splitUvPlane (srcUv : List UInt8) (srcStrideUv : Nat) (dstU dstV : List UInt8) :
    Except YuvError (List UInt8 × List UInt8) :=
  if width = 0 ∨ height = 0 then .error .invalidDimensions
  else if srcUv.length < srcStrideUv * height ∨ dstU.length < width * height ∨
      dstV.length < width * height then .error .bufferTooSmall
  else
    let (u, v) := lib.splitUVPlane srcStrideUv width height srcUv
    .ok (u ++ dstU.drop (width * height), v ++ dstV.drop (width * height))

/-- `i422_to_i420_planar` and `i444_to_i420_planar`. -/
def planarToI420 (kernel : PlanarKernel) (srcY srcU srcV : List UInt8) :
    Except YuvError (List UInt8) :=
  if width % 2 ≠ 0 ∨ height % 2 ≠ 0 then .error .invalidDimensions
  else if dst.length < i420Size width height then .error .bufferTooSmall
  else
    .ok (lib.planar kernel width height srcY srcU srcV ++ dst.drop (i420Size width height))

end StreamBox.Video.Libyuv
