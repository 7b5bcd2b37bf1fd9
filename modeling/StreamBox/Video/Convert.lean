import StreamBox.Video.Format
import StreamBox.Video.Libyuv

/-!
# Pixel format conversion

`PixelConverter` and `Nv12Converter`: each keeps its output buffer, and the scratch buffers of
some formats, from call to call. A call ends with the bytes of the output buffer, with an error or
with a panic, and in each case with the converter as the next call finds it. The products of width
and height that size the buffers are those of a release build, which wrap.
-/

namespace StreamBox.Video.Convert

open Libyuv (Library YuvError)

/-- An index or a range that is not in its slice, or a copy between slices of two lengths. -/
inductive Panic
  | outOfBounds
  deriving DecidableEq, Repr

/-- What a call ends with other than a result. -/
inductive Fault
  | videoError (text : String)
  | panic
  deriving DecidableEq, Repr

/-! ## Slices -/

def index (xs : List UInt8) (i : Nat) : Except Panic UInt8 :=
  match xs[i]? with
  | some x => .ok x
  | none => .error .outOfBounds

/-- `&xs[first..last]`. -/
def slice (xs : List UInt8) (first last : Nat) : Except Panic (List UInt8) :=
  if first ≤ last ∧ last ≤ xs.length then .ok ((xs.take last).drop first)
  else .error .outOfBounds

def splitAtMut (xs : List UInt8) (mid : Nat) : Except Panic (List UInt8 × List UInt8) :=
  if mid ≤ xs.length then .ok (xs.take mid, xs.drop mid) else .error .outOfBounds

/-- The slice of a buffer that begins at `start` and has `size` bytes. -/
structure Plane where
  start : Nat
  size : Nat

/-- `&mut plane[first..first + size]`. -/
def Plane.sub (plane : Plane) (first size : Nat) : Except Panic Plane :=
  if first + size ≤ plane.size then .ok ⟨plane.start + first, size⟩ else .error .outOfBounds

/-- `plane[i] = v`. -/
def Plane.assign (plane : Plane) (i : Nat) (v : UInt8) (data : List UInt8) :
    Except Panic (List UInt8) :=
  if i < plane.size then .ok (data.set (plane.start + i) v) else .error .outOfBounds

/-- `plane.copy_from_slice(src)`. -/
def Plane.copyFromSlice (plane : Plane) (src data : List UInt8) : Except Panic (List UInt8) :=
  if src.length = plane.size then
    .ok (data.take plane.start ++ src ++ data.drop (plane.start + plane.size))
  else .error .outOfBounds

/-- `(0..n).step_by(2)`. -/
def stepBy2 (n : Nat) : List Nat := (List.range ((n + 1) / 2)).map (2 * ·)

/-- `u0 as u16 + u1 as u16` halved. -/
def average (a b : UInt8) : UInt8 := UInt8.ofNat ((a.toNat + b.toNat) / 2)

def panics {α : Type} (x : Except Panic α) : Except Fault α := x.mapError fun _ => .panic

def failing {α : Type} (text : String) (x : Except YuvError α) : Except Fault α :=
  x.mapError fun e => .videoError (text ++ e.display)

/-- A sum of `usize` values. -/
def usizeAdd (a b : Nat) : Nat := (a + b) % 2 ^ 64

/-! ## Buffers -/

/-- `Yuv420pBuffer::new`: Y, then U, then V. -/
def newYuv420pBuffer (resolution : Resolution) : List UInt8 :=
  let ySize := (resolution.width * resolution.height).toNat
  let uvSize := ySize / 4
  List.replicate (ySize + uvSize * 2) 0

/-- `Nv12Buffer::new`: Y, then UV interleaved. -/
def newNv12Buffer (resolution : Resolution) : List UInt8 :=
  let ySize := (resolution.width * resolution.height).toNat
  let uvSize := ySize / 2
  List.replicate (ySize + uvSize) 0

/-! ## To YUV420P -/

structure PixelConverter where
  srcFormat : PixelFormat
  dstFormat : PixelFormat
  resolution : Resolution
  outputBuffer : List UInt8
  uvSplitBuffer : List UInt8
  deriving DecidableEq, Repr

namespace PixelConverter

def new (srcFormat dstFormat : PixelFormat) (resolution : Resolution) : PixelConverter :=
  let maxUvPlaneSize := (resolution.width * resolution.height).toNat
  { srcFormat, dstFormat, resolution
    outputBuffer := newYuv420pBuffer resolution
    uvSplitBuffer := List.replicate (maxUvPlaneSize * 2) 0 }

def yuyvToYuv420p : Resolution → PixelConverter := new .yuyv .yuv420

def uyvyToYuv420p : Resolution → PixelConverter := new .uyvy .yuv420

def yvyuToYuv420p : Resolution → PixelConverter := new .yvyu .yuv420

def nv12ToYuv420p : Resolution → PixelConverter := new .nv12 .yuv420

def nv21ToYuv420p : Resolution → PixelConverter := new .nv21 .yuv420

def nv16ToYuv420p : Resolution → PixelConverter := new .nv16 .yuv420

def nv24ToYuv420p : Resolution → PixelConverter := new .nv24 .yuv420

def yvu420ToYuv420p : Resolution → PixelConverter := new .yvu420 .yuv420

def rgb24ToYuv420p : Resolution → PixelConverter := new .rgb24 .yuv420

def bgr24ToYuv420p : Resolution → PixelConverter := new .bgr24 .yuv420

/-- Two rows of two pixels: Y0, V0, Y1, U0 in each. -/
def yvyuBlock (yvyu : List UInt8) (width : Nat) (yPlane uPlane vPlane : Plane) (row col : Nat)
    (data : List UInt8) : Except Panic (List UInt8) := do
  let yvyuOffset0 := row * width * 2 + col * 2
  let yvyuOffset1 := (row + 1) * width * 2 + col * 2
  let y0_0 ← index yvyu yvyuOffset0
  let v0 ← index yvyu (yvyuOffset0 + 1)
  let y0_1 ← index yvyu (yvyuOffset0 + 2)
  let u0 ← index yvyu (yvyuOffset0 + 3)
  let y1_0 ← index yvyu yvyuOffset1
  let v1 ← index yvyu (yvyuOffset1 + 1)
  let y1_1 ← index yvyu (yvyuOffset1 + 2)
  let u1 ← index yvyu (yvyuOffset1 + 3)
  let data ← yPlane.assign (row * width + col) y0_0 data
  let data ← yPlane.assign (row * width + col + 1) y0_1 data
  let data ← yPlane.assign ((row + 1) * width + col) y1_0 data
  let data ← yPlane.assign ((row + 1) * width + col + 1) y1_1 data
  let uvIdx := row / 2 * (width / 2) + col / 2
  let data ← uPlane.assign uvIdx (average u0 u1) data
  vPlane.assign uvIdx (average v0 v1) data

/-- The loops over the rows and the columns. -/
def yvyuLoop (yvyu : List UInt8) (width height : Nat) (yPlane uPlane vPlane : Plane)
    (data : List UInt8) : Except Panic (List UInt8) :=
  (stepBy2 height).foldlM (fun data row =>
    (stepBy2 width).foldlM (fun data col =>
      yvyuBlock yvyu width yPlane uPlane vPlane row col data) data) data

/-- `convert_yvyu_to_yuv420p_sw`: what is written into the output buffer. -/
def convertYvyuToYuv420pSw (yvyu : List UInt8) (width height : Nat) (data : List UInt8) :
    Except Panic (List UInt8) := do
  let ySize := width * height
  let uvSize := ySize / 4
  let (_, uvPlanes) ← splitAtMut data ySize
  let (_, vPlane) ← splitAtMut uvPlanes uvSize
  yvyuLoop yvyu width height ⟨0, ySize⟩ ⟨ySize, uvSize⟩ ⟨ySize + uvSize, vPlane.length⟩ data

/-- `convert_yvu420_to_yuv420p_sw`: V comes before U. -/
def convertYvu420ToYuv420pSw (yvu420 : List UInt8) (width height : Nat) (data : List UInt8) :
    Except Panic (List UInt8) := do
  let ySize := width * height
  let uvSize := ySize / 4
  let (_, uvPlanes) ← splitAtMut data ySize
  let (_, vPlane) ← splitAtMut uvPlanes uvSize
  let ySrc ← slice yvu420 0 ySize
  let data ← Plane.copyFromSlice ⟨0, ySize⟩ ySrc data
  let vSrc ← slice yvu420 ySize (usizeAdd ySize uvSize)
  let uSrc ← slice yvu420 (usizeAdd ySize uvSize) yvu420.length
  let data ← Plane.copyFromSlice ⟨ySize, uvSize⟩ uSrc data
  Plane.copyFromSlice ⟨ySize + uvSize, vPlane.length⟩ vSrc data

/-- The common part of `convert_nv16_to_yuv420p` and `convert_nv24_to_yuv420p`: the chroma of the
input, `uvSize` bytes in rows of `uvStride`, is split into planes of `chromaPlaneSize` bytes in
rows of `chromaWidth`. The result is the output and the split buffer. -/
def convertSemiplanar (lib : Library) (name : String) (kernel : Libyuv.PlanarKernel)
    (uvSize chromaPlaneSize uvStride chromaWidth : Nat) (input : List UInt8) (c : PixelConverter) :
    Except Fault (List UInt8 × List UInt8) := do
  let width := c.resolution.width.toNat
  let height := c.resolution.height.toNat
  let ySize := width * height
  if input.length < usizeAdd ySize uvSize then
    .error (.videoError (name ++ " data too small: " ++ toString input.length ++ " < " ++
      toString (usizeAdd ySize uvSize)))
  else
    let srcUv ← panics (slice input ySize (usizeAdd ySize uvSize))
    let (uPlane, rest) ← panics (splitAtMut c.uvSplitBuffer chromaPlaneSize)
    let (vPlane, unused) ← panics (splitAtMut rest chromaPlaneSize)
    let (u, v) ← failing ("libyuv " ++ name ++ " split failed: ")
      (Libyuv.splitUvPlane lib chromaWidth height srcUv uvStride uPlane vPlane)
    let ySrc ← panics (slice input 0 ySize)
    let data ← failing ("libyuv " ++ name ++ "→I420 failed: ")
      (Libyuv.planarToI420 lib c.outputBuffer width height kernel ySrc u v)
    .ok (data, u ++ v ++ unused)

def convertNv16ToYuv420p (lib : Library) (nv16 : List UInt8) (c : PixelConverter) :
    Except Fault (List UInt8 × List UInt8) :=
  let width := c.resolution.width.toNat
  let ySize := width * c.resolution.height.toNat
  convertSemiplanar lib "NV16" .i422ToI420 ySize (ySize / 2) width (width / 2) nv16 c

def convertNv24ToYuv420p (lib : Library) (nv24 : List UInt8) (c : PixelConverter) :
    Except Fault (List UInt8 × List UInt8) :=
  let width := c.resolution.width.toNat
  let ySize := width * c.resolution.height.toNat
  convertSemiplanar lib "NV24" .i444ToI420 (ySize * 2 % 2 ^ 64) ySize (width * 2) width nv24 c

/-- The output of a part of `convert`, or its failure, which leaves the buffers alone. -/
def settle (c : PixelConverter) (result : Except Fault (List UInt8 × List UInt8)) :
    Except Fault (List UInt8) × PixelConverter :=
  match result with
  | .ok (data, split) => (.ok data, { c with outputBuffer := data, uvSplitBuffer := split })
  | .error fault => (.error fault, c)

/-- A part of `convert` that does not use the split buffer. -/
def unsplit (c : PixelConverter) (result : Except Fault (List UInt8)) :
    Except Fault (List UInt8 × List UInt8) :=
  result.map fun data => (data, c.uvSplitBuffer)

/-- Convert a frame and return the output buffer. -/
def convert (lib : Library) (c : PixelConverter) (input : List UInt8) :
    Except Fault (List UInt8) × PixelConverter :=
  let width := c.resolution.width.toNat
  let height := c.resolution.height.toNat
  let expectedSize := c.outputBuffer.length
  let out := c.outputBuffer
  let text := "libyuv conversion failed: "
  settle c <|
    match c.srcFormat, c.dstFormat with
    | .yuyv, .yuv420 => unsplit c (failing text (Libyuv.yuy2ToI420 lib input out width height))
    | .uyvy, .yuv420 => unsplit c (failing text (Libyuv.uyvyToI420 lib input out width height))
    | .nv12, .yuv420 => unsplit c (failing text (Libyuv.nv12ToI420 lib input out width height))
    | .nv21, .yuv420 => unsplit c (failing text (Libyuv.nv21ToI420 lib input out width height))
    | .nv16, .yuv420 => convertNv16ToYuv420p lib input c
    | .nv24, .yuv420 => convertNv24ToYuv420p lib input c
    | .rgb24, .yuv420 => unsplit c (failing text (Libyuv.rgb24ToI420 lib input out width height))
    | .bgr24, .yuv420 => unsplit c (failing text (Libyuv.bgr24ToI420 lib input out width height))
    | .yvyu, .yuv420 => unsplit c (panics (convertYvyuToYuv420pSw input width height out))
    | .yvu420, .yuv420 => unsplit c (panics (convertYvu420ToYuv420pSw input width height out))
    | .yuv420, .yuv420 =>
      if input.length < expectedSize then
        .error (.videoError ("Input buffer too small: " ++ toString input.length ++ " < " ++
          toString expectedSize))
      else .ok (input.take expectedSize, c.uvSplitBuffer)
    | src, dst =>
      .error (.videoError ("Unsupported conversion: " ++ src.display ++ " → " ++ dst.display))

end PixelConverter

/-! ## To NV12 -/

structure Nv12Converter where
  srcFormat : PixelFormat
  resolution : Resolution
  outputBuffer : List UInt8
  i420Buffer : Option (List UInt8)
  deriving DecidableEq, Repr

namespace Nv12Converter

def new (srcFormat : PixelFormat) (resolution : Resolution) : Nv12Converter :=
  { srcFormat, resolution, outputBuffer := newNv12Buffer resolution, i420Buffer := none }

def bgr24ToNv12 : Resolution → Nv12Converter := new .bgr24

def rgb24ToNv12 : Resolution → Nv12Converter := new .rgb24

def yuyvToNv12 : Resolution → Nv12Converter := new .yuyv

def yuv420ToNv12 : Resolution → Nv12Converter := new .yuv420

/-- The only one with an intermediate buffer. -/
def nv21ToNv12 (resolution : Resolution) : Nv12Converter :=
  { new .nv21 resolution with i420Buffer := some (newYuv420pBuffer resolution) }

def nv16ToNv12 : Resolution → Nv12Converter := new .nv16

def nv24ToNv12 : Resolution → Nv12Converter := new .nv24

/-- The new intermediate buffer and the new output. -/
def convertNv21ToNv12WithDims (lib : Library) (width height : Nat) (input dst yuv : List UInt8) :
    Except Fault (List UInt8 × List UInt8) := do
  let yuv ← failing "libyuv NV21->I420 failed: " (Libyuv.nv21ToI420 lib input yuv width height)
  let dst ← failing "libyuv I420->NV12 failed: " (Libyuv.i420ToNv12 lib yuv dst width height)
  .ok (yuv, dst)

/-- One byte of the chroma, averaged over two rows. -/
def nv16Byte (srcRow0 srcRow1 : List UInt8) (dstRow : Plane) (i : Nat) (dst : List UInt8) :
    Except Panic (List UInt8) := do
  let a ← index srcRow0 i
  let b ← index srcRow1 i
  dstRow.assign i (average a b) dst

def nv16Row (srcUv : List UInt8) (width : Nat) (dstUv : Plane) (row : Nat) (dst : List UInt8) :
    Except Panic (List UInt8) := do
  let srcRow0 ← slice srcUv (row * 2 * width) (row * 2 * width + width)
  let srcRow1 ← slice srcUv ((row * 2 + 1) * width) ((row * 2 + 1) * width + width)
  let dstRow ← dstUv.sub (row * width) width
  (List.range width).foldlM (fun dst i => nv16Byte srcRow0 srcRow1 dstRow i dst) dst

/-- The sum of four bytes, divided by 4. -/
def average4 (a b c d : UInt8) : UInt8 :=
  UInt8.ofNat ((a.toNat + b.toNat + c.toNat + d.toNat) / 4)

/-- One pair of the chroma, averaged over two rows and two columns. -/
def nv24Pair (srcRow0 srcRow1 : List UInt8) (dstRow : Plane) (pair : Nat) (dst : List UInt8) :
    Except Panic (List UInt8) := do
  let srcIdx0 := pair * 4
  let srcIdx1 := srcIdx0 + 2
  let dstIdx := pair * 2
  let a ← index srcRow0 srcIdx0
  let b ← index srcRow0 srcIdx1
  let c ← index srcRow1 srcIdx0
  let d ← index srcRow1 srcIdx1
  let dst ← dstRow.assign dstIdx (average4 a b c d) dst
  let a ← index srcRow0 (srcIdx0 + 1)
  let b ← index srcRow0 (srcIdx1 + 1)
  let c ← index srcRow1 (srcIdx0 + 1)
  let d ← index srcRow1 (srcIdx1 + 1)
  dstRow.assign (dstIdx + 1) (average4 a b c d) dst

def nv24Row (srcUv : List UInt8) (width : Nat) (dstUv : Plane) (row : Nat) (dst : List UInt8) :
    Except Panic (List UInt8) := do
  let srcRow0 ← slice srcUv (row * 2 * width * 2) (row * 2 * width * 2 + width * 2)
  let srcRow1 ← slice srcUv ((row * 2 + 1) * width * 2) ((row * 2 + 1) * width * 2 + width * 2)
  let dstRow ← dstUv.sub (row * width) width
  (List.range (width / 2)).foldlM (fun dst pair => nv24Pair srcRow0 srcRow1 dstRow pair dst) dst

/-- The common part of the two functions below: Y is copied, the chroma of the input, `uvSize`
bytes, is brought down row by row. -/
def convertRows (name : String) (uvSize : Nat)
    (convertRow : List UInt8 → Nat → Plane → Nat → List UInt8 → Except Panic (List UInt8))
    (width height : Nat) (input dst : List UInt8) : Except Fault (List UInt8) :=
  let ySize := width * height
  let uvSizeNv12 := ySize / 2
  if input.length < usizeAdd ySize uvSize then
    .error (.videoError (name ++ " data too small: " ++ toString input.length ++ " < " ++
      toString (usizeAdd ySize uvSize)))
  else panics do
    let whole : Plane := ⟨0, dst.length⟩
    let yPlane ← whole.sub 0 ySize
    let ySrc ← slice input 0 ySize
    let dst ← yPlane.copyFromSlice ySrc dst
    let srcUv ← slice input ySize (usizeAdd ySize uvSize)
    let dstUv ← whole.sub ySize uvSizeNv12
    (List.range (height / 2)).foldlM (fun dst row => convertRow srcUv width dstUv row dst) dst

/-- The chroma of NV16 has the height of the frame. -/
def convertNv16ToNv12WithDims (width height : Nat) (input dst : List UInt8) :
    Except Fault (List UInt8) :=
  convertRows "NV16" (width * height) nv16Row width height input dst

def convertNv24ToNv12WithDims (width height : Nat) (input dst : List UInt8) :
    Except Fault (List UInt8) :=
  convertRows "NV24" (width * height * 2 % 2 ^ 64) nv24Row width height input dst

/-- The output of a part of `convert`, or its failure, which leaves the buffers alone. -/
def settle (c : Nv12Converter) (result : Except Fault (List UInt8)) :
    Except Fault (List UInt8) × Nv12Converter :=
  match result with
  | .ok data => (.ok data, { c with outputBuffer := data })
  | .error fault => (.error fault, c)

/-- Convert a frame and return the output buffer. For NV21 the intermediate buffer is taken out,
and put back after a success. -/
def convert (lib : Library) (c : Nv12Converter) (input : List UInt8) :
    Except Fault (List UInt8) × Nv12Converter :=
  let width := c.resolution.width.toNat
  let height := c.resolution.height.toNat
  let dst := c.outputBuffer
  let text := "libyuv NV12 conversion failed: "
  match c.srcFormat with
  | .nv21 =>
    match c.i420Buffer with
    | none => (.error (.videoError "NV21 I420 buffer not initialized"), c)
    | some i420 =>
      match convertNv21ToNv12WithDims lib width height input dst i420 with
      | .ok (i420, dst) => (.ok dst, { c with outputBuffer := dst, i420Buffer := some i420 })
      | .error fault => (.error fault, { c with i420Buffer := none })
  | .nv16 => settle c (convertNv16ToNv12WithDims width height input dst)
  | .nv24 => settle c (convertNv24ToNv12WithDims width height input dst)
  | .bgr24 => settle c (failing text (Libyuv.bgr24ToNv12 lib input dst width height))
  | .rgb24 => settle c (failing text (Libyuv.rgb24ToNv12 lib input dst width height))
  | .yuyv => settle c (failing text (Libyuv.yuy2ToNv12 lib input dst width height))
  | .yuv420 => settle c (failing text (Libyuv.i420ToNv12 lib input dst width height))
  | src => settle c (.error (.videoError ("Unsupported conversion to NV12: " ++ src.display)))

end Nv12Converter

/-! ## Converters -/

inductive Converter
  | pixel (c : PixelConverter)
  | nv12 (c : Nv12Converter)
  deriving DecidableEq, Repr

namespace Converter

def convert (lib : Library) : Converter → List UInt8 → Except Fault (List UInt8) × Converter
  | .pixel c, input => ((c.convert lib input).1, .pixel (c.convert lib input).2)
  | .nv12 c, input => ((c.convert lib input).1, .nv12 (c.convert lib input).2)

/-- What the constructors build for a resolution. -/
def built (resolution : Resolution) : List Converter :=
  [.pixel (.yuyvToYuv420p resolution), .pixel (.uyvyToYuv420p resolution),
    .pixel (.yvyuToYuv420p resolution), .pixel (.nv12ToYuv420p resolution),
    .pixel (.nv21ToYuv420p resolution), .pixel (.nv16ToYuv420p resolution),
    .pixel (.nv24ToYuv420p resolution), .pixel (.yvu420ToYuv420p resolution),
    .pixel (.rgb24ToYuv420p resolution), .pixel (.bgr24ToYuv420p resolution),
    .nv12 (.bgr24ToNv12 resolution), .nv12 (.rgb24ToNv12 resolution),
    .nv12 (.yuyvToNv12 resolution), .nv12 (.yuv420ToNv12 resolution),
    .nv12 (.nv21ToNv12 resolution), .nv12 (.nv16ToNv12 resolution),
    .nv12 (.nv24ToNv12 resolution)]

/-- The converter after calls with these inputs. -/
def after (lib : Library) (c : Converter) (inputs : List (List UInt8)) : Converter :=
  inputs.foldl (fun c input => (c.convert lib input).2) c

end Converter

end StreamBox.Video.Convert
