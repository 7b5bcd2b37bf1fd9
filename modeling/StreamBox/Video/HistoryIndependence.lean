import Mathlib.Data.List.Induction
import StreamBox.Video.ConvertedFrames

/-!
# Conversions do not depend on the calls before

A call of a converter against the same call on the converter as it was built. The answers agree,
and no call panics, just when no input makes the loops of the program leave their slices and, for
NV21 to NV12, no short input comes before a full one: the intermediate buffer is taken out for the
call and is not put back after an error.
-/

namespace StreamBox.Video

/-- The number of pixels is within `u32`. -/
def Resolution.Fits (r : Resolution) : Prop := r.width.toNat * r.height.toNat < 2 ^ 32

instance (r : Resolution) : Decidable r.Fits := inferInstanceAs (Decidable (_ < _))

namespace Convert

open Libyuv (Library)

/-- No index or range of the conversion is outside an input of this length. -/
def Takes (format : PixelFormat) (r : Resolution) (input : List UInt8) : Prop :=
  let ySize := r.width.toNat * r.height.toNat
  match format with
  | .yvyu => r.Fits ∧ ySize * 2 ≤ input.length
  | .yvu420 => r.Fits ∧ input.length = ySize * 3 / 2
  | .nv16 => r.Fits ∨ input.length < usizeAdd ySize ySize
  | .nv24 => r.Fits ∨ input.length < usizeAdd ySize (ySize * 2 % 2 ^ 64)
  | _ => True

/-- A full NV21 frame. -/
def FullNv21 (r : Resolution) (input : List UInt8) : Prop :=
  Libyuv.nv12Size r.width.toNat r.height.toNat ≤ input.length

/-- Every input is taken, and no short one comes before a full one where that costs the buffer. -/
def Converter.Sound : Converter → List (List UInt8) → Prop
  | .pixel c, inputs => ∀ input ∈ inputs, Takes c.srcFormat c.resolution input
  | .nv12 c, inputs => (∀ input ∈ inputs, Takes c.srcFormat c.resolution input) ∧
      (c.srcFormat = .nv21 → c.resolution.Fits →
        inputs.Pairwise fun earlier later => FullNv21 c.resolution later →
          FullNv21 c.resolution earlier)

/-- Each call answers what it would have answered first, errors for errors and the same bytes for
bytes, and none panics. -/
def Converter.HistoryIndependent (lib : Library) (c : Converter) (inputs : List (List UInt8)) :
    Prop :=
  ∀ pre input post, inputs = pre ++ input :: post →
    ((c.after lib pre).convert lib input).1 ≠ .error .panic ∧
      ∀ bytes, ((c.after lib pre).convert lib input).1 = .ok bytes ↔
        (c.convert lib input).1 = .ok bytes

/-! ## Sizes -/

/-- The pixels that the constructors count. -/
def counted (r : Resolution) : Nat := (r.width * r.height).toNat

section Sizes

variable {r : Resolution} {a b : Nat}

theorem counted_eq (hw : r.width.toNat = 2 * a) (hh : r.height.toNat = 2 * b) :
    counted r = 4 * (a * b) % 2 ^ 32 := by
  rw [counted, UInt32.toNat_mul, hw, hh, frame_area]

theorem fits_iff (hw : r.width.toNat = 2 * a) (hh : r.height.toNat = 2 * b) :
    r.Fits ↔ 4 * (a * b) < 2 ^ 32 := by
  rw [Resolution.Fits, hw, hh, frame_area]

theorem newYuv420pBuffer_length :
    (newYuv420pBuffer r).length = counted r + counted r / 4 * 2 := by
  rw [newYuv420pBuffer, List.length_replicate]
  rfl

theorem newNv12Buffer_length : (newNv12Buffer r).length = counted r + counted r / 2 := by
  rw [newNv12Buffer, List.length_replicate]
  rfl

theorem i420Size_eq : Libyuv.i420Size (2 * a) (2 * b) = 6 * (a * b) := by
  rw [Libyuv.i420Size, frame_area, Nat.mul_div_cancel_left _ (by decide),
    Nat.mul_div_cancel_left _ (by decide)]
  omega

theorem nv12Size_eq : Libyuv.nv12Size (2 * a) (2 * b) = 6 * (a * b) := by
  rw [Libyuv.nv12Size, frame_area]
  omega

end Sizes

/-! ## Calls of libyuv -/

/-- A binding answers for the size of its buffer, whatever is in it. -/
theorem convertFrame_determined (lib : Library) (kernel : Libyuv.Kernel) (need : Nat)
    (src : List UInt8) {width height size : Nat} (hsize : size ≤ kernel.size width height) :
    ∃ answer : Except Libyuv.YuvError (List UInt8),
      (∀ out, answer = .ok out → out.length = size ∧ need ≤ src.length) ∧
      (∀ dst : List UInt8, dst.length = size →
        Libyuv.convertFrame lib kernel need src dst width height = answer) := by
  refine ⟨Libyuv.convertFrame lib kernel need src (List.replicate size 0) width height, ?_, ?_⟩
  · intro out hout
    rw [Libyuv.convertFrame, List.length_replicate] at hout
    split at hout
    · cases hout
    · split at hout
      · cases hout
      · rename_i hlong
        cases hout
        rw [List.length_append, lib.frame_length, List.length_drop, List.length_replicate]
        omega
  · intro dst hdst
    simp only [Libyuv.convertFrame, hdst, List.length_replicate]
    rw [List.drop_eq_nil_of_le (by omega), List.drop_eq_nil_of_le (by
      rw [List.length_replicate]
      omega)]

/-- A binding gives the frame of the C function if its input is long enough. -/
theorem convertFrame_ok (lib : Library) (kernel : Libyuv.Kernel) {need a b : Nat}
    {src dst : List UInt8} (hsrc : need ≤ src.length)
    (hdst : dst.length = kernel.size (2 * a) (2 * b)) :
    Libyuv.convertFrame lib kernel need src dst (2 * a) (2 * b) =
      .ok (lib.frame kernel (2 * a) (2 * b) src) := by
  rw [Libyuv.convertFrame, if_neg (by omega), if_neg (by omega), List.drop_eq_nil_of_le (by omega),
    List.append_nil]

/-- A binding by way of I420 likewise. -/
theorem viaI420_determined (lib : Library) (src : List UInt8)
    (toI420 : List UInt8 → Except Libyuv.YuvError (List UInt8)) (need : Nat)
    {width height size : Nat} (hsize : size ≤ Libyuv.nv12Size width height) :
    ∃ answer : Except Libyuv.YuvError (List UInt8),
      (∀ out, answer = .ok out → out.length = size) ∧
      (∀ dst : List UInt8, dst.length = size →
        Libyuv.viaI420 lib src dst width height toI420 need = answer) := by
  by_cases hgood : (width % 2 ≠ 0 ∨ height % 2 ≠ 0) ∨
      (src.length < need ∨ size < Libyuv.nv12Size width height)
  · refine ⟨Libyuv.viaI420 lib src (List.replicate size 0) width height toI420 need, ?_, ?_⟩
    · intro out hout
      rw [Libyuv.viaI420, List.length_replicate] at hout
      split at hout
      · cases hout
      · rename_i heven
        rw [if_pos (hgood.resolve_left heven)] at hout
        cases hout
    · intro dst hdst
      simp only [Libyuv.viaI420, hdst, List.length_replicate]
      split
      · rfl
      · rename_i heven
        rw [if_pos (hgood.resolve_left heven), if_pos (hgood.resolve_left heven)]
  · rw [not_or] at hgood
    cases hfirst : toI420 (List.replicate (Libyuv.i420Size width height) 0) with
    | error e =>
      refine ⟨.error e, ?_, ?_⟩
      · intro out hout
        cases hout
      · intro dst hdst
        rw [Libyuv.viaI420, if_neg hgood.1, hdst, if_neg hgood.2, hfirst]
        rfl
    | ok i420 =>
      obtain ⟨answer, hlength, hsame⟩ := convertFrame_determined lib .i420ToNv12
        (Libyuv.i420Size width height) i420 hsize
      refine ⟨answer, fun out hout => (hlength out hout).1, ?_⟩
      intro dst hdst
      rw [Libyuv.viaI420, if_neg hgood.1, hdst, if_neg hgood.2, hfirst]
      exact hsame dst hdst

/-! ## To YUV420P -/

section Pixel

variable {lib : Library} {format : PixelFormat} {r : Resolution} {a b : Nat}
  {input : List UInt8} {answer : Except Fault (List UInt8)}

/-- A converter with buffers of the sizes that it was built with. -/
structure PixelConverter.Sized (format : PixelFormat) (r : Resolution) (c : PixelConverter) :
    Prop where
  src : c.srcFormat = format
  dst : c.dstFormat = .yuv420
  resolution : c.resolution = r
  output : c.outputBuffer.length = counted r + counted r / 4 * 2
  split : c.uvSplitBuffer.length = counted r * 2

theorem PixelConverter.new_sized : (PixelConverter.new format .yuv420 r).Sized format r where
  src := rfl
  dst := rfl
  resolution := rfl
  output := newYuv420pBuffer_length
  split := List.length_replicate

/-- A part of a call has this answer, and buffers of the same sizes. -/
def PixelConverter.Gives (r : Resolution) (answer : Except Fault (List UInt8))
    (result : Except Fault (List UInt8 × List UInt8)) : Prop :=
  (∃ fault, answer = .error fault ∧ result = .error fault) ∨
    ∃ out split, answer = .ok out ∧ result = .ok (out, split) ∧
      out.length = counted r + counted r / 4 * 2 ∧ split.length = counted r * 2

/-- The answer to an input is that of any converter with buffers of these sizes, which it leaves
with such buffers. -/
def PixelConverter.Answers (lib : Library) (format : PixelFormat) (r : Resolution)
    (input : List UInt8) (answer : Except Fault (List UInt8)) : Prop :=
  ∀ c : PixelConverter, c.Sized format r →
    (c.convert lib input).1 = answer ∧ (c.convert lib input).2.Sized format r

theorem PixelConverter.answers_of_gives
    {part : PixelConverter → Except Fault (List UInt8 × List UInt8)}
    (hconvert : ∀ c : PixelConverter, c.Sized format r → c.convert lib input = c.settle (part c))
    (hpart : ∀ c : PixelConverter, c.Sized format r → Gives r answer (part c)) :
    Answers lib format r input answer := by
  intro c hc
  rw [hconvert c hc]
  rcases hpart c hc with ⟨fault, rfl, hresult⟩ | ⟨out, split, rfl, hresult, hout, hsplit⟩
  · rw [hresult]
    exact ⟨rfl, hc⟩
  · rw [hresult]
    exact ⟨rfl, hc.src, hc.dst, hc.resolution, hout, hsplit⟩

/-- A part that answers from the size of the output buffer alone. -/
theorem PixelConverter.gives_unsplit {c : PixelConverter} (hc : c.Sized format r)
    {result : Except Fault (List UInt8)} (hsame : result = answer)
    (hlength : ∀ out, answer = .ok out → out.length = counted r + counted r / 4 * 2) :
    Gives r answer (c.unsplit result) := by
  subst hsame
  cases hresult : result with
  | error fault => exact Or.inl ⟨fault, rfl, rfl⟩
  | ok out => exact Or.inr ⟨out, c.uvSplitBuffer, rfl, rfl, hlength out hresult, hc.split⟩

theorem failing_not_panic {text : String} {x : Except Libyuv.YuvError (List UInt8)} :
    failing text x ≠ .error .panic := by
  cases x with
  | error e =>
    intro h
    cases h
  | ok out =>
    intro h
    cases h

theorem failing_ok {text : String} {x : Except Libyuv.YuvError (List UInt8)} {out : List UInt8}
    (h : failing text x = .ok out) : x = .ok out := by
  cases x with
  | error e => cases h
  | ok out' =>
    cases h
    rfl

/-- The formats that one binding converts. -/
theorem PixelConverter.answers_libyuv (hw : r.width.toNat = 2 * a) (hh : r.height.toNat = 2 * b)
    (kernel : Libyuv.Kernel) (need : Nat)
    (hkernel : kernel.size (2 * a) (2 * b) = Libyuv.i420Size (2 * a) (2 * b))
    (hconvert : ∀ c : PixelConverter, c.Sized format r → c.convert lib input =
      c.settle (c.unsplit (failing "libyuv conversion failed: "
        (Libyuv.convertFrame lib kernel need input c.outputBuffer (2 * a) (2 * b))))) :
    ∃ answer, answer ≠ .error .panic ∧ Answers lib format r input answer := by
  have hcounted := counted_eq hw hh
  have hsize : counted r + counted r / 4 * 2 ≤ kernel.size (2 * a) (2 * b) := by
    rw [hkernel, i420Size_eq]
    omega
  obtain ⟨answer, hlength, hsame⟩ := convertFrame_determined lib kernel need input hsize
  refine ⟨failing "libyuv conversion failed: " answer, failing_not_panic,
    answers_of_gives hconvert ?_⟩
  intro c hc
  apply gives_unsplit hc
  · rw [hsame c.outputBuffer hc.output]
  · intro out hout
    exact (hlength out (failing_ok hout)).1

/-- A conversion by the program: it gives the same bytes on every buffer of this size, or panics
on every one. -/
theorem PixelConverter.answers_sw {convertSw : List UInt8 → Except Panic (List UInt8)}
    {good : Prop} (hgood : good → ∃ out : List UInt8,
      out.length = counted r + counted r / 4 * 2 ∧ ∀ data : List UInt8,
        data.length = counted r + counted r / 4 * 2 → convertSw data = .ok out)
    (hbad : ∀ data out : List UInt8, data.length = counted r + counted r / 4 * 2 →
      convertSw data = .ok out → good)
    (hconvert : ∀ c : PixelConverter, c.Sized format r →
      c.convert lib input = c.settle (c.unsplit (panics (convertSw c.outputBuffer)))) :
    ∃ answer, (answer ≠ .error .panic ↔ good) ∧ Answers lib format r input answer := by
  by_cases h : good
  · obtain ⟨out, hlength, hsame⟩ := hgood h
    refine ⟨.ok out, ⟨fun _ => h, fun _ hpanic => by cases hpanic⟩, answers_of_gives hconvert ?_⟩
    intro c hc
    apply gives_unsplit hc
    · rw [hsame c.outputBuffer hc.output]
      rfl
    · intro out' hout
      cases hout
      exact hlength
  · refine ⟨.error .panic, ⟨fun hno => absurd rfl hno, fun hyes => absurd hyes h⟩,
      answers_of_gives hconvert ?_⟩
    intro c hc
    apply gives_unsplit hc
    · cases hresult : convertSw c.outputBuffer with
      | ok out => exact absurd (hbad c.outputBuffer out hc.output hresult) h
      | error e => rfl
    · intro out hout
      cases hout

/-- A semiplanar input: too short for an error, else converted or, with the sizes counted wrong,
a panic. -/
theorem PixelConverter.answers_semiplanar (hw : r.width.toNat = 2 * a)
    (hh : r.height.toNat = 2 * b) (hb : 0 < b) {name : String} {kernel : Libyuv.PlanarKernel}
    {uvSize chromaPlaneSize uvStride chromaWidth : Nat} (hwidth : 0 < chromaWidth)
    (hchroma : chromaWidth * (2 * b) = chromaPlaneSize)
    (hplane : 2 * (a * b) ≤ chromaPlaneSize ∧ chromaPlaneSize ≤ 4 * (a * b))
    (hstride : r.Fits → uvStride * (2 * b) ≤ uvSize ∧ uvSize ≤ 8 * (a * b))
    (hconvert : ∀ c : PixelConverter, c.Sized format r → c.convert lib input =
      c.settle (convertSemiplanar lib name kernel uvSize chromaPlaneSize uvStride chromaWidth
        input c)) :
    ∃ answer, (answer ≠ .error .panic ↔
        r.Fits ∨ input.length < usizeAdd (r.width.toNat * r.height.toNat) uvSize) ∧
      Answers lib format r input answer := by
  have hcounted := counted_eq hw hh
  have hfits := fits_iff hw hh
  have harea : r.width.toNat * r.height.toNat = 4 * (a * b) := by
    rw [hw, hh, frame_area]
  by_cases hshort : input.length < usizeAdd (r.width.toNat * r.height.toNat) uvSize
  · refine ⟨.error (.videoError (name ++ " data too small: " ++ toString input.length ++ " < " ++
      toString (usizeAdd (r.width.toNat * r.height.toNat) uvSize))), ⟨fun _ => Or.inr hshort, ?_⟩,
      answers_of_gives hconvert ?_⟩
    · intro _ h
      cases h
    · intro c hc
      refine Or.inl ⟨_, rfl, ?_⟩
      rw [convertSemiplanar]
      simp only [hc.resolution]
      rw [if_pos hshort]
  · by_cases hfit : r.Fits
    · obtain ⟨hrows, hmost⟩ := hstride hfit
      have hless := hfits.1 hfit
      have hlong : 4 * (a * b) + uvSize ≤ input.length := by
        rw [harea, usizeAdd, Nat.mod_eq_of_lt (by omega)] at hshort
        omega
      obtain ⟨out, hout, hsame⟩ := @convertSemiplanar_determined lib name kernel uvSize
        chromaPlaneSize uvStride chromaWidth a b input hb hwidth hchroma hplane.2 hrows (by omega)
        hlong
      refine ⟨.ok out, ⟨fun _ => Or.inl hfit, fun _ h => by cases h⟩,
        answers_of_gives hconvert ?_⟩
      intro c hc
      obtain ⟨split, hlength, hresult⟩ := hsame c (by rw [hc.resolution, hw])
        (by rw [hc.resolution, hh]) (by rw [hc.output]; omega) (by rw [hc.split]; omega)
      exact Or.inr ⟨out, split, rfl, hresult, by omega, by omega⟩
    · have hmore := mt hfits.2 hfit
      refine ⟨.error .panic, ⟨fun h => absurd rfl h, fun h => ?_⟩, answers_of_gives hconvert ?_⟩
      · exact absurd h (by simp only [hfit, hshort, or_self, not_false_eq_true])
      · intro c hc
        refine Or.inl ⟨_, rfl, convertSemiplanar_overflow ?_ ?_⟩
        · rw [hc.split]
          omega
        · rw [hc.resolution]
          exact Nat.le_of_not_lt hshort

/-- What each format answers, and when it panics. -/
theorem PixelConverter.determined (hw : r.width.toNat = 2 * a) (hh : r.height.toNat = 2 * b)
    (ha : 0 < a) (hb : 0 < b) (hformat : format ∈ [PixelFormat.yuyv, .uyvy, .yvyu, .nv12, .nv21,
      .nv16, .nv24, .yvu420, .rgb24, .bgr24]) :
    ∃ answer, (answer ≠ .error .panic ↔ Takes format r input) ∧
      Answers lib format r input answer := by
  have hcounted := counted_eq hw hh
  have hfits := fits_iff hw hh
  have harea : r.width.toNat * r.height.toNat = 4 * (a * b) := by
    rw [hw, hh, frame_area]
  have hone : ∀ (kernel : Libyuv.Kernel) (need : Nat),
      kernel.size (2 * a) (2 * b) = Libyuv.i420Size (2 * a) (2 * b) →
      (∀ c : PixelConverter, c.Sized format r → c.convert lib input =
        c.settle (c.unsplit (failing "libyuv conversion failed: "
          (Libyuv.convertFrame lib kernel need input c.outputBuffer (2 * a) (2 * b))))) →
      Takes format r input → ∃ answer, (answer ≠ .error .panic ↔ Takes format r input) ∧
        Answers lib format r input answer := by
    intro kernel need hkernel hconvert htakes
    obtain ⟨answer, hnot, hanswers⟩ := answers_libyuv hw hh kernel need hkernel hconvert
    exact ⟨answer, ⟨fun _ => htakes, fun _ => hnot⟩, hanswers⟩
  simp only [List.mem_cons, List.not_mem_nil, or_false] at hformat
  rcases hformat with rfl | rfl | rfl | rfl | rfl | rfl | rfl | rfl | rfl | rfl
  · refine hone .yuy2ToI420 (Libyuv.yuyvSize (2 * a) (2 * b)) rfl ?_ trivial
    intro c hc
    simp only [convert, hc.src, hc.dst, hc.resolution, hw, hh]
    rfl
  · refine hone .uyvyToI420 (Libyuv.yuyvSize (2 * a) (2 * b)) rfl ?_ trivial
    intro c hc
    simp only [convert, hc.src, hc.dst, hc.resolution, hw, hh]
    rfl
  · -- YVYU
    have hequiv : Takes .yvyu r input ↔ r.Fits ∧ 8 * (a * b) ≤ input.length := by
      simp only [Takes, harea]
      rw [show 4 * (a * b) * 2 = 8 * (a * b) by omega]
    rw [hequiv]
    refine @answers_sw lib .yvyu r input (convertYvyuToYuv420pSw input (2 * a) (2 * b)) _ ?_ ?_ ?_
    · rintro ⟨hfit, hlong⟩
      have hless := hfits.1 hfit
      rw [show counted r + counted r / 4 * 2 = 6 * (a * b) by omega]
      exact convertYvyu_determined hlong
    · intro data out hdata hok
      obtain ⟨hlong, hbuffer⟩ := convertYvyu_bound ha hb hok
      exact ⟨hfits.2 (by omega), hlong⟩
    · intro c hc
      simp only [convert, hc.src, hc.dst, hc.resolution, hw, hh]
  · refine hone .nv12ToI420 (Libyuv.nv12Size (2 * a) (2 * b)) rfl ?_ trivial
    intro c hc
    simp only [convert, hc.src, hc.dst, hc.resolution, hw, hh]
    rfl
  · refine hone .nv21ToI420 (Libyuv.nv12Size (2 * a) (2 * b)) rfl ?_ trivial
    intro c hc
    simp only [convert, hc.src, hc.dst, hc.resolution, hw, hh]
    rfl
  · -- NV16
    have hanswers := @answers_semiplanar lib .nv16 r a b input hw hh hb "NV16" .i422ToI420
      (4 * (a * b)) (4 * (a * b) / 2) (2 * a) (2 * a / 2) (by omega)
      (by rw [Nat.mul_div_cancel_left _ (by decide), Nat.mul_left_comm]; omega) (by omega)
      (fun _ => ⟨Nat.le_of_eq (frame_area a b), by omega⟩)
      (by
        intro c hc
        simp only [convert, hc.src, hc.dst, convertNv16ToYuv420p, hc.resolution, hw, hh,
          frame_area])
    simp only [Takes]
    rw [harea] at hanswers ⊢
    exact hanswers
  · -- NV24
    have hanswers := @answers_semiplanar lib .nv24 r a b input hw hh hb "NV24" .i444ToI420
      (4 * (a * b) * 2 % 2 ^ 64) (4 * (a * b)) (2 * a * 2) (2 * a) (by omega) (frame_area a b)
      (by omega)
      (by
        intro hfit
        have hless := hfits.1 hfit
        have hrows : 2 * a * 2 * (2 * b) = 8 * (a * b) := by
          rw [Nat.mul_right_comm (2 * a), frame_area]
          omega
        omega)
      (by
        intro c hc
        simp only [convert, hc.src, hc.dst, convertNv24ToYuv420p, hc.resolution, hw, hh,
          frame_area])
    simp only [Takes]
    rw [harea] at hanswers ⊢
    exact hanswers
  · -- YVU420
    have hequiv : Takes .yvu420 r input ↔ r.Fits ∧ input.length = 6 * (a * b) := by
      simp only [Takes, harea]
      rw [show 4 * (a * b) * 3 / 2 = 6 * (a * b) by omega]
    rw [hequiv]
    refine @answers_sw lib .yvu420 r input (convertYvu420ToYuv420pSw input (2 * a) (2 * b)) _
      ?_ ?_ ?_
    · rintro ⟨hfit, hexact⟩
      have hless := hfits.1 hfit
      rw [show counted r + counted r / 4 * 2 = 6 * (a * b) by omega]
      exact convertYvu420_determined (by omega) hexact
    · intro data out hdata hok
      obtain ⟨hexact, hbuffer⟩ := convertYvu420_bound (by omega) hok
      exact ⟨hfits.2 (by omega), hexact⟩
    · intro c hc
      simp only [convert, hc.src, hc.dst, hc.resolution, hw, hh]
  · refine hone .rawToI420 (Libyuv.rgb24Size (2 * a) (2 * b)) rfl ?_ trivial
    intro c hc
    simp only [convert, hc.src, hc.dst, hc.resolution, hw, hh]
    rfl
  · refine hone .rgb24ToI420 (Libyuv.rgb24Size (2 * a) (2 * b)) rfl ?_ trivial
    intro c hc
    simp only [convert, hc.src, hc.dst, hc.resolution, hw, hh]
    rfl

end Pixel

/-! ## To NV12 -/

section Nv12

variable {lib : Library} {format : PixelFormat} {r : Resolution} {a b : Nat}
  {input : List UInt8} {answer : Except Fault (List UInt8)}

structure Nv12Converter.Sized (format : PixelFormat) (r : Resolution) (c : Nv12Converter) :
    Prop where
  src : c.srcFormat = format
  resolution : c.resolution = r
  output : c.outputBuffer.length = counted r + counted r / 2

theorem Nv12Converter.new_sized : (Nv12Converter.new format r).Sized format r where
  src := rfl
  resolution := rfl
  output := newNv12Buffer_length

def Nv12Converter.Answers (lib : Library) (format : PixelFormat) (r : Resolution)
    (input : List UInt8) (answer : Except Fault (List UInt8)) : Prop :=
  ∀ c : Nv12Converter, c.Sized format r →
    (c.convert lib input).1 = answer ∧ (c.convert lib input).2.Sized format r

theorem Nv12Converter.answers_of_part {part : Nv12Converter → Except Fault (List UInt8)}
    (hlength : ∀ out, answer = .ok out → out.length = counted r + counted r / 2)
    (hconvert : ∀ c : Nv12Converter, c.Sized format r → c.convert lib input = c.settle (part c))
    (hpart : ∀ c : Nv12Converter, c.Sized format r → part c = answer) :
    Answers lib format r input answer := by
  intro c hc
  rw [hconvert c hc, hpart c hc]
  cases hanswer : answer with
  | error fault => exact ⟨rfl, hc⟩
  | ok out => exact ⟨rfl, hc.src, hc.resolution, hlength out hanswer⟩

/-- The formats that libyuv converts. -/
theorem Nv12Converter.answers_libyuv (hw : r.width.toNat = 2 * a) (hh : r.height.toNat = 2 * b)
    {binding : List UInt8 → Except Libyuv.YuvError (List UInt8)}
    (hbinding : ∀ size ≤ Libyuv.nv12Size (2 * a) (2 * b),
      ∃ answer : Except Libyuv.YuvError (List UInt8),
        (∀ out, answer = .ok out → out.length = size) ∧
        ∀ dst : List UInt8, dst.length = size → binding dst = answer)
    (hconvert : ∀ c : Nv12Converter, c.Sized format r → c.convert lib input =
      c.settle (failing "libyuv NV12 conversion failed: " (binding c.outputBuffer))) :
    ∃ answer, answer ≠ .error .panic ∧ Answers lib format r input answer := by
  have hcounted := counted_eq hw hh
  obtain ⟨answer, hlength, hsame⟩ := hbinding (counted r + counted r / 2) (by
    rw [nv12Size_eq]
    omega)
  refine ⟨failing "libyuv NV12 conversion failed: " answer, failing_not_panic,
    answers_of_part ?_ hconvert ?_⟩
  · intro out hout
    exact hlength out (failing_ok hout)
  · intro c hc
    rw [hsame c.outputBuffer hc.output]

/-- An input whose chroma is brought down row by row. -/
theorem Nv12Converter.answers_rows (hw : r.width.toNat = 2 * a) (hh : r.height.toNat = 2 * b)
    {name : String} {uvSize : Nat}
    {convertRow : List UInt8 → Nat → Plane → Nat → List UInt8 → Except Panic (List UInt8)}
    (hrow : r.Fits → ∀ srcUv : List UInt8, srcUv.length = uvSize → ∀ row < b,
      Lib.Overwrites (6 * (a * b)) (convertRow srcUv (2 * a) ⟨4 * (a * b), 2 * (a * b)⟩ row)
        (InRow a b row))
    (hmost : uvSize ≤ 8 * (a * b))
    (hconvert : ∀ c : Nv12Converter, c.Sized format r → c.convert lib input =
      c.settle (convertRows name uvSize convertRow (2 * a) (2 * b) input c.outputBuffer)) :
    ∃ answer, (answer ≠ .error .panic ↔
        r.Fits ∨ input.length < usizeAdd (r.width.toNat * r.height.toNat) uvSize) ∧
      Answers lib format r input answer := by
  have hcounted := counted_eq hw hh
  have hfits := fits_iff hw hh
  have harea : r.width.toNat * r.height.toNat = 4 * (a * b) := by
    rw [hw, hh, frame_area]
  rw [harea]
  by_cases hshort : input.length < usizeAdd (4 * (a * b)) uvSize
  · refine ⟨.error (.videoError (name ++ " data too small: " ++ toString input.length ++ " < " ++
      toString (usizeAdd (4 * (a * b)) uvSize))), ⟨fun _ => Or.inr hshort, ?_⟩,
      answers_of_part ?_ hconvert ?_⟩
    · intro _ h
      cases h
    · intro out hout
      cases hout
    · intro c hc
      rw [convertRows]
      simp only [frame_area]
      rw [if_pos hshort]
  · by_cases hfit : r.Fits
    · have hless := hfits.1 hfit
      have hlong : 4 * (a * b) + uvSize ≤ input.length := by
        rw [usizeAdd, Nat.mod_eq_of_lt (by omega)] at hshort
        omega
      have hsize : counted r + counted r / 2 = 6 * (a * b) := by omega
      obtain ⟨out, hout, hsame⟩ := @convertRows_determined a b input name uvSize convertRow
        (hrow hfit) (by omega) hlong
      refine ⟨.ok out, ⟨fun _ => Or.inl hfit, fun _ h => by cases h⟩,
        answers_of_part ?_ hconvert ?_⟩
      · intro out' hout'
        cases hout'
        rw [hsize, hout]
      · intro c hc
        exact hsame c.outputBuffer (by rw [hc.output, hsize])
    · have hmore := mt hfits.2 hfit
      refine ⟨.error .panic, ⟨fun h => absurd rfl h, fun h => ?_⟩, answers_of_part ?_ hconvert ?_⟩
      · exact absurd h (by simp only [hfit, hshort, or_self, not_false_eq_true])
      · intro out hout
        cases hout
      · intro c hc
        apply convertRows_overflow
        · rw [hc.output, frame_area]
          omega
        · rw [frame_area]
          exact Nat.le_of_not_lt hshort

theorem Nv12Converter.determined (hw : r.width.toNat = 2 * a) (hh : r.height.toNat = 2 * b)
    (hformat : format ∈ [PixelFormat.bgr24, .rgb24, .yuyv, .yuv420, .nv16, .nv24]) :
    ∃ answer, (answer ≠ .error .panic ↔ Takes format r input) ∧
      Answers lib format r input answer := by
  have hfits := fits_iff hw hh
  have hone : ∀ {binding : List UInt8 → Except Libyuv.YuvError (List UInt8)},
      (∀ size ≤ Libyuv.nv12Size (2 * a) (2 * b),
        ∃ answer : Except Libyuv.YuvError (List UInt8),
          (∀ out, answer = .ok out → out.length = size) ∧
          ∀ dst : List UInt8, dst.length = size → binding dst = answer) →
      (∀ c : Nv12Converter, c.Sized format r → c.convert lib input =
        c.settle (failing "libyuv NV12 conversion failed: " (binding c.outputBuffer))) →
      Takes format r input → ∃ answer, (answer ≠ .error .panic ↔ Takes format r input) ∧
        Answers lib format r input answer := by
    intro binding hbinding hconvert htakes
    obtain ⟨answer, hnot, hanswers⟩ := answers_libyuv hw hh hbinding hconvert
    exact ⟨answer, ⟨fun _ => htakes, fun _ => hnot⟩, hanswers⟩
  have hframe : ∀ (kernel : Libyuv.Kernel) (need size : Nat),
      size ≤ kernel.size (2 * a) (2 * b) →
      ∃ answer : Except Libyuv.YuvError (List UInt8),
        (∀ out, answer = .ok out → out.length = size) ∧ ∀ dst : List UInt8, dst.length = size →
          Libyuv.convertFrame lib kernel need input dst (2 * a) (2 * b) = answer := by
    intro kernel need size hsize
    obtain ⟨answer, hlength, hsame⟩ := convertFrame_determined lib kernel need input hsize
    exact ⟨answer, fun out hout => (hlength out hout).1, hsame⟩
  simp only [List.mem_cons, List.not_mem_nil, or_false] at hformat
  rcases hformat with rfl | rfl | rfl | rfl | rfl | rfl
  · refine hone (fun size hsize => viaI420_determined lib input
      (fun i420 => Libyuv.bgr24ToI420 lib input i420 (2 * a) (2 * b))
      (Libyuv.rgb24Size (2 * a) (2 * b)) hsize) ?_ trivial
    intro c hc
    simp only [convert, hc.src, hc.resolution, hw, hh]
    rfl
  · refine hone (fun size hsize => viaI420_determined lib input
      (fun i420 => Libyuv.rgb24ToI420 lib input i420 (2 * a) (2 * b))
      (Libyuv.rgb24Size (2 * a) (2 * b)) hsize) ?_ trivial
    intro c hc
    simp only [convert, hc.src, hc.resolution, hw, hh]
    rfl
  · refine hone (hframe .yuy2ToNv12 (Libyuv.yuyvSize (2 * a) (2 * b))) ?_ trivial
    intro c hc
    simp only [convert, hc.src, hc.resolution, hw, hh]
    rfl
  · refine hone (hframe .i420ToNv12 (Libyuv.i420Size (2 * a) (2 * b))) ?_ trivial
    intro c hc
    simp only [convert, hc.src, hc.resolution, hw, hh]
    rfl
  · have harea : r.width.toNat * r.height.toNat = 4 * (a * b) := by
      rw [hw, hh, frame_area]
    have hanswers := @answers_rows lib .nv16 r a b input hw hh "NV16" (4 * (a * b)) nv16Row
      (fun _ srcUv hsrc row hrow => overwrites_nv16Row hsrc hrow) (by omega)
      (by
        intro c hc
        simp only [convert, hc.src, hc.resolution, hw, hh, convertNv16ToNv12WithDims, frame_area])
    simp only [Takes]
    rw [harea] at hanswers ⊢
    exact hanswers
  · have harea : r.width.toNat * r.height.toNat = 4 * (a * b) := by
      rw [hw, hh, frame_area]
    have hanswers := @answers_rows lib .nv24 r a b input hw hh "NV24"
      (4 * (a * b) * 2 % 2 ^ 64) nv24Row
      (by
        intro hfit srcUv hsrc row hrow
        have hless := hfits.1 hfit
        exact overwrites_nv24Row (by omega) hrow)
      (by omega)
      (by
        intro c hc
        simp only [convert, hc.src, hc.resolution, hw, hh, convertNv24ToNv12WithDims, frame_area])
    simp only [Takes]
    rw [harea] at hanswers ⊢
    exact hanswers

/-! ## NV21 to NV12 -/

/-- The intermediate buffer is in place. -/
structure Nv12Converter.Ready (r : Resolution) (c : Nv12Converter) : Prop extends
    c.Sized .nv21 r where
  i420 : ∃ i420, c.i420Buffer = some i420 ∧ i420.length = counted r + counted r / 4 * 2

/-- The intermediate buffer has been lost. -/
def Nv12Converter.Spent (c : Nv12Converter) : Prop := c.srcFormat = .nv21 ∧ c.i420Buffer = none

theorem Nv12Converter.nv21ToNv12_ready : (Nv12Converter.nv21ToNv12 r).Ready r where
  toSized := ⟨rfl, rfl, newNv12Buffer_length⟩
  i420 := ⟨_, rfl, newYuv420pBuffer_length⟩

theorem Nv12Converter.convert_spent {c : Nv12Converter} (hc : c.Spent) :
    (∃ text, (c.convert lib input).1 = .error (.videoError text)) ∧
      (c.convert lib input).2.Spent := by
  simp only [convert, hc.1, hc.2]
  exact ⟨⟨_, rfl⟩, hc⟩

/-- A full input gives bytes that depend on nothing else, and keeps the buffer. -/
theorem Nv12Converter.convert_full (hw : r.width.toNat = 2 * a) (hh : r.height.toNat = 2 * b)
    (hfit : r.Fits) (hfull : FullNv21 r input) :
    ∃ out, ∀ c : Nv12Converter, c.Ready r →
      (c.convert lib input).1 = .ok out ∧ (c.convert lib input).2.Ready r := by
  have hcounted := counted_eq hw hh
  have hless := (fits_iff hw hh).1 hfit
  have hi420 := @i420Size_eq a b
  have hnv12 := @nv12Size_eq a b
  rw [FullNv21, hw, hh] at hfull
  have hlength := lib.frame_length .nv21ToI420 (2 * a) (2 * b) input
  have hlength' := lib.frame_length .i420ToNv12 (2 * a) (2 * b)
    (lib.frame .nv21ToI420 (2 * a) (2 * b) input)
  simp only [Libyuv.Kernel.size] at hlength hlength'
  refine ⟨lib.frame .i420ToNv12 (2 * a) (2 * b) (lib.frame .nv21ToI420 (2 * a) (2 * b) input), ?_⟩
  intro c hc
  obtain ⟨i420, hi, hsize⟩ := hc.i420
  have hfirst : Libyuv.nv21ToI420 lib input i420 (2 * a) (2 * b) =
      .ok (lib.frame .nv21ToI420 (2 * a) (2 * b) input) :=
    convertFrame_ok lib .nv21ToI420 hfull (by show i420.length = Libyuv.i420Size _ _; omega)
  have houtput := hc.output
  have hsecond : Libyuv.i420ToNv12 lib (lib.frame .nv21ToI420 (2 * a) (2 * b) input)
      c.outputBuffer (2 * a) (2 * b) = .ok (lib.frame .i420ToNv12 (2 * a) (2 * b)
        (lib.frame .nv21ToI420 (2 * a) (2 * b) input)) :=
    convertFrame_ok lib .i420ToNv12 (by omega)
      (by show c.outputBuffer.length = Libyuv.nv12Size _ _; omega)
  simp only [convert, hc.src, hi, hc.resolution, hw, hh, convertNv21ToNv12WithDims, hfirst,
    hsecond, failing, Except.mapError, Lib.ok_bind]
  refine ⟨trivial, ⟨rfl, rfl, ?_⟩, ⟨_, rfl, ?_⟩⟩
  · show (lib.frame .i420ToNv12 _ _ _).length = _
    omega
  · omega

/-- Any other input is refused, and the buffer is lost. -/
theorem Nv12Converter.convert_short (hw : r.width.toNat = 2 * a) (hh : r.height.toNat = 2 * b)
    (hshort : r.Fits → ¬FullNv21 r input) {c : Nv12Converter} (hc : c.Ready r) :
    (∃ text, (c.convert lib input).1 = .error (.videoError text)) ∧
      (c.convert lib input).2.Spent := by
  have hcounted := counted_eq hw hh
  have hfits := fits_iff hw hh
  have hi420 := @i420Size_eq a b
  obtain ⟨i420, hi, hsize⟩ := hc.i420
  rw [FullNv21, hw, hh] at hshort
  have hrefused : Libyuv.nv21ToI420 lib input i420 (2 * a) (2 * b) = .error .bufferTooSmall := by
    rw [Libyuv.nv21ToI420, Libyuv.convertFrame, if_neg (by omega), if_pos]
    by_cases hfit : r.Fits
    · exact Or.inl (Nat.lt_of_not_le (hshort hfit))
    · have hmore := mt hfits.2 hfit
      right
      show i420.length < Libyuv.i420Size _ _
      omega
  simp only [convert, hc.src, hi, hc.resolution, hw, hh, convertNv21ToNv12WithDims, hrefused,
    failing, Except.mapError]
  exact ⟨⟨_, rfl⟩, rfl, rfl⟩

end Nv12

/-! ## Calls in sequence -/

section Sequence

variable {lib : Library} {r : Resolution} {a b : Nat} {inputs : List (List UInt8)}

namespace Converter

theorem after_append (c : Converter) (pre post : List (List UInt8)) :
    c.after lib (pre ++ post) = (c.after lib pre).after lib post := List.foldl_append

/-- Converters that all answer alike, and stay among themselves, do so after any calls. -/
theorem historyIndependent_iff_takes {fresh : Converter} {among : Converter → Prop}
    {takes : List UInt8 → Prop} (hfresh : among fresh)
    (hanswer : ∀ input, ∃ answer, (answer ≠ .error .panic ↔ takes input) ∧
      ∀ c, among c → (c.convert lib input).1 = answer ∧ among (c.convert lib input).2) :
    fresh.HistoryIndependent lib inputs ↔ ∀ input ∈ inputs, takes input := by
  have hafter : ∀ pre : List (List UInt8), among (fresh.after lib pre) := by
    intro pre
    induction pre using List.reverseRecOn with
    | nil => exact hfresh
    | append_singleton pre input ih =>
      obtain ⟨answer, -, hsame⟩ := hanswer input
      rw [after_append]
      exact (hsame _ ih).2
  constructor
  · intro h input hinput
    obtain ⟨pre, post, rfl⟩ := List.append_of_mem hinput
    obtain ⟨answer, htakes, hsame⟩ := hanswer input
    have hnot := (h pre input post rfl).1
    rw [(hsame _ (hafter pre)).1] at hnot
    exact htakes.1 hnot
  · intro h pre input post hinputs
    obtain ⟨answer, htakes, hsame⟩ := hanswer input
    rw [(hsame _ (hafter pre)).1, (hsame _ hfresh).1]
    refine ⟨htakes.2 (h input ?_), fun _ => Iff.rfl⟩
    rw [hinputs]
    exact List.mem_append_right _ List.mem_cons_self

theorem pixel_iff (hw : r.width.toNat = 2 * a) (hh : r.height.toNat = 2 * b) (ha : 0 < a)
    (hb : 0 < b) {format : PixelFormat} (hformat : format ∈ [PixelFormat.yuyv, .uyvy, .yvyu,
      .nv12, .nv21, .nv16, .nv24, .yvu420, .rgb24, .bgr24]) :
    (pixel (.new format .yuv420 r)).HistoryIndependent lib inputs ↔
      (pixel (.new format .yuv420 r)).Sound inputs := by
  refine @historyIndependent_iff_takes lib inputs _ (fun c => ∃ p, c = pixel p ∧ p.Sized format r)
    _ ⟨_, rfl, PixelConverter.new_sized⟩ ?_
  intro input
  obtain ⟨answer, htakes, hsame⟩ :=
    @PixelConverter.determined lib format r a b input hw hh ha hb hformat
  refine ⟨answer, htakes, ?_⟩
  rintro c ⟨p, rfl, hp⟩
  exact ⟨(hsame p hp).1, _, rfl, (hsame p hp).2⟩

theorem nv12_iff (hw : r.width.toNat = 2 * a) (hh : r.height.toNat = 2 * b)
    {format : PixelFormat}
    (hformat : format ∈ [PixelFormat.bgr24, .rgb24, .yuyv, .yuv420, .nv16, .nv24]) :
    (nv12 (.new format r)).HistoryIndependent lib inputs ↔
      (nv12 (.new format r)).Sound inputs := by
  have hother : format ≠ .nv21 := by
    rintro rfl
    exact absurd hformat (by decide)
  have hiff := @historyIndependent_iff_takes lib inputs (nv12 (.new format r))
    (fun c => ∃ p, c = nv12 p ∧ p.Sized format r) (Takes format r)
    ⟨_, rfl, Nv12Converter.new_sized⟩ (by
      intro input
      obtain ⟨answer, htakes, hsame⟩ :=
        @Nv12Converter.determined lib format r a b input hw hh hformat
      refine ⟨answer, htakes, ?_⟩
      rintro c ⟨p, rfl, hp⟩
      exact ⟨(hsame p hp).1, _, rfl, (hsame p hp).2⟩)
  rw [hiff]
  exact ⟨fun h => ⟨h, fun h21 => absurd h21 hother⟩, fun h => h.1⟩

theorem pairwise_iff_split {α : Type*} {rel : α → α → Prop} {xs : List α} :
    xs.Pairwise rel ↔ ∀ pre x post, xs = pre ++ x :: post → ∀ y ∈ pre, rel y x := by
  constructor
  · rintro h pre x post rfl y hy
    exact (List.pairwise_append.1 h).2.2 y hy x List.mem_cons_self
  · intro h
    induction xs using List.reverseRecOn with
    | nil => exact List.Pairwise.nil
    | append_singleton xs x ih =>
      refine List.pairwise_append.2 ⟨ih ?_, List.pairwise_singleton _ _, ?_⟩
      · rintro pre y post rfl
        exact h pre y (post ++ [x]) (by simp)
      · intro y hy z hz
        rw [List.mem_singleton.1 hz]
        exact h xs x [] rfl y hy

theorem after_spent (lib : Library) {p : Nv12Converter} (hp : p.Spent) (pre : List (List UInt8)) :
    ∃ q : Nv12Converter, (nv12 p).after lib pre = nv12 q ∧ q.Spent := by
  induction pre generalizing p with
  | nil => exact ⟨p, rfl, hp⟩
  | cons input rest ih => exact ih (Nv12Converter.convert_spent hp).2

/-- The buffer is in place as long as every input has been full. -/
theorem after_nv21 (lib : Library) (hw : r.width.toNat = 2 * a) (hh : r.height.toNat = 2 * b) (hfit : r.Fits)
    {p : Nv12Converter} (hp : p.Ready r) (pre : List (List UInt8)) :
    ∃ q : Nv12Converter, (nv12 p).after lib pre = nv12 q ∧
      ((∀ y ∈ pre, FullNv21 r y) ∧ q.Ready r ∨ (∃ y ∈ pre, ¬FullNv21 r y) ∧ q.Spent) := by
  induction pre generalizing p with
  | nil => exact ⟨p, rfl, Or.inl ⟨fun y hy => (List.not_mem_nil hy).elim, hp⟩⟩
  | cons input rest ih =>
    by_cases hfull : FullNv21 r input
    · obtain ⟨out, hsame⟩ := @Nv12Converter.convert_full lib r a b input hw hh hfit hfull
      obtain ⟨q, hq, hstate⟩ := ih (hsame p hp).2
      refine ⟨q, hq, ?_⟩
      rcases hstate with ⟨hall, hready⟩ | ⟨⟨y, hy, hshort⟩, hspent⟩
      · exact Or.inl ⟨List.forall_mem_cons.2 ⟨hfull, hall⟩, hready⟩
      · exact Or.inr ⟨⟨y, List.mem_cons_of_mem _ hy, hshort⟩, hspent⟩
    · have hlost := (@Nv12Converter.convert_short lib r a b input hw hh (fun _ => hfull) p hp).2
      obtain ⟨q, hq, hspent⟩ := after_spent lib hlost rest
      exact ⟨q, hq, Or.inr ⟨⟨input, List.mem_cons_self, hfull⟩, hspent⟩⟩

/-- For NV21 every call before a full input must have been full. -/
theorem nv21_iff (hw : r.width.toNat = 2 * a) (hh : r.height.toNat = 2 * b) :
    (nv12 (.nv21ToNv12 r)).HistoryIndependent lib inputs ↔
      (nv12 (.nv21ToNv12 r)).Sound inputs := by
  have hready := @Nv12Converter.nv21ToNv12_ready r
  -- An answer that is an error against a fresh one that is an error.
  have hboth : ∀ {answer fresh : Except Fault (List UInt8)},
      (∃ text, answer = .error (.videoError text)) → (∃ text, fresh = .error (.videoError text)) →
        answer ≠ .error .panic ∧ ∀ bytes, answer = .ok bytes ↔ fresh = .ok bytes := by
    rintro answer fresh ⟨text, rfl⟩ ⟨text', rfl⟩
    refine ⟨?_, ?_⟩
    · intro h
      cases h
    · intro bytes
      constructor <;> intro h <;> cases h
  by_cases hfit : r.Fits
  · have hsound : (nv12 (.nv21ToNv12 r)).Sound inputs ↔
        ∀ pre x post, inputs = pre ++ x :: post → ∀ y ∈ pre, FullNv21 r x → FullNv21 r y := by
      rw [← pairwise_iff_split]
      exact ⟨fun h => h.2 rfl hfit, fun h => ⟨fun input _ => trivial, fun _ _ => h⟩⟩
    rw [hsound]
    constructor
    · intro h pre x post hinputs y hy hfull
      apply Classical.byContradiction
      intro hshort
      obtain ⟨q, hq, hstate⟩ := after_nv21 lib hw hh hfit hready pre
      rcases hstate with ⟨hall, -⟩ | ⟨-, hspent⟩
      · exact hshort (hall y hy)
      · obtain ⟨out, hsame⟩ := @Nv12Converter.convert_full lib r a b x hw hh hfit hfull
        have hagree := ((h pre x post hinputs).2 out).2 (hsame _ hready).1
        rw [hq] at hagree
        obtain ⟨text, htext⟩ := (@Nv12Converter.convert_spent lib x q hspent).1
        have hboth := htext.symm.trans hagree
        cases hboth
    · intro h pre x post hinputs
      obtain ⟨q, hq, hstate⟩ := after_nv21 lib hw hh hfit hready pre
      rw [hq]
      by_cases hfull : FullNv21 r x
      · obtain ⟨out, hsame⟩ := @Nv12Converter.convert_full lib r a b x hw hh hfit hfull
        rcases hstate with ⟨-, hkept⟩ | ⟨⟨y, hy, hshort⟩, -⟩
        · have hanswer : ((nv12 q).convert lib x).1 = .ok out := (hsame q hkept).1
          have hfresh : ((nv12 (.nv21ToNv12 r)).convert lib x).1 = .ok out := (hsame _ hready).1
          rw [hanswer, hfresh]
          refine ⟨?_, fun bytes => Iff.rfl⟩
          intro hpanic
          cases hpanic
        · exact absurd (h pre x post hinputs y hy hfull) hshort
      · have hfresh :=
          (@Nv12Converter.convert_short lib r a b x hw hh (fun _ => hfull) _ hready).1
        rcases hstate with ⟨-, hkept⟩ | ⟨-, hspent⟩
        · exact hboth (Nv12Converter.convert_short hw hh (fun _ => hfull) hkept).1 hfresh
        · exact hboth (Nv12Converter.convert_spent hspent).1 hfresh
  · have hshort : ∀ input, r.Fits → ¬FullNv21 r input := fun _ h => absurd h hfit
    constructor
    · exact fun _ => ⟨fun input _ => trivial, fun _ h => absurd h hfit⟩
    · intro _ pre x post _
      have hfresh := (@Nv12Converter.convert_short lib r a b x hw hh (hshort x) _ hready).1
      cases pre with
      | nil => exact hboth hfresh hfresh
      | cons input rest =>
        have hlost := (@Nv12Converter.convert_short lib r a b input hw hh (hshort input) _
          hready).2
        obtain ⟨q, hq, hspent⟩ := after_spent lib hlost rest
        have hafter : (nv12 (.nv21ToNv12 r)).after lib (input :: rest) = nv12 q := hq
        rw [hafter]
        exact hboth (Nv12Converter.convert_spent hspent).1 hfresh

/-- **Exactly when conversions depend on the calls before.** -/
theorem historyIndependent_iff (lib : Library) (r : Resolution)
    (hw : 0 < r.width.toNat ∧ r.width.toNat % 2 = 0)
    (hh : 0 < r.height.toNat ∧ r.height.toNat % 2 = 0) (c : Converter) (hc : c ∈ built r)
    (inputs : List (List UInt8)) : c.HistoryIndependent lib inputs ↔ c.Sound inputs := by
  obtain ⟨a, ha⟩ : ∃ a, r.width.toNat = 2 * a := ⟨r.width.toNat / 2, by omega⟩
  obtain ⟨b, hb⟩ : ∃ b, r.height.toNat = 2 * b := ⟨r.height.toNat / 2, by omega⟩
  have hpixel : ∀ format ∈ [PixelFormat.yuyv, .uyvy, .yvyu, .nv12, .nv21, .nv16, .nv24, .yvu420,
      .rgb24, .bgr24], (pixel (.new format .yuv420 r)).HistoryIndependent lib inputs ↔
        (pixel (.new format .yuv420 r)).Sound inputs :=
    fun format hformat => pixel_iff ha hb (by omega) (by omega) hformat
  have hnv12 : ∀ format ∈ [PixelFormat.bgr24, .rgb24, .yuyv, .yuv420, .nv16, .nv24],
      (nv12 (.new format r)).HistoryIndependent lib inputs ↔
        (nv12 (.new format r)).Sound inputs :=
    fun format hformat => nv12_iff ha hb hformat
  simp only [built, List.mem_cons, List.not_mem_nil, or_false] at hc
  rcases hc with rfl | rfl | rfl | rfl | rfl | rfl | rfl | rfl | rfl | rfl | rfl | rfl | rfl |
    rfl | rfl | rfl | rfl
  · exact hpixel .yuyv (by decide)
  · exact hpixel .uyvy (by decide)
  · exact hpixel .yvyu (by decide)
  · exact hpixel .nv12 (by decide)
  · exact hpixel .nv21 (by decide)
  · exact hpixel .nv16 (by decide)
  · exact hpixel .nv24 (by decide)
  · exact hpixel .yvu420 (by decide)
  · exact hpixel .rgb24 (by decide)
  · exact hpixel .bgr24 (by decide)
  · exact hnv12 .bgr24 (by decide)
  · exact hnv12 .rgb24 (by decide)
  · exact hnv12 .yuyv (by decide)
  · exact hnv12 .yuv420 (by decide)
  · exact nv21_iff ha hb
  · exact hnv12 .nv16 (by decide)
  · exact hnv12 .nv24 (by decide)

/-- C functions that give a black frame, as they do of a frame of zeros. -/
def blank : Library where
  frame kernel width height _ := List.replicate (kernel.size width height) 0
  frame_length _ _ _ _ := List.length_replicate
  splitUVPlane _ width height _ :=
    (List.replicate (width * height) 0, List.replicate (width * height) 0)
  splitUVPlane_length _ _ _ _ := ⟨List.length_replicate, List.length_replicate⟩
  planar _ width height _ _ _ := List.replicate (Libyuv.i420Size width height) 0
  planar_length _ _ _ _ _ _ := List.length_replicate

theorem yuyv_historyIndependent :
    (pixel (.yuyvToYuv420p ⟨2, 2⟩)).HistoryIndependent blank [[], List.replicate 8 0] :=
  (historyIndependent_iff blank ⟨2, 2⟩ (by decide) (by decide) _ (by decide) _).2
    fun _ _ => trivial

/-- After one short NV21 frame a full one is refused too. -/
theorem nv21_spoiled :
    ¬(nv12 (.nv21ToNv12 ⟨2, 2⟩)).HistoryIndependent blank [[], List.replicate 6 0] := by
  intro h
  have hagree := (h [[]] (List.replicate 6 0) [] rfl).2 (List.replicate 6 0)
  revert hagree
  decide

end Converter

end Sequence

end Convert

end StreamBox.Video
