import Mathlib.Data.List.Basic

/-!
# Resampling to 48 kHz stereo

`Opus48kPcmBuffer`: captured samples are pushed as they come and popped in blocks of 960 stereo
frames. Positions are exact: output frame `k` lies at `k * rate / 48000` in the input, which is
the frame `⌊k * rate / 48000⌋` and a fraction in units of `1 / 48000`.
-/

namespace StreamBox.Audio

def outRate : Nat := 48000

def opusStereoSamples : Nat := 960 * 2

/-- What stops a program that indexes a vector. -/
inductive IndexError
  | outOfBounds
  deriving DecidableEq, Repr

inductive PipelineState
  | stereo48kPassthrough
  | resample (inRate inChannels nextOutFrame bufferStartFrame : Nat)
  deriving DecidableEq, Repr

/-- Converts incoming interleaved PCM to 48 kHz stereo, then exposes fixed 960×2-sample chunks. -/
structure Opus48kPcmBuffer where
  state : PipelineState
  pending : List Int16 := []
  deriving DecidableEq

/-- `v.round()` of `v = numerator / 48000`: halves are rounded away from zero. -/
def roundQuotient (numerator : Int) : Int :=
  if 0 ≤ numerator then (2 * numerator + outRate) / (2 * outRate)
  else -((2 * -numerator + outRate) / (2 * outRate))

/-- `clamp_f64_to_i16` of `numerator / 48000`. -/
def clampToI16 (numerator : Int) : Int16 :=
  Int16.ofInt (min 32767 (max (-32768) (roundQuotient numerator)))

/-- `x0 + frac * (x1 - x0)`, with `frac` in units of `1 / 48000`. -/
def interpolate (frac : Nat) (x0 x1 : Int16) : Int16 :=
  clampToI16 (outRate * x0.toInt + frac * (x1.toInt - x0.toInt))

namespace Opus48kPcmBuffer

def new (inRate inChannels : Nat) : Opus48kPcmBuffer :=
  let ch := max inChannels 1
  let rate := max inRate 1
  { state :=
      if rate = 48000 ∧ ch = 2 then .stereo48kPassthrough else .resample rate ch 0 0 }

/-- Append one capture block. -/
def pushInterleaved (b : Opus48kPcmBuffer) (data : List Int16) : Opus48kPcmBuffer :=
  { b with pending := b.pending ++ data }

/-! ## Passing through -/

/-- Every pass takes samples away, so their number is enough fuel. -/
def passLoop : Nat → List Int16 → List Int16 → List Int16 × List Int16
  | 0, pending, out => (pending, out)
  | fuel + 1, pending, out =>
    if pending.length ≥ opusStereoSamples then
      passLoop fuel (pending.drop opusStereoSamples) (out ++ pending.take opusStereoSamples)
    else (pending, out)

/-! ## Resampling -/

/-- `pending[i]`. -/
def sampleAt (pending : List Int16) (i : Nat) : Except IndexError Int16 :=
  match pending[i]? with
  | some x => .ok x
  | none => .error .outOfBounds

/-- The output frame `k`, if the input has the two frames around it. -/
def outputFrame (rate ch start : Nat) (pending : List Int16) (k : Nat) :
    Except IndexError (Option (Int16 × Int16)) :=
  let frac := k * rate % outRate
  let fRel := k * rate / outRate - start
  if fRel + 1 ≥ pending.length / ch then .ok none
  else if ch ≥ 2 then do
    let l0 ← sampleAt pending (fRel * ch)
    let l1 ← sampleAt pending ((fRel + 1) * ch)
    let r0 ← sampleAt pending (fRel * ch + 1)
    let r1 ← sampleAt pending ((fRel + 1) * ch + 1)
    .ok (some (interpolate frac l0 l1, interpolate frac r0 r1))
  else do
    let m0 ← sampleAt pending (fRel * ch)
    let m1 ← sampleAt pending ((fRel + 1) * ch)
    .ok (some (interpolate frac m0 m1, interpolate frac m0 m1))

/-- So many output frames from `k` on, unless the input ends before. -/
def blockLoop (rate ch start : Nat) (pending : List Int16) :
    Nat → Nat → List Int16 → Except IndexError (Option (List Int16))
  | 0, _, block => .ok (some block)
  | n + 1, k, block =>
    (outputFrame rate ch start pending k).bind fun frame =>
      match frame with
      | none => .ok none
      | some (l, r) => blockLoop rate ch start pending n (k + 1) (block ++ [l, r])

/-- Drop the input that no output to come needs: what is left, and the frame it begins with. -/
def trimResamplePrefix (pending : List Int16) (inRate nextOutFrame bufferStartFrame ch : Nat) :
    List Int16 × Nat :=
  let keepFromAbs := nextOutFrame * inRate / outRate - 1
  if pending = [] ∨ keepFromAbs ≤ bufferStartFrame then (pending, bufferStartFrame)
  else
    let dropFrames := keepFromAbs - bufferStartFrame
    let dropSamples := min (dropFrames * ch) pending.length
    if dropSamples > 0 then (pending.drop dropSamples, bufferStartFrame + dropFrames)
    else (pending, bufferStartFrame)

/-- The next output frame and the buffer it is taken from, with the output. -/
structure Popped where
  next : Nat
  start : Nat
  pending : List Int16
  out : List Int16
  deriving DecidableEq

/-- The loop over the blocks. -/
def resampleLoop (rate ch : Nat) : Nat → Popped → Except IndexError Popped
  | 0, p => .ok p
  | fuel + 1, p =>
    (blockLoop rate ch p.start p.pending 960 p.next []).bind fun block =>
      match block with
      | none => .ok p
      | some block =>
        let (pending, start) := trimResamplePrefix p.pending rate (p.next + 960) p.start ch
        resampleLoop rate ch fuel
          { next := p.next + 960, start, pending, out := p.out ++ block }

/-- Drain as many 960×2 stereo samples (20 ms at 48 kHz) as possible; the output is appended. A
block ends before the input does, and no input frame is behind 48000 output frames. -/
def popOpusFrames (b : Opus48kPcmBuffer) (out : List Int16) :
    Except IndexError (Opus48kPcmBuffer × List Int16) :=
  match b.state with
  | .stereo48kPassthrough =>
    let (pending, out) := passLoop b.pending.length b.pending out
    .ok ({ b with pending }, out)
  | .resample inRate inChannels nextOutFrame bufferStartFrame =>
    let fuel := (bufferStartFrame + b.pending.length) * outRate + 1
    (resampleLoop inRate inChannels fuel ⟨nextOutFrame, bufferStartFrame, b.pending, out⟩).map
      fun p => ({ state := .resample inRate inChannels p.next p.start, pending := p.pending }, p.out)

/-! ## Calls -/

inductive Call
  | push (data : List Int16)
  | pop
  deriving DecidableEq

/-- A sequence of calls, with the output of all of them. -/
def run : Opus48kPcmBuffer → List Int16 → List Call →
    Except IndexError (Opus48kPcmBuffer × List Int16)
  | b, out, [] => .ok (b, out)
  | b, out, .push data :: rest => run (b.pushInterleaved data) out rest
  | b, out, .pop :: rest => (b.popOpusFrames out).bind fun (b, out) => run b out rest

/-- The samples that the calls push. -/
def pushed : List Call → List Int16
  | [] => []
  | .push data :: rest => data ++ pushed rest
  | .pop :: rest => pushed rest

end Opus48kPcmBuffer

end StreamBox.Audio
