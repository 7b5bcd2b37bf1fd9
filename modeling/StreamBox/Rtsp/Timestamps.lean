import Mathlib.Algebra.Group.Nat.Defs
import Mathlib.Data.List.Basic

/-!
# RTP timestamps

`monotonic_rtp_timestamp`: the 90 kHz value of a frame's time if it is greater than the last
timestamp, else a step by the frame's duration. Both are numbers of 32 bits that wrap, and they
are compared as plain numbers.

* **Frames** — `advances_iff`: a timestamp is after the last one, and the frame's own where that
  is, exactly if no wrap lies between the two.
* **Streams** — `timestamps_advance_iff`.
* **Failure** — `timestamps_go_back`.
-/

namespace StreamBox.Rtsp

/-- The clock of video payloads in Hz. -/
def rtpClockRate : Nat := 90000

/-- The product is taken in 64 bits, and 32 bits of the quotient are kept. -/
def ptsToRtpTimestamp (ptsMs : Int) : UInt32 :=
  if ptsMs ≤ 0 then 0
  else UInt32.ofNat (ptsMs.toNat * rtpClockRate % 2 ^ 64 / 1000)

structure VideoFrame where
  ptsMs : Int
  /-- In nanoseconds. -/
  duration : Nat
  deriving DecidableEq, Repr

section

variable (rounded : Nat → UInt32)

/-- 90 kHz ticks per frame from nominal duration (at least 1); `rounded` is the duration in ticks,
rounded in floating point. -/
def rtpTimestampIncrement (frameDuration : Nat) : UInt32 := max (rounded frameDuration) 1

/-- Prefer PTS-based RTP time when it advances; otherwise step by `frameDuration` in 90 kHz
units. -/
def monotonicRtpTimestamp (ptsMs : Int) (last : UInt32) (frameDuration : Nat) : UInt32 :=
  let fromPts := ptsToRtpTimestamp ptsMs
  let inc := rtpTimestampIncrement rounded frameDuration
  if fromPts > last then fromPts else last + inc

/-- The frames of a stream, each with the timestamp of the one before it. -/
def timestamped (last : UInt32) : List VideoFrame → List (UInt32 × VideoFrame)
  | [] => []
  | frame :: rest =>
    (last, frame) :: timestamped (monotonicRtpTimestamp rounded frame.ptsMs last frame.duration) rest

/-- The timestamp `b` is after `a`: less than half the circle ahead. -/
def After (a b : UInt32) : Prop := 0 < (b - a).toNat ∧ (b - a).toNat < 2 ^ 31

instance (a b : UInt32) : Decidable (After a b) := inferInstanceAs (Decidable (_ ∧ _))

/-- The frame's timestamp is after the last one, and is its own where that is after it. -/
def Advances (x : UInt32 × VideoFrame) : Prop :=
  let timestamp := monotonicRtpTimestamp rounded x.2.ptsMs x.1 x.2.duration
  After x.1 timestamp ∧ (After x.1 (ptsToRtpTimestamp x.2.ptsMs) →
    timestamp = ptsToRtpTimestamp x.2.ptsMs)

/-- As plain numbers the frame's own timestamp is ahead of the last one by less than half the
circle, or behind it by no more, unless it is just one increment after it. -/
def Unwrapped (x : UInt32 × VideoFrame) : Prop :=
  let fromPts := ptsToRtpTimestamp x.2.ptsMs
  if fromPts > x.1 then fromPts.toNat < x.1.toNat + 2 ^ 31
  else x.1.toNat ≤ fromPts.toNat + 2 ^ 31 ∨
    fromPts = x.1 + rtpTimestampIncrement rounded x.2.duration

instance (x : UInt32 × VideoFrame) : Decidable (Advances rounded x) :=
  inferInstanceAs (Decidable (_ ∧ _))

instance (x : UInt32 × VideoFrame) : Decidable (Unwrapped rounded x) :=
  inferInstanceAs (Decidable (ite _ _ _))

theorem after_iff (a b : UInt32) :
    After a b ↔ (a < b ∧ b.toNat < a.toNat + 2 ^ 31) ∨ b.toNat + 2 ^ 31 < a.toNat := by
  have ha := a.toNat_lt
  have hb := b.toNat_lt
  unfold After
  rw [UInt32.toNat_sub, UInt32.lt_iff_toNat_lt]
  omega

theorem after_add {inc : UInt32} (hpos : 0 < inc.toNat) (hsmall : inc.toNat < 2 ^ 31)
    (last : UInt32) : After last (last + inc) := by
  have hdiff : last + inc - last = inc := by
    rw [UInt32.add_comm, UInt32.add_sub_cancel]
  unfold After
  rw [hdiff]
  exact ⟨hpos, hsmall⟩

theorem rtpTimestampIncrement_bounds {frameDuration : Nat}
    (h : (rounded frameDuration).toNat ≤ rtpClockRate) :
    0 < (rtpTimestampIncrement rounded frameDuration).toNat ∧
      (rtpTimestampIncrement rounded frameDuration).toNat ≤ rtpClockRate := by
  have hmax : rtpTimestampIncrement rounded frameDuration =
      if rounded frameDuration ≤ 1 then 1 else rounded frameDuration := rfl
  have hone : (1 : UInt32).toNat = 1 := rfl
  rw [hmax]
  split
  case isTrue hle => decide
  case isFalse hgt =>
    rw [UInt32.le_iff_toNat_le] at hgt
    omega

/-- One frame. -/
theorem advances_iff {x : UInt32 × VideoFrame}
    (h : (rounded x.2.duration).toNat ≤ rtpClockRate) :
    Advances rounded x ↔ Unwrapped rounded x := by
  obtain ⟨hpos, hle⟩ := rtpTimestampIncrement_bounds rounded h
  have hstep := after_add hpos (by unfold rtpClockRate at hle; omega) x.1
  simp only [Advances, Unwrapped, monotonicRtpTimestamp]
  split
  case isTrue hgt =>
    -- the frame's own timestamp is taken
    simp only [implies_true, and_true]
    rw [after_iff]
    have hlt := UInt32.lt_iff_toNat_lt.mp hgt
    constructor
    · rintro (⟨-, hnear⟩ | hfar)
      · exact hnear
      · omega
    · intro hnear
      exact Or.inl ⟨hgt, hnear⟩
  case isFalse hle =>
    -- a step by the increment, which is wrong where the frame's own timestamp has wrapped
    have hge : (ptsToRtpTimestamp x.2.ptsMs).toNat ≤ x.1.toNat :=
      Nat.le_of_not_lt fun hlt => hle (UInt32.lt_iff_toNat_lt.mpr hlt)
    rw [and_iff_right hstep, after_iff]
    constructor
    · intro hown
      by_cases hnear : x.1.toNat ≤ (ptsToRtpTimestamp x.2.ptsMs).toNat + 2 ^ 31
      · exact Or.inl hnear
      · exact Or.inr (hown (Or.inr (by omega))).symm
    · rintro (hnear | hinc) hafter
      · rcases hafter with ⟨hgt, -⟩ | hfar
        · exact absurd hgt hle
        · omega
      · exact hinc.symm

theorem mem_of_mem_timestamped {last : UInt32} {frames : List VideoFrame}
    {x : UInt32 × VideoFrame} (h : x ∈ timestamped rounded last frames) : x.2 ∈ frames := by
  induction frames generalizing last with
  | nil => cases h
  | cons frame rest ih =>
    rcases List.mem_cons.mp h with rfl | h
    · exact List.mem_cons_self
    · exact List.mem_cons_of_mem _ (ih h)

/-- **Timestamps advance.** Behind any timestamp, the timestamps of frames of up to a second each
advance, and are the frames' own where these do, if and only if no frame's own lies across a
wrap. -/
theorem timestamps_advance_iff (hrounded : ∀ d ≤ 1000000000, (rounded d).toNat ≤ rtpClockRate)
    (last : UInt32) (frames : List VideoFrame)
    (hdurations : ∀ frame ∈ frames, frame.duration ≤ 1000000000) :
    (∀ x ∈ timestamped rounded last frames, Advances rounded x) ↔
      ∀ x ∈ timestamped rounded last frames, Unwrapped rounded x := by
  refine forall₂_congr ?_
  intro x hx
  exact advances_iff rounded (hrounded _ (hdurations _ (mem_of_mem_timestamped rounded hx)))

end

/-- The ticks of a duration, rounded half up. -/
def exactTicks (nanos : Nat) : UInt32 :=
  UInt32.ofNat ((nanos * rtpClockRate + 500000000) / 1000000000)

theorem exactTicks_le {d : Nat} (h : d ≤ 1000000000) : (exactTicks d).toNat ≤ rtpClockRate := by
  unfold exactTicks
  rw [UInt32.toNat_ofNat']
  refine Nat.le_trans (Nat.mod_le _ _) ?_
  unfold rtpClockRate
  omega

/-- Two frames, one of them with a time that advances. -/
theorem two_frames_advance :
    Advances exactTicks (90000, ⟨1000, 33000000⟩) ∧
      Advances exactTicks (92970, ⟨2000, 33000000⟩) := by
  have hall := (timestamps_advance_iff exactTicks (fun _ => exactTicks_le) 90000
    [⟨1000, 33000000⟩, ⟨2000, 33000000⟩] (by decide)).2 (by decide)
  have htimes : timestamped exactTicks 90000 [⟨1000, 33000000⟩, ⟨2000, 33000000⟩] =
      [(90000, ⟨1000, 33000000⟩), (92970, ⟨2000, 33000000⟩)] := by decide
  rw [htimes] at hall
  exact ⟨hall _ List.mem_cons_self, hall _ (List.mem_cons_of_mem _ List.mem_cons_self)⟩

/-- A time that does not advance, just before the wrap: the third timestamp is behind the
second. -/
theorem timestamps_go_back :
    timestamped exactTicks 4294967220 [⟨47721858, 33000000⟩, ⟨47721858, 33000000⟩] =
      [(4294967220, ⟨47721858, 33000000⟩), (2894, ⟨47721858, 33000000⟩)] ∧
    ptsToRtpTimestamp 47721858 = 4294967220 ∧
    ¬ Advances exactTicks (2894, ⟨47721858, 33000000⟩) := by
  decide

end StreamBox.Rtsp
