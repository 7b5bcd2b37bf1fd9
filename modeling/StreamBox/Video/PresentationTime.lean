import StreamBox.Video.SharedVideoPipeline

/-!
# Presentation times

`encode_frame_sync` takes a frame's time to be its age with the sign changed. An age
counts from the call, not from the start of the pipeline, so the difference of two such
times also holds the time between the two calls.

* **Right** — `presented_iff`: the encoder is given the capture times just when each later
  frame is younger than the one that set the start time by all the time since the first.
* **Failure** — `presented_before_first`: a queue that grows by a millisecond.
-/

namespace StreamBox.Video

namespace PresentationTime

/-- `Duration::as_millis` of some nanoseconds. -/
def asMillis (nanos : Nat) : Nat := nanos / 1000000

/-- A frame of a call of `encode_frame_sync`. -/
structure CapturedFrame where
  /-- Its capture instant, in nanoseconds. -/
  captureTs : Nat
  /-- The nanoseconds from there to the reading of the clock. -/
  elapsed : Nat
  /-- Whether decoder and converter take it, so that it gets to the encoder. -/
  accepted : Bool := true
  /-- What the encoder returns for it. -/
  returned : List Packet := []
  deriving DecidableEq, Repr

/-- Its age, `as_millis() as i64`. -/
def CapturedFrame.frameTsMs (f : CapturedFrame) : Int64 := Int64.ofNat (asMillis f.elapsed)

/-- The milliseconds between the capture of `first` and its own. -/
def CapturedFrame.since (f first : CapturedFrame) : Nat :=
  asMillis (f.captureTs - first.captureTs)

structure State where
  pipeline : SharedVideoPipeline
  /-- Zero as long as no frame has set it. -/
  pipelineStartTimeMs : Int64 := 0
  /-- The frames the encoder was given, with their times. -/
  given : List (CapturedFrame × Int64) := []
  deriving DecidableEq, Repr

/-- The start time behind a frame, and the frame's presentation time. -/
def ptsMs (startTs : Int64) (frame : CapturedFrame) : Int64 × Int64 :=
  let currentTsMs := -frame.frameTsMs
  if startTs = 0 then (currentTsMs, 0) else (startTs, currentTsMs - startTs)

/-- A pass of the encode loop over a frame. A frame that decoder or converter refuses has
set the start time too. -/
def State.encodeFrameSync (s : State) (frame : CapturedFrame) : State :=
  let (start, pts) := ptsMs s.pipelineStartTimeMs frame
  if frame.accepted then
    { pipeline := s.pipeline.encodeNext 0 pts frame.returned
      pipelineStartTimeMs := start
      given := s.given ++ [(frame, pts)] }
  else { s with pipelineStartTimeMs := start }

/-- The encode loop of a pipeline just created. -/
def run (codec : VideoCodecType) (frames : List CapturedFrame) : State :=
  frames.foldl State.encodeFrameSync { pipeline := { codec } }

/-- The frames of an encode loop, the first one apart, in the order of their capture. -/
structure Frames where
  first : CapturedFrame
  rest : List CapturedFrame
  ordered : (first :: rest).Pairwise (·.captureTs ≤ ·.captureTs)

def Frames.all (fs : Frames) : List CapturedFrame := fs.first :: fs.rest

/-! ## What the encoder is given -/

/-- The times of some frames, from a start time on. -/
def timesFrom (startTs : Int64) : List CapturedFrame → List (CapturedFrame × Int64)
  | [] => []
  | frame :: rest =>
    let (start, pts) := ptsMs startTs frame
    (if frame.accepted then [(frame, pts)] else []) ++ timesFrom start rest

theorem given_foldl (s : State) (frames : List CapturedFrame) :
    (frames.foldl State.encodeFrameSync s).given
      = s.given ++ timesFrom s.pipelineStartTimeMs frames := by
  induction frames generalizing s with
  | nil => exact (List.append_nil _).symm
  | cons frame rest ih =>
    rw [List.foldl_cons, ih, timesFrom, State.encodeFrameSync]
    cases frame.accepted with
    | true => exact List.append_assoc _ _ _
    | false => rfl

theorem given_run (codec : VideoCodecType) (frames : List CapturedFrame) :
    (run codec frames).given = timesFrom 0 frames :=
  given_foldl _ frames

/-- Once the start time is set, each frame gets its difference to it. -/
theorem mem_timesFrom_of_set {startTs : Int64} (hset : startTs ≠ 0) (frames : List CapturedFrame)
    (x : CapturedFrame × Int64) :
    x ∈ timesFrom startTs frames
      ↔ x.1 ∈ frames ∧ x.1.accepted ∧ x.2 = -x.1.frameTsMs - startTs := by
  induction frames with
  | nil => simp [timesFrom]
  | cons frame rest ih =>
    rw [timesFrom, ptsMs, if_neg hset, List.mem_append, ih, List.mem_cons]
    cases haccepted : frame.accepted with
    | true =>
      rw [if_pos rfl, List.mem_singleton]
      constructor
      · rintro (rfl | ⟨hmem, h⟩)
        · exact ⟨.inl rfl, haccepted, rfl⟩
        · exact ⟨.inr hmem, h⟩
      · rintro ⟨rfl | hmem, h⟩
        · exact .inl (Prod.ext rfl h.2)
        · exact .inr ⟨hmem, h⟩
    | false =>
      rw [if_neg Bool.false_ne_true]
      constructor
      · rintro (h | ⟨hmem, h⟩)
        · cases h
        · exact ⟨.inr hmem, h⟩
      · rintro ⟨rfl | hmem, h⟩
        · rw [haccepted] at h
          cases h.1
        · exact .inr ⟨hmem, h⟩

/-! ## When the times are right -/

/-- What `encode_frame_sync` is for: each frame's time is the one since the first was
captured, so that the times start at zero and never go back. -/
structure Presented (first : CapturedFrame) (given : List (CapturedFrame × Int64)) : Prop where
  exact : ∀ x ∈ given, x.2.toInt = x.1.since first
  nonneg : ∀ x ∈ given, 0 ≤ x.2
  nondecreasing : given.Pairwise (·.2 ≤ ·.2)

/-- The frames a loop has from an unset start time on are presented: none but the first
millisecond as long as frames have no age, and behind the first that has one, younger
frames by the time since the first. -/
def Timely (first : CapturedFrame) : List CapturedFrame → Prop
  | [] => True
  | frame :: rest =>
    (frame.accepted → frame.since first = 0) ∧
      if frame.frameTsMs = 0 then Timely first rest
      else ∀ later ∈ rest, later.accepted →
        (frame.frameTsMs - later.frameTsMs).toInt = later.since first

theorem neg_sub_neg (a b : Int64) : -a - -b = b - a := by
  grind

theorem timesFrom_exact_iff (first : CapturedFrame) (frames : List CapturedFrame) :
    (∀ x ∈ timesFrom 0 frames, x.2.toInt = x.1.since first) ↔ Timely first frames := by
  induction frames with
  | nil => simp [timesFrom, Timely]
  | cons frame rest ih =>
    rw [timesFrom, ptsMs, if_pos rfl, Timely, List.forall_mem_append]
    apply and_congr
    · cases frame.accepted with
      | true => simpa using eq_comm.trans Int.natCast_eq_zero
      | false => simp
    · by_cases hage : frame.frameTsMs = 0
      · rw [if_pos hage, hage]
        exact ih
      · rw [if_neg hage]
        have hset : -frame.frameTsMs ≠ 0 := by grind
        constructor
        · intro h later hmem haccepted
          rw [← neg_sub_neg]
          exact h (later, _) ((mem_timesFrom_of_set hset rest _).mpr ⟨hmem, haccepted, rfl⟩)
        · intro h x hx
          obtain ⟨hmem, haccepted, hpts⟩ := (mem_timesFrom_of_set hset rest x).mp hx
          rw [hpts, neg_sub_neg]
          exact h x.1 hmem haccepted

/-- The encoder gets frames of the loop in their order. -/
theorem timesFrom_sublist (startTs : Int64) (frames : List CapturedFrame) :
    ((timesFrom startTs frames).map (·.1)).Sublist frames := by
  induction frames generalizing startTs with
  | nil => exact List.Sublist.slnil
  | cons frame rest ih =>
    rw [timesFrom]
    cases frame.accepted with
    | true => exact (ih _).cons_cons frame
    | false => exact (ih _).cons frame

/-- Frames captured in order have times in order, once they are the right ones. -/
theorem Presented.of_exact {fs : Frames} {startTs : Int64}
    (h : ∀ x ∈ timesFrom startTs fs.all, x.2.toInt = x.1.since fs.first) :
    Presented fs.first (timesFrom startTs fs.all) := by
  refine ⟨h, fun x hx => ?_, ?_⟩
  · rw [Int64.le_iff_toInt_le, h x hx]
    exact Int.natCast_nonneg _
  · have hordered : (timesFrom startTs fs.all).Pairwise (·.1.captureTs ≤ ·.1.captureTs) :=
      (List.pairwise_map (R := fun f g : CapturedFrame => f.captureTs ≤ g.captureTs)).mp
        (fs.ordered.sublist (timesFrom_sublist startTs fs.all))
    refine hordered.imp_of_mem fun {x y} hx hy hle => ?_
    rw [Int64.le_iff_toInt_le, h x hx, h y hy]
    have hsub : x.1.captureTs - fs.first.captureTs ≤ y.1.captureTs - fs.first.captureTs :=
      Nat.sub_le_sub_right hle _
    exact_mod_cast Nat.div_le_div_right (c := 1000000) hsub

theorem presented_iff (codec : VideoCodecType) (fs : Frames) :
    Presented fs.first (run codec fs.all).given ↔ Timely fs.first fs.all := by
  rw [given_run, ← timesFrom_exact_iff]
  exact ⟨Presented.exact, Presented.of_exact⟩

/-- A second frame that waits a millisecond longer than the first lies before it. -/
theorem presented_before_first : ∃ fs : Frames,
    ((run .h264 fs.all).given.map (·.2) = [0, -1]) ∧
      ¬ Presented fs.first (run .h264 fs.all).given :=
  ⟨⟨⟨0, 5000000, true, []⟩, [⟨33000000, 6000000, true, []⟩], by decide⟩, by decide,
    fun h => absurd (h.nonneg (⟨33000000, 6000000, true, []⟩, -1) (by decide)) (by decide)⟩

end PresentationTime

end StreamBox.Video
