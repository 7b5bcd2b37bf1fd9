import StreamBox.Lib.TSys
import StreamBox.RustDesk.BytesCodec
import StreamBox.Video.Format

/-!
# MJPEG frames on their way to a client

`MjpegStreamHandler` holds the current frame and wakes the send loops of its clients; a loop
tells a new frame by its sequence number. The calls of the handler follow one another; the
effects of a call and the steps of the loop of one client come in any order.

* **Wakeups** — `inv_step`: a loop that has not sent the current frame will be woken.
* **Convergence** — `converged`: in a run whose reads meet `Faithful` a loop waits with the
  current frame sent.
* **Failure** — `first_frame_not_sent`: the sequence number of the first frame is the loop's
  initial one.
-/

namespace StreamBox.Stream

open StreamBox.Lib
open StreamBox.RustDesk (Bytes)
open StreamBox.Video (PixelFormat Resolution)

/-! ## Frames -/

structure VideoFrame where
  data : Bytes
  resolution : Resolution
  format : PixelFormat
  stride : UInt32
  sequence : UInt64
  online : Bool := true
  deriving DecidableEq, Repr

namespace VideoFrame

/-- Validate JPEG frame data. -/
def isValidJpeg (f : VideoFrame) : Bool :=
  let len := f.data.length
  f.format.isCompressed && 125 ≤ len && f.data.take 2 == [0xFF, 0xD8] &&
    [[0xFF, 0xD9], [0xD9, 0x00], [0x00, 0x00]].contains (f.data.drop (len - 2))

/-- The bytes of a sample. -/
def sample (data : Bytes) (start : Nat) : Bytes := (data.drop start).take 16

/-- `frames_are_identical`, up to the hash of a frame that is longer than 256 bytes. -/
def identical (hash : Bytes → UInt64) (a b : VideoFrame) : Bool :=
  let len := a.data.length
  len == b.data.length && a.resolution == b.resolution && a.format == b.format &&
    a.stride == b.stride && a.online == b.online &&
    if len ≤ 256 then a.data == b.data
    else
      [0, len - 16, len / 4 - 8, len / 2 - 8].all
          (fun start => sample a.data start == sample b.data start) &&
        hash a.data == hash b.data

end VideoFrame

/-! ## The handler -/

/-- What a call of the handler does that a send loop can see. -/
inductive Effect
  | setOnline (online : Bool)
  | store (frame : Option VideoFrame)
  | notify
  deriving DecidableEq, Repr

structure MjpegStreamHandler where
  currentFrame : Option VideoFrame := none
  online : Bool := false
  sequence : UInt64 := 0
  /-- Whether the client's id is in `clients`, and how many others are. -/
  registered : Bool := false
  others : Nat := 0
  droppedSameFrames : UInt64 := 0
  maxDropSameFrames : UInt64 := 100
  /-- The effects the present call has yet to have. -/
  pending : List Effect := []
  deriving DecidableEq, Repr

namespace MjpegStreamHandler

/-- The formats `encode_to_jpeg` takes. -/
def encodable : PixelFormat → Bool
  | .yuyv | .nv12 | .nv16 | .nv24 | .rgb24 | .bgr24 => true
  | _ => false

/-- `encode_to_jpeg`, the encoder having made `encoded` of the frame. -/
def encodeToJpeg (h : MjpegStreamHandler) (frame : VideoFrame) (encoded : Option Bytes) :
    Option VideoFrame :=
  if encodable frame.format then
    encoded.map fun data =>
      { data, resolution := frame.resolution, format := .mjpeg, stride := 0,
        sequence := h.sequence }
  else none

/-- Whether a frame is dropped as a duplicate; `overdue` when the last one is a second old. -/
def drops (h : MjpegStreamHandler) (hash : Bytes → UInt64) (frame : VideoFrame) (overdue : Bool) :
    Bool :=
  h.maxDropSameFrames > 0 && frame.online && h.currentFrame.any fun prev =>
    h.droppedSameFrames < h.maxDropSameFrames && prev.identical hash frame && !overdue

/-- Update current frame. -/
def updateFrame (h : MjpegStreamHandler) (hash : Bytes → UInt64) (frame : VideoFrame)
    (encoded : Option Bytes) (overdue : Bool) : MjpegStreamHandler :=
  if !h.registered && h.others == 0 then
    -- no client: the frame is kept for the next one, and nobody is woken
    { h with
      droppedSameFrames := 0
      sequence := h.sequence + 1
      pending := [.setOnline frame.online,
        .store (if frame.format.isCompressed then some frame else none)] }
  else
    match if frame.format.isCompressed then some frame else h.encodeToJpeg frame encoded with
    | none => h
    | some frame =>
      if h.drops hash frame overdue then
        { h with droppedSameFrames := h.droppedSameFrames + 1 }
      else
        { h with
          droppedSameFrames := 0
          sequence := h.sequence + 1
          pending := [.setOnline frame.online, .store (some frame), .notify] }

/-- Push a "no signal" placeholder JPEG to all connected MJPEG clients. -/
def pushNoSignalPlaceholder (h : MjpegStreamHandler) (jpeg : Bytes) : MjpegStreamHandler :=
  if jpeg = [] then h
  else
    let frame : VideoFrame :=
      { data := jpeg, resolution := ⟨640, 360⟩, format := .mjpeg, stride := 0,
        sequence := h.sequence }
    { h with
      sequence := h.sequence + 1
      pending := [.store (some frame), .setOnline true, .notify] }

def setOffline (h : MjpegStreamHandler) : MjpegStreamHandler :=
  { h with pending := [.setOnline false, .notify] }

def setOnline (h : MjpegStreamHandler) : MjpegStreamHandler :=
  { h with pending := [.setOnline true] }

end MjpegStreamHandler

/-! ## The send loop -/

/-- Where the task that `mjpeg_stream` spawns is. -/
inductive Stage
  | absent
  /-- Before `subscribe`. -/
  | spawned
  /-- Before the initial frame is read. -/
  | subscribed
  /-- In `tx.send`; whether the frame's number is kept afterwards. -/
  | sending (frame : VideoFrame) (keep : Bool)
  | top
  /-- In `recv`. -/
  | waiting
  | notified (lagged : Bool)
  | reading (lagged : Bool)
  | timedOut
  | resending
  | ended
  deriving DecidableEq, Repr

structure SendLoop where
  stage : Stage := .absent
  lastSeq : UInt64 := 0
  timeoutCount : Nat := 0
  /-- The notifications in the receiver of the broadcast, at most 16. -/
  unread : Nat := 0
  /-- The broadcast has overtaken the receiver. -/
  missed : Bool := false
  /-- The last frame given to the channel. -/
  lastSent : Option VideoFrame := none
  deriving DecidableEq, Repr

structure MjpegStream where
  handler : MjpegStreamHandler := {}
  loop : SendLoop := {}
  deriving DecidableEq, Repr

inductive MjpegEvent
  -- calls of the handler
  | updateFrame (frame : VideoFrame) (encoded : Option Bytes) (overdue : Bool)
  | pushNoSignalPlaceholder
  | setOffline
  | setOnline
  | effect
  -- the clients
  | connect
  | unregister
  | othersConnect
  | othersLeave
  -- the send loop
  | advance
  | timeout
  | sent (ok : Bool)
  deriving DecidableEq, Repr

/-- The hash of the frames and the placeholder image. -/
structure MjpegEnv where
  hash : Bytes → UInt64
  noSignalJpeg : Bytes

namespace MjpegStream

/-- A notification, dropped for the oldest one when the receiver has 16. -/
def notifyLoop (l : SendLoop) : SendLoop :=
  if l.unread < 16 then { l with unread := l.unread + 1 } else { l with missed := true }

def perform (s : MjpegStream) : Effect → MjpegStream
  | .setOnline online => { s with handler := { s.handler with online } }
  | .store frame => { s with handler := { s.handler with currentFrame := frame } }
  | .notify => { s with loop := notifyLoop s.loop }

def goto (s : MjpegStream) (stage : Stage) : MjpegStream :=
  { s with loop := { s.loop with stage } }

/-- The frame is sent if it is a JPEG that is wanted. -/
def sendIf (s : MjpegStream) (frame : VideoFrame) (wanted keep : Bool) : MjpegStream :=
  if wanted && frame.isValidJpeg then s.goto (.sending frame keep) else s.goto .top

/-- What the task does next, unless it has to wait. -/
def advance (s : MjpegStream) : Option MjpegStream :=
  match s.loop.stage with
  | .absent | .sending _ _ | .ended => none
  | .spawned =>
    some { s with loop := { s.loop with stage := .subscribed, unread := 0, missed := false } }
  | .subscribed =>
    match s.handler.currentFrame with
    | some frame => some (s.sendIf frame true true)
    | none => some (s.goto .top)
  | .top => some (s.goto (if s.handler.online then .waiting else .ended))
  | .waiting =>
    if s.loop.missed then
      some { s with loop := { s.loop with stage := .notified true, missed := false } }
    else if 0 < s.loop.unread then
      some { s with loop := { s.loop with stage := .notified false, unread := s.loop.unread - 1 } }
    else none
  | .notified lagged =>
    if s.handler.online then
      some { s with loop := { s.loop with stage := .reading lagged, timeoutCount := 0 } }
    else some (s.goto .ended)
  | .reading lagged =>
    match s.handler.currentFrame with
    | some frame => some (s.sendIf frame (lagged || frame.sequence != s.loop.lastSeq) true)
    | none => some (s.goto .top)
  | .timedOut =>
    some (s.goto (if s.loop.timeoutCount > 6 || !s.handler.online then .ended else .resending))
  | .resending =>
    match s.handler.currentFrame with
    | some frame => some (s.sendIf frame true false)
    | none => some (s.goto .top)

/-- `tx.send` returns. -/
def sent (s : MjpegStream) (ok : Bool) : Option MjpegStream :=
  match s.loop.stage with
  | .sending frame keep =>
    if ok then
      some { s with loop := { s.loop with
        stage := .top
        lastSent := some frame
        lastSeq := if keep then frame.sequence else s.loop.lastSeq } }
    else some (s.goto .ended)
  | _ => none

/-- A call of the handler, the one before it done. -/
def call (s : MjpegStream) (f : MjpegStreamHandler → MjpegStreamHandler) : Option MjpegStream :=
  if s.handler.pending = [] then some { s with handler := f s.handler } else none

def step (env : MjpegEnv) (s : MjpegStream) : MjpegEvent → Option MjpegStream
  | .updateFrame frame encoded overdue => s.call (·.updateFrame env.hash frame encoded overdue)
  | .pushNoSignalPlaceholder => s.call (·.pushNoSignalPlaceholder env.noSignalJpeg)
  | .setOffline => s.call (·.setOffline)
  | .setOnline => s.call (·.setOnline)
  | .effect =>
    match s.handler.pending with
    | effect :: rest =>
      some (perform { s with handler := { s.handler with pending := rest } } effect)
    | [] => none
  | .connect =>
    if s.loop.stage = .absent then
      some { s.goto .spawned with handler := { s.handler with registered := true } }
    else none
  | .unregister => some { s with handler := { s.handler with registered := false } }
  | .othersConnect => some { s with handler := { s.handler with others := s.handler.others + 1 } }
  | .othersLeave => some { s with handler := { s.handler with others := s.handler.others - 1 } }
  | .advance => s.advance
  | .timeout =>
    if s.loop.stage = .waiting ∧ s.loop.unread = 0 ∧ s.loop.missed = false then
      some { s with loop := { s.loop with
        stage := .timedOut
        timeoutCount := s.loop.timeoutCount + 1 } }
    else none
  | .sent ok => s.sent ok

def system (env : MjpegEnv) : TSys MjpegStream MjpegEvent := .ofFn (· = {}) (step env)

/-! ## Convergence -/

/-- No call is under way and the loop waits with nothing to wake it. -/
def Waits (s : MjpegStream) : Prop :=
  s.handler.pending = [] ∧ s.loop.stage = .waiting ∧ s.loop.unread = 0 ∧ s.loop.missed = false

/-- A loop that waits has sent the current frame. -/
def Converged (s : MjpegStream) : Prop := s.Waits → s.loop.lastSent = s.handler.currentFrame

/-- Something is going to wake the loop. -/
def Wakes (s : MjpegStream) : Prop :=
  0 < s.loop.unread ∨ s.loop.missed = true ∨ Effect.notify ∈ s.handler.pending

/-- The frame that a loop past its reads has sent or is sending. -/
def holds (l : SendLoop) : Option (Option VideoFrame) :=
  match l.stage with
  | .top | .waiting | .timedOut | .resending => some l.lastSent
  | .sending frame _ => some (some frame)
  | _ => none

/-- The frame the loop is about to read, unless it is woken again: a valid JPEG, and under the
number of the last one sent that one. -/
def ReadsFaithfully (s : MjpegStream) : Prop :=
  s.Wakes ∨
    match s.loop.stage, s.handler.currentFrame with
    | .subscribed, some frame => frame.isValidJpeg = true
    | .reading _, none => s.loop.lastSent = none
    | .reading lagged, some frame => frame.isValidJpeg = true ∧
      (lagged = false → frame.sequence = s.loop.lastSeq → s.loop.lastSent = some frame)
    | _, _ => True

/-- A frame that is stored and wakes nobody is the one the loop has. -/
def StoresFaithfully (s : MjpegStream) : Prop :=
  s.Wakes ∨
    match s.handler.pending with
    | .store frame :: _ => frame = s.handler.currentFrame ∨ holds s.loop = none
    | _ => True

def Faithful (s : MjpegStream) : MjpegEvent → Prop
  | .advance => s.ReadsFaithfully
  | .effect => s.StoresFaithfully
  | _ => True

/-- A loop past its reads has the current frame, or will be woken. -/
def Inv (s : MjpegStream) : Prop :=
  ∀ frame, holds s.loop = some frame → frame = s.handler.currentFrame ∨ s.Wakes

/-- The loop has yet to read its initial frame. -/
def before : Stage → Bool
  | .absent | .spawned | .subscribed => true
  | _ => false

/-- A loop that has yet to read has sent nothing. -/
def Fresh (s : MjpegStream) : Prop := before s.loop.stage = true → s.loop.lastSent = none

/-! ## Calls of the handler -/

section

variable {s t : MjpegStream}

/-- A step that leaves the loop where it is, and the current frame too unless something will
wake it. -/
theorem inv_of_holds_eq (h : s.Inv) (hholds : holds t.loop = holds s.loop)
    (hcurrent : t.handler.currentFrame = s.handler.currentFrame) (hwakes : s.Wakes → t.Wakes) :
    t.Inv := by
  intro frame hframe
  rw [hcurrent]
  exact (h frame (hholds ▸ hframe)).imp_right hwakes

theorem inv_of_wakes (h : t.Wakes) : t.Inv := fun _ _ => .inr h

theorem inv_of_holds_none (h : holds t.loop = none) : t.Inv := by
  intro frame hframe
  rw [h] at hframe
  cases hframe

/-- No call of the handler has an effect at once. -/
theorem inv_call {f : MjpegStreamHandler → MjpegStreamHandler} (h : s.Inv ∧ s.Fresh)
    (hf : ∀ h, (f h).currentFrame = h.currentFrame) (hcall : s.call f = some t) :
    t.Inv ∧ t.Fresh := by
  unfold call at hcall
  split at hcall
  · rename_i hpending
    cases hcall
    refine ⟨inv_of_holds_eq h.1 rfl (hf _) ?_, h.2⟩
    rintro (hunread | hmissed | hnotify)
    · exact .inl hunread
    · exact .inr (.inl hmissed)
    · rw [hpending] at hnotify
      cases hnotify
  · cases hcall

theorem updateFrame_currentFrame (h : MjpegStreamHandler) (hash : Bytes → UInt64)
    (frame : VideoFrame) (encoded : Option Bytes) (overdue : Bool) :
    (h.updateFrame hash frame encoded overdue).currentFrame = h.currentFrame := by
  unfold MjpegStreamHandler.updateFrame
  split
  · rfl
  · split
    · rfl
    · split
      · rfl
      · rfl

theorem pushNoSignalPlaceholder_currentFrame (h : MjpegStreamHandler) (jpeg : Bytes) :
    (h.pushNoSignalPlaceholder jpeg).currentFrame = h.currentFrame := by
  unfold MjpegStreamHandler.pushNoSignalPlaceholder
  split
  · rfl
  · rfl

/-- What wakes the loop is still there after an effect other than a notification. -/
theorem wakes_perform {effect : Effect} {rest : List Effect}
    (hpending : s.handler.pending = effect :: rest) (hne : effect ≠ .notify) (h : s.Wakes) :
    0 < s.loop.unread ∨ s.loop.missed = true ∨ Effect.notify ∈ rest := by
  rcases h with hunread | hmissed | hnotify
  · exact .inl hunread
  · exact .inr (.inl hmissed)
  · rw [hpending] at hnotify
    exact .inr (.inr ((List.mem_cons.mp hnotify).resolve_left hne.symm))

theorem wakes_notifyLoop (l : SendLoop) :
    0 < (notifyLoop l).unread ∨ (notifyLoop l).missed = true := by
  unfold notifyLoop
  split
  · exact .inl (Nat.succ_pos _)
  · exact .inr rfl

/-- An effect of a call. -/
theorem inv_effect {effect : Effect} {rest : List Effect} (h : s.Inv)
    (hpending : s.handler.pending = effect :: rest) (hfaithful : s.StoresFaithfully) :
    (perform { s with handler := { s.handler with pending := rest } } effect).Inv := by
  cases effect with
  | setOnline online =>
    exact inv_of_holds_eq h rfl rfl (wakes_perform hpending (by simp))
  | store frame =>
    rcases hfaithful with hwakes | hfaithful
    · have hrest := wakes_perform hpending (by simp) hwakes
      exact inv_of_wakes hrest
    · rw [hpending] at hfaithful
      rcases hfaithful with hsame | hnone
      · exact inv_of_holds_eq h rfl hsame (wakes_perform hpending (by simp))
      · exact inv_of_holds_none hnone
  | notify =>
    rcases wakes_notifyLoop s.loop with hunread | hmissed
    · exact inv_of_wakes (.inl hunread)
    · exact inv_of_wakes (.inr (.inl hmissed))

/-! ## Steps of the loop -/

/-- A step of the loop to a place where it holds nothing, or a frame that it may hold. -/
theorem inv_loop {l : SendLoop} (hunread : l.unread = s.loop.unread)
    (hmissed : l.missed = s.loop.missed)
    (h : ∀ frame, holds l = some frame → frame = s.handler.currentFrame ∨ s.Wakes) :
    Inv { s with loop := l } := by
  intro frame hframe
  unfold Wakes
  rw [show MjpegStream.loop { s with loop := l } = l from rfl, hunread, hmissed]
  exact h frame hframe

theorem inv_goto {stage : Stage} (h : ∀ frame, holds { s.loop with stage } = some frame →
    frame = s.handler.currentFrame ∨ s.Wakes) : (s.goto stage).Inv :=
  inv_loop rfl rfl h

/-- A frame just read is on its way, or is not to be sent. -/
theorem inv_sendIf {frame : VideoFrame} {wanted keep : Bool}
    (hcurrent : s.handler.currentFrame = some frame)
    (hskip : (wanted && frame.isValidJpeg) = false →
      s.loop.lastSent = s.handler.currentFrame ∨ s.Wakes) : (s.sendIf frame wanted keep).Inv := by
  unfold sendIf
  split
  · refine inv_goto fun f hf => .inl ?_
    rw [hcurrent]
    exact (Option.some.inj hf).symm
  · rename_i hnot
    refine inv_goto fun f hf => ?_
    rw [← Option.some.inj hf]
    exact hskip (Bool.eq_false_iff.mpr hnot)

/-- The loop goes on. The reads are where a frame can be passed over. -/
theorem inv_advance (h : s.Inv) (hfresh : s.Fresh) (hstep : s.advance = some t)
    (hfaithful : s.ReadsFaithfully) : t.Inv := by
  unfold advance at hstep
  unfold ReadsFaithfully at hfaithful
  cases hstage : s.loop.stage with
  | absent | ended => simp [hstage] at hstep
  | sending frame keep => simp [hstage] at hstep
  | spawned =>
    simp only [hstage, Option.some.injEq] at hstep
    exact hstep ▸ inv_of_holds_none rfl
  | subscribed =>
    simp only [hstage] at hstep hfaithful
    cases hcurrent : s.handler.currentFrame with
    | none =>
      simp only [hcurrent, Option.some.injEq] at hstep
      subst hstep
      refine inv_goto fun f hf => .inl ?_
      rw [← Option.some.inj hf, hcurrent]
      exact hfresh (by rw [hstage]; rfl)
    | some frame =>
      simp only [hcurrent, Option.some.injEq] at hstep hfaithful
      subst hstep
      refine inv_sendIf hcurrent fun hskip => hfaithful.symm.imp_left fun hvalid => ?_
      rw [hvalid] at hskip
      cases hskip
  | top =>
    simp only [hstage, Option.some.injEq] at hstep
    subst hstep
    have hholds : holds s.loop = some s.loop.lastSent := by rw [holds, hstage]
    refine inv_goto fun f hf => h f ?_
    rw [hholds]
    split at hf
    · exact hf
    · cases hf
  | waiting =>
    simp only [hstage] at hstep
    split at hstep
    · cases hstep
      exact inv_of_holds_none rfl
    · split at hstep
      · cases hstep
        exact inv_of_holds_none rfl
      · cases hstep
  | notified lagged =>
    simp only [hstage] at hstep
    split at hstep
    · cases hstep
      exact inv_of_holds_none rfl
    · cases hstep
      exact inv_of_holds_none rfl
  | reading lagged =>
    simp only [hstage] at hstep hfaithful
    cases hcurrent : s.handler.currentFrame with
    | none =>
      simp only [hcurrent, Option.some.injEq] at hstep hfaithful
      subst hstep
      refine inv_goto fun f hf => hfaithful.symm.imp_left fun hlast => ?_
      rw [← Option.some.inj hf, hcurrent]
      exact hlast
    | some frame =>
      simp only [hcurrent, Option.some.injEq] at hstep hfaithful
      subst hstep
      refine inv_sendIf hcurrent fun hskip => hfaithful.symm.imp_left fun hread => ?_
      obtain ⟨hvalid, hsame⟩ := hread
      rw [hvalid, Bool.and_true, Bool.or_eq_false_iff] at hskip
      exact (hsame hskip.1 (by simpa using hskip.2)).trans hcurrent.symm
  | timedOut =>
    simp only [hstage, Option.some.injEq] at hstep
    subst hstep
    have hholds : holds s.loop = some s.loop.lastSent := by rw [holds, hstage]
    refine inv_goto fun f hf => h f ?_
    rw [hholds]
    split at hf
    · cases hf
    · exact hf
  | resending =>
    simp only [hstage] at hstep
    have hlast := h s.loop.lastSent (by rw [holds, hstage])
    cases hcurrent : s.handler.currentFrame with
    | none =>
      simp only [hcurrent, Option.some.injEq] at hstep
      subst hstep
      refine inv_goto fun f hf => ?_
      rw [← Option.some.inj hf]
      exact hlast
    | some frame =>
      simp only [hcurrent, Option.some.injEq] at hstep
      subst hstep
      exact inv_sendIf hcurrent fun _ => hlast

theorem inv_sent {ok : Bool} (h : s.Inv) (hstep : s.sent ok = some t) : t.Inv := by
  unfold sent at hstep
  split at hstep
  · rename_i frame keep hstage
    split at hstep
    · cases hstep
      refine inv_loop rfl rfl fun f hf => h f ?_
      rw [holds, hstage]
      exact hf
    · cases hstep
      exact inv_of_holds_none rfl
  · cases hstep

theorem fresh_of_not_before (h : before t.loop.stage = false) : t.Fresh := by
  intro hbefore
  rw [h] at hbefore
  cases hbefore

theorem fresh_sendIf (frame : VideoFrame) (wanted keep : Bool) :
    (s.sendIf frame wanted keep).Fresh := by
  unfold sendIf
  split
  · exact fresh_of_not_before rfl
  · exact fresh_of_not_before rfl

theorem fresh_advance (h : s.Fresh) (hstep : s.advance = some t) : t.Fresh := by
  unfold advance at hstep
  split at hstep
  · cases hstep
  · cases hstep
  · cases hstep
  · rename_i hstage
    cases hstep
    exact fun _ => h (by rw [hstage]; rfl)
  · split at hstep
    · cases hstep
      exact fresh_sendIf _ _ _
    · cases hstep
      exact fresh_of_not_before rfl
  · cases hstep
    refine fresh_of_not_before ?_
    show before (if _ then _ else _) = false
    split
    · rfl
    · rfl
  · split at hstep
    · cases hstep
      exact fresh_of_not_before rfl
    · split at hstep
      · cases hstep
        exact fresh_of_not_before rfl
      · cases hstep
  · split at hstep
    · cases hstep
      exact fresh_of_not_before rfl
    · cases hstep
      exact fresh_of_not_before rfl
  · split at hstep
    · cases hstep
      exact fresh_sendIf _ _ _
    · cases hstep
      exact fresh_of_not_before rfl
  · cases hstep
    refine fresh_of_not_before ?_
    show before (if _ then _ else _) = false
    split
    · rfl
    · rfl
  · split at hstep
    · cases hstep
      exact fresh_sendIf _ _ _
    · cases hstep
      exact fresh_of_not_before rfl

theorem fresh_sent {ok : Bool} (hstep : s.sent ok = some t) : t.Fresh := by
  unfold sent at hstep
  split at hstep
  · split at hstep
    · cases hstep
      exact fresh_of_not_before rfl
    · cases hstep
      exact fresh_of_not_before rfl
  · cases hstep

theorem fresh_perform (h : s.Fresh) (effect : Effect) : (s.perform effect).Fresh := by
  cases effect with
  | setOnline online => exact h
  | store frame => exact h
  | notify =>
    show before (notifyLoop s.loop).stage = true → (notifyLoop s.loop).lastSent = none
    unfold notifyLoop
    split
    · exact h
    · exact h

/-! ## Runs -/

/-- A loop that has not sent the current frame will be woken. -/
theorem inv_step {env : MjpegEnv} {e : MjpegEvent} (h : s.Inv ∧ s.Fresh)
    (hstep : step env s e = some t) (hfaithful : s.Faithful e) : t.Inv ∧ t.Fresh := by
  obtain ⟨hinv, hfresh⟩ := h
  cases e with
  | updateFrame frame encoded overdue =>
    exact inv_call ⟨hinv, hfresh⟩ (fun h => updateFrame_currentFrame h _ _ _ _) hstep
  | pushNoSignalPlaceholder =>
    exact inv_call ⟨hinv, hfresh⟩ (fun h => pushNoSignalPlaceholder_currentFrame h _) hstep
  | setOffline => exact inv_call (f := (·.setOffline)) ⟨hinv, hfresh⟩ (fun _ => rfl) hstep
  | setOnline => exact inv_call (f := (·.setOnline)) ⟨hinv, hfresh⟩ (fun _ => rfl) hstep
  | effect =>
    simp only [step] at hstep
    split at hstep
    · rename_i effect rest hpending
      cases hstep
      refine ⟨inv_effect hinv hpending hfaithful, ?_⟩
      have hrest : Fresh { s with handler := { s.handler with pending := rest } } := hfresh
      exact fresh_perform hrest effect
    · cases hstep
  | connect =>
    simp only [step] at hstep
    split at hstep
    · rename_i habsent
      cases hstep
      exact ⟨inv_of_holds_none rfl, fun _ => hfresh (by rw [habsent]; rfl)⟩
    · cases hstep
  | unregister | othersConnect | othersLeave =>
    cases hstep
    exact ⟨hinv, hfresh⟩
  | advance => exact ⟨inv_advance hinv hfresh hstep hfaithful, fresh_advance hfresh hstep⟩
  | timeout =>
    simp only [step] at hstep
    split at hstep
    · rename_i hwaiting
      cases hstep
      refine ⟨inv_loop rfl rfl fun f hf => hinv f ?_, fresh_of_not_before rfl⟩
      rw [holds, hwaiting.1]
      exact hf
    · cases hstep
  | sent ok => exact ⟨inv_sent hinv hstep, fresh_sent hstep⟩

end

/-- **Convergence.** In a run whose reads and unannounced stores are faithful, a loop that waits
has sent the current frame. -/
theorem converged (env : MjpegEnv) {s : MjpegStream}
    (h : ((system env).restrict Faithful).Reachable s) : s.Converged := by
  have hinv : s.Inv ∧ s.Fresh := by
    refine TSys.invariant (I := fun s => s.Inv ∧ s.Fresh) ?_ ?_ h
    · rintro _ rfl
      exact ⟨inv_of_holds_none rfl, fun _ => rfl⟩
    · rintro _ _ _ h ⟨hstep, hfaithful⟩
      exact inv_step h hstep hfaithful
  rintro ⟨hpending, hstage, hunread, hmissed⟩
  refine (hinv.1 s.loop.lastSent (by rw [holds, hstage])).resolve_right ?_
  rintro (hwakes | hwakes | hwakes)
  · rw [hunread] at hwakes
    cases hwakes
  · rw [hmissed] at hwakes
    cases hwakes
  · rw [hpending] at hwakes
    cases hwakes

/-- A frame of the driver. -/
def driverFrame (sequence : UInt64) : VideoFrame where
  data := [0xFF, 0xD8] ++ List.replicate 121 0 ++ [0xFF, 0xD9]
  resolution := ⟨640, 480⟩
  format := .mjpeg
  stride := 0
  sequence

def sampleEnv : MjpegEnv where
  hash := fun _ => 0
  noSignalJpeg := []

theorem driverFrame_one_valid : (driverFrame 1).isValidJpeg = true := by decide +kernel

/-- A valid frame under another number is sent. -/
theorem step_reading {env : MjpegEnv} {s : MjpegStream} {lagged : Bool} {frame : VideoFrame}
    (hstage : s.loop.stage = .reading lagged) (hcurrent : s.handler.currentFrame = some frame)
    (hnew : frame.sequence ≠ s.loop.lastSeq) (hvalid : frame.isValidJpeg = true) :
    step env s .advance = some (s.goto (.sending frame true)) := by
  simp [step, advance, hstage, hcurrent, sendIf, hvalid, hnew]

/-- A client on a stream that is online gets the first frame under the number one. -/
theorem frame_one_converged : ∃ s, ((system sampleEnv).restrict Faithful).Reachable s ∧
    s.Waits ∧ s.handler.currentFrame = some (driverFrame 1) ∧ s.Converged := by
  have hstart : ((system sampleEnv).restrict Faithful).Reachable {} := .init rfl
  have honline := TSys.ofFn_restrict_step hstart .setOnline rfl True.intro
  have heffect := TSys.ofFn_restrict_step honline .effect rfl (.inr True.intro)
  have hconnect := TSys.ofFn_restrict_step heffect .connect rfl True.intro
  have hsubscribe := TSys.ofFn_restrict_step hconnect .advance rfl (.inr True.intro)
  have hinitial := TSys.ofFn_restrict_step hsubscribe .advance rfl (.inr True.intro)
  have hwait := TSys.ofFn_restrict_step hinitial .advance rfl (.inr True.intro)
  have hupdate := TSys.ofFn_restrict_step hwait (.updateFrame (driverFrame 1) none false) rfl
    True.intro
  have hset := TSys.ofFn_restrict_step hupdate .effect rfl (.inr True.intro)
  have hstore := TSys.ofFn_restrict_step hset .effect rfl (.inl (.inr (.inr (by decide))))
  have hnotify := TSys.ofFn_restrict_step hstore .effect rfl (.inr True.intro)
  have hrecv := TSys.ofFn_restrict_step hnotify .advance rfl (.inr True.intro)
  have hcheck := TSys.ofFn_restrict_step hrecv .advance rfl (.inr True.intro)
  have hread := TSys.ofFn_restrict_step hcheck .advance
    (step_reading rfl rfl (by decide) driverFrame_one_valid)
    (.inr ⟨driverFrame_one_valid, by decide⟩)
  have hsent := TSys.ofFn_restrict_step hread (.sent true) rfl True.intro
  have htop := TSys.ofFn_restrict_step hsent .advance rfl (.inr True.intro)
  exact ⟨_, htop, ⟨rfl, rfl, rfl, rfl⟩, rfl, converged sampleEnv htop⟩

/-- **The first frame of a driver.** Its number is zero, as is the loop's initial one. -/
theorem first_frame_not_sent :
    ¬ ∀ (env : MjpegEnv) (s : MjpegStream), (system env).Reachable s → s.Converged := by
  intro halways
  have hrun : (([.setOnline, .effect, .connect, .advance, .advance, .advance,
      .updateFrame (driverFrame 0) none false, .effect, .effect, .effect, .advance, .advance,
      .advance, .advance] : List MjpegEvent).foldlM (step sampleEnv) {}).any
      (fun s : MjpegStream => s.handler.pending.isEmpty && s.loop.stage == .waiting &&
        s.loop.unread == 0 && !s.loop.missed && s.loop.lastSent == none &&
        s.handler.currentFrame == some (driverFrame 0)) := by
    decide +kernel
  obtain ⟨s, hs, hends⟩ := Option.any_eq_true _ _ |>.mp hrun
  simp only [Bool.and_eq_true, beq_iff_eq, List.isEmpty_iff, Bool.not_eq_true'] at hends
  obtain ⟨⟨⟨⟨⟨hpending, hstage⟩, hunread⟩, hmissed⟩, hlast⟩, hcurrent⟩ := hends
  have hsame := halways sampleEnv s (TSys.ofFn_reachable (.init rfl) hs)
    ⟨hpending, hstage, hunread, hmissed⟩
  rw [hlast, hcurrent] at hsame
  cases hsame

end MjpegStream

end StreamBox.Stream
