import StreamBox.Lib.TSys
import StreamBox.RustDesk.BytesCodec

/-!
# The `select!` loop of a RustDesk connection

`handle_tcp` waits on the frame reader together with the video channel, the
audio channel, the TestDelay timer and the shutdown signal. Whichever branch
completes first wins and the futures of the others are dropped: the next
iteration calls `read_frame` anew. `read_exact` consumes the bytes it has read,
so a reader dropped inside a frame loses them.

* **Loop** — `HandleTcp.step`, one event at a time. TCP may deliver any number
  of bytes between two events, and the reader takes the delivered bytes one by
  one, so every chunking and every cancellation point is a run.
* **Framing** — `handled_prefix_of_uncancelled`: while no other branch completes
  inside a frame, the messages handled are the framed ones, in order, and none is
  missing once the stream is read.
* **Cancellation** — `cancelled_read_loses_sync`: a video frame ready after the
  first byte of a message makes the loop handle bytes that are no message.
-/

namespace StreamBox.RustDesk

open StreamBox.Lib

/-- The bytes a peer sends for a list of messages. -/
def encodeFrames (msgs : List Bytes) : Except String Bytes := do
  let frames ← msgs.mapM encodeFrame
  return frames.flatten

theorem encodeFrames_cons {m : Bytes} {msgs : List Bytes} {stream : Bytes}
    (henc : encodeFrames (m :: msgs) = .ok stream) :
    ∃ frame rest, encodeFrame m = .ok frame ∧ encodeFrames msgs = .ok rest ∧
      stream = frame ++ rest := by
  simp only [encodeFrames, List.mapM_cons] at henc ⊢
  cases hm : encodeFrame m with
  | error e => simp [hm, bind, Except.bind] at henc
  | ok frame =>
    cases hms : msgs.mapM encodeFrame with
    | error e => simp [hm, hms, bind, Except.bind] at henc
    | ok frames =>
      simp only [hm, hms, bind, Except.bind, pure, Except.pure, Except.ok.injEq] at henc ⊢
      exact ⟨frame, frames.flatten, rfl, rfl, by simpa using henc.symm⟩

namespace HandleTcp

/-- The branches of the loop that drop the reader and keep the connection. -/
inductive Branch
  /-- `video_rx.recv()`; `sent` tells whether the frame was written. -/
  | video (sent : Bool)
  /-- `audio_rx.recv()`. -/
  | audio (sent : Bool)
  /-- `test_delay_interval.tick()`; a failed send is only logged. -/
  | testDelay (sent : Bool)
  deriving DecidableEq, Repr

/-- Whether the loop goes on after the branch's handler. -/
def Branch.continues : Branch → Bool
  | .video sent => sent
  | .audio sent => sent
  | .testDelay _ => true

inductive Event
  /-- TCP delivers the next `n` bytes. -/
  | arrive (n : Nat)
  /-- The reader takes one delivered byte; `handlerOk` is the result of
  `handle_message_arc` should that byte complete a message. -/
  | read (handlerOk : Bool)
  /-- Another branch completes first. -/
  | other (branch : Branch)
  /-- The reader finds the stream closed. -/
  | eof
  | shutdown
  deriving DecidableEq, Repr

structure State where
  /-- Sent by the peer, not delivered. -/
  wire : Bytes
  /-- Delivered, not read. -/
  avail : Bytes
  /-- The future of `read_frame`. -/
  fut : ReadFrame
  /-- The arguments of the calls of `handle_message_arc`. -/
  handled : List Bytes
  running : Bool
  deriving DecidableEq, Repr

def step (s : State) : Event → Option State
  | .arrive n =>
      some { s with wire := s.wire.drop n, avail := s.avail ++ s.wire.take n }
  | .read handlerOk =>
      match s.running, s.avail with
      | true, b :: avail =>
          match s.fut.feed b with
          | .pending fut => some { s with avail := avail, fut := fut }
          | .ready msg =>
              some { s with
                avail := avail, fut := .first, handled := s.handled ++ [msg]
                running := handlerOk }
          | .failed _ => some { s with avail := avail, fut := .first, running := false }
      | _, _ => none
  | .other branch =>
      -- the losing `read_frame` future is dropped with the bytes it holds
      if s.running then some { s with fut := .first, running := branch.continues } else none
  | .eof =>
      if s.running ∧ s.avail = [] ∧ s.wire = [] then
        some { s with fut := .first, running := false }
      else none
  | .shutdown =>
      if s.running then some { s with fut := .first, running := false } else none

/-- The loop on a connection whose peer sends `stream`. -/
def system (stream : Bytes) : TSys State Event :=
  .ofFn (· = { wire := stream, avail := [], fut := .first, handled := [], running := true }) step

/-- No other branch wins while a frame is partly read. -/
def Uncancelled (s : State) : Event → Prop
  | .other _ => s.fut = .first
  | _ => True

instance (s : State) : (e : Event) → Decidable (Uncancelled s e)
  | .other _ => inferInstanceAs (Decidable (s.fut = .first))
  | .arrive _ | .read _ | .eof | .shutdown => inferInstanceAs (Decidable True)

/-! ## The framing invariant -/

/-- The reader `fut` followed by the bytes `bs` is about to return exactly the
messages `msgs`. -/
def Awaits (fut : ReadFrame) (bs : Bytes) : List Bytes → Prop
  | [] => fut = .first ∧ bs = []
  | m :: msgs => ∃ tail rest, fut.completes tail = some m ∧ encodeFrames msgs = .ok rest ∧
      bs = tail ++ rest

/-- A fresh reader awaits the messages of an encoded stream. -/
theorem awaits_of_encodeFrames {msgs : List Bytes} {stream : Bytes}
    (henc : encodeFrames msgs = .ok stream) : Awaits .first stream msgs := by
  cases msgs with
  | nil =>
    cases henc
    exact ⟨rfl, rfl⟩
  | cons m msgs =>
    obtain ⟨frame, rest, hframe, hrest, rfl⟩ := encodeFrames_cons henc
    exact ⟨frame, rest, completes_encodeFrame hframe, hrest, rfl⟩

/-- A byte read inside a frame leaves the reader awaiting the same messages. -/
theorem Awaits.pending {fut fut' : ReadFrame} {b : UInt8} {bs : Bytes} {msgs : List Bytes}
    (h : Awaits fut (b :: bs) msgs) (hfeed : fut.feed b = .pending fut') :
    Awaits fut' bs msgs := by
  cases msgs with
  | nil => exact absurd h.2 (by simp)
  | cons m msgs =>
    obtain ⟨tail, rest, hcomp, hrest, hbs⟩ := h
    cases tail with
    | nil => simp [ReadFrame.completes] at hcomp
    | cons c tail =>
      obtain ⟨rfl, rfl⟩ := List.cons.inj hbs
      exact ⟨tail, rest, by simpa [ReadFrame.completes, hfeed] using hcomp, hrest, rfl⟩

/-- The byte that completes a message completes the next awaited one. -/
theorem Awaits.ready {fut : ReadFrame} {b : UInt8} {bs msg : Bytes} {msgs : List Bytes}
    (h : Awaits fut (b :: bs) msgs) (hfeed : fut.feed b = .ready msg) :
    ∃ msgs', msgs = msg :: msgs' ∧ Awaits .first bs msgs' := by
  cases msgs with
  | nil => exact absurd h.2 (by simp)
  | cons m msgs =>
    obtain ⟨tail, rest, hcomp, hrest, hbs⟩ := h
    cases tail with
    | nil => simp [ReadFrame.completes] at hcomp
    | cons c tail =>
      obtain ⟨rfl, rfl⟩ := List.cons.inj hbs
      simp only [ReadFrame.completes, hfeed] at hcomp
      split at hcomp
      · rename_i htail
        cases hcomp
        subst htail
        exact ⟨msgs, rfl, awaits_of_encodeFrames (by simpa using hrest)⟩
      · cases hcomp

/-- The messages handled so far, and those the rest of the stream holds. -/
def Inv (msgs : List Bytes) (s : State) : Prop :=
  ∃ rest, msgs = s.handled ++ rest ∧ (s.running → Awaits s.fut (s.avail ++ s.wire) rest)

theorem inv_step {msgs : List Bytes} {s t : State} {e : Event} (hinv : Inv msgs s)
    (hstep : step s e = some t) (hg : Uncancelled s e) : Inv msgs t := by
  obtain ⟨rest, hmsgs, hawait⟩ := hinv
  cases e with
  | arrive n =>
    cases hstep
    exact ⟨rest, hmsgs, fun hrun => by simpa using hawait hrun⟩
  | read handlerOk =>
    simp only [step] at hstep
    split at hstep
    · rename_i b avail hrun havail
      have hcur := hawait hrun
      rw [havail, List.cons_append] at hcur
      split at hstep
      · rename_i fut hfeed
        cases hstep
        exact ⟨rest, hmsgs, fun _ => hcur.pending hfeed⟩
      · rename_i msg hfeed
        cases hstep
        obtain ⟨rest', rfl, hnext⟩ := hcur.ready hfeed
        exact ⟨rest', by simp [hmsgs], fun _ => hnext⟩
      · cases hstep
        exact ⟨rest, hmsgs, fun hfalse => absurd hfalse (by simp)⟩
    · cases hstep
  | other branch =>
    -- the dropped reader was a fresh one: nothing is lost
    simp only [Uncancelled] at hg
    simp only [step] at hstep
    split at hstep
    · rename_i hrun
      cases hstep
      exact ⟨rest, hmsgs, fun _ => by simpa [hg] using hawait hrun⟩
    · cases hstep
  | eof =>
    simp only [step] at hstep
    split at hstep
    · cases hstep
      exact ⟨rest, hmsgs, fun hfalse => absurd hfalse (by simp)⟩
    · cases hstep
  | shutdown =>
    simp only [step] at hstep
    split at hstep
    · cases hstep
      exact ⟨rest, hmsgs, fun hfalse => absurd hfalse (by simp)⟩
    · cases hstep

/-- **Framing under `select!`.** In every run in which the other branches win only
between two frames, the messages handled are a prefix of the messages sent, and
all of them once a connection still up has read the whole stream. -/
theorem handled_prefix_of_uncancelled {msgs : List Bytes} {stream : Bytes}
    (henc : encodeFrames msgs = .ok stream) {s : State}
    (hrun : ((system stream).restrict Uncancelled).Reachable s) :
    s.handled <+: msgs ∧
      (s.running → s.avail = [] → s.wire = [] → s.handled = msgs) := by
  have hinv : Inv msgs s := by
    refine TSys.invariant (I := Inv msgs) ?_ ?_ hrun
    · rintro s rfl
      exact ⟨msgs, by simp, fun _ => awaits_of_encodeFrames (by simpa using henc)⟩
    · rintro s e t hI ⟨hstep, hg⟩
      exact inv_step hI hstep hg
  obtain ⟨rest, hmsgs, hawait⟩ := hinv
  refine ⟨⟨rest, hmsgs.symm⟩, fun hup havail hwire => ?_⟩
  have hcur := hawait hup
  rw [havail, hwire] at hcur
  cases rest with
  | nil => simpa using hmsgs.symm
  | cons m rest =>
    obtain ⟨tail, more, hcomp, -, hnil⟩ := hcur
    obtain ⟨rfl, -⟩ := List.append_eq_nil_iff.mp hnil.symm
    simp [ReadFrame.completes] at hcomp

/-- Two messages in three chunks, with a video frame sent between the messages. -/
theorem handled_of_video_between_frames :
    ∃ s : State, s.handled = [[8, 1], [9]] ∧ s.handled <+: [[8, 1], [9]] := by
  have hrun : [Event.arrive 2, .read true, .read true, .arrive 1, .read true,
      .other (.video true), .arrive 2, .read true, .read true].foldlM
      (fun s e => if Uncancelled s e then step s e else none)
      ⟨[8, 8, 1, 4, 9], [], .first, [], true⟩ = some ⟨[], [], .first, [[8, 1], [9]], true⟩ := by
    decide
  exact ⟨_, rfl, (handled_prefix_of_uncancelled (by rfl)
    (TSys.ofFn_restrict_reachable (.init rfl) hrun)).1⟩

/-- **A cancelled read loses the frame boundary.** The reader is dropped after
the first byte of a message, for a video frame; the rest of the stream is read
from inside the message. -/
theorem cancelled_read_loses_sync :
    ¬ ∀ (msgs : List Bytes) (stream : Bytes), encodeFrames msgs = .ok stream →
      ∀ s, (system stream).Reachable s → s.handled <+: msgs := by
  intro halways
  have hrun : [Event.arrive 1, .read true, .other (.video true), .arrive 4, .read true,
      .read true, .read true].foldlM step ⟨[8, 8, 1, 4, 9], [], .first, [], true⟩
      = some ⟨[], [9], .first, [[1, 4]], true⟩ := by
    decide
  exact absurd (halways [[8, 1], [9]] _ rfl _ (TSys.ofFn_reachable (.init rfl) hrun)) (by decide)

end HandleTcp

end StreamBox.RustDesk
