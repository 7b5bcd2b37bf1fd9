import Mathlib.Data.List.Basic
import Mathlib.Logic.Basic
import StreamBox.Lib.TSys
import StreamBox.Video.EncoderState

/-!
# The calls on a WebRTC streamer

`WebRtcStreamer` keeps its configuration, its codec, its sessions and the slot of its
pipeline under a lock each. Its calls take these locks one after the other; what happens
under one lock is one step here, and the steps of any number of calls, of the capture
threads and of the tasks that watch them mix in any order.
-/

namespace StreamBox.Webrtc.Streamer

open StreamBox.Lib StreamBox.Video

structure WebRtcStreamerConfig where
  resolution : Resolution
  inputFormat : PixelFormat
  bitratePreset : BitratePreset
  fps : UInt32
  encoderBackend : Option EncoderBackend
  deriving DecidableEq, Repr

def WebRtcStreamerConfig.default : WebRtcStreamerConfig where
  resolution := { width := 1280, height := 720 }
  inputFormat := .mjpeg
  bitratePreset := .balanced
  fps := 30
  encoderBackend := none

structure UniversalSessionConfig where
  codec : VideoCodecType
  resolution : Resolution
  inputFormat : PixelFormat
  bitratePreset : BitratePreset
  fps : UInt32
  deriving DecidableEq, Repr

/-- The capture thread of a pipeline: opening the device, in its loop, past the loop with
the stream not yet dropped, gone. -/
inductive CaptureThread
  | opening | capturing | closing | ended
  deriving DecidableEq, Repr

structure Pipeline where
  config : SharedVideoPipelineConfig
  running : Bool := true
  runningFlag : Bool := true
  thread : CaptureThread := .opening
  deriving DecidableEq, Repr

namespace Pipeline

/-- `stop` -/
def stop (p : Pipeline) : Pipeline :=
  if p.running then { p with running := false, runningFlag := false } else p

/-- The flags as a thread leaves them, and where it is then. -/
def leave (p : Pipeline) (thread : CaptureThread) : Pipeline :=
  { p with running := false, runningFlag := false, thread }

end Pipeline

structure Session where
  id : Nat
  config : UniversalSessionConfig
  /-- The pipeline it is subscribed to. -/
  pipeline : Nat
  /-- Its connection is closed, failed or disconnected. -/
  closed : Bool := false
  deriving DecidableEq, Repr

/-- A channel of a pipeline; its receiver goes when the task that reads it ends. -/
structure Receiver where
  pipeline : Nat
  alive : Bool := true
  deriving DecidableEq, Repr

/-! ## Where the calls are -/

/-- `stop_pipeline_if_idle`, with what it has read. -/
inductive IdleStop
  | count
  | slot (sessionCount : Nat)
  | test (sessionCount p : Nat)
  | stop (p : Nat)
  deriving DecidableEq, Repr

inductive CreateSession
  | codec
  | ensure (codec : VideoCodecType)
  | config (codec : VideoCodecType) (p : Nat)
  | new (config : UniversalSessionConfig) (p : Nat)
  | subscribe (config : UniversalSessionConfig) (p : Nat)
  | store (config : UniversalSessionConfig) (p : Nat)
  deriving DecidableEq, Repr

inductive CloseSession
  | remove
  | idle (pc : IdleStop)
  deriving DecidableEq, Repr

inductive Cleanup
  | collect
  | remove (ids : List Nat)
  | idle (pc : IdleStop)
  deriving DecidableEq, Repr

inductive SetVideoCodec
  | compare | drain
  | idle (pc : IdleStop)
  | stop | clear | write | ensure
  deriving DecidableEq, Repr

inductive UpdateVideoConfig
  | compare | stop | clear | drain
  | idle (pc : IdleStop)
  | write
  deriving DecidableEq, Repr

/-- `close_all_sessions_and_release_device`; from `poll` to `sleep` it is in
`stop_and_wait` and holds the slot's lock for reading. -/
inductive Release
  | drain
  | idle (pc : IdleStop)
  | stop
  | poll (p : Nat)
  | sleep (p : Nat)
  | clear
  deriving DecidableEq, Repr

inductive Call
  | createSession (pc : CreateSession)
  | closeSession (id : Nat) (pc : CloseSession)
  | cleanup (pc : Cleanup)
  | setVideoCodec (codec : VideoCodecType) (pc : SetVideoCodec)
  | updateVideoConfig (resolution : Resolution) (inputFormat : PixelFormat) (fps : UInt32)
      (pc : UpdateVideoConfig)
  | release (pc : Release)
  | returned
  deriving DecidableEq, Repr

namespace Call

/-- The calls before their first step. -/
def Fresh : Call → Prop
  | createSession pc => pc = .codec
  | closeSession _ pc => pc = .remove
  | cleanup pc => pc = .collect
  | setVideoCodec _ pc => pc = .compare
  | updateVideoConfig _ _ _ pc => pc = .compare
  | release pc => pc = .drain
  | returned => False

instance : (call : Call) → Decidable call.Fresh
  | createSession _ | closeSession _ _ | cleanup _ | setVideoCodec _ _
  | updateVideoConfig _ _ _ _ | release _ => inferInstanceAs (Decidable (_ = _))
  | returned => inferInstanceAs (Decidable False)

/-- The next step of the call is one of `ensure_video_pipeline`. -/
def ensures : Call → Bool
  | createSession (.ensure _) | setVideoCodec _ .ensure => true
  | _ => false

/-- The next step of the call empties the slot. -/
def clears : Call → Bool
  | setVideoCodec _ .clear | updateVideoConfig _ _ _ .clear | release .clear => true
  | _ => false

theorem ensures_cases {call : Call} (h : call.ensures) :
    (∃ codec, call = createSession (.ensure codec)) ∨
      ∃ codec, call = setVideoCodec codec .ensure := by
  unfold ensures at h
  split at h
  · exact .inl ⟨_, rfl⟩
  · exact .inr ⟨_, rfl⟩
  · cases h

theorem clears_cases {call : Call} (h : call.clears) :
    (∃ codec, call = setVideoCodec codec .clear) ∨
      (∃ resolution inputFormat fps,
        call = updateVideoConfig resolution inputFormat fps .clear) ∨
      call = release .clear := by
  unfold clears at h
  split at h
  · exact .inl ⟨_, rfl⟩
  · exact .inr (.inl ⟨_, _, _, rfl⟩)
  · exact .inr (.inr rfl)
  · cases h

/-- The pipeline for which the call waits in `stop_and_wait`. -/
def waitsFor : Call → Option Nat
  | release (.poll p) | release (.sleep p) => some p
  | _ => none

end Call

structure State where
  config : WebRtcStreamerConfig
  videoCodec : VideoCodecType := .h264
  captureDevice : Bool := true
  videoPipeline : Option Nat := none
  /-- Every pipeline there ever was, in order. -/
  pipelines : List Pipeline := []
  sessions : List Session := []
  /-- Every channel there ever was. -/
  receivers : List Receiver := []
  sessionIds : Nat := 0
  calls : List Call := []
  /-- For each time `stop_and_wait` or `close_all_sessions_and_release_device` returned:
  the pipelines whose capture threads were not gone. -/
  released : List (List Nat) := []
  deriving DecidableEq, Repr

namespace State

/-- A change of pipeline `p` in place. -/
def update (s : State) (p : Nat) (f : Pipeline → Pipeline) : State :=
  { s with pipelines := s.pipelines.modify p f }

/-- `stop` of the pipeline a lock scope has read. -/
def stop (s : State) (p : Nat) : State :=
  s.update p Pipeline.stop

def subscriberCount (s : State) (p : Nat) : Nat :=
  (s.receivers.filter fun r => r.alive && r.pipeline == p).length

/-- No one can take the slot's lock for writing. -/
def locked (s : State) : Bool :=
  s.calls.any (·.waitsFor.isSome)

/-- The stored pipeline when it runs. -/
def running (s : State) : Option Nat :=
  s.videoPipeline.filter fun p => s.pipelines[p]?.any (·.running)

/-- The pipelines whose capture threads are not gone. -/
def alive (s : State) : List Nat :=
  (List.range s.pipelines.length).filter fun p => s.pipelines[p]?.any (·.thread != .ended)

/-- The configuration of a pipeline of the streamer. -/
def pipelineConfig (config : WebRtcStreamerConfig) (codec : VideoCodecType) :
    SharedVideoPipelineConfig where
  resolution := config.resolution
  inputFormat := config.inputFormat
  outputCodec := codec
  bitratePreset := config.bitratePreset
  fps := config.fps
  encoderBackend := config.encoderBackend

/-- A new pipeline in the slot. -/
def start (s : State) : State :=
  { s with
    videoPipeline := some s.pipelines.length
    pipelines := s.pipelines ++ [{ config := pipelineConfig s.config s.videoCodec }] }

/-- `ensure_video_pipeline`; the encoder of a new pipeline may fail. -/
def ensureVideoPipeline (s : State) (fails : Bool) : State × Option Nat :=
  match s.running with
  | some p => (s, some p)
  | none =>
    if fails || !s.captureDevice then (s, none) else (s.start, some s.pipelines.length)

/-! ## Steps of the calls -/

/-- A lock scope of `stop_pipeline_if_idle`, and where the call is then. -/
def idleStop (s : State) : IdleStop → State × Option IdleStop
  | .count => (s, some (.slot s.sessions.length))
  | .slot sessionCount => (s, s.videoPipeline.map (.test sessionCount))
  | .test sessionCount p =>
    (s, if sessionCount = 0 ∧ s.subscriberCount p = 0 then some (.stop p) else none)
  | .stop p => (s.stop p, none)

def sessionConfig (s : State) (codec : VideoCodecType) : UniversalSessionConfig where
  codec
  resolution := s.config.resolution
  inputFormat := s.config.inputFormat
  bitratePreset := s.config.bitratePreset
  fps := s.config.fps

/-- `UniversalSession::new` may fail. -/
def createSession (s : State) (fails : Bool) : CreateSession → State × Call
  | .codec => (s, .createSession (.ensure s.videoCodec))
  | .ensure codec =>
    let (s, pipeline) := s.ensureVideoPipeline fails
    (s, pipeline.elim .returned fun p => .createSession (.config codec p))
  | .config codec p => (s, .createSession (.new (s.sessionConfig codec) p))
  | .new config p => (s, if fails then .returned else .createSession (.subscribe config p))
  | .subscribe config p =>
    ({ s with receivers := s.receivers ++ [{ pipeline := p }] }, .createSession (.store config p))
  | .store config p =>
    ({ s with
        sessions := s.sessions ++ [{ id := s.sessionIds, config, pipeline := p }]
        sessionIds := s.sessionIds + 1 }, .returned)

/-- Where the call `next` is after a step of its `stop_pipeline_if_idle`; `done` follows
that. -/
def afterIdle (next : IdleStop → Call) (done : Call) (step : State × Option IdleStop) :
    State × Call :=
  (step.1, step.2.elim done next)

/-- The close of a session may fail. -/
def closeSession (s : State) (id : Nat) (fails : Bool) : CloseSession → State × Call
  | .remove =>
    ({ s with sessions := s.sessions.filter (·.id != id) },
      if fails then .returned else .closeSession id (.idle .count))
  | .idle pc => afterIdle (fun pc => .closeSession id (.idle pc)) .returned (s.idleStop pc)

def cleanup (s : State) : Cleanup → State × Call
  | .collect =>
    let ids := (s.sessions.filter (·.closed)).map (·.id)
    (s, if ids = [] then .returned else .cleanup (.remove ids))
  | .remove ids =>
    ({ s with sessions := s.sessions.filter fun session => !ids.contains session.id },
      .cleanup (.idle .count))
  | .idle pc => afterIdle (fun pc => .cleanup (.idle pc)) .returned (s.idleStop pc)

/-- The stop of the stored pipeline, if there is one. -/
def stopStored (s : State) : State :=
  match s.videoPipeline with
  | some p => s.stop p
  | none => s

def setVideoCodec (s : State) (codec : VideoCodecType) (fails : Bool) :
    SetVideoCodec → State × Call
  | .compare => (s, if s.videoCodec = codec then .returned else .setVideoCodec codec .drain)
  | .drain => ({ s with sessions := [] }, .setVideoCodec codec (.idle .count))
  | .idle pc => afterIdle (fun pc => .setVideoCodec codec (.idle pc))
      (.setVideoCodec codec .stop) (s.idleStop pc)
  | .stop => (s.stopStored, .setVideoCodec codec .clear)
  | .clear => ({ s with videoPipeline := none }, .setVideoCodec codec .write)
  | .write => ({ s with videoCodec := codec }, .setVideoCodec codec .ensure)
  | .ensure => (if s.captureDevice then (s.ensureVideoPipeline fails).1 else s, .returned)

def updateVideoConfig (s : State) (resolution : Resolution) (inputFormat : PixelFormat)
    (fps : UInt32) : UpdateVideoConfig → State × Call
  | .compare =>
    (s, if s.config.resolution ≠ resolution ∨ s.config.inputFormat ≠ inputFormat ∨
        s.config.fps ≠ fps then .updateVideoConfig resolution inputFormat fps .stop
      else .returned)
  | .stop => (s.stopStored, .updateVideoConfig resolution inputFormat fps .clear)
  | .clear =>
    ({ s with videoPipeline := none }, .updateVideoConfig resolution inputFormat fps .drain)
  | .drain =>
    ({ s with sessions := [] }, .updateVideoConfig resolution inputFormat fps (.idle .count))
  | .idle pc => afterIdle (fun pc => .updateVideoConfig resolution inputFormat fps (.idle pc))
      (.updateVideoConfig resolution inputFormat fps .write) (s.idleStop pc)
  | .write => ({ s with config := { s.config with resolution, inputFormat, fps } }, .returned)

/-- A look at the flag in `stop_and_wait`; past the deadline it gives up. -/
def poll (s : State) (p : Nat) (late : Bool) : State × Call :=
  if s.pipelines[p]?.any (·.runningFlag) then
    if late then ({ s with released := s.released ++ [s.alive] }, .release .clear)
    else (s, .release (.poll p))
  else (s, .release (.sleep p))

def release (s : State) (late : Bool) : Release → State × Call
  | .drain => ({ s with sessions := [] }, .release (.idle .count))
  | .idle pc => afterIdle (fun pc => .release (.idle pc)) (.release .stop) (s.idleStop pc)
  | .stop =>
    match s.videoPipeline with
    | some p => (s.stop p, .release (.poll p))
    | none => (s, .release .clear)
  | .poll p => s.poll p late
  | .sleep _ => ({ s with released := s.released ++ [s.alive] }, .release .clear)
  | .clear => ({ s with videoPipeline := none, released := s.released ++ [s.alive] }, .returned)

/-- The next step of a call; `choice` is a failure, or the deadline of a wait. -/
def next (s : State) (choice : Bool) : Call → State × Call
  | .createSession pc => s.createSession choice pc
  | .closeSession id pc => s.closeSession id choice pc
  | .cleanup pc => s.cleanup pc
  | .setVideoCodec codec pc => s.setVideoCodec codec choice pc
  | .updateVideoConfig resolution inputFormat fps pc =>
    s.updateVideoConfig resolution inputFormat fps pc
  | .release pc => s.release choice pc
  | .returned => (s, .returned)

end State

inductive Event
  -- the calls
  | call (call : Call)
  | advance (i : Nat) (choice : Bool)
  -- whoever else has a pipeline
  | ensure (fails : Bool)
  | stop (p : Nat)
  | subscribe (p : Nat)
  | receiverEnds (i : Nat)
  -- the sessions' connections, and the capture device
  | disconnect (id : Nat)
  | setCaptureDevice (device : Bool)
  -- the capture thread of a pipeline and the task that watches it
  | opened (p : Nat) (ok : Bool)
  | leave (p : Nat)
  | giveUp (p : Nat)
  | autoStop (p : Nat)
  | dropStream (p : Nat)
  | monitor (p : Nat)
  deriving DecidableEq, Repr

open State in
def step (s : State) : Event → Option State
  | .call call => if call.Fresh then some { s with calls := s.calls ++ [call] } else none
  | .advance i choice =>
    s.calls[i]?.bind fun call =>
      if call = .returned ∨ (s.locked ∧ (call.ensures ∨ call.clears)) then none
      else
        let (t, call) := s.next choice call
        some { t with calls := s.calls.set i call }
  | .ensure fails => if s.locked then none else some (s.ensureVideoPipeline fails).1
  | .stop p => some (s.stop p)
  | .subscribe p => some { s with receivers := s.receivers ++ [{ pipeline := p }] }
  | .receiverEnds i =>
    some { s with receivers := s.receivers.modify i ({ · with alive := false }) }
  | .disconnect id =>
    some { s with sessions := s.sessions.map fun session =>
      if session.id = id then { session with closed := true } else session }
  | .setCaptureDevice device => some { s with captureDevice := device }
  | .opened p ok =>
    if s.pipelines[p]?.any (·.thread == .opening) then
      some (s.update p fun pipeline =>
        if ok then { pipeline with thread := .capturing } else pipeline.leave .ended)
    else none
  | .leave p =>
    if s.pipelines[p]?.any fun pipeline => pipeline.thread == .capturing && !pipeline.runningFlag
    then some (s.update p (·.leave .closing))
    else none
  | .giveUp p =>
    if s.pipelines[p]?.any (·.thread == .capturing) then some (s.update p (·.leave .closing))
    else none
  | .autoStop p =>
    if s.pipelines[p]?.any (·.thread == .capturing) ∧ s.subscriberCount p = 0 then
      some (s.update p (·.leave .closing))
    else none
  | .dropStream p =>
    if s.pipelines[p]?.any (·.thread == .closing) then
      some (s.update p ({ · with thread := .ended }))
    else none
  | .monitor p =>
    if s.videoPipeline = some p ∧ s.pipelines[p]?.any (!·.running) ∧ s.locked = false then
      some { s with videoPipeline := none }
    else none

/-- A streamer without pipelines, sessions and calls. -/
def Init (s : State) : Prop :=
  ∃ config videoCodec captureDevice, s = { config, videoCodec, captureDevice }

def system : TSys State Event :=
  .ofFn Init step

@[simp] theorem update_get (s : State) (p q : Nat) (f : Pipeline → Pipeline) :
    (s.update p f).pipelines[q]? =
      if p = q then s.pipelines[q]?.map f else s.pipelines[q]? := by
  simp only [State.update, List.getElem?_modify]
  split <;> simp

theorem afterIdle_cases (next : IdleStop → Call) (done : Call) (step : State × Option IdleStop) :
    (State.afterIdle next done step).2 = done ∨
      ∃ pc, step.2 = some pc ∧ (State.afterIdle next done step).2 = next pc := by
  obtain ⟨t, _ | pc⟩ := step
  · exact .inl rfl
  · exact .inr ⟨pc, rfl, rfl⟩

theorem ensure_calls (s : State) (fails : Bool) :
    (s.ensureVideoPipeline fails).1.calls = s.calls := by
  simp only [State.ensureVideoPipeline]
  split
  · rfl
  · split <;> rfl

end StreamBox.Webrtc.Streamer
